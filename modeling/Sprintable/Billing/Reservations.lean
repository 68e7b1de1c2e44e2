import Sprintable.Billing.Purchases

/-! Reserved changes of the tier: the reservation and its withdrawal, and the sweep
that applies what is due. -/

namespace Sprintable.Billing
open Interleave

namespace Store
variable (store : Store)

/-- `_offering_or_raise`: a missing currency matches no offering. -/
def offeringOf (tier : Tier) (currency : Option Currency) : Option OfferingVersion :=
  store.offerings.find? fun offering => offering.tier = tier && some offering.currency = currency && offering.effectiveTo.isNone

/-- `_active_paid_sub_or_raise`. -/
def activePaidSub (orgId : Uuid) : Option OrgSubscription :=
  (store.findSubscription orgId).filter fun subscription => subscription.activePaid && subscription.currentPeriodEnd.isSome

end Store

namespace OrgSubscription

def reserve (subscription : OrgSubscription) (newTier : Tier) (offeringVersionId : Uuid) (applyAt : Option Nat) :
    OrgSubscription :=
  { subscription with
    pendingTier := some newTier
    pendingOfferingVersionId := some offeringVersionId
    pendingChangeApplyAt := applyAt }

def withdrawn (subscription : OrgSubscription) : OrgSubscription :=
  { subscription with pendingTier := none, pendingOfferingVersionId := none, pendingChangeApplyAt := none }

/-- The free tier has no period and no cycle. A paid one starts a period at once. -/
def applyPending (subscription : OrgSubscription) (newTier : Tier) (offeringVersionId : Uuid) (now : Nat)
    (billingCycle : Option BillingCycle) : OrgSubscription :=
  if newTier = .free then
    { subscription.withdrawn with
      tier := .free
      offeringVersionId := some offeringVersionId
      billingCycle := none
      currentPeriodStart := none
      currentPeriodEnd := none }
  else
    { subscription.withdrawn with
      tier := newTier
      offeringVersionId := some offeringVersionId
      currentPeriodStart := some now
      currentPeriodEnd := some (computePeriodEnd now (billingCycle.getD .monthly)) }

/-- `WHERE pending_change_apply_at <= now`. -/
def changeDue (subscription : OrgSubscription) (now : Nat) : Bool := subscription.pendingChangeApplyAt.any (· ≤ now)

end OrgSubscription

/-- `_reserve_pending_change`: the row of now gets the period end that was read. -/
def reservePendingChange (subscription : OrgSubscription) (newTier : Tier) (offeringVersionId : Uuid) : Request Unit :=
  Prog.write fun store => store.updateSubscription subscription.orgId fun row =>
    row.reserve newTier offeringVersionId subscription.currentPeriodEnd

def reserveDowngrade (orgId : Uuid) (newTier : Tier) : Request Unit :=
  if newTier = .free then pure ()
  else do
    let found ← Prog.read fun store => store.activePaidSub orgId
    match found with
    | none => pure ()
    | some subscription =>
      if subscription.tier.rank ≤ newTier.rank then pure ()
      else do
        let offered ← Prog.read fun store => store.offeringOf newTier subscription.currency
        match offered with
        | none => pure ()
        | some offering => reservePendingChange subscription newTier offering.id

/-- A cancellation is a reserved change to the free tier. -/
def cancelSubscription (orgId : Uuid) : Request Unit := do
  let found ← Prog.read fun store => store.activePaidSub orgId
  match found with
  | none => pure ()
  | some subscription => do
    let offered ← Prog.read fun store => store.offeringOf .free subscription.currency
    match offered with
    | none => pure ()
    | some offering => reservePendingChange subscription .free offering.id

def cancelPendingDowngrade (orgId : Uuid) : Request Unit := do
  let found ← Prog.read fun store => store.findSubscription orgId
  match found with
  | none => pure ()
  | some subscription =>
    if subscription.pendingChangeApplyAt.isNone then pure ()
    else Prog.write fun store => store.updateSubscription orgId OrgSubscription.withdrawn

/-- One row of the sweep, as the sweep has read it. Too many seats for the new tier
withdraw the reservation; a cancellation does not ask for the seats. -/
def applyPendingChange (now : Nat) (subscription : OrgSubscription) : Request Unit :=
  match subscription.pendingOfferingVersionId, subscription.pendingTier with
  | some offeringVersionId, some newTier => do
    let found ← Prog.read fun store => store.findOffering offeringVersionId
    match found with
    | none => pure ()
    | some newOffering => do
      let seats ← Prog.read fun store => if newTier = .free then 0 else store.countHumanSeats subscription.orgId
      if newTier ≠ .free ∧ newOffering.includedSeats < seats then
        Prog.write fun store => store.updateSubscription subscription.orgId OrgSubscription.withdrawn
      else
        Prog.write fun store => store.updateSubscription subscription.orgId fun row =>
          row.applyPending newTier offeringVersionId now subscription.billingCycle
  | _, _ => pure ()

end Sprintable.Billing
