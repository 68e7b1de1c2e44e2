import Sprintable.Billing.Purchases

/-! Tiers that an administrator grants for some months, and the sweep that takes
them back. Each grant and each revert is one transaction: the subscription is
flushed and committed together with its ledger entry. -/

namespace Sprintable.Billing
open Interleave

structure GrantCall where
  orgId : Uuid
  targetTier : Tier
  months : Nat
  currency : Currency
  idempotencyKey : String

namespace Store
variable (store : Store)

def deriveGrantAmountMinor (call : GrantCall) : Option Nat :=
  (store.offerings.find? fun offering => offering.tier = call.targetTier && offering.currency = call.currency &&
    offering.effectiveTo.isNone).map fun offering => offering.monthlyPriceMinor * call.months

/-- A repeated key returns the entry that is there; a grant does not lower a tier. -/
def grantCredit (call : GrantCall) : Store :=
  if store.grants.any fun grant => grant.idempotencyKey = call.idempotencyKey then store
  else
    let found := store.findSubscription call.orgId
    let currentTier := (found.map OrgSubscription.tier).getD .free
    if call.targetTier.rank < currentTier.rank then store
    else
      match store.deriveGrantAmountMinor call with
      | none => store
      | some amountMinor =>
        if positive : 0 < amountMinor then
          let periodEnd := Calendar.addMonths store.now call.months
          let granted := fun subscription : OrgSubscription => { subscription with
            tier := call.targetTier
            status := .active
            currentPeriodStart := some store.now
            currentPeriodEnd := some periodEnd }
          let row : OrgSubscription := { id := store.subscriptions.length, orgId := call.orgId, currency := some call.currency }
          let grant : TierGrant := {
            id := store.grants.length
            orgId := call.orgId
            ts := store.now
            idempotencyKey := call.idempotencyKey
            amountMinor := ⟨amountMinor, positive⟩
            currency := call.currency
            targetTier := call.targetTier
            prevTier := currentTier
            grantExpiresAt := periodEnd }
          { store.upsertSubscription (granted row) (fun _ => true) granted with grants := store.grants ++ [grant] }
        else store

/-- `DISTINCT ON (org_id) .. ORDER BY ts DESC`: the newest grant of an organisation,
reverted or not. Of two with one time, the later row. -/
def latestGrant (orgId : Uuid) : Option TierGrant :=
  (store.grants.filter fun grant => grant.orgId = orgId).foldl (fun latest grant =>
    match latest with
    | none => some grant
    | some other => if other.ts ≤ grant.ts then some grant else some other) none

def revertable : List TierGrant :=
  store.grants.filter fun grant => store.latestGrant grant.orgId = some grant && !store.grantReverts.contains grant.id

/-- One candidate of the sweep. The tier tells whether something else has changed
the subscription since. -/
def revertGrant (now : Nat) (grant : TierGrant) : Store :=
  if now ≤ grant.grantExpiresAt then store
  else if (store.findSubscription grant.orgId).map OrgSubscription.tier ≠ some grant.targetTier then store
  else
    { store.updateSubscription grant.orgId fun subscription => { subscription with
        tier := grant.prevTier
        status := .active
        currentPeriodStart := none
        currentPeriodEnd := none } with
      grantReverts := if store.grantReverts.contains grant.id then store.grantReverts else store.grantReverts ++ [grant.id] }

end Store

def sweepExpiredGrants : Request Unit := do
  let now ← Prog.read fun store => store.now
  let latestGrants ← Prog.read Store.revertable
  Prog.forEach latestGrants fun grant => Prog.write fun store => store.revertGrant now grant

end Sprintable.Billing
