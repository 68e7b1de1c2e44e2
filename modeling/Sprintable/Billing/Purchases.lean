import Sprintable.Billing.Sweeps

/-! The entry points that sell something: checkout, tier change and packs, and the
retry by an administrator. -/

namespace Sprintable.Billing
open Interleave

namespace Store
variable (store : Store)

/-- Claim the subscription for a checkout, which makes it pending on what is bought. -/
def claimCheckout (orgId : Uuid) (tier : Tier) (billingCycle : BillingCycle) (offering : OfferingVersion) (now : Nat) :
    Bool × Store :=
  let bought := fun old : OrgSubscription => { old with
    tier := tier
    billingCycle := some billingCycle
    status := .pending
    currency := some .krw
    offeringVersionId := some offering.id
    currentPeriodStart := some (newSubscriptionPeriod now billingCycle).1
    currentPeriodEnd := some (newSubscriptionPeriod now billingCycle).2
    checkoutClaimedAt := some now }
  match store.findSubscription orgId with
  | none => (true, store.upsertSubscription (bought { id := store.subscriptions.length, orgId }) (fun _ => true) bought)
  | some old =>
    if old.claimable now then (true, store.updateSubscription orgId bought) else (false, store)

/-- Claim the subscription for a tier change; it keeps what it is until then. -/
def claimTierChange (orgId : Uuid) (now : Nat) : Bool × Store :=
  match store.findSubscription orgId with
  | none => (false, store)
  | some old =>
    if old.claimable now then
      (true, store.updateSubscription orgId fun subscription => { subscription with checkoutClaimedAt := some now })
    else (false, store)

/-- `WHERE checkout_claimed_at = now`: only while the claim is still this one's. -/
def updateClaimed (orgId : Uuid) (now : Nat) (change : OrgSubscription → OrgSubscription) : Store :=
  store.updateSubscription orgId fun subscription =>
    if subscription.checkoutClaimedAt = some now then change subscription else subscription

def releaseClaim (orgId : Uuid) (now : Nat) : Store :=
  store.updateClaimed orgId now fun subscription => { subscription with checkoutClaimedAt := none }

/-- `issue_billing_key`: the card is registered, or the provider refuses it. -/
def issueBillingKey (orgId : Uuid) (answer : Answer) : Bool × Store :=
  if answer.configured && answer.issued then
    let key : OrgBillingKey := ⟨orgId, true, some (answer.authenticatedAt.getD store.now)⟩
    (true, { store with billingKeys := store.billingKeys.filter (·.orgId ≠ orgId) ++ [key] })
  else (false, store)

def packsReservedThisPeriod (orgId : Uuid) (resource : String) (priceMinor periodStart periodEnd : Nat) : Nat :=
  ((store.orders.filter fun order =>
    (match order.orderId with
      | .pack packOrg packResource _ => packOrg = orgId && packResource = resource
      | _ => false) &&
    (order.status = .pending || order.status = .confirmed) &&
    periodStart ≤ order.createdAt && order.createdAt < periodEnd).map fun order => order.amountMinor.minor).sum / priceMinor

def packOffer (orgId : Uuid) (resource : String) (quantity : Nat) : Option (PackOffer × Currency) := do
  let subscription ← store.findSubscription orgId
  if subscription.status ≠ .active then none
  let offeringVersionId ← subscription.offeringVersionId
  let offering ← store.findOffering offeringVersionId
  let pack ← (offering.packCatalog.find? fun offer => offer.1 = resource).map Prod.snd
  match pack.maxPacks with
  | none => some (pack, offering.currency)
  | some maxPacks => do
    let periodStart ← subscription.currentPeriodStart
    let periodEnd ← subscription.currentPeriodEnd
    if maxPacks < store.packsReservedThisPeriod orgId resource pack.priceMinor periodStart periodEnd + quantity then none
    else some (pack, offering.currency)

end Store

/-- The end of a checkout or a tier change: what was bought takes effect when the
order is confirmed and the claim still holds, and the claim is released. -/
def settlePurchase (orgId : Uuid) (now : Nat) (change : OrgSubscription → OrgSubscription) (charged : Charged) :
    Request Unit :=
  match charged.result with
  | .error _ => Prog.write fun store => store.releaseClaim orgId now
  | .ok order =>
    if order.status = .confirmed then do
      Prog.write fun store => store.updateClaimed orgId now change
      Prog.write fun store => store.releaseClaim orgId now
    else Prog.write fun store => store.releaseClaim orgId now

/-- `checkout_subscription`. The amount is computed for the subscription that the
session has loaded at the start, when there was one. -/
def checkoutSubscription (orgId : Uuid) (tier : Tier) (billingCycle : BillingCycle) : Request Unit :=
  if tier = .free then pure ()
  else do
    let existing ← Prog.read fun store => store.findSubscription orgId
    if existing.any fun subscription =>
        subscription.activePaid && (subscription.tier ≠ tier || subscription.billingCycle ≠ some billingCycle) then pure ()
    else do
      let found ← Prog.read fun store => store.activeOffering tier
      match found with
      | none => pure ()
      | some offering => do
        let now ← Prog.read fun store => store.now
        let claimed ← Prog.atomically fun answer store =>
          if answer.organizationExists then store.claimCheckout orgId tier billingCycle offering now else (false, store)
        if claimed then do
          let issued ← Prog.atomically fun answer store => store.issueBillingKey orgId answer
          if issued then do
            let computed ← Prog.read fun store =>
              store.computeChargeAmount (existing.orElse fun _ => store.findSubscription orgId)
            match computed with
            | none => Prog.write fun store => store.releaseClaim orgId now
            | some (amountMinor, currency) => do
              let charged ← chargeAmount orgId (.checkout orgId offering.id (Calendar.date now)) amountMinor currency
                .charge none none
              settlePurchase orgId now (fun subscription => { subscription with status := .active }) charged
          else Prog.write fun store => store.releaseClaim orgId now
        else pure ()

def Store.tierChangeOffering (store : Store) (subscription : OrgSubscription) (newTier : Tier) : Option OfferingVersion := do
  if newTier = .free ∨ subscription.activePaid = false ∨ subscription.billingCycle ≠ some .monthly ∨
      subscription.currentPeriodStart = none ∨ subscription.currentPeriodEnd = none ∨
      newTier.rank ≤ subscription.tier.rank then none
  let offeringVersionId ← subscription.offeringVersionId
  let oldOffering ← store.findOffering offeringVersionId
  let newOffering ← store.activeOffering newTier
  if newOffering.monthlyPriceMinor ≤ oldOffering.monthlyPriceMinor then none else some newOffering

/-- `change_tier`, up to the partial refund of the old period, which follows it. -/
def changeTier (orgId : Uuid) (newTier : Tier) : Request Unit := do
  let found ← Prog.read fun store => store.findSubscription orgId
  match found with
  | none => pure ()
  | some subscription => do
    let offered ← Prog.read fun store => store.tierChangeOffering subscription newTier
    match offered with
    | none => pure ()
    | some newOffering => do
      let now ← Prog.read fun store => store.now
      let claimed ← Prog.atomically fun _ store => store.claimTierChange orgId now
      if claimed then do
        let computed ← Prog.read fun store => store.computeAmountForOffering subscription newOffering
        match computed with
        | none => Prog.write fun store => store.releaseClaim orgId now
        | some (amountMinor, currency) => do
          let token ← Prog.ask Answer.token
          let charged ← chargeAmount orgId (.tierChange orgId newOffering.id token) amountMinor currency .charge
            (some (.tierChange subscription.tier newTier)) none
          settlePurchase orgId now (fun subscription => { subscription with
            tier := newTier
            offeringVersionId := some newOffering.id
            currentPeriodStart := some (newSubscriptionPeriod now .monthly).1
            currentPeriodEnd := some (newSubscriptionPeriod now .monthly).2 }) charged
      else pure ()

def purchasePacks (orgId : Uuid) (resource : String) (quantity : Int) (idempotencyKey : String) : Request Unit :=
  if quantity < 1 ∨ idempotencyKey = "" then pure ()
  else do
    let offered ← Prog.read fun store => store.packOffer orgId resource quantity.toNat
    match offered with
    | none => pure ()
    | some (pack, currency) => do
      let _ ← chargeAmount orgId (.pack orgId resource idempotencyKey) (pack.priceMinor * quantity) currency .packPurchase
        (some (.pack resource quantity.toNat pack.unit)) none
      pure ()

/-- `retry_billing_order`, a person's retry of a failed order. -/
def retryBillingOrder (orgId : Uuid) (orderId : OrderId) : Request Unit := do
  let found ← Prog.read fun store => store.findOrder orderId
  match found with
  | none => pure ()
  | some order =>
    if order.orgId = orgId ∧ order.status = .failed then do
      let _ ← chargeOrg order.retryCall (some order)
      pure ()
    else pure ()

end Sprintable.Billing
