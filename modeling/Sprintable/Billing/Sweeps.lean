import Sprintable.Billing.Amounts
import Sprintable.Billing.Charge

/-! The three sweeps of the billing scheduler: due renewals, the daily retries of
failed orders with their downgrade at the end, and the reconciliation of orders
that stay pending. -/

namespace Sprintable.Billing
open Interleave

inductive DunningAction where
  | wait | retry | downgradeToFree
  deriving DecidableEq, Repr

/-- Nothing on the day of the failure, one attempt on each day of grace, then free. -/
def nextDunningAction (order : BillingOrder) (now graceDays : Nat) : DunningAction :=
  if order.status ≠ .failed then .wait
  else if Calendar.date order.createdAt + graceDays + 1 ≤ Calendar.date now then .downgradeToFree
  else if Calendar.date order.createdAt + 1 ≤ Calendar.date now ∧ Calendar.date order.updatedAt < Calendar.date now then
    .retry
  else .wait

def BillingOrder.downgrade (order : BillingOrder) (now : Nat) : BillingOrder :=
  { order with status := .downgraded, updatedAt := now }

def OrgSubscription.free (subscription : OrgSubscription) (offering : Option OfferingVersion) : OrgSubscription :=
  { subscription with tier := .free, status := .active, offeringVersionId := offering.map OfferingVersion.id }

namespace Seen
variable (seen : Seen) (orgId : Uuid) (order : BillingOrder)

def hasNewerConfirmedOrder : Bool :=
  seen.orders.any fun other => other.orgId = orgId && other.status = .confirmed && order.createdAt < other.createdAt

def hasNewlyIssuedBillingKey : Bool :=
  seen.billingKeys.any fun key => key.orgId = orgId && key.active && key.issuedAt.any (order.createdAt < ·)

def hasActiveCheckoutClaim : Bool :=
  seen.subscriptions.any fun subscription => subscription.orgId = orgId &&
    subscription.checkoutClaimedAt.any fun claimed => seen.now ≤ claimed + staleClaimWindow

/-- A sign that the organisation pays again since the order was made. -/
def recovered : Bool :=
  seen.hasNewerConfirmedOrder orgId order || seen.hasNewlyIssuedBillingKey orgId order || seen.hasActiveCheckoutClaim orgId

end Seen

namespace Store
variable (store : Store)

/-- All of it as it stands at one instant. -/
def seen : Seen := ⟨store.orders, store.billingKeys, store.now, store.subscriptions⟩

def recovered (orgId : Uuid) (order : BillingOrder) : Bool := store.seen.recovered orgId order

/-- The subscription becomes free unless a checkout holds it: the write checks the
claim again, and nothing else. -/
def freeSubscription (orgId : Uuid) (now : Nat) (offering : Option OfferingVersion) : Store :=
  store.upsertSubscription
    { id := store.subscriptions.length, orgId, tier := .free, status := .active, currency := some .krw
      offeringVersionId := offering.map OfferingVersion.id }
    (fun old => old.claimable now) fun old => old.free offering

/-- What `downgrade_to_free` writes and commits after all it has read. -/
def endDunning (orgId : Uuid) (orderId : OrderId) (order : BillingOrder) (seen : Seen) (freeOffering : Option OfferingVersion) :
    Store :=
  let freed := if seen.recovered orgId order then store else store.freeSubscription orgId seen.now freeOffering
  let closed := freed.updateOrder orderId (BillingOrder.unlessConfirmed fun order => order.downgrade store.now)
  closed.note (.downgrade orgId order seen store.orders (store.findSubscription orgId) (freed.findSubscription orgId))

/-- `downgrade_to_free` with nothing between its statements. -/
def downgradeToFree (orgId : Uuid) (orderId : OrderId) : Store :=
  match store.findOrder orderId with
  | none => store
  | some order => store.endDunning orgId orderId order store.seen (store.activeOffering .free)

def rollPeriod (orgId : Uuid) (orderId : OrderId) (periodStart periodEnd : Nat) (activate : Bool) : Store :=
  (store.updateSubscription orgId fun subscription => { subscription with
    status := if activate then .active else subscription.status
    currentPeriodStart := some periodStart
    currentPeriodEnd := some periodEnd }).note (.rolled orgId orderId)

def markPastDue (orgId : Uuid) : Store :=
  store.updateSubscription orgId fun subscription => { subscription with status := .pastDue }

end Store

/-- `_sync_renewal_retry_outcome`. A subscription without a period or a cycle makes
it raise, which ends the sweep. -/
def syncRenewalRetryOutcome (orgId : Uuid) (orderId : OrderId) (held : Held) : Request Bool := do
  let order ← refetch orderId held
  match order.result with
  | .error _ => pure false
  | .ok order => do
    let found ← Prog.read fun store => store.findSubscription orgId
    match found with
    | none => pure true
    | some subscription =>
      if order.status = .confirmed then
        match subscription.currentPeriodEnd, subscription.billingCycle with
        | some oldDue, some billingCycle => do
          Prog.write fun store => store.rollPeriod orgId orderId oldDue (computePeriodEnd oldDue billingCycle) true
          pure true
        | _, _ => pure false
      else do
        Prog.write fun store => store.markPastDue orgId
        pure true

/-- A retry passes what the row says, and no entry type: it books a plain charge. -/
def BillingOrder.retryCall (order : BillingOrder) : ChargeCall where
  orgId := order.orgId
  orderId := order.orderId
  amount := order.amountMinor
  currency := order.currency

/-- Each sign of recovery is looked for by a statement of its own, before the one write. -/
def downgradeToFree (orgId : Uuid) (orderId : OrderId) : Request Unit := do
  let found ← Prog.read fun store => store.findOrder orderId
  match found with
  | none => pure ()
  | some order => do
    let orders ← Prog.read fun store => store.orders
    let billingKeys ← Prog.read fun store => store.billingKeys
    let now ← Prog.read fun store => store.now
    let subscriptions ← Prog.read fun store => store.subscriptions
    let seen : Seen := ⟨orders, billingKeys, now, subscriptions⟩
    if seen.recovered orgId order then Prog.write fun store => store.endDunning orgId orderId order seen none
    else do
      let freeOffering ← Prog.read fun store => store.activeOffering .free
      Prog.write fun store => store.endDunning orgId orderId order seen freeOffering

/-- One order of the dunning sweep, as the sweep has read it. -/
def dunOrder (now graceDays : Nat) (order : BillingOrder) : Request Bool :=
  match nextDunningAction order now graceDays with
  | .wait => pure true
  | .retry => do
    let charged ← chargeOrg order.retryCall (some order)
    if order.orderId.isRenewal then syncRenewalRetryOutcome order.orgId order.orderId charged.held else pure true
  | .downgradeToFree => do
    downgradeToFree order.orgId order.orderId
    pure true

def sweepDunningRetries : Request Unit := do
  let now ← Prog.read fun store => store.now
  let graceDays ← Prog.read fun store => store.dunningGraceDays
  let failedOrders ← Prog.read fun store => store.orders.filter fun order => order.status = .failed
  Prog.forEachWhile failedOrders (dunOrder now graceDays)

/-- One order of the reconciliation. Only a payment that is done confirms it. -/
def reconcileOrder (order : BillingOrder) : Request Bool := do
  let lookup ← Prog.atomically fun answer store => (store.getPaymentByOrderId order.orderId answer, store)
  match lookup with
  | .error _ => pure true
  | .ok payment =>
    match (if payment.status = "DONE" then payment.paymentKey else none) with
    | some paymentKey => do
      let _ ← confirmWithLedger order.retryCall paymentKey (some order)
      pure true
    | none => do
      let _ ← markFailedIfNotConfirmed order.orderId ("stale pending — lookup status=" ++ payment.status) (some order)
      pure true

def sweepStalePendingOrders : Request Unit := do
  let now ← Prog.read fun store => store.now
  let staleOrders ← Prog.read fun store =>
    store.orders.filter fun order => order.status = .pending && order.createdAt + pendingStaleAfter < now
  Prog.forEachWhile staleOrders reconcileOrder

/-- The outcome of a renewal: the next period, without a change of the status, or
a subscription that is past due. -/
def settleRenewal (orgId : Uuid) (orderId : OrderId) (periodEnd : Nat) (billingCycle : BillingCycle)
    (order : Option BillingOrder) : Request Bool :=
  if order.map BillingOrder.status = some .confirmed then do
    Prog.write fun store => store.rollPeriod orgId orderId periodEnd (computePeriodEnd periodEnd billingCycle) false
    pure true
  else do
    Prog.write fun store => store.markPastDue orgId
    pure true

/-- One due subscription, as the trigger has read it. -/
def renewSubscription (subscription : OrgSubscription) : Request Bool :=
  match subscription.offeringVersionId, subscription.currentPeriodEnd with
  | some offeringVersionId, some periodEnd => do
    let orderId : OrderId := .renewal subscription.orgId offeringVersionId (Calendar.date periodEnd)
    let computed ← Prog.read fun store => store.computeChargeAmount (some subscription)
    match computed, subscription.billingCycle with
    | some (amountMinor, currency), some billingCycle => do
      let charged ← chargeAmount subscription.orgId orderId amountMinor currency .charge none none
      let order ← match charged.result with
        | .ok order => pure (some order)
        | .error _ => do
          let found ← refetch orderId charged.held
          pure found.held
      settleRenewal subscription.orgId orderId periodEnd billingCycle order
    | _, _ => pure true
  | _, _ => pure true

def OrgSubscription.due (subscription : OrgSubscription) (now : Nat) : Bool :=
  subscription.activePaid && subscription.currentPeriodEnd.any (· ≤ now)

def triggerDueCharges : Request Unit := do
  let now ← Prog.read fun store => store.now
  let dueSubscriptions ← Prog.read fun store => store.subscriptions.filter fun subscription => subscription.due now
  Prog.forEachWhile dueSubscriptions renewSubscription

end Sprintable.Billing
