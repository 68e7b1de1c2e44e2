import Sprintable.Billing.Model

/-! How much a period costs, and when it ends. -/

namespace Sprintable.Billing

def computePeriodEnd (periodStart : Nat) : BillingCycle → Nat
  | .monthly => Calendar.addMonths periodStart 1
  | .annual => Calendar.addMonths periodStart 12

def newSubscriptionPeriod (now : Nat) (billingCycle : BillingCycle) : Nat × Nat :=
  (now, computePeriodEnd now billingCycle)

namespace Store
variable (store : Store)

def countHumanSeats (orgId : Uuid) : Nat := ((store.seats.find? fun row => row.1 = orgId).map Prod.snd).getD 0

/-- Pack purchases of the period that carry the subscription. -/
def computePackChargeMinor (subscription : OrgSubscription) : Nat :=
  match subscription.currentPeriodStart, subscription.currentPeriodEnd with
  | some periodStart, some periodEnd =>
    ((store.ledger.filter fun entry => entry.orgId = subscription.orgId &&
      entry.subscriptionId = some subscription.id && entry.entryType = .packPurchase &&
      periodStart ≤ entry.ts && entry.ts < periodEnd).map fun entry => entry.amountMinor.minor).sum
  | _, _ => 0

/-- `_compute_amount_for_offering`; a `ChargeAmountError` is `none`. -/
def computeAmountForOffering (subscription : OrgSubscription) (offering : OfferingVersion) : Option (Nat × Currency) := do
  let billingCycle ← subscription.billingCycle
  let base := match billingCycle with
    | .annual => offering.annualPriceMinor
    | .monthly => offering.monthlyPriceMinor
  let overage := store.countHumanSeats subscription.orgId - offering.includedSeats
  let seatAmount ← if 0 < overage then offering.extraSeatPriceMinor.map (overage * ·) else some 0
  if some offering.currency ≠ subscription.currency then none
  else some (base + seatAmount + store.computePackChargeMinor subscription, offering.currency)

/-- `compute_charge_amount`, for the subscription as the session sees it. -/
def computeChargeAmount (subscription : Option OrgSubscription) : Option (Nat × Currency) := do
  let subscription ← subscription
  let offeringVersionId ← subscription.offeringVersionId
  let offering ← store.findOffering offeringVersionId
  store.computeAmountForOffering subscription offering

end Store

end Sprintable.Billing
