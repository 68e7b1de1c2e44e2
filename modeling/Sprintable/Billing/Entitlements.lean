import Sprintable.Billing.Attempts
import Sprintable.Billing.Downgrade

/-! What a confirmed order was charged for, and which attempts deliver it. -/

namespace Sprintable.Billing
open Interleave

/-- The entry credits the packs of the resource that the amount pays for at some price. -/
def LedgerEntry.grants (entry : LedgerEntry) (resource : String) (amount : Amount) : Prop :=
  entry.entryType = .packPurchase ∧ entry.amountMinor = amount ∧
    ∃ quantity unit price, 0 < quantity ∧ entry.entryMetadata = some (.pack resource quantity unit) ∧
      amount.minor = price * quantity

/-- The subscription is active on the tier of the offering. -/
def Store.onTier (store : Store) (orgId offeringVersionId : Uuid) : Prop :=
  ∃ subscription, store.findSubscription orgId = some subscription ∧ subscription.status = .active ∧
    subscription.offeringVersionId = some offeringVersionId ∧
    ∃ offering ∈ store.offerings, offering.id = offeringVersionId ∧ offering.tier = subscription.tier

/-- The payment that the order names is booked as packs of the resource. -/
def Store.granted (store : Store) (order : BillingOrder) (resource : String) : Prop :=
  ∃ payment ∈ store.payments, payment.orderId = order.orderId ∧ order.paymentKey = some payment.paymentKey ∧
    ∃ entry ∈ store.ledger, entry.providerRef = some payment.paymentKey ∧ entry.grants resource payment.amount

section Selling
variable {allowed : Answer → Prop} {payable : Prop} {call : ChargeCall} {start after : Store} {charged : Charged}

theorem ChargedAlone.newly (alone : ChargedAlone payable call start charged after) {orderId : OrderId}
    {order : BillingOrder} (found : after.findOrder orderId = some order) (confirmed : order.status = .confirmed)
    (new : (start.findOrder orderId).map BillingOrder.status ≠ some .confirmed) :
    orderId = call.orderId ∧ payable ∧ Booked call start after order ∧ Reports charged order := by
  by_cases own : orderId = call.orderId
  · subst own
    obtain ⟨row, present, reports, confirms⟩ := alone.order
    cases present.symm.trans found
    rcases confirms confirmed with already | ⟨paid, booked⟩
    · exact absurd already new
    · exact ⟨rfl, paid, booked, reports⟩
  · rw [alone.frame.others orderId own] at found
    rw [found, Option.map_some, confirmed] at new
    exact absurd rfl new

variable {store : Store} {orgId : Uuid} {now : Nat} {change : OrgSubscription → OrgSubscription}
  {subscription : OrgSubscription}

/-- A payment that the provider holds for a pack order was for the amount that is
asked now, and whatever is booked for it is packs. -/
def Store.purchasable (store : Store) (orgId : Uuid) (resource : String) (quantity : Int) (idempotencyKey : String) : Prop :=
  ∀ payment ∈ store.payments, payment.orderId = .pack orgId resource idempotencyKey →
    (∀ pack currency, store.packOffer orgId resource quantity.toNat = some (pack, currency) →
      (payment.amount.minor : Int) = pack.priceMinor * quantity) ∧
    ∀ entry ∈ store.ledger, entry.providerRef = some payment.paymentKey → entry.grants resource payment.amount

/-- What the order is for is there already, so that only its confirmation is due. -/
def Store.settled (store : Store) (orderId : OrderId) : Prop :=
  match orderId with
  | .renewal .. => False
  | .checkout orgId offeringVersionId _ | .tierChange orgId offeringVersionId _ => store.onTier orgId offeringVersionId
  | .pack _ resource _ => (store.findPayment orderId).isSome ∧ ∀ payment ∈ store.payments, payment.orderId = orderId →
      ∃ entry ∈ store.ledger, entry.providerRef = some payment.paymentKey ∧ entry.grants resource payment.amount

/-- A renewal whose subscription has a period that can be moved on. -/
def Store.renewable (store : Store) : OrderId → Prop
  | .renewal orgId _ _ => ∃ subscription, store.findSubscription orgId = some subscription ∧
      subscription.currentPeriodEnd.isSome ∧ subscription.billingCycle.isSome
  | _ => False

end Selling

/-- The condition under which an attempt delivers what it confirms. The entry points
that sell and the trigger always do; a pack bought again under a used key, if the
provider's payment is for the amount that is asked. A retry or a reconciliation that
comes to a payment does so for a renewal that it can roll, or when what the order is
for is there already. -/
def Attempt.delivers (store : Store) (answers : List Answer) : Attempt → Prop
  | .checkout .. | .changeTier .. | .renew .. => True
  | .purchasePacks orgId resource quantity idempotencyKey => store.purchasable orgId resource quantity idempotencyKey
  | .dun orderId => ∀ order, store.findOrder orderId = some order →
      nextDunningAction order store.now store.dunningGraceDays = .retry → Payable (· ∈ answers) store orderId →
      store.settled orderId ∨ store.renewable orderId
  | .reconcile orderId => ∀ order, store.findOrder orderId = some order → order.stale store.now →
      (store.findPayment orderId).isSome → (∃ answer ∈ answers, answer.lookup = .answered) → store.settled orderId

section Scenarios

end Scenarios

end Sprintable.Billing
