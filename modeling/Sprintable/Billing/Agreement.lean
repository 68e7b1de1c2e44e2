import Sprintable.Billing.Bookkeeping

/-! What every run of overlapping charges, sweeps and crashes leaves in the books:
a confirmed order with exactly one entry for its payment, and, as long as retries
ask for the stored amount, one amount in all three places. -/

namespace Sprintable.Billing
open Interleave

abbrev BillingEvent := Event Answer Job (Tables → Tables)

def opened (tables : Tables) : System Answer Store := ⟨{ toTables := tables }, []⟩

def ran (tables : Tables) (events : List BillingEvent) : Store :=
  (Runs.final (step billingHost) (opened tables) events).shared

theorem opened_consistent (tables : Tables) : Consistent { toTables := tables } :=
  ⟨List.nodup_nil, List.nodup_nil, rfl, by simp, by simp, by simp, by simp⟩

theorem all_considered (tables : Tables) (events : List BillingEvent) :
    Runs.Throughout (step billingHost) (Considered billingHost billingRules) (opened tables) events :=
  Runs.Throughout.trivial (fun _ _ => True.intro) _ _

theorem ran_consistent (tables : Tables) (events : List BillingEvent) : Consistent (ran tables events) :=
  billing_disciplined.run (opened_consistent tables) (all_considered tables events)

theorem ran_grows (tables : Tables) (first last : List BillingEvent) :
    Grows (ran tables first) (ran tables (first ++ last)) :=
  billing_disciplined.run_grows (fun _ _ _ => Iff.rfl) (opened_consistent tables) (all_considered tables _)

def Store.entriesOf (store : Store) (paymentKey : PaymentKey) : List LedgerEntry :=
  store.ledger.filter fun entry => entry.providerRef = some paymentKey

theorem entries_of_booked {store : Store} (consistent : Consistent store) {entry : LedgerEntry}
    {paymentKey : PaymentKey} (member : entry ∈ store.ledger) (reference : entry.providerRef = some paymentKey) :
    store.entriesOf paymentKey = [entry] := by
  have unique := Keyed.filter_of_mem consistent.ledgerKeys member
  rw [reference] at unique
  exact unique

/-- A confirmed order has exactly one positive entry for its payment key and stays
as it is, and no payment key has two entries. -/
theorem charge_ledger_consistent (tables : Tables) (first last : List BillingEvent) :
    (∀ order ∈ (ran tables first).orders, order.status = .confirmed →
      ∃ paymentKey entry, order.paymentKey = some paymentKey ∧
        (ran tables first).entriesOf paymentKey = [entry] ∧ 0 < entry.amountMinor.minor) ∧
    (∀ order ∈ (ran tables first).orders, order.status = .confirmed → order ∈ (ran tables (first ++ last)).orders) ∧
    (∀ paymentKey, ((ran tables first).entriesOf paymentKey).length ≤ 1) := by
  have consistent := ran_consistent tables first
  refine ⟨fun order member confirmed => ?_, fun order member confirmed => ?_, fun paymentKey => ?_⟩
  · obtain ⟨payment, _, _, key, entry, booked, reference⟩ := consistent.confirmed order member confirmed
    exact ⟨payment.paymentKey, entry, key, entries_of_booked consistent booked reference, entry.amountMinor.positive⟩
  · obtain ⟨later, present, _, _, same⟩ := (ran_grows tables first last).orders order member
    rw [← same confirmed]
    exact present
  · cases listed : (ran tables first).entriesOf paymentKey with
    | nil => simp
    | cons entry rest =>
      have member : entry ∈ (ran tables first).entriesOf paymentKey := listed ▸ List.mem_cons_self
      obtain ⟨booked, reference⟩ := List.mem_filter.mp member
      rw [← listed, entries_of_booked consistent booked (of_decide_eq_true reference)]
      simp

/-- Each confirmed order, the request of its payment and its ledger entry name one
amount. -/
def AmountsAgree (store : Store) : Prop :=
  ∀ order ∈ store.orders, order.status = .confirmed → ∃ payment ∈ store.payments, ∃ entry ∈ store.ledger,
    order.paymentKey = some payment.paymentKey ∧ payment.orderId = order.orderId ∧
      entry.providerRef = some payment.paymentKey ∧ payment.amount = order.amountMinor ∧
      entry.amountMinor = order.amountMinor

instance (store : Store) : Decidable (AmountsAgree store) :=
  inferInstanceAs (Decidable (∀ order ∈ store.orders, _ → ∃ payment ∈ store.payments, ∃ entry ∈ store.ledger, _))

/-- Amounts agree in every run whose retries ask for the amount on the order's row. -/
theorem amounts_agree (tables : Tables) (events : List BillingEvent)
    (matched : Matched (ran tables events).history) : AmountsAgree (ran tables events) := by
  have consistent := ran_consistent tables events
  intro order member confirmed
  obtain ⟨payment, made, name, key, entry, booked, reference⟩ := consistent.confirmed order member confirmed
  obtain ⟨row, present, rowName, rowAmount⟩ := consistent.paid payment made
  obtain ⟨other, otherMade, otherReference, bookedAmount⟩ := consistent.booked entry booked
  have sameOrder := consistent.order_unique present member (rowName.trans name)
  have sameKey : other.paymentKey = payment.paymentKey := Option.some.inj (otherReference.symm.trans reference)
  have samePayment := consistent.payment_unique otherMade made sameKey
  subst sameOrder samePayment
  have amount := rowAmount matched
  exact ⟨other, made, entry, booked, key, name, reference, amount.symm, (bookedAmount matched).trans amount.symm⟩

section Scenarios

def noon : Nat := (Calendar.firstDay 653 + 9) * Calendar.microsPerDay + 12 * minutes 60

/-- An organisation with a card and an active monthly subscription. -/
def subscribed : Tables where
  now := noon
  subscriptions := [{ id := 1, orgId := 1, tier := .starter, billingCycle := some .monthly, currency := some .krw
                      currentPeriodStart := some (noon - 30 * Calendar.microsPerDay)
                      currentPeriodEnd := some (noon + Calendar.microsPerDay), offeringVersionId := some 7 }]
  billingKeys := [⟨1, true, some 0⟩]
  offerings := [{ id := 7, tier := .starter, currency := .krw, monthlyPriceMinor := 9900, annualPriceMinor := 99000
                  includedSeats := 5, packCatalog := [("stt_minutes", ⟨1000, none, "minutes"⟩)] }]

/-- A request that runs alone to its end, with one answer for all its actions. -/
def alone (thread : Nat) (job : Job) (actions : Nat) (answer : Answer) : List BillingEvent :=
  .start job :: List.replicate actions (.run thread answer)

/-- A declined pack purchase, tried again under the same key for `again` packs. -/
def packRetry (again : Int) : List BillingEvent :=
  alone 0 (.purchasePacks 1 "stt_minutes" 1 "k") 12 { charge := .declined "REJECT_CARD_PAYMENT" } ++
    alone 1 (.purchasePacks 1 "stt_minutes" again "k") 12 {}

/-- The order still says one pack, while the provider and the ledger have two. -/
theorem pack_retry_disagrees : ¬ AmountsAgree (ran subscribed (packRetry 2)) := by
  decide +kernel

theorem amounts_agree_pack_retry : AmountsAgree (ran subscribed (packRetry 1)) :=
  amounts_agree subscribed (packRetry 1) (show ∀ note ∈ _, _ by decide +kernel)

end Scenarios

end Sprintable.Billing
