import Sprintable.Billing.Lowering
import Sprintable.Billing.Terms

/-! Whether an organisation pays what it bought, once: each period at its price with
the seats beyond those included, and each purchase of packs at theirs. -/

namespace Sprintable.Billing
open Interleave

def OrderId.isPack : OrderId → Bool
  | .pack .. => true
  | _ => false

/-- What a subscription charge comes to: the base and the seats beyond it. -/
def Billed.chargeDue (state : Billed) (order : BillingOrder) : Nat :=
  match state.terms order.orderId with
  | some (.period _ _ _ base overage) => base + overage
  | _ => 0

/-- What a purchase of packs comes to: the quantity at the unit price. -/
def Billed.packDue (state : Billed) (order : BillingOrder) : Nat :=
  match state.terms order.orderId with
  | some (.packs quantity priceMinor) => priceMinor * quantity
  | _ => 0

def BillingOrder.paidBy (orgId : Uuid) (order : BillingOrder) : Bool := order.orgId = orgId && order.status = .confirmed

/-- The confirmed orders of an organisation sum up to its subscription charges and
its packs, and no two orders are of one purchase. -/
structure Balanced (state : Billed) : Prop where
  total : ∀ orgId, ((state.store.orders.filter (BillingOrder.paidBy orgId)).map fun order => order.amountMinor.minor).sum =
    ((state.store.orders.filter fun order => order.paidBy orgId && !order.orderId.isPack).map state.chargeDue).sum +
      ((state.store.orders.filter fun order => order.paidBy orgId && order.orderId.isPack).map state.packDue).sum
  once : (state.store.orders.map BillingOrder.orderId).Nodup

/-- A checkout computes the amount of the subscription as it was: that is what is
bought, or nothing can be computed. -/
def Attempt.onItsTerms (store : Store) : Attempt → Bool
  | .checkout orgId tier billingCycle => (store.findSubscription orgId).all fun subscription =>
      (store.activeOffering tier).all fun offering =>
        !subscription.claimable store.now ||
          (subscription.activePaid && (subscription.tier ≠ tier || subscription.billingCycle ≠ some billingCycle)) ||
          subscription.offeringVersionId.isNone || subscription.billingCycle.isNone ||
          (subscription.offeringVersionId = some offering.id && subscription.billingCycle = some billingCycle)
  | _ => true

/-- The event charges what it sells: a failed order is asked for again at the amount
on its row, and a checkout is on the terms of the subscription before it. -/
def ChargesItsPrice (store : Store) : ErrandEvent → Bool
  | .errand (.attempt attempt) _ =>
    attempt.onItsTerms store && store.orders.all fun order =>
      order.status ≠ .failed || (attempt.asks store order.orderId).all fun terms => terms.due = order.amountMinor.minor
  | _ => true

def Terms.isPack : Terms → Bool
  | .packs .. => true
  | _ => false

/-- Every order is at the amount of its terms. -/
structure Priced (state : Billed) : Prop where
  consistent : Consistent state.store
  orders : ∀ orderId order, state.store.findOrder orderId = some order → ∃ terms, state.terms orderId = some terms ∧
    terms.due = order.amountMinor.minor ∧ terms.isPack = orderId.isPack
  unlinked : ∀ entry ∈ state.store.ledger, entry.subscriptionId = none
  distinct : (state.store.offerings.map OfferingVersion.id).Nodup

section Pricing
variable {state : Billed} {store : Store} {event : ErrandEvent} {attempt : Attempt} {orderId : OrderId} {terms : Terms}
  {subscription : OrgSubscription} {offering : OfferingVersion}

theorem asks_kind (asks : attempt.asks store orderId = some terms) : terms.isPack = orderId.isPack := by
  cases attempt with
  | checkout own newTier cycle =>
    simp only [Attempt.asks, Option.bind_eq_bind, Option.bind_eq_some_iff] at asks
    obtain ⟨offering, _, asked⟩ := asks
    split at asked
    next same =>
      subst same
      cases asked
      rfl
    next => cases asked
  | changeTier own newTier =>
    cases orderId with
    | tierChange =>
      simp only [Attempt.asks, Option.bind_eq_bind, Option.bind_eq_some_iff] at asks
      obtain ⟨subscription, _, offering, _, asked⟩ := asks
      split at asked
      · cases asked
        rfl
      · cases asked
    | renewal | checkout | pack => cases asks
  | renew own =>
    simp only [Attempt.asks, Option.bind_eq_bind, Option.bind_eq_some_iff] at asks
    obtain ⟨subscription, _, _, _, offering, _, periodEnd, _, cycle, _, asked⟩ := asks
    split at asked
    next wanted =>
      obtain ⟨_, rfl⟩ := wanted
      cases asked
      rfl
    next => cases asked
  | purchasePacks own resource quantity idempotencyKey =>
    simp only [Attempt.asks, Option.bind_eq_bind, Option.bind_eq_some_iff] at asks
    obtain ⟨offer, _, asked⟩ := asks
    split at asked
    next same =>
      subst same
      cases asked
      rfl
    next => cases asked
  | dun => cases asks
  | reconcile => cases asks

theorem no_pack_charge (unlinked : ∀ entry ∈ store.ledger, entry.subscriptionId = none) (subscription : OrgSubscription) :
    store.computePackChargeMinor subscription = 0 := by
  unfold Store.computePackChargeMinor
  split
  · rw [List.filter_eq_nil_iff.mpr]
    · rfl
    · intro entry listed
      simp [unlinked entry listed]
  · rfl

theorem computed_due (unlinked : ∀ entry ∈ store.ledger, entry.subscriptionId = none) {billingCycle : BillingCycle}
    (cycle : subscription.billingCycle = some billingCycle) {computed : Nat × Currency}
    (computes : store.computeAmountForOffering subscription offering = some computed) :
    computed.1 = offering.base billingCycle + store.seatOverage subscription.orgId offering := by
  unfold Store.computeAmountForOffering at computes
  simp only [cycle, no_pack_charge unlinked, Option.bind_eq_bind, Option.bind_some] at computes
  unfold Store.seatOverage
  split at computes
  next beyond =>
    obtain ⟨seatAmount, seats, rest⟩ := Option.bind_eq_some_iff.mp computes
    obtain ⟨extra, priced, rfl⟩ := Option.map_eq_some_iff.mp seats
    split at rest
    · cases rest
    cases rest
    rw [priced, Option.getD_some]
    cases billingCycle <;> rfl
  next within =>
    have none_ : store.countHumanSeats subscription.orgId - offering.includedSeats = 0 := by omega
    split at computes
    · cases computes
    cases computes
    rw [none_, Nat.zero_mul]
    cases billingCycle <;> rfl

theorem offering_by_id (distinct : (store.offerings.map OfferingVersion.id).Nodup) (listed : offering ∈ store.offerings) :
    store.findOffering offering.id = some offering :=
  Keyed.find_of_mem distinct listed

theorem charge_due (priced : Priced state) {offeringVersionId : Uuid} {billingCycle : BillingCycle}
    (onOffering : subscription.offeringVersionId = some offeringVersionId) (cycle : subscription.billingCycle = some billingCycle)
    (found : state.store.findOffering offeringVersionId = some offering) {computed : Nat × Currency}
    (computes : state.store.computeChargeAmount (some subscription) = some computed) :
    computed.1 = offering.base billingCycle + state.store.seatOverage subscription.orgId offering := by
  simp only [Store.computeChargeAmount, onOffering, found, Option.bind_eq_bind, Option.bind_some] at computes
  exact computed_due priced.unlinked cycle computes

theorem tier_change_monthly {newTier : Tier} (offered : store.tierChangeOffering subscription newTier = some offering) :
    subscription.billingCycle = some .monthly := by
  unfold Store.tierChangeOffering at offered
  split at offered
  · cases offered
  next accepted =>
    simp only [not_or, not_not] at accepted
    exact accepted.2.2.1

theorem checkout_due (priced : Priced state) {orgId : Uuid} {tier : Tier} {billingCycle : BillingCycle} {after : Store}
    (left : CheckedOut orgId tier billingCycle offering state.store after)
    (onTerms : (Attempt.checkout orgId tier billingCycle).onItsTerms state.store = true) {computed : Nat × Currency}
    (computes : state.store.computeChargeAmount (some ((state.store.findSubscription orgId).getD
      ((state.store.rowOf orgId).bought tier billingCycle offering.id state.store.now))) = some computed) :
    computed.1 = offering.base billingCycle + state.store.seatOverage orgId offering := by
  have listed := offering_by_id priced.distinct (active_offering_found left.offered).1
  cases found : state.store.findSubscription orgId with
  | none =>
    rw [found, Option.getD_none] at computes
    have key : ((state.store.rowOf orgId).bought tier billingCycle offering.id state.store.now).orgId = orgId := by
      rw [Store.rowOf, found]
      rfl
    have due := charge_due priced rfl rfl listed computes
    rw [key] at due
    exact due
  | some subscription =>
    rw [found, Option.getD_some] at computes
    obtain ⟨claimable, owned⟩ := left.claimable subscription found
    have key : subscription.orgId = orgId := Keyed.find_key found
    cases onOffering : subscription.offeringVersionId with
    | none => simp [Store.computeChargeAmount, onOffering] at computes
    | some offeringVersionId =>
      cases cycle : subscription.billingCycle with
      | none =>
        simp only [Store.computeChargeAmount, Store.computeAmountForOffering, onOffering, cycle, Option.bind_eq_bind,
          Option.bind_some, Option.bind_none, Option.bind_eq_some_iff] at computes
        obtain ⟨_, _, impossible⟩ := computes
        cases impossible
      | some ownCycle =>
        have same : offeringVersionId = offering.id ∧ ownCycle = billingCycle := by
          cases active : subscription.activePaid with
          | true =>
            obtain ⟨sameTier, sameCycle⟩ := owned active
            rw [cycle] at sameCycle
            refine ⟨?_, Option.some.inj sameCycle⟩
            simpa [Attempt.onItsTerms, found, left.offered, claimable, active, sameTier, onOffering, cycle, sameCycle]
              using onTerms
          | false => simpa [Attempt.onItsTerms, found, left.offered, claimable, active, onOffering, cycle] using onTerms
        obtain ⟨rfl, rfl⟩ := same
        have due := charge_due priced onOffering cycle listed computes
        rw [key] at due
        exact due

theorem computes_due (priced : Priced state) {tokens : Nat → Prop} {after : Store} (left : attempt.Leaves tokens state.store after)
    (onTerms : attempt.onItsTerms state.store = true) (asks : attempt.asks state.store orderId = some terms) {amount : Nat}
    (computes : attempt.computes state.store = some amount) : amount = terms.due := by
  cases attempt with
  | checkout orgId tier billingCycle =>
    obtain ⟨offering, left⟩ := left
    simp only [Attempt.asks, left.offered, Option.bind_eq_bind, Option.bind_some] at asks
    simp only [Attempt.computes, left.offered, Option.bind_eq_bind, Option.bind_some, Option.bind_eq_some_iff] at computes
    obtain ⟨computed, computes, same⟩ := computes
    cases same
    split at asks
    next =>
      cases asks
      exact checkout_due priced left onTerms computes
    next => cases asks
  | changeTier orgId newTier =>
    obtain ⟨subscription, newOffering, left⟩ := left
    have key : subscription.orgId = orgId := Keyed.find_key left.found
    simp only [Attempt.computes, left.found, left.offered, Option.bind_eq_bind, Option.bind_some, Option.bind_eq_some_iff]
      at computes
    obtain ⟨computed, computes, same⟩ := computes
    cases same
    have due := computed_due priced.unlinked (tier_change_monthly left.offered) computes
    rw [key] at due
    cases orderId with
    | tierChange =>
      simp only [Attempt.asks, left.found, left.offered, Option.bind_eq_bind, Option.bind_some] at asks
      split at asks
      next =>
        cases asks
        exact due
      next => cases asks
    | renewal | checkout | pack => cases asks
  | purchasePacks orgId resource quantity idempotencyKey =>
    obtain ⟨pack, currency, left⟩ := left
    simp only [Attempt.asks, left.offered, Option.bind_eq_bind, Option.bind_some] at asks
    simp only [Attempt.computes, left.offered, Option.map_some, Option.some.injEq] at computes
    split at asks
    next =>
      cases asks
      exact computes.symm
    next => cases asks
  | renew orgId =>
    obtain ⟨subscription, offeringVersionId, periodEnd, billingCycle, rfl, left⟩ := left
    simp only [Attempt.computes, left.found] at computes
    obtain ⟨computed, charges, rfl⟩ := Option.map_eq_some_iff.mp computes
    simp only [Attempt.asks, left.found, left.onOffering, left.ends, left.cycle, Option.bind_eq_bind, Option.bind_some,
      Option.bind_eq_some_iff] at asks
    obtain ⟨offering, listed, asked⟩ := asks
    split at asked
    next =>
      cases asked
      exact charge_due priced left.onOffering left.cycle listed charges
    next => cases asked
  | dun => cases asks
  | reconcile => cases asks

theorem event_consistent (consistent : Consistent store) (event : ErrandEvent) : Consistent (errandStep store event) := by
  cases event with
  | meanwhile surroundings =>
    have committed : Commits store (errandStep store (.meanwhile surroundings)) := tables_commit consistent rfl rfl rfl (.inl rfl)
    exact committed.1
  | errand errand answers =>
    by_cases attempted : ∃ attempt, errand = .attempt attempt
    · obtain ⟨attempt, rfl⟩ := attempted
      exact Safe.execute (fun _ _ => True.intro) consistent (attempt_books attempt 0 store) answers
    · rcases errand_leaves errand answers store with same | leaves
      · rw [same]
        exact consistent
      · obtain ⟨books, history⟩ := errand_books leaves fun attempt same => attempted ⟨attempt, same⟩
        exact (tables_commit consistent books.orders books.ledger books.payments (.inl history)).1

theorem event_unlinked (unlinked : ∀ entry ∈ store.ledger, entry.subscriptionId = none) (event : ErrandEvent) :
    ∀ entry ∈ (errandStep store event).ledger, entry.subscriptionId = none := by
  intro entry listed
  cases event with
  | meanwhile surroundings => exact unlinked entry listed
  | errand errand answers =>
    rcases errand_leaves errand answers store with same | leaves
    · exact unlinked entry (same ▸ listed)
    · by_cases attempted : ∃ attempt, errand = .attempt attempt
      · obtain ⟨attempt, rfl⟩ := attempted
        have left : attempt.Leaves (fun token => ∃ answer ∈ answers, answer.token = token) store
          (errandStep store (.errand (.attempt attempt) answers)) := leaves
        rcases attempt_ledger left listed with old | none_
        · exact unlinked entry old
        · exact none_
      · have books := (errand_books leaves fun attempt same => attempted ⟨attempt, same⟩).1
        exact unlinked entry (books.ledger ▸ listed)

theorem event_distinct (distinct : (store.offerings.map OfferingVersion.id).Nodup) (event : ErrandEvent) :
    ((errandStep store event).offerings.map OfferingVersion.id).Nodup := by
  cases event with
  | meanwhile surroundings => exact surroundings.distinct
  | errand errand answers =>
    rcases errand_leaves errand answers store with same | leaves
    · rw [same]
      exact distinct
    · rw [(errand_tables leaves).2]
      exact distinct

theorem Priced.step (priced : Priced state) (itsPrice : ChargesItsPrice state.store event = true) :
    Priced (billedStep state event) := by
  refine ⟨event_consistent priced.consistent event, fun orderId order found => ?_, event_unlinked priced.unlinked event,
    event_distinct priced.distinct event⟩
  cases billed_turn state event orderId with
  | kept same noted =>
    rw [noted]
    exact priced.orders orderId order (same.symm.trans found)
  | @again old row unasked there unconfirmed after amount noted =>
    obtain ⟨terms, onTerms, due, kind⟩ := priced.orders orderId old there
    rw [noted, Option.some.inj (found.symm.trans after), amount]
    exact ⟨terms, onTerms, due, kind⟩
  | @asked attempt answers terms row tried asks unclosed after stays fresh noted left =>
    subst tried
    rw [noted, Option.some.inj (found.symm.trans after)]
    refine ⟨terms, rfl, ?_, asks_kind asks⟩
    rw [ChargesItsPrice, Bool.and_eq_true, List.all_eq_true] at itsPrice
    obtain ⟨onTerms, again⟩ := itsPrice
    cases there : state.store.findOrder orderId with
    | none => exact (computes_due priced left onTerms asks (fresh there)).symm
    | some old =>
      have name : old.orderId = orderId := Keyed.find_key there
      have failed : old.status = .failed := by
        by_contra open_
        exact unclosed ⟨old, there, open_⟩
      have price := again old (Keyed.find_mem there)
      rw [name] at price
      rw [stays old there]
      simpa [failed, asks] using price

theorem Priced.balanced (priced : Priced state) : Balanced state := by
  refine ⟨fun orgId => ?_, priced.consistent.orderKeys⟩
  have onTerms : ∀ order ∈ state.store.orders, ∃ terms, state.terms order.orderId = some terms ∧
      terms.due = order.amountMinor.minor ∧ terms.isPack = order.orderId.isPack := by
    intro order listed
    apply priced.orders
    exact Keyed.find_of_mem priced.consistent.orderKeys listed
  apply Keyed.sum_split
  · intro order listed _ kind
    obtain ⟨terms, noted, due, sort⟩ := onTerms order listed
    cases terms with
    | period => rw [Billed.chargeDue, noted, ← due, Terms.due]
    | packs =>
      rw [kind] at sort
      cases sort
  · intro order listed _ kind
    obtain ⟨terms, noted, due, sort⟩ := onTerms order listed
    cases terms with
    | period =>
      rw [kind] at sort
      cases sort
    | packs => rw [Billed.packDue, noted, ← due, Terms.due]

end Pricing

/-- In every run whose events charge what they sell, the confirmed orders of an
organisation sum up to what it has bought. -/
theorem purchases_balanced (now : Nat) (events : List ErrandEvent)
    (itsPrice : Runs.Throughout billedStep (fun state event => ChargesItsPrice state.store event = true) { store := .opened now }
      events) :
    Balanced (Runs.final billedStep { store := .opened now } events) := by
  have initial : Priced { store := .opened now } := by
    refine ⟨opened_consistent { now }, fun orderId order found => ?_, fun entry listed => ?_, List.nodup_nil⟩
    · cases found
    · cases listed
  have kept : ∀ state event, ChargesItsPrice state.store event = true → Priced state → Priced (billedStep state event) :=
    fun _ _ itsPrice priced => priced.step itsPrice
  exact (itsPrice.invariant kept initial).balanced

section Scenarios

def packThenTwo : List ErrandEvent :=
  [daysPass 0, runErrand (.attempt (.checkout 1 .team .monthly)) {},
    runErrand (.attempt (.purchasePacks 1 "stt_minutes" 1 "k")) declined,
    runErrand (.attempt (.purchasePacks 1 "stt_minutes" 2 "k")) {}]

/-- The order of one pack stands for two. -/
theorem two_packs_on_one : ¬ Balanced (Runs.final billedStep { store := .opened noon } packThenTwo) := by
  intro balanced
  have total := balanced.total 1
  revert total
  decide +kernel

theorem purchases_balanced_packs :
    Balanced (Runs.final billedStep { store := .opened noon }
      [daysPass 0, runErrand (.attempt (.checkout 1 .team .monthly)) {},
        runErrand (.attempt (.purchasePacks 1 "stt_minutes" 2 "k")) declined, daysPass 1,
        runErrand (.attempt (.dun (.pack 1 "stt_minutes" "k"))) {}, daysPass 30, runErrand (.attempt (.renew 1)) {}]) := by
  apply purchases_balanced
  decide +kernel

end Scenarios

end Sprintable.Billing
