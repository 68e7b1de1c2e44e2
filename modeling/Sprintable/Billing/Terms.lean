import Sprintable.Billing.Turns

/-! What each order is for. An errand asks for an order on terms of its own, and
they are the terms of the order when the errand moves it. -/

namespace Sprintable.Billing
open Interleave

/-- A period of a subscription, or packs, at the prices of the moment. -/
inductive Terms where
  | period (tier : Tier) (billingCycle : BillingCycle) (periodStart base overage : Nat)
  | packs (quantity priceMinor : Nat)
  deriving DecidableEq, Repr

def Terms.due : Terms → Nat
  | .period _ _ _ base overage => base + overage
  | .packs quantity priceMinor => priceMinor * quantity

def OfferingVersion.base (offering : OfferingVersion) : BillingCycle → Nat
  | .annual => offering.annualPriceMinor
  | .monthly => offering.monthlyPriceMinor

def Store.seatOverage (store : Store) (orgId : Uuid) (offering : OfferingVersion) : Nat :=
  (store.countHumanSeats orgId - offering.includedSeats) * offering.extraSeatPriceMinor.getD 0

def Store.periodTerms (store : Store) (orgId : Uuid) (offering : OfferingVersion) (tier : Tier) (billingCycle : BillingCycle)
    (periodStart : Nat) : Terms :=
  .period tier billingCycle periodStart (offering.base billingCycle) (store.seatOverage orgId offering)

/-- The terms on which an attempt asks for an order, if it does. A tier change draws
the end of the order id. -/
def Attempt.asks (store : Store) : Attempt → OrderId → Option Terms
  | .checkout orgId tier billingCycle, orderId => do
    let offering ← store.activeOffering tier
    if orderId = .checkout orgId offering.id (Calendar.date store.now) then
      some (store.periodTerms orgId offering tier billingCycle store.now)
    else none
  | .changeTier orgId newTier, .tierChange own offeringVersionId _ => do
    let subscription ← store.findSubscription orgId
    let newOffering ← store.tierChangeOffering subscription newTier
    if own = orgId ∧ offeringVersionId = newOffering.id then
      some (store.periodTerms orgId newOffering newTier .monthly store.now)
    else none
  | .renew orgId, orderId => do
    let subscription ← store.findSubscription orgId
    let offeringVersionId ← subscription.offeringVersionId
    let offering ← store.findOffering offeringVersionId
    let periodEnd ← subscription.currentPeriodEnd
    let billingCycle ← subscription.billingCycle
    if subscription.due store.now = true ∧ orderId = .renewal orgId offeringVersionId (Calendar.date periodEnd) then
      some (store.periodTerms orgId offering subscription.tier billingCycle periodEnd)
    else none
  | .purchasePacks orgId resource quantity idempotencyKey, orderId => do
    let offer ← store.packOffer orgId resource quantity.toNat
    if orderId = .pack orgId resource idempotencyKey then some (.packs quantity.toNat offer.1.priceMinor) else none
  | _, _ => none

def Attempt.computes (store : Store) : Attempt → Option Nat
  | .checkout orgId tier billingCycle => do
    let offering ← store.activeOffering tier
    let computed ← store.computeChargeAmount (some ((store.findSubscription orgId).getD
      ((store.rowOf orgId).bought tier billingCycle offering.id store.now)))
    some computed.1
  | .changeTier orgId newTier => do
    let subscription ← store.findSubscription orgId
    let newOffering ← store.tierChangeOffering subscription newTier
    let computed ← store.computeAmountForOffering subscription newOffering
    some computed.1
  | .renew orgId => (store.computeChargeAmount (store.findSubscription orgId)).map Prod.fst
  | .purchasePacks orgId resource quantity _ =>
    (store.packOffer orgId resource quantity.toNat).map fun offer => offer.1.priceMinor * quantity.toNat
  | _ => none

def ErrandEvent.asks (store : Store) : ErrandEvent → OrderId → Option Terms
  | .errand (.attempt attempt) _, orderId => attempt.asks store orderId
  | _, _ => none

/-- The store, with the terms of each order. -/
structure Billed where
  store : Store
  terms : OrderId → Option Terms := fun _ => none

def billedStep (state : Billed) (event : ErrandEvent) : Billed where
  store := errandStep state.store event
  terms orderId :=
    if (errandStep state.store event).findOrder orderId = state.store.findOrder orderId then state.terms orderId
    else (event.asks state.store orderId).or (state.terms orderId)

/-- An order before and after an attempt: asked for, at the amount that is computed
when it is new, or handled again as it is. -/
inductive OrderTurn (before after : Store) (orderId : OrderId) (attempt : Attempt) : Prop where
  | kept (same : after.findOrder orderId = before.findOrder orderId)
  | asked {terms : Terms} {row : BillingOrder} (asks : attempt.asks before orderId = some terms)
    (unclosed : ¬ Closed before orderId) (found : after.findOrder orderId = some row)
    (stays : ∀ old, before.findOrder orderId = some old → row.amountMinor = old.amountMinor)
    (fresh : before.findOrder orderId = none → attempt.computes before = some row.amountMinor.minor)
  | again {old row : BillingOrder} (unasked : attempt.asks before orderId = none)
    (there : before.findOrder orderId = some old) (unconfirmed : old.status ≠ .confirmed)
    (found : after.findOrder orderId = some row) (amount : row.amountMinor = old.amountMinor)

section Orders
variable {tokens : Nat → Prop} {before after : Store} {orgId : Uuid} {attempt : Attempt}

theorem bills_turn {ordered : OrderId} {computed : Nat × Currency} {entryType : EntryType} {ledgerMetadata : Option LedgerMetadata}
    {terms : Terms} (bills : Bills orgId ordered computed entryType ledgerMetadata before after)
    (asks : attempt.asks before ordered = some terms) (computes : attempt.computes before = some computed.1) (orderId : OrderId) :
    OrderTurn before after orderId attempt := by
  rcases bills with same | ⟨positive, charges⟩
  · exact .kept (same.find orderId)
  by_cases own : orderId = ordered
  · subst own
    by_cases closed : Closed before orderId
    · exact .kept ((charges.closed closed).find orderId)
    cases found : after.findOrder orderId with
    | some row =>
      refine .asked asks closed found (fun old there => ?_) fun missing => ?_
      · obtain ⟨other, present, amount, _⟩ := charges.stays there
        rw [Option.some.inj (found.symm.trans present)]
        exact amount
      · rw [(charges.fresh missing found).1]
        exact computes
    | none =>
      cases there : before.findOrder orderId with
      | none => exact .kept (found.trans there.symm)
      | some old =>
        obtain ⟨row, present, _⟩ := charges.stays there
        exact absurd (found.symm.trans present) (by simp)
  · exact .kept (charges.others own)

theorem again_turn {ordered : OrderId} {old : BillingOrder} (unasked : ∀ orderId, attempt.asks before orderId = none)
    (there : before.findOrder ordered = some old) (unconfirmed : old.status ≠ .confirmed)
    (others : ∀ other, other ≠ ordered → after.findOrder other = before.findOrder other)
    (stays : ∃ row, after.findOrder ordered = some row ∧ row.amountMinor = old.amountMinor) (orderId : OrderId) :
    OrderTurn before after orderId attempt := by
  by_cases own : orderId = ordered
  · subst own
    obtain ⟨row, found, amount⟩ := stays
    exact .again (unasked orderId) there unconfirmed found amount
  · exact .kept (others orderId own)

theorem same_books_turn (same : SameBooks before after) (orderId : OrderId) : OrderTurn before after orderId attempt :=
  .kept (same.find orderId)

theorem upsert_orders (store : Store) (orgId : Uuid) (now : Nat) (offering : Option OfferingVersion) (orderId : OrderId) :
    (store.freeSubscription orgId now offering).findOrder orderId = store.findOrder orderId := by
  rw [Store.findOrder, Store.findOrder, Store.freeSubscription, upsertSubscription_orders]

theorem downgraded_turn {order : BillingOrder} (left : Downgraded order before after) (orderId : OrderId) :
    OrderTurn before after orderId (.dun order.orderId) := by
  have unconfirmed : order.status ≠ .confirmed := by
    intro confirmed
    have beyond := left.beyond
    rw [nextDunningAction, if_pos (by rw [confirmed]; decide)] at beyond
    cases beyond
  have looked : ∀ orderId, after.findOrder orderId =
      if order.orderId = orderId then
        (before.findOrder orderId).map (BillingOrder.unlessConfirmed fun order => order.downgrade before.now)
      else before.findOrder orderId := by
    intro orderId
    have closed := left.left
    rw [downgrade_eq left.found] at closed
    have kept : ∀ row : BillingOrder,
        ((BillingOrder.unlessConfirmed fun order => order.downgrade before.now) row).orderId = row.orderId := by
      intro row
      unfold BillingOrder.unlessConfirmed
      split <;> rfl
    by_cases recovered : before.recovered order.orgId order = true
    · simp only [recovered, if_true] at closed
      rw [closed]
      exact Keyed.find_modify kept
    · simp only [recovered] at closed
      rw [closed]
      refine (Keyed.find_modify kept).trans ?_
      change (if order.orderId = orderId then
        ((before.freeSubscription order.orgId before.now (before.activeOffering .free)).findOrder orderId).map (BillingOrder.unlessConfirmed _)
        else (before.freeSubscription order.orgId before.now (before.activeOffering .free)).findOrder orderId) = _
      rw [upsert_orders]
  refine again_turn (fun _ => rfl) left.found unconfirmed (fun other different => ?_) ?_ orderId
  · rw [looked, if_neg different.symm]
  · refine ⟨order.downgrade before.now, ?_, rfl⟩
    rw [looked, if_pos rfl, left.found, Option.map_some, BillingOrder.unlessConfirmed, if_neg unconfirmed]

theorem attempt_order_turn (leaves : attempt.Leaves tokens before after) (orderId : OrderId) :
    OrderTurn before after orderId attempt := by
  cases attempt with
  | checkout orgId tier billingCycle =>
    obtain ⟨offering, left⟩ := leaves
    rcases left.bills with same | ⟨computed, computes, bills⟩
    · exact same_books_turn same orderId
    · apply bills_turn bills
      · simp only [Attempt.asks, left.offered, Option.bind_eq_bind, Option.bind_some, if_true]
        rfl
      · simp only [Attempt.computes, left.offered, computes, Option.bind_eq_bind, Option.bind_some]
  | changeTier orgId newTier =>
    obtain ⟨subscription, newOffering, left⟩ := leaves
    obtain ⟨claim, ⟨_, same⟩ | ⟨token, computed, _, computes, bills, _⟩⟩ := left.row
    · exact same_books_turn same orderId
    · apply bills_turn bills
      · simp only [Attempt.asks, left.found, left.offered, Option.bind_eq_bind, Option.bind_some, and_self, if_true]
        rfl
      · simp only [Attempt.computes, left.found, left.offered, computes, Option.bind_eq_bind, Option.bind_some]
  | purchasePacks orgId resource quantity idempotencyKey =>
    obtain ⟨pack, currency, left⟩ := leaves
    apply bills_turn left.bills
    · simp only [Attempt.asks, left.offered, Option.bind_eq_bind, Option.bind_some, if_true]
      rfl
    · simp only [Attempt.computes, left.offered, Option.map_some]
  | renew orgId =>
    obtain ⟨subscription, offeringVersionId, periodEnd, billingCycle, rfl, left⟩ := leaves
    obtain ⟨computed, computes, bills⟩ := left.bills
    have priced := computes
    simp only [Store.computeChargeAmount, left.onOffering, Option.bind_eq_bind, Option.bind_some,
      Option.bind_eq_some_iff] at priced
    obtain ⟨offering, listed, _⟩ := priced
    apply bills_turn bills
    · simp only [Attempt.asks, left.found, left.onOffering, listed, left.ends, left.cycle, left.due, Option.bind_eq_bind,
        Option.bind_some, and_self, if_true]
      rfl
    · simp only [Attempt.computes, left.found, computes, Option.map_some]
  | dun orderId =>
    obtain ⟨order, rfl, left | left⟩ := leaves
    · have unconfirmed : order.status ≠ .confirmed := by
        rw [left.failed]
        decide
      refine again_turn (fun _ => rfl) left.found unconfirmed (fun other different => left.charges.others different) ?_ _
      obtain ⟨row, found, amount, _⟩ := left.charges.stays left.found
      exact ⟨row, found, amount⟩
    · exact downgraded_turn left _
  | reconcile orderId =>
    obtain ⟨order, rfl, left⟩ := leaves
    have unconfirmed : order.status ≠ .confirmed := by
      rw [left.pending]
      decide
    refine again_turn (fun _ => rfl) left.found unconfirmed left.moved.others ?_ _
    obtain ⟨row, found, amount, _⟩ := left.moved.stays order left.found
    exact ⟨row, found, amount⟩

theorem upsert_books (store : Store) (row : OrgSubscription) (allowed : OrgSubscription → Bool)
    (change : OrgSubscription → OrgSubscription) :
    SameBooks store (store.upsertSubscription row allowed change) ∧
      (store.upsertSubscription row allowed change).history = store.history := by
  unfold Store.upsertSubscription
  split
  · exact ⟨⟨rfl, rfl, rfl, rfl⟩, rfl⟩
  · split <;> exact ⟨⟨rfl, rfl, rfl, rfl⟩, rfl⟩

theorem errand_books {errand : Errand} (leaves : errand.Leaves tokens before after)
    (other : ∀ attempt, errand ≠ .attempt attempt) : SameBooks before after ∧ after.history = before.history := by
  cases errand with
  | attempt tried => exact absurd rfl (other tried)
  | reserveDowngrade orgId newTier =>
    obtain ⟨_, _, left⟩ := leaves
    rw [left.left]
    exact ⟨⟨rfl, rfl, rfl, rfl⟩, rfl⟩
  | cancelSubscription orgId =>
    obtain ⟨_, _, left⟩ := leaves
    rw [left.left]
    exact ⟨⟨rfl, rfl, rfl, rfl⟩, rfl⟩
  | cancelPendingDowngrade orgId =>
    obtain ⟨_, _, _, rfl⟩ := leaves
    exact ⟨⟨rfl, rfl, rfl, rfl⟩, rfl⟩
  | applyPending orgId =>
    obtain ⟨_, _, _, _, _, ⟨_, rfl⟩ | ⟨_, rfl⟩⟩ := leaves <;> exact ⟨⟨rfl, rfl, rfl, rfl⟩, rfl⟩
  | grantCredit call =>
    rw [show after = before.grantCredit call from leaves]
    unfold Store.grantCredit
    split
    · exact ⟨same_books_refl before, rfl⟩
    dsimp only
    split
    · exact ⟨same_books_refl before, rfl⟩
    split
    · exact ⟨same_books_refl before, rfl⟩
    split
    · obtain ⟨books, history⟩ := upsert_books before _ _ _
      exact ⟨⟨books.orders, books.payments, books.ledger, books.now⟩, history⟩
    · exact ⟨same_books_refl before, rfl⟩
  | revertExpired orgId =>
    obtain ⟨grant, _, _, rfl⟩ := leaves
    unfold Store.revertGrant
    split
    · exact ⟨same_books_refl before, rfl⟩
    split
    · exact ⟨same_books_refl before, rfl⟩
    · exact ⟨⟨rfl, rfl, rfl, rfl⟩, rfl⟩

theorem attempt_ledger (leaves : attempt.Leaves tokens before after) {entry : LedgerEntry} (listed : entry ∈ after.ledger) :
    entry ∈ before.ledger ∨ entry.subscriptionId = none := by
  have billed : ∀ {orgId : Uuid} {ordered : OrderId} {computed : Nat × Currency} {entryType : EntryType}
      {ledgerMetadata : Option LedgerMetadata}, Bills orgId ordered computed entryType ledgerMetadata before after →
      entry ∈ before.ledger ∨ entry.subscriptionId = none := by
    intro orgId ordered computed entryType ledgerMetadata bills
    rcases bills with same | ⟨_, charges⟩
    · exact .inl (same.ledger ▸ listed)
    · exact charges.ledger listed
  cases attempt with
  | checkout orgId tier billingCycle =>
    obtain ⟨_, left⟩ := leaves
    rcases left.bills with same | ⟨_, _, bills⟩
    · exact .inl (same.ledger ▸ listed)
    · exact billed bills
  | changeTier orgId newTier =>
    obtain ⟨_, _, left⟩ := leaves
    obtain ⟨_, ⟨_, same⟩ | ⟨_, _, _, _, bills, _⟩⟩ := left.row
    · exact .inl (same.ledger ▸ listed)
    · exact billed bills
  | purchasePacks orgId resource quantity idempotencyKey =>
    obtain ⟨_, _, left⟩ := leaves
    exact billed left.bills
  | renew orgId =>
    obtain ⟨_, _, _, _, _, left⟩ := leaves
    obtain ⟨_, _, bills⟩ := left.bills
    exact billed bills
  | dun orderId =>
    obtain ⟨order, _, left | left⟩ := leaves
    · exact left.charges.ledger listed
    · have same : after.ledger = before.ledger := by
        rw [left.left]
        cases found : before.findOrder order.orderId with
        | none => rw [Store.downgradeToFree, found]
        | some order =>
          rw [downgrade_eq found]
          change (if before.recovered _ order then before else before.freeSubscription _ before.now (before.activeOffering .free)).ledger = before.ledger
          split
          · rfl
          · exact (upsert_books before _ _ _).1.ledger
      exact .inl (same ▸ listed)
  | reconcile orderId =>
    obtain ⟨_, _, left⟩ := leaves
    exact left.moved.ledger entry listed

end Orders

/-- An order, with its terms, before and after an event. -/
inductive BilledTurn (state : Billed) (event : ErrandEvent) (orderId : OrderId) : Prop where
  | kept (same : (billedStep state event).store.findOrder orderId = state.store.findOrder orderId)
    (noted : (billedStep state event).terms orderId = state.terms orderId)
  | asked {attempt : Attempt} {answers : List Answer} {terms : Terms} {row : BillingOrder}
    (tried : event = .errand (.attempt attempt) answers) (asks : attempt.asks state.store orderId = some terms)
    (unclosed : ¬ Closed state.store orderId) (found : (billedStep state event).store.findOrder orderId = some row)
    (stays : ∀ old, state.store.findOrder orderId = some old → row.amountMinor = old.amountMinor)
    (fresh : state.store.findOrder orderId = none → attempt.computes state.store = some row.amountMinor.minor)
    (noted : (billedStep state event).terms orderId = some terms)
    (left : attempt.Leaves (fun token => ∃ answer ∈ answers, answer.token = token) state.store (billedStep state event).store)
  | again {old row : BillingOrder} (unasked : event.asks state.store orderId = none)
    (there : state.store.findOrder orderId = some old) (unconfirmed : old.status ≠ .confirmed)
    (found : (billedStep state event).store.findOrder orderId = some row) (amount : row.amountMinor = old.amountMinor)
    (noted : (billedStep state event).terms orderId = state.terms orderId)

theorem billed_turn (state : Billed) (event : ErrandEvent) (orderId : OrderId) : BilledTurn state event orderId := by
  by_cases same : (errandStep state.store event).findOrder orderId = state.store.findOrder orderId
  · exact .kept same (if_pos same)
  have noted : (billedStep state event).terms orderId = (event.asks state.store orderId).or (state.terms orderId) := if_neg same
  cases event with
  | meanwhile surroundings => exact absurd rfl same
  | errand errand answers =>
    rcases errand_leaves errand answers state.store with unchanged | leaves
    · rw [unchanged] at same
      exact absurd rfl same
    by_cases attempted : ∃ attempt, errand = .attempt attempt
    · obtain ⟨attempt, rfl⟩ := attempted
      have turn : OrderTurn state.store (errandStep state.store (.errand (.attempt attempt) answers)) orderId attempt :=
        attempt_order_turn leaves orderId
      cases turn with
      | kept unchanged => exact absurd unchanged same
      | @asked terms row asks unclosed found stays fresh =>
        refine .asked rfl asks unclosed found stays fresh (noted.trans ?_) leaves
        simp only [ErrandEvent.asks, asks, Option.some_or]
      | again unasked there unconfirmed found amount =>
        refine .again unasked there unconfirmed found amount (noted.trans ?_)
        simp only [ErrandEvent.asks, unasked, Option.none_or]
    · have books := (errand_books leaves fun attempt same => attempted ⟨attempt, same⟩).1
      exact absurd (books.find orderId) same

theorem confirmed_stays {state : Billed} {orderId : OrderId} (confirmed : Confirmed state.store orderId) (event : ErrandEvent) :
    Confirmed (billedStep state event).store orderId ∧ (billedStep state event).terms orderId = state.terms orderId := by
  obtain ⟨order, found, status⟩ := confirmed
  cases billed_turn state event orderId with
  | kept same noted => exact ⟨⟨order, same.trans found, status⟩, noted⟩
  | asked tried asks unclosed =>
    refine absurd ⟨order, found, ?_⟩ unclosed
    rw [status]
    decide
  | again _ there unconfirmed =>
    rw [Option.some.inj (found.symm.trans there)] at status
    exact absurd status unconfirmed

end Sprintable.Billing
