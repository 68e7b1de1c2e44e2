import Sprintable.Billing.Purchases

/-! The order rows, the ledger and the provider's payments agree at every commit,
whatever callers and sweeps overlap and wherever they crash. -/

namespace Sprintable.Billing
open Interleave

/-- An attempt that took a failed order over asked for the amount on its row. -/
def Note.matched : Note → Bool
  | .reclaimed _ asked stored => asked = stored
  | .downgrade .. | .rolled .. => true

def Matched (history : List Note) : Prop := ∀ note ∈ history, note.matched = true

/-- The tier, the status and the period are the same. -/
def Kept (before : OrgSubscription) : Option OrgSubscription → Prop
  | none => False
  | some after => after.tier = before.tier ∧ after.status = before.status ∧
      after.currentPeriodStart = before.currentPeriodStart ∧ after.currentPeriodEnd = before.currentPeriodEnd

/-- A downgrade leaves an active paid subscription alone exactly when it has seen a
sign of recovery, or its write finds the subscription claimed. -/
def Note.sparing : Note → Prop
  | .downgrade orgId failed seen _ (some before) after =>
    before.activePaid → (Kept before after ↔ seen.recovered orgId failed = true ∨ before.claimable seen.now = false)
  | _ => True

structure Consistent (store : Store) : Prop where
  orderKeys : (store.orders.map BillingOrder.orderId).Nodup
  ledgerKeys : (store.ledger.map LedgerEntry.providerRef).Nodup
  paymentKeys : store.payments.map Payment.paymentKey = List.range store.payments.length
  confirmed : ∀ order ∈ store.orders, order.status = .confirmed → ∃ payment ∈ store.payments,
    payment.orderId = order.orderId ∧ order.paymentKey = some payment.paymentKey ∧
      ∃ entry ∈ store.ledger, entry.providerRef = some payment.paymentKey
  paid : ∀ payment ∈ store.payments, ∃ order ∈ store.orders,
    order.orderId = payment.orderId ∧ (Matched store.history → order.amountMinor = payment.amount)
  booked : ∀ entry ∈ store.ledger, ∃ payment ∈ store.payments,
    entry.providerRef = some payment.paymentKey ∧ (Matched store.history → entry.amountMinor = payment.amount)
  spared : ∀ note ∈ store.history, note.sparing

/-- An order keeps its id and its amount, and a confirmed one everything. -/
def Continues (before after : BillingOrder) : Prop :=
  after.orderId = before.orderId ∧ after.amountMinor = before.amountMinor ∧
    (before.status = .confirmed → after = before)

/-- What every request may rely on while others run. -/
structure Grows (before after : Store) : Prop where
  orders : ∀ order ∈ before.orders, ∃ later ∈ after.orders, Continues order later
  ledger : ∀ entry ∈ before.ledger, entry ∈ after.ledger
  payments : ∀ payment ∈ before.payments, payment ∈ after.payments
  history : ∀ note ∈ before.history, note ∈ after.history

theorem continues_refl (order : BillingOrder) : Continues order order := ⟨rfl, rfl, fun _ => rfl⟩

theorem grows_refl (store : Store) : Grows store store :=
  ⟨fun order member => ⟨order, member, continues_refl order⟩, fun _ member => member, fun _ member => member,
    fun _ member => member⟩

theorem Grows.trans {first second third : Store} (early : Grows first second) (late : Grows second third) :
    Grows first third := by
  refine ⟨fun order member => ?_, fun entry member => late.ledger entry (early.ledger entry member),
    fun payment member => late.payments payment (early.payments payment member),
    fun note member => late.history note (early.history note member)⟩
  obtain ⟨middle, present, name, amount, same⟩ := early.orders order member
  obtain ⟨last, present, lastName, lastAmount, lastSame⟩ := late.orders middle present
  refine ⟨last, present, lastName.trans name, lastAmount.trans amount, fun confirmed => ?_⟩
  have kept := same confirmed
  rw [lastSame (kept ▸ confirmed), kept]

theorem Grows.matched {before after : Store} (grows : Grows before after) (matched : Matched after.history) :
    Matched before.history :=
  fun note member => matched note (grows.history note member)

/-- All requests rely on the same growth, and all runs are considered. -/
def billingRules : Discipline Store where
  valid := Consistent
  rely _ := Grows
  allowed _ _ := True
  refl _ := grows_refl
  trans _ := Grows.trans

/-- One committed transaction keeps the books consistent and lets them only grow. -/
def Commits (before after : Store) : Prop := Consistent after ∧ Grows before after

section Commits
variable {store : Store}

theorem commits_refl (consistent : Consistent store) : Commits store store := ⟨consistent, grows_refl store⟩

/-- Transactions on the other tables, with a note that is about neither an amount
nor a downgrade. -/
theorem tables_commit (consistent : Consistent store) {after : Store} (orders : after.orders = store.orders)
    (ledger : after.ledger = store.ledger) (payments : after.payments = store.payments)
    (history : after.history = store.history ∨ ∃ orgId orderId, after.history = .rolled orgId orderId :: store.history) :
    Commits store after := by
  have older : ∀ note ∈ store.history, note ∈ after.history := by
    intro note member
    rcases history with same | ⟨_, _, same⟩
    · exact same ▸ member
    · exact same ▸ List.mem_cons_of_mem _ member
  have grows : Grows store after :=
    ⟨fun order member => ⟨order, orders ▸ member, continues_refl order⟩, fun _ member => ledger ▸ member,
      fun _ member => payments ▸ member, older⟩
  refine ⟨⟨orders ▸ consistent.orderKeys, ledger ▸ consistent.ledgerKeys, payments ▸ consistent.paymentKeys,
    ?_, ?_, ?_, ?_⟩, grows⟩
  · rw [orders, ledger, payments]
    exact consistent.confirmed
  · rw [orders, payments]
    intro payment member
    obtain ⟨order, present, name, amount⟩ := consistent.paid payment member
    exact ⟨order, present, name, fun matched => amount (grows.matched matched)⟩
  · rw [ledger, payments]
    intro entry member
    obtain ⟨payment, present, reference, amount⟩ := consistent.booked entry member
    exact ⟨payment, present, reference, fun matched => amount (grows.matched matched)⟩
  · intro note member
    rcases history with same | ⟨_, _, same⟩
    · exact consistent.spared note (same ▸ member)
    · rw [same, List.mem_cons] at member
      rcases member with rfl | member
      · exact True.intro
      · exact consistent.spared note member

theorem mem_updateOrder {orderId : OrderId} {change : BillingOrder → BillingOrder} {order : BillingOrder}
    (member : order ∈ (store.updateOrder orderId change).orders) :
    ∃ old ∈ store.orders, order = if old.orderId = orderId then change old else old := by
  obtain ⟨old, present, rfl⟩ := List.mem_map.mp member
  exact ⟨old, present, rfl⟩

/-- The rule for a change of one order row: it continues the row, and where it
confirms the row, the payment is booked already. -/
theorem order_commit (consistent : Consistent store) {orderId : OrderId} {change : BillingOrder → BillingOrder}
    (kept : ∀ order, Continues order (change order))
    (confirms : ∀ order ∈ store.orders, order.orderId = orderId → (change order).status = .confirmed →
      order.status = .confirmed ∨ ∃ payment ∈ store.payments, payment.orderId = order.orderId ∧
        (change order).paymentKey = some payment.paymentKey ∧
          ∃ entry ∈ store.ledger, entry.providerRef = some payment.paymentKey) :
    Commits store (store.updateOrder orderId change) := by
  have continues : ∀ order ∈ store.orders, ∃ later ∈ (store.updateOrder orderId change).orders, Continues order later := by
    intro order member
    refine ⟨_, List.mem_map_of_mem member, ?_⟩
    split
    · exact kept order
    · exact continues_refl order
  refine ⟨⟨?_, consistent.ledgerKeys, consistent.paymentKeys, ?_, ?_, consistent.booked, consistent.spared⟩,
    ⟨continues, fun _ member => member, fun _ member => member, fun _ member => member⟩⟩
  · simp only [Store.updateOrder]
    rw [Keyed.map_key_modify _ _ fun order => (kept order).1]
    exact consistent.orderKeys
  · intro order member confirmed
    obtain ⟨old, present, rfl⟩ := mem_updateOrder member
    split at confirmed
    next same =>
      rw [if_pos same]
      rcases confirms old present same confirmed with before | booked
      · rw [(kept old).2.2 before]
        exact consistent.confirmed old present before
      · rw [(kept old).1]
        exact booked
    next different =>
      rw [if_neg different]
      exact consistent.confirmed old present confirmed
  · intro payment member
    obtain ⟨order, present, name, amount⟩ := consistent.paid payment member
    obtain ⟨later, stays, continued⟩ := continues order present
    exact ⟨later, stays, continued.1.trans name, fun matched => continued.2.1.trans (amount matched)⟩

theorem unless_confirmed_continues {change : BillingOrder → BillingOrder}
    (kept : ∀ order, (change order).orderId = order.orderId ∧ (change order).amountMinor = order.amountMinor)
    (order : BillingOrder) : Continues order (BillingOrder.unlessConfirmed change order) := by
  unfold BillingOrder.unlessConfirmed
  split
  · exact continues_refl order
  next open_ => exact ⟨(kept order).1, (kept order).2, fun confirmed => absurd confirmed open_⟩

theorem unconfirming_commit (consistent : Consistent store) (orderId : OrderId)
    {change : BillingOrder → BillingOrder}
    (kept : ∀ order, (change order).orderId = order.orderId ∧ (change order).amountMinor = order.amountMinor)
    (unconfirming : ∀ order, (change order).status ≠ .confirmed) :
    Commits store (store.updateOrder orderId (BillingOrder.unlessConfirmed change)) := by
  refine order_commit consistent (unless_confirmed_continues kept) fun order _ _ confirmed => .inl ?_
  unfold BillingOrder.unlessConfirmed at confirmed
  split at confirmed
  next before => exact before
  next => exact absurd confirmed (unconfirming order)

theorem mark_failed_commit (consistent : Consistent store) (orderId : OrderId) (reason : String) :
    Commits store (store.markFailedIfNotConfirmed orderId reason) :=
  unconfirming_commit consistent orderId (fun _ => ⟨rfl, rfl⟩) fun _ => by simp [BillingOrder.markFailed]

/-- The payment with this key was made for the order of the call, for the amount
of the call when all attempts matched. -/
def Paid (call : ChargeCall) (paymentKey : PaymentKey) (store : Store) : Prop :=
  ∃ payment ∈ store.payments, payment.paymentKey = paymentKey ∧ payment.orderId = call.orderId ∧
    (Matched store.history → payment.amount = call.amount)

/-- The row of the order is there, with the amount of the call when all matched. -/
def Owned (call : ChargeCall) (store : Store) : Prop :=
  ∃ order ∈ store.orders, order.orderId = call.orderId ∧ (Matched store.history → order.amountMinor = call.amount)

theorem Paid.stays {call : ChargeCall} {paymentKey : PaymentKey} {before after : Store}
    (paid : Paid call paymentKey before) (grows : Grows before after) : Paid call paymentKey after := by
  obtain ⟨payment, member, key, name, amount⟩ := paid
  exact ⟨payment, grows.payments payment member, key, name, fun matched => amount (grows.matched matched)⟩

theorem Owned.stays {call : ChargeCall} {before after : Store} (owned : Owned call before)
    (grows : Grows before after) : Owned call after := by
  obtain ⟨order, member, name, amount⟩ := owned
  obtain ⟨later, present, continued⟩ := grows.orders order member
  exact ⟨later, present, continued.1.trans name,
    fun matched => continued.2.1.trans (amount (grows.matched matched))⟩

theorem Consistent.payment_unique (consistent : Consistent store) {first second : Payment}
    (left : first ∈ store.payments) (right : second ∈ store.payments)
    (same : first.paymentKey = second.paymentKey) : first = second := by
  have nodup : (store.payments.map Payment.paymentKey).Nodup := by
    rw [consistent.paymentKeys]
    exact List.nodup_range
  have found := Keyed.find_of_mem nodup left
  rw [same, Keyed.find_of_mem nodup right] at found
  exact (Option.some.inj found).symm

theorem Consistent.order_unique (consistent : Consistent store) {first second : BillingOrder}
    (left : first ∈ store.orders) (right : second ∈ store.orders) (same : first.orderId = second.orderId) :
    first = second := by
  have found := Keyed.find_of_mem consistent.orderKeys left
  rw [same, Keyed.find_of_mem consistent.orderKeys right] at found
  exact (Option.some.inj found).symm

theorem record_commit (consistent : Consistent store) {call : ChargeCall} {paymentKey : PaymentKey}
    (paid : Paid call paymentKey store) : Commits store (store.recordLedgerEntry (call.entry paymentKey)) := by
  unfold Store.recordLedgerEntry
  split
  · exact commits_refl consistent
  next absent =>
    have new : ∀ entry ∈ store.ledger, entry.providerRef ≠ some paymentKey := by
      intro entry member same
      apply absent
      simp only [ChargeCall.entry, Option.isSome_some, Bool.true_and, List.any_eq_true]
      exact ⟨entry, member, decide_eq_true same⟩
    obtain ⟨payment, member, key, name, amount⟩ := paid
    refine ⟨⟨consistent.orderKeys, ?_, consistent.paymentKeys, ?_, consistent.paid, ?_, consistent.spared⟩,
      ⟨fun order member => ⟨order, member, continues_refl order⟩, fun _ member => List.mem_append_left _ member,
        fun _ member => member, fun _ member => member⟩⟩
    · exact Keyed.nodup_append consistent.ledgerKeys new
    · intro order present confirmed
      obtain ⟨payment, member, name, key, entry, booked, reference⟩ := consistent.confirmed order present confirmed
      exact ⟨payment, member, name, key, entry, List.mem_append_left _ booked, reference⟩
    · intro entry present
      rcases List.mem_append.mp present with old | fresh
      · exact consistent.booked entry old
      · rw [List.mem_singleton.mp fresh]
        exact ⟨payment, member, by simp [ChargeCall.entry, key], fun matched => (amount matched).symm⟩

theorem record_present (store : Store) (call : ChargeCall) (paymentKey : PaymentKey) :
    ∃ entry ∈ (store.recordLedgerEntry (call.entry paymentKey)).ledger, entry.providerRef = some paymentKey := by
  unfold Store.recordLedgerEntry
  split
  next there =>
    simp only [Bool.and_eq_true, List.any_eq_true, decide_eq_true_eq] at there
    obtain ⟨_, entry, member, reference⟩ := there
    exact ⟨entry, member, reference⟩
  next => exact ⟨_, List.mem_append_right _ (List.mem_singleton_self _), rfl⟩

theorem confirm_commit (consistent : Consistent store) {call : ChargeCall} {paymentKey : PaymentKey}
    (paid : Paid call paymentKey store) (booked : ∃ entry ∈ store.ledger, entry.providerRef = some paymentKey) :
    Commits store (store.confirmOrder call.orderId paymentKey) := by
  refine order_commit consistent (unless_confirmed_continues fun _ => ⟨rfl, rfl⟩) ?_
  intro order _ name confirmed
  by_cases before : order.status = .confirmed
  · exact .inl before
  · obtain ⟨payment, member, key, made, _⟩ := paid
    refine .inr ⟨payment, member, made.trans name.symm, ?_, key ▸ booked⟩
    rw [BillingOrder.unlessConfirmed, if_neg before, key]
    rfl

theorem claim_commit (consistent : Consistent store) (call : ChargeCall) :
    Commits store (store.claimOrder call.order).2 ∧
      ((store.claimOrder call.order).1 = true → Owned call (store.claimOrder call.order).2) := by
  unfold Store.claimOrder
  cases found : store.findOrder call.order.orderId with
  | some order => exact ⟨commits_refl consistent, by simp⟩
  | none =>
    dsimp only
    have fresh := Keyed.find_none found
    refine ⟨⟨⟨Keyed.nodup_append consistent.orderKeys fresh, consistent.ledgerKeys, consistent.paymentKeys, ?_, ?_,
      consistent.booked, consistent.spared⟩, ⟨?_, fun _ member => member, fun _ member => member, fun _ member => member⟩⟩,
      fun _ => ?_⟩
    · intro order member confirmed
      rcases List.mem_append.mp member with old | new
      · exact consistent.confirmed order old confirmed
      · rw [List.mem_singleton.mp new] at confirmed
        cases confirmed
    · intro payment member
      obtain ⟨order, present, name, amount⟩ := consistent.paid payment member
      exact ⟨order, List.mem_append_left _ present, name, amount⟩
    · exact fun order member => ⟨order, List.mem_append_left _ member, continues_refl order⟩
    · exact ⟨_, List.mem_append_right _ (List.mem_singleton_self _), rfl, fun _ => rfl⟩

theorem note_commit (consistent : Consistent store) {note : Note} (sparing : note.sparing) :
    Commits store (store.note note) := by
  have grows : Grows store (store.note note) :=
    ⟨fun order member => ⟨order, member, continues_refl order⟩, fun _ member => member, fun _ member => member,
      fun _ member => List.mem_cons_of_mem _ member⟩
  refine ⟨⟨consistent.orderKeys, consistent.ledgerKeys, consistent.paymentKeys, consistent.confirmed, ?_, ?_, ?_⟩, grows⟩
  · intro payment member
    obtain ⟨order, present, name, amount⟩ := consistent.paid payment member
    exact ⟨order, present, name, fun matched => amount (grows.matched matched)⟩
  · intro entry member
    obtain ⟨payment, present, reference, amount⟩ := consistent.booked entry member
    exact ⟨payment, present, reference, fun matched => amount (grows.matched matched)⟩
  · intro other member
    rcases List.mem_cons.mp member with rfl | old
    · exact sparing
    · exact consistent.spared other old

theorem Commits.trans {first second third : Store} (early : Commits first second) (late : Commits second third) :
    Commits first third :=
  ⟨late.1, early.2.trans late.2⟩

theorem reclaim_commit (consistent : Consistent store) (call : ChargeCall) :
    Commits store (store.reclaimOrder call.orderId call.amount).2 ∧
      ((store.reclaimOrder call.orderId call.amount).1 = true →
        Owned call (store.reclaimOrder call.orderId call.amount).2) := by
  unfold Store.reclaimOrder
  cases found : store.findOrder call.orderId with
  | none => exact ⟨commits_refl consistent, by simp⟩
  | some order =>
    dsimp only
    split
    next =>
      have reclaims : ∀ old : BillingOrder, Continues old (old.reclaim store.now) := by
        intro old
        unfold BillingOrder.reclaim
        split
        next failed => exact ⟨rfl, rfl, fun confirmed => by rw [failed] at confirmed; cases confirmed⟩
        next => exact continues_refl old
      have updated : Commits store (store.updateOrder call.orderId (BillingOrder.reclaim store.now)) := by
        refine order_commit consistent reclaims fun old _ _ confirmed => .inl ?_
        unfold BillingOrder.reclaim at confirmed
        split at confirmed
        · cases confirmed
        · exact confirmed
      have noted : Commits store ((store.updateOrder call.orderId (BillingOrder.reclaim store.now)).note
          (.reclaimed call.orderId call.amount order.amountMinor)) := updated.trans (note_commit updated.1 True.intro)
      refine ⟨noted, fun _ => ?_⟩
      obtain ⟨later, present, name, amount, _⟩ := noted.2.orders order (Keyed.find_mem found)
      refine ⟨later, present, name.trans (Keyed.find_key found), fun matched => ?_⟩
      rw [amount]
      have asked : call.amount = order.amountMinor := of_decide_eq_true (matched _ List.mem_cons_self)
      exact asked.symm
    · exact ⟨commits_refl consistent, by simp⟩

theorem charge_commit (consistent : Consistent store) {call : ChargeCall} (owned : Owned call store) (answer : Answer) :
    Commits store (store.tossCharge call.orderId call.amount answer).2 ∧
      ∀ paymentKey, (store.tossCharge call.orderId call.amount answer).1 = .payment (some paymentKey) →
        Paid call paymentKey (store.tossCharge call.orderId call.amount answer).2 := by
  have pays : Commits store
      { store with payments := store.payments ++ [⟨call.orderId, call.amount, store.payments.length⟩] } := by
    refine ⟨⟨consistent.orderKeys, consistent.ledgerKeys, ?_, ?_, ?_, ?_, consistent.spared⟩,
      ⟨fun order member => ⟨order, member, continues_refl order⟩, fun _ member => member,
        fun _ member => List.mem_append_left _ member, fun _ member => member⟩⟩
    · simp [consistent.paymentKeys, List.range_succ]
    · intro order member confirmed
      obtain ⟨payment, present, rest⟩ := consistent.confirmed order member confirmed
      exact ⟨payment, List.mem_append_left _ present, rest⟩
    · intro payment member
      rcases List.mem_append.mp member with old | new
      · exact consistent.paid payment old
      · rw [List.mem_singleton.mp new]
        exact owned
    · intro entry member
      obtain ⟨payment, present, rest⟩ := consistent.booked entry member
      exact ⟨payment, List.mem_append_left _ present, rest⟩
  unfold Store.tossCharge
  split <;> simp_all [commits_refl, Paid]

end Commits

end Sprintable.Billing
