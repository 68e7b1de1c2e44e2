import Sprintable.Billing.Agreement
import Sprintable.Logic.Sequential

/-! One call of `charge_org` that nothing disturbs: which row it moves, what it
reports about it, and what it books when it confirms it. -/

namespace Sprintable.Billing
open Interleave

section Lookups
variable {store : Store}

theorem find_updateOrder {orderId other : OrderId} {change : BillingOrder → BillingOrder}
    (kept : ∀ order, (change order).orderId = order.orderId) :
    (store.updateOrder orderId change).findOrder other =
      if orderId = other then (store.findOrder other).map change else store.findOrder other :=
  Keyed.find_modify kept

@[simp] theorem recordLedgerEntry_orders (entry : LedgerEntry) : (store.recordLedgerEntry entry).orders = store.orders := by
  unfold Store.recordLedgerEntry
  split <;> rfl

@[simp] theorem recordLedgerEntry_tables (entry : LedgerEntry) :
    (store.recordLedgerEntry entry).toTables = store.toTables := by
  unfold Store.recordLedgerEntry
  split <;> rfl

@[simp] theorem recordLedgerEntry_payments (entry : LedgerEntry) :
    (store.recordLedgerEntry entry).payments = store.payments := by
  unfold Store.recordLedgerEntry
  split <;> rfl

@[simp] theorem recordLedgerEntry_history (entry : LedgerEntry) :
    (store.recordLedgerEntry entry).history = store.history := by
  unfold Store.recordLedgerEntry
  split <;> rfl

theorem lookup_done {orderId : OrderId} {answer : Answer} {lookup : Lookup} {paymentKey : PaymentKey}
    (found : store.getPaymentByOrderId orderId answer = .ok lookup) (keyed : lookup.paymentKey = some paymentKey) :
    answer.lookup = .answered ∧ ∃ payment, store.findPayment orderId = some payment ∧ payment.paymentKey = paymentKey := by
  unfold Store.getPaymentByOrderId at found
  split at found
  next payment answered present =>
    cases found
    cases keyed
    exact ⟨answered, payment, present, rfl⟩
  next =>
    cases found
  next =>
    cases found
    cases keyed
  all_goals cases found

end Lookups

/-- Nothing but the order, the ledger and the payments differ, nor any roll. -/
structure Framed (orderId : OrderId) (start after : Store) : Prop where
  tables : after.toTables = start.toTables
  others : ∀ other, other ≠ orderId → after.findOrder other = start.findOrder other
  rolls : ∀ orgId other, after.history.count (.rolled orgId other) = start.history.count (.rolled orgId other)

theorem framed_refl (orderId : OrderId) (store : Store) : Framed orderId store store :=
  ⟨rfl, fun _ _ => rfl, fun _ _ => rfl⟩

theorem Framed.trans {orderId : OrderId} {first second third : Store} (early : Framed orderId first second)
    (late : Framed orderId second third) : Framed orderId first third :=
  ⟨late.tables.trans early.tables, fun other different => (late.others other different).trans (early.others other different),
    fun orgId other => (late.rolls orgId other).trans (early.rolls orgId other)⟩

/-- What the call returns and what the session holds agree with the row. -/
structure Reports (charged : Charged) (order : BillingOrder) : Prop where
  result : ∀ returned, charged.result = .ok returned → returned.status = order.status
  held : ∀ object, charged.held = some object → object.status = order.status
  confirmed : order.status = .confirmed → ∃ returned, charged.result = .ok returned

/-- Under these answers, the provider can come to report a payment for the order. -/
def Payable (allowed : Answer → Prop) (store : Store) (orderId : OrderId) : Prop :=
  ((store.findPayment orderId).isSome ∧ ∃ answer, allowed answer ∧ answer.lookup = .answered) ∨
    ∃ answer, allowed answer ∧ answer.charge = .approved

/-- A payment for the order that was there, or else one that the call has made. -/
def PaidBy (call : ChargeCall) (start store : Store) (payment : Payment) : Prop :=
  payment ∈ store.payments ∧ payment.orderId = call.orderId ∧ (payment ∈ start.payments ∨
    (start.findPayment call.orderId = none ∧ payment.paymentKey = start.payments.length ∧ payment.amount = call.amount))

/-- The entry for a payment is the one that was there, or else the call's own. -/
def EntryOf (call : ChargeCall) (start : Store) (paymentKey : PaymentKey) (entry : LedgerEntry) : Prop :=
  entry.providerRef = some paymentKey ∧ (entry ∈ start.ledger ∨
    ((∀ old ∈ start.ledger, old.providerRef ≠ some paymentKey) ∧ entry = { call.entry paymentKey with ts := start.now }))

/-- A confirmed order names its payment, and the payment is booked. -/
def Booked (call : ChargeCall) (start after : Store) (order : BillingOrder) : Prop :=
  ∃ payment, PaidBy call start after payment ∧ order.paymentKey = some payment.paymentKey ∧
    ∃ entry ∈ after.ledger, EntryOf call start payment.paymentKey entry

theorem recordLedgerEntry_booked (store : Store) (call : ChargeCall) (paymentKey : PaymentKey) :
    ∃ entry ∈ (store.recordLedgerEntry (call.entry paymentKey)).ledger, EntryOf call store paymentKey entry := by
  unfold Store.recordLedgerEntry
  split
  next there =>
    simp only [Bool.and_eq_true, List.any_eq_true, decide_eq_true_eq] at there
    obtain ⟨_, entry, member, reference⟩ := there
    exact ⟨entry, member, reference, .inl member⟩
  next absent =>
    refine ⟨_, List.mem_append_right _ (List.mem_singleton_self _), rfl, .inr ⟨fun old member reference => ?_, rfl⟩⟩
    apply absent
    simp only [ChargeCall.entry, Option.isSome_some, Bool.true_and, List.any_eq_true]
    exact ⟨old, member, decide_eq_true reference⟩

/-- The end of an attempt at an order that was not confirmed. -/
structure Attempted (payable : Prop) (call : ChargeCall) (start : Store) (charged : Charged) (after : Store) : Prop where
  frame : Framed call.orderId start after
  order : ∃ order, after.findOrder call.orderId = some order ∧ Reports charged order ∧
    (order.status = .confirmed → payable ∧ Booked call start after order)

/-- The session holds the order as it is pending, or not at all. -/
def HeldPending (held : Held) : Prop := ∀ object, held = some object → object.status = .pending

/-- An attempt on its way: the order is pending, and nothing is booked for it yet. -/
structure Underway (call : ChargeCall) (start store : Store) (held : Held) : Prop where
  frame : Framed call.orderId start store
  ledger : store.ledger = start.ledger
  pending : ∃ row, store.findOrder call.orderId = some row ∧ row.status = .pending
  holds : HeldPending held

section Attempts
variable {allowed : Answer → Prop} {payable : Prop} {call : ChargeCall} {start store : Store} {held : Held}
  {row : BillingOrder}

theorem updateOrder_framed {orderId : OrderId} {change : BillingOrder → BillingOrder}
    (kept : ∀ order, (change order).orderId = order.orderId) : Framed orderId store (store.updateOrder orderId change) := by
  refine ⟨rfl, fun other different => ?_, fun _ _ => rfl⟩
  rw [find_updateOrder kept, if_neg (Ne.symm different)]

theorem unlessConfirmed_id {change : BillingOrder → BillingOrder} (kept : ∀ order, (change order).orderId = order.orderId)
    (order : BillingOrder) : (BillingOrder.unlessConfirmed change order).orderId = order.orderId := by
  unfold BillingOrder.unlessConfirmed
  split
  · rfl
  · exact kept order

theorem write_pending {orderId : OrderId} {change : BillingOrder → BillingOrder}
    (kept : ∀ order, (change order).orderId = order.orderId)
    (found : store.findOrder orderId = some row) (pending : row.status = .pending) :
    (store.updateOrder orderId (BillingOrder.unlessConfirmed change)).findOrder orderId = some (change row) := by
  rw [find_updateOrder (unlessConfirmed_id kept), if_pos rfl, found, Option.map_some, BillingOrder.unlessConfirmed,
    if_neg (by simp [pending])]

theorem write_held {change : BillingOrder → BillingOrder} (holds : HeldPending held) {object : BillingOrder}
    (written : held.map (BillingOrder.unlessConfirmed change) = some object) : ∃ old, held = some old ∧ object = change old := by
  obtain ⟨old, present, rfl⟩ := Option.map_eq_some_iff.mp written
  refine ⟨old, present, ?_⟩
  rw [BillingOrder.unlessConfirmed, if_neg (by simp [holds old present])]

theorem refetch_ends {orderId : OrderId} (found : store.findOrder orderId = some row)
    (agrees : ∀ object, held = some object → object.status = row.status) :
    (refetch orderId held).Ends allowed
      (fun charged after => after = store ∧ Reports charged row ∧ charged.held = held.or (some row)) store := by
  cases held with
  | some object =>
    refine ⟨rfl, ⟨fun returned same => ?_, fun other same => ?_, fun _ => ⟨object, rfl⟩⟩, rfl⟩
    · cases same
      exact agrees object rfl
    · cases same
      exact agrees object rfl
  | none =>
    intro answer _
    dsimp only
    rw [found]
    refine ⟨rfl, ⟨fun returned same => ?_, fun other same => ?_, fun _ => ⟨row, rfl⟩⟩, rfl⟩
    · cases same
      rfl
    · cases same
      rfl

theorem confirm_with_ledger_ends (paid : payable) (underway : Underway call start store held) (payment : Payment)
    (made : PaidBy call start store payment) :
    (confirmWithLedger call payment.paymentKey held).Ends allowed (Attempted payable call start) store := by
  obtain ⟨row, found, pending⟩ := underway.pending
  intro _ _ _ _
  dsimp only
  have recorded : (store.recordLedgerEntry (call.entry payment.paymentKey)).findOrder call.orderId = some row := by
    simpa [Store.findOrder] using found
  have confirmed : ((store.recordLedgerEntry (call.entry payment.paymentKey)).confirmOrder call.orderId
      payment.paymentKey).findOrder call.orderId = some (row.confirm payment.paymentKey
        (store.recordLedgerEntry (call.entry payment.paymentKey)).now) :=
    write_pending (fun _ => rfl) recorded pending
  refine (refetch_ends confirmed ?_).weaken ?_
  · intro object written
    obtain ⟨old, _, rfl⟩ := write_held underway.holds written
    rfl
  · rintro charged after ⟨rfl, reports, _⟩
    have booking : Framed call.orderId store (store.recordLedgerEntry (call.entry payment.paymentKey)) :=
      ⟨by simp, fun _ _ => by simp [Store.findOrder], fun _ _ => by simp⟩
    have confirming : Framed call.orderId (store.recordLedgerEntry (call.entry payment.paymentKey))
        ((store.recordLedgerEntry (call.entry payment.paymentKey)).confirmOrder call.orderId payment.paymentKey) :=
      updateOrder_framed (unlessConfirmed_id fun _ => rfl)
    refine ⟨(underway.frame.trans booking).trans confirming, _, confirmed, reports, fun _ => ⟨paid, payment, ?_, rfl, ?_⟩⟩
    · obtain ⟨member, name, source⟩ := made
      exact ⟨by simpa [Store.confirmOrder, Store.updateOrder] using member, name, source⟩
    · obtain ⟨entry, member, booked⟩ := recordLedgerEntry_booked store call payment.paymentKey
      rw [EntryOf, underway.ledger, congrArg Tables.now underway.frame.tables] at booked
      exact ⟨entry, member, booked⟩

theorem mark_failed_ends (underway : Underway call start store held) (reason : String) :
    (markFailedIfNotConfirmed call.orderId reason held).Ends allowed
      (fun held after => Framed call.orderId start after ∧ ∃ order, after.findOrder call.orderId = some order ∧
        order.status = .failed ∧ ∀ object, held = some object → object.status = .failed) store := by
  obtain ⟨row, found, pending⟩ := underway.pending
  intro _ _
  refine ⟨underway.frame.trans (updateOrder_framed (unlessConfirmed_id fun _ => rfl)), _,
    write_pending (fun _ => rfl) found pending, rfl, fun object written => ?_⟩
  obtain ⟨old, _, rfl⟩ := write_held underway.holds written
  rfl

theorem fail_attempt_ends (underway : Underway call start store held) (failure : Failure) :
    (failAttempt call.orderId failure held).Ends allowed (Attempted payable call start) store := by
  refine Prog.Ends.bind (mark_failed_ends underway failure.text) fun marked after ended => ?_
  obtain ⟨frame, order, found, failed, agrees⟩ := ended
  refine ⟨frame, order, found, ⟨?_, ?_, ?_⟩, ?_⟩
  · intro returned same
    cases same
  · intro object same
    rw [agrees object same, failed]
  · intro confirmed
    rw [failed] at confirmed
    cases confirmed
  · intro confirmed
    rw [failed] at confirmed
    cases confirmed

theorem report_failed_ends (underway : Underway call start store held) (reason : String) :
    (markFailedIfNotConfirmed call.orderId reason held >>= refetch call.orderId).Ends allowed
      (Attempted payable call start) store := by
  refine Prog.Ends.bind (mark_failed_ends underway reason) fun marked after ended => ?_
  obtain ⟨frame, order, found, failed, agrees⟩ := ended
  refine (refetch_ends found fun object same => (agrees object same).trans failed.symm).weaken ?_
  rintro charged last ⟨rfl, reports, _⟩
  refine ⟨frame, order, found, reports, fun confirmed => ?_⟩
  rw [failed] at confirmed
  cases confirmed

theorem leave_pending (underway : Underway call start store held) (failure : Failure) :
    Attempted payable call start ⟨.error failure, held⟩ store := by
  obtain ⟨row, found, pending⟩ := underway.pending
  refine ⟨underway.frame, row, found, ⟨?_, ?_, ?_⟩, ?_⟩
  · intro returned same
    cases same
  · intro object same
    rw [pending, underway.holds object same]
  · intro confirmed
    rw [pending] at confirmed
    cases confirmed
  · intro confirmed
    rw [pending] at confirmed
    cases confirmed

theorem reconcile_duplicated_order_ends (underway : Underway call start store held)
    (payments : store.payments = start.payments) :
    (reconcileDuplicatedOrder call held).Ends allowed (Attempted (Payable allowed start call.orderId) call start) store := by
  refine Prog.Ends.act fun answer permitted => ?_
  cases looked : store.getPaymentByOrderId call.orderId answer with
  | error failure => exact leave_pending underway failure
  | ok lookup =>
    dsimp only
    split
    · exact report_failed_ends underway _
    · cases keyed : lookup.paymentKey with
      | none => exact report_failed_ends underway _
      | some paymentKey =>
        obtain ⟨answered, payment, found, rfl⟩ := lookup_done looked keyed
        have member := Keyed.find_mem found
        have known : start.findPayment call.orderId = some payment := by
          rw [← found, Store.findPayment, Store.findPayment, payments]
        refine confirm_with_ledger_ends (.inl ⟨by rw [known]; rfl, answer, permitted, answered⟩) underway payment ?_
        exact ⟨member, Keyed.find_key found, .inl (payments ▸ member)⟩

/-- What the provider does with a charge: no payment is made, or the first one for
the order. -/
theorem toss_charge_cases (store : Store) (orderId : OrderId) (amount : Amount) (answer : Answer) :
    ((store.tossCharge orderId amount answer).2 = store ∧ ∃ failure, (store.tossCharge orderId amount answer).1 = .failed failure) ∨
    (store.findPayment orderId = none ∧
      (store.tossCharge orderId amount answer).2 =
        { store with payments := store.payments ++ [⟨orderId, amount, store.payments.length⟩] } ∧
      (((store.tossCharge orderId amount answer).1 = .payment (some store.payments.length) ∧ answer.charge = .approved) ∨
        (store.tossCharge orderId amount answer).1 = .payment none ∨
        ∃ message, (store.tossCharge orderId amount answer).1 = .failed (.runtime message))) := by
  cases paid : store.findPayment orderId with
  | some payment =>
    refine .inl ?_
    cases charge : answer.charge <;> simp [Store.tossCharge, charge, paid]
  | none =>
    cases charge : answer.charge with
    | approved => exact .inr (by simp [Store.tossCharge, charge, paid])
    | approvedWithoutKey => exact .inr (by simp [Store.tossCharge, charge, paid])
    | unanswered message => exact .inr (by simp [Store.tossCharge, charge, paid])
    | declined code => exact .inl (by simp [Store.tossCharge, charge, paid])
    | unreachable message => exact .inl (by simp [Store.tossCharge, charge, paid])

theorem attempt_charge_ends (underway : Underway call start store held) (payments : store.payments = start.payments) :
    (attemptCharge call held).Ends allowed (Attempted (Payable allowed start call.orderId) call start) store := by
  refine Prog.Ends.act fun answer _ => ?_
  cases store.checkBillingKey call.orgId answer with
  | unconfigured => exact leave_pending underway _
  | missing => exact fail_attempt_ends underway _
  | undecryptable => exact leave_pending underway _
  | ready =>
  refine Prog.Ends.act fun answer permitted => ?_
  rcases toss_charge_cases store call.orderId call.amount answer with ⟨same, failure, failed⟩ | ⟨unpaid, paid, outcome⟩
  · rw [same, failed]
    dsimp only
    split
    · exact reconcile_duplicated_order_ends underway payments
    · exact fail_attempt_ends underway failure
  · rw [paid]
    have charged : Underway call start
        { store with payments := store.payments ++ [⟨call.orderId, call.amount, store.payments.length⟩] } held := by
      have charging : Framed call.orderId store
          { store with payments := store.payments ++ [⟨call.orderId, call.amount, store.payments.length⟩] } :=
        ⟨rfl, fun _ _ => rfl, fun _ _ => rfl⟩
      exact ⟨underway.frame.trans charging, underway.ledger, underway.pending, underway.holds⟩
    rcases outcome with ⟨keyed, approved⟩ | keyless | ⟨message, lost⟩
    · rw [keyed]
      have first : start.findPayment call.orderId = none := by
        rw [← unpaid, Store.findPayment, Store.findPayment, payments]
      have key : store.payments.length = start.payments.length := by rw [payments]
      refine confirm_with_ledger_ends (.inr ⟨answer, permitted, approved⟩) charged
        ⟨call.orderId, call.amount, store.payments.length⟩ ?_
      exact ⟨List.mem_append_right _ (List.mem_singleton_self _), rfl, .inr ⟨first, key, rfl⟩⟩
    · rw [keyless]
      exact fail_attempt_ends charged _
    · rw [lost]
      exact fail_attempt_ends charged _

/-- The end of a call: an order that it finds confirmed stays confirmed, and one
that it confirms is booked. -/
structure ChargedAlone (payable : Prop) (call : ChargeCall) (start : Store) (charged : Charged) (after : Store) : Prop where
  frame : Framed call.orderId start after
  order : ∃ order, after.findOrder call.orderId = some order ∧ Reports charged order ∧ (order.status = .confirmed →
    (start.findOrder call.orderId).map BillingOrder.status = some .confirmed ∨ (payable ∧ Booked call start after order))

theorem Attempted.charged {charged : Charged} {after : Store} (attempted : Attempted payable call start charged after) :
    ChargedAlone payable call start charged after := by
  obtain ⟨order, found, reports, confirms⟩ := attempted.order
  exact ⟨attempted.frame, order, found, reports, fun confirmed => .inr (confirms confirmed)⟩

theorem unmoved {charged : Charged} (found : start.findOrder call.orderId = some row) (reports : Reports charged row) :
    ChargedAlone payable call start charged start := by
  refine ⟨framed_refl _ _, row, found, reports, fun confirmed => .inl ?_⟩
  rw [found, Option.map_some, confirmed]

theorem claim_underway (missing : start.findOrder call.orderId = none) (holds : HeldPending held) :
    (start.claimOrder call.order).1 = true ∧ Underway call start (start.claimOrder call.order).2 held ∧
      (start.claimOrder call.order).2.payments = start.payments := by
  have absent : start.findOrder call.order.orderId = none := missing
  rw [Store.claimOrder, absent]
  refine ⟨rfl, ⟨⟨rfl, fun other different => ?_, fun _ _ => rfl⟩, rfl, ?_, holds⟩, rfl⟩
  · refine Keyed.find_append_other ?_
    exact different.symm
  · exact ⟨_, Keyed.find_append_new missing rfl, rfl⟩

theorem reclaim_id (now : Nat) (order : BillingOrder) : (order.reclaim now).orderId = order.orderId := by
  unfold BillingOrder.reclaim
  split <;> rfl

theorem reclaim_underway (found : start.findOrder call.orderId = some row) (failed : row.status = .failed)
    (agrees : ∀ object, held = some object → object.status = row.status) :
    (start.reclaimOrder call.orderId call.amount).1 = true ∧
      Underway call start (start.reclaimOrder call.orderId call.amount).2 (held.map (BillingOrder.reclaim start.now)) ∧
      (start.reclaimOrder call.orderId call.amount).2.payments = start.payments := by
  rw [Store.reclaimOrder, found]
  dsimp only
  rw [if_pos failed]
  refine ⟨rfl, ⟨⟨rfl, (updateOrder_framed (reclaim_id start.now)).others, fun _ _ => ?_⟩, rfl, ?_, ?_⟩, rfl⟩
  · simp [Store.note, Store.updateOrder]
  · refine ⟨row.reclaim start.now, (find_updateOrder (reclaim_id start.now)).trans ?_, ?_⟩
    · rw [if_pos rfl, found, Option.map_some]
    · rw [BillingOrder.reclaim, if_pos failed]
  · intro object taken
    obtain ⟨old, holds, rfl⟩ := Option.map_eq_some_iff.mp taken
    rw [BillingOrder.reclaim, if_pos ((agrees old holds).trans failed)]

/-- The session holds the order as the row is, or not at all. -/
def HeldAsRow (store : Store) (orderId : OrderId) (held : Held) : Prop :=
  ∀ object, held = some object → store.findOrder orderId = some object

theorem charge_org_ends (agrees : HeldAsRow start call.orderId held) :
    (chargeOrg call held).Ends allowed (ChargedAlone (Payable allowed start call.orderId) call start) start := by
  refine Prog.Ends.act fun _ _ => ?_
  cases found : start.findOrder call.orderId with
  | none =>
    have pending : HeldPending held := by
      intro object holds
      rw [agrees object holds] at found
      cases found
    obtain ⟨owns, underway, payments⟩ := claim_underway found pending
    rw [owns, if_pos rfl]
    exact (attempt_charge_ends underway payments).weaken fun _ _ attempted => attempted.charged
  | some row =>
    have present : start.claimOrder call.order = (false, start) := by
      have there : start.findOrder call.order.orderId = some row := found
      rw [Store.claimOrder, there]
    have same : ∀ object, held = some object → object.status = row.status := by
      intro object holds
      cases (agrees object holds).symm.trans found
      rfl
    rw [present, if_neg Bool.false_ne_true]
    refine Prog.Ends.bind (refetch_ends found same) fun existing after ended => ?_
    obtain ⟨rfl, reports, _⟩ := ended
    cases returned : existing.result with
    | error failure => exact unmoved found reports
    | ok order =>
      dsimp only
      split
      · exact unmoved found reports
      next =>
        refine Prog.Ends.act fun _ _ => ?_
        by_cases failed : row.status = .failed
        · obtain ⟨taken, underway, payments⟩ := reclaim_underway found failed reports.held
          rw [taken, if_pos rfl]
          exact (attempt_charge_ends underway payments).weaken fun _ _ attempted => attempted.charged
        · have refused : after.reclaimOrder call.orderId call.amount = (false, after) := by
            rw [Store.reclaimOrder, found]
            exact if_neg failed
          rw [refused]
          have unchanged : ∀ object, existing.held.map (BillingOrder.reclaim after.now) = some object →
              object.status = row.status := by
            intro object holds
            obtain ⟨old, held, rfl⟩ := Option.map_eq_some_iff.mp holds
            rw [BillingOrder.reclaim, if_neg fun status => failed ((reports.held old held).symm.trans status)]
            exact reports.held old held
          refine (refetch_ends found unchanged).weaken ?_
          rintro charged last ⟨rfl, late, _⟩
          exact unmoved found late

end Attempts

structure AttemptKeeps (valid : Store → Prop) (call : ChargeCall) : Prop where
  tosses : ∀ store answer, valid store → valid (store.tossCharge call.orderId call.amount answer).2
  records : ∀ store paymentKey, valid store → valid (store.recordLedgerEntry (call.entry paymentKey))
  confirms : ∀ store paymentKey, valid store → valid (store.confirmOrder call.orderId paymentKey)
  fails : ∀ store reason, valid store → valid (store.markFailedIfNotConfirmed call.orderId reason)

section Keeping
variable {valid : Store → Prop} {call : ChargeCall}

theorem refetch_preserves (orderId : OrderId) (held : Held) : (refetch orderId held).Preserves valid := by
  cases held with
  | some order => exact True.intro
  | none =>
    refine Prog.Preserves.observe fun _ store _ => ?_
    cases store.findOrder orderId <;> exact True.intro

theorem AttemptKeeps.marks (keeps : AttemptKeeps valid call) (reason : String) (held : Held) :
    (markFailedIfNotConfirmed call.orderId reason held).Preserves valid :=
  fun _ store kept => ⟨keeps.fails store reason kept, True.intro⟩

theorem AttemptKeeps.ledger (keeps : AttemptKeeps valid call) (paymentKey : PaymentKey) (held : Held) :
    (confirmWithLedger call paymentKey held).Preserves valid := by
  refine Prog.Preserves.act fun _ store kept => ⟨keeps.records store paymentKey kept, ?_⟩
  refine Prog.Preserves.act fun _ store kept => ⟨keeps.confirms store paymentKey kept, ?_⟩
  exact refetch_preserves _ _

theorem AttemptKeeps.reconcile (keeps : AttemptKeeps valid call) (held : Held) :
    (reconcileDuplicatedOrder call held).Preserves valid := by
  refine Prog.Preserves.observe fun answer store _ => ?_
  cases store.getPaymentByOrderId call.orderId answer with
  | error failure => exact True.intro
  | ok payment =>
    dsimp only
    split
    · exact (keeps.marks _ _).bind fun _ => refetch_preserves _ _
    · cases payment.paymentKey with
      | none => exact (keeps.marks _ _).bind fun _ => refetch_preserves _ _
      | some paymentKey => exact keeps.ledger _ _

theorem AttemptKeeps.failed (keeps : AttemptKeeps valid call) (failure : Failure) (held : Held) :
    (failAttempt call.orderId failure held).Preserves valid :=
  (keeps.marks _ _).bind fun _ => True.intro

theorem AttemptKeeps.attempt (keeps : AttemptKeeps valid call) (held : Held) : (attemptCharge call held).Preserves valid := by
  refine Prog.Preserves.observe fun answer store _ => ?_
  cases store.checkBillingKey call.orgId answer with
  | unconfigured => exact True.intro
  | missing => exact keeps.failed _ _
  | undecryptable => exact True.intro
  | ready =>
    refine Prog.Preserves.act fun answer store kept => ⟨keeps.tosses store answer kept, ?_⟩
    cases (store.tossCharge call.orderId call.amount answer).1 with
    | failed failure =>
      dsimp only
      split
      · exact keeps.reconcile _
      · exact keeps.failed _ _
    | payment paymentKey =>
      cases paymentKey with
      | none => exact keeps.failed _ _
      | some paymentKey => exact keeps.ledger _ _

theorem AttemptKeeps.charge (keeps : AttemptKeeps valid call)
    (claims : ∀ store, valid store → valid (store.claimOrder call.order).2)
    (reclaims : ∀ store, valid store → valid (store.reclaimOrder call.orderId call.amount).2) (held : Held) :
    (chargeOrg call held).Preserves valid := by
  refine Prog.Preserves.act fun _ store kept => ⟨claims store kept, ?_⟩
  split
  · exact keeps.attempt _
  · refine (refetch_preserves _ _).bind fun existing => ?_
    cases existing.result with
    | error failure => exact True.intro
    | ok order =>
      dsimp only
      split
      · exact True.intro
      · refine Prog.Preserves.act fun _ store kept => ⟨reclaims store kept, ?_⟩
        split
        · exact keeps.attempt _
        · exact refetch_preserves _ _

end Keeping

end Sprintable.Billing
