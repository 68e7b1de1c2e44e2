import Sprintable.Billing.Attempts

/-! What a charge may leave behind wherever it is cut off: one order, its payments
and its ledger entries move, and nothing else does. -/

namespace Sprintable.Billing
open Interleave

/-- Only the order of the call moves. It keeps its amount, or is new and has that of
the call; the payments made for it are of the call's amount. -/
structure Moved (call : ChargeCall) (start after : Store) : Prop where
  tables : after.toTables = start.toTables
  others : ∀ other, other ≠ call.orderId → after.findOrder other = start.findOrder other
  stays : ∀ old, start.findOrder call.orderId = some old → ∃ row, after.findOrder call.orderId = some row ∧
    row.amountMinor = old.amountMinor ∧ row.createdAt = old.createdAt ∧ (old.status = .confirmed → row = old)
  fresh : start.findOrder call.orderId = none → ∀ row, after.findOrder call.orderId = some row →
    row.amountMinor = call.amount ∧ row.createdAt = start.now
  payments : ∀ payment ∈ after.payments, payment ∈ start.payments ∨ (payment.orderId = call.orderId ∧ payment.amount = call.amount)
  ledger : ∀ entry ∈ after.ledger, entry ∈ start.ledger ∨ entry.subscriptionId = none

section Moves
variable {call : ChargeCall} {start store : Store}

theorem moved_refl (call : ChargeCall) (store : Store) : Moved call store store where
  tables := rfl
  others _ _ := rfl
  stays old found := ⟨old, found, rfl, rfl, fun _ => rfl⟩
  fresh missing row found := by rw [missing] at found; cases found
  payments _ member := .inl member
  ledger _ member := .inl member

theorem moved_update (moved : Moved call start store) {change : BillingOrder → BillingOrder}
    (kept : ∀ order, (change order).orderId = order.orderId ∧ (change order).amountMinor = order.amountMinor ∧
      (change order).createdAt = order.createdAt ∧ (order.status = .confirmed → change order = order)) :
    Moved call start (store.updateOrder call.orderId change) where
  tables := moved.tables
  others other different := by
    rw [find_updateOrder fun order => (kept order).1, if_neg different.symm]
    exact moved.others other different
  stays old found := by
    obtain ⟨row, there, amount, created, same⟩ := moved.stays old found
    refine ⟨change row, ?_, (kept row).2.1.trans amount, (kept row).2.2.1.trans created, fun confirmed => ?_⟩
    · rw [find_updateOrder fun order => (kept order).1, if_pos rfl, there, Option.map_some]
    · have unchanged := same confirmed
      subst unchanged
      exact (kept row).2.2.2 confirmed
  fresh missing row found := by
    rw [find_updateOrder fun order => (kept order).1, if_pos rfl, Option.map_eq_some_iff] at found
    obtain ⟨old, there, rfl⟩ := found
    obtain ⟨amount, created⟩ := moved.fresh missing old there
    exact ⟨(kept old).2.1.trans amount, (kept old).2.2.1.trans created⟩
  payments := moved.payments
  ledger := moved.ledger

theorem moved_unless (moved : Moved call start store) {change : BillingOrder → BillingOrder}
    (kept : ∀ order, (change order).orderId = order.orderId ∧ (change order).amountMinor = order.amountMinor ∧
      (change order).createdAt = order.createdAt) :
    Moved call start (store.updateOrder call.orderId (BillingOrder.unlessConfirmed change)) := by
  refine moved_update moved fun order => ?_
  unfold BillingOrder.unlessConfirmed
  split
  · exact ⟨rfl, rfl, rfl, fun _ => rfl⟩
  next open_ => exact ⟨(kept order).1, (kept order).2.1, (kept order).2.2, fun confirmed => absurd confirmed open_⟩

theorem moved_claim (moved : Moved call start store) : Moved call start (store.claimOrder call.order).2 := by
  unfold Store.claimOrder
  cases found : store.findOrder call.order.orderId with
  | some order => exact moved
  | none =>
    have missing : start.findOrder call.orderId = none := by
      rw [Option.eq_none_iff_forall_ne_some]
      intro old there
      obtain ⟨row, present, _⟩ := moved.stays old there
      exact absurd (found.symm.trans present) (by simp)
    have clock : store.now = start.now := congrArg Tables.now moved.tables
    refine ⟨moved.tables, fun other different => ?_, fun old there => ?_, fun _ row present => ?_, moved.payments, moved.ledger⟩
    · refine (Keyed.find_append_other ?_).trans (moved.others other different)
      exact different.symm
    · rw [missing] at there
      cases there
    · rcases Keyed.find_append_cases present with old | ⟨_, rfl, _⟩
      · exact absurd (found.symm.trans old) (by simp)
      · exact ⟨rfl, clock⟩

theorem moved_reclaim (moved : Moved call start store) :
    Moved call start (store.reclaimOrder call.orderId call.amount).2 := by
  unfold Store.reclaimOrder
  split
  · exact moved
  · split
    · have reclaimed : Moved call start (store.updateOrder call.orderId (BillingOrder.reclaim store.now)) := by
        refine moved_update moved fun order => ?_
        unfold BillingOrder.reclaim
        split
        next failed => exact ⟨rfl, rfl, rfl, fun confirmed => by rw [failed] at confirmed; cases confirmed⟩
        · exact ⟨rfl, rfl, rfl, fun _ => rfl⟩
      exact ⟨reclaimed.tables, reclaimed.others, reclaimed.stays, reclaimed.fresh, reclaimed.payments, reclaimed.ledger⟩
    · exact moved

theorem moved_charge (moved : Moved call start store) (answer : Answer) :
    Moved call start (store.tossCharge call.orderId call.amount answer).2 := by
  rcases toss_charge_cases store call.orderId call.amount answer with ⟨same, _⟩ | ⟨_, paid, _⟩
  · rw [same]
    exact moved
  · rw [paid]
    refine ⟨moved.tables, moved.others, moved.stays, moved.fresh, fun payment member => ?_, moved.ledger⟩
    rcases List.mem_append.mp member with old | new
    · exact moved.payments payment old
    · rw [List.mem_singleton.mp new]
      exact .inr ⟨rfl, rfl⟩

theorem moved_record (moved : Moved call start store) (paymentKey : PaymentKey) :
    Moved call start (store.recordLedgerEntry (call.entry paymentKey)) := by
  unfold Store.recordLedgerEntry
  split
  · exact moved
  · refine ⟨moved.tables, moved.others, moved.stays, moved.fresh, moved.payments, fun entry member => ?_⟩
    rcases List.mem_append.mp member with old | new
    · exact moved.ledger entry old
    · rw [List.mem_singleton.mp new]
      exact .inr rfl

/-- A request all of whose commits keep to the order of the call. -/
abbrev Moving (call : ChargeCall) (start : Store) {α : Type} (program : Request α) : Prop :=
  program.Preserves (Moved call start)

theorem moving_pure {α : Type} (value : α) : Moving call start (pure value : Request α) := True.intro

theorem moved_attempt (call : ChargeCall) (start : Store) : AttemptKeeps (Moved call start) call where
  tosses _ answer moved := moved_charge moved answer
  records _ paymentKey moved := moved_record moved paymentKey
  confirms _ _ moved := moved_unless moved fun _ => ⟨rfl, rfl, rfl⟩
  fails _ _ moved := moved_unless moved fun _ => ⟨rfl, rfl, rfl⟩

theorem charge_org_moving (held : Held) : Moving call start (chargeOrg call held) :=
  (moved_attempt call start).charge (fun _ moved => moved_claim moved) (fun _ moved => moved_reclaim moved) held

end Moves

/-- The order of the call is there, and no charge takes it up. -/
def Closed (store : Store) (orderId : OrderId) : Prop :=
  ∃ row, store.findOrder orderId = some row ∧ row.status ≠ .failed

section Calls
variable {allowed : Answer → Prop} {call : ChargeCall} {start : Store} {held : Held}

theorem charge_org_idle {row : BillingOrder} (found : start.findOrder call.orderId = some row) (done : row.status ≠ .failed)
    (agrees : HeldAsRow start call.orderId held) :
    (chargeOrg call held).Along allowed (· = start) (fun _ after => after = start) start := by
  have present : start.claimOrder call.order = (false, start) := by
    have there : start.findOrder call.order.orderId = some row := found
    rw [Store.claimOrder, there]
  refine Prog.Along.act rfl fun _ _ => ?_
  rw [present, if_neg Bool.false_ne_true]
  have refetching : ∀ held : Held, (refetch call.orderId held).Along allowed (· = start) (fun _ after => after = start) start := by
    intro held
    cases held with
    | some object => exact ⟨rfl, rfl⟩
    | none =>
      refine Prog.Along.observe rfl fun _ _ => ?_
      cases start.findOrder call.orderId <;> exact ⟨rfl, rfl⟩
  refine Prog.Along.bind (refetching held) ?_
  rintro existing _ rfl
  cases existing.result with
  | error failure => exact ⟨rfl, rfl⟩
  | ok order =>
    dsimp only
    split
    · exact ⟨rfl, rfl⟩
    · have refused : ∀ store : Store, store.findOrder call.orderId = some row →
          store.reclaimOrder call.orderId call.amount = (false, store) := by
        intro store there
        rw [Store.reclaimOrder, there]
        exact if_neg done
      refine Prog.Along.act rfl fun _ _ => ?_
      rw [refused _ found]
      exact refetching _

/-- What a call leaves: its order moves, unless the call finds it closed. -/
structure Called (call : ChargeCall) (start after : Store) : Prop where
  moved : Moved call start after
  closed : Closed start call.orderId → after = start

theorem called_refl (call : ChargeCall) (store : Store) : Called call store store := ⟨moved_refl call store, fun _ => rfl⟩

theorem charge_org_along (agrees : HeldAsRow start call.orderId held) :
    (chargeOrg call held).Along allowed (Called call start)
      (ChargedAlone (Payable allowed start call.orderId) call start) start := by
  have ends : (chargeOrg call held).Ends allowed (ChargedAlone (Payable allowed start call.orderId) call start) start :=
    charge_org_ends agrees
  have along := ends.along (charge_org_moving held) (moved_refl call start)
  by_cases closed : Closed start call.orderId
  · obtain ⟨row, found, done⟩ := closed
    have idle : (chargeOrg call held).Along allowed (· = start) (fun _ after => after = start) start :=
      charge_org_idle found done agrees
    refine (idle.both along).weaken ?_ fun _ _ _ both => both.2
    rintro _ ⟨rfl, _⟩
    exact called_refl call _
  · exact along.weaken (fun _ moved => ⟨moved, fun there => absurd there closed⟩) fun _ _ _ alone => alone

def amountCall (orgId : Uuid) (orderId : OrderId) (amountMinor : Nat) (currency : Currency) (entryType : EntryType)
    (ledgerMetadata : Option LedgerMetadata) (positive : 0 < amountMinor) : ChargeCall :=
  { orgId, orderId, amount := ⟨amountMinor, positive⟩, currency, entryType, ledgerMetadata }

theorem charge_amount_along (orgId : Uuid) (orderId : OrderId) (amountMinor : Nat) (currency : Currency)
    (entryType : EntryType) (ledgerMetadata : Option LedgerMetadata) :
    (chargeAmount orgId orderId amountMinor currency entryType ledgerMetadata none).Along allowed
      (fun after => after = start ∨ ∃ positive : 0 < amountMinor,
        Called (amountCall orgId orderId amountMinor currency entryType ledgerMetadata positive) start after)
      (fun charged after => (∃ positive : 0 < amountMinor,
          ChargedAlone (Payable allowed start orderId)
            (amountCall orgId orderId amountMinor currency entryType ledgerMetadata positive) start charged after) ∨
        (after = start ∧ ∃ failure, charged = ⟨.error failure, none⟩)) start := by
  unfold chargeAmount
  split
  next positive =>
    have agrees : HeldAsRow start orderId none := by
      intro object holds
      cases holds
    have more : 0 < amountMinor := by omega
    have same : ({ orgId, orderId, amount := ⟨(amountMinor : Int).toNat, by omega⟩, currency, entryType, ledgerMetadata } : ChargeCall) =
        amountCall orgId orderId amountMinor currency entryType ledgerMetadata more := rfl
    rw [same]
    refine (charge_org_along agrees).weaken ?_ ?_
    · exact fun _ called => .inr ⟨more, called⟩
    · exact fun _ _ _ alone => .inl ⟨more, alone⟩
  next => exact ⟨.inl rfl, .inr ⟨rfl, _, rfl⟩⟩

/-- The orders, the payments and the ledger are the same, at the same time. -/
structure SameBooks (before after : Store) : Prop where
  orders : after.orders = before.orders
  payments : after.payments = before.payments
  ledger : after.ledger = before.ledger
  now : after.now = before.now

theorem same_books_refl (store : Store) : SameBooks store store := ⟨rfl, rfl, rfl, rfl⟩

theorem SameBooks.trans {first second third : Store} (early : SameBooks first second) (late : SameBooks second third) :
    SameBooks first third :=
  ⟨late.orders.trans early.orders, late.payments.trans early.payments, late.ledger.trans early.ledger, late.now.trans early.now⟩

theorem SameBooks.find {before after : Store} (same : SameBooks before after) (orderId : OrderId) :
    after.findOrder orderId = before.findOrder orderId := by
  rw [Store.findOrder, Store.findOrder, same.orders]

/-- A call between transactions on the other tables. -/
def Charges (call : ChargeCall) (before after : Store) : Prop :=
  ∃ start last, SameBooks before start ∧ Called call start last ∧ SameBooks last after

section Charges
variable {before after : Store}

theorem Called.charges (called : Called call before after) : Charges call before after :=
  ⟨before, after, same_books_refl before, called, same_books_refl after⟩

theorem Charges.opened {first : Store} (charges : Charges call before after) (same : SameBooks first before) :
    Charges call first after := by
  obtain ⟨start, last, opening, called, closing⟩ := charges
  exact ⟨start, last, same.trans opening, called, closing⟩

theorem Charges.behind {last : Store} (charges : Charges call before after) (same : SameBooks after last) :
    Charges call before last := by
  obtain ⟨start, middle, opening, called, closing⟩ := charges
  exact ⟨start, middle, opening, called, closing.trans same⟩

theorem Charges.others (charges : Charges call before after) {other : OrderId} (different : other ≠ call.orderId) :
    after.findOrder other = before.findOrder other := by
  obtain ⟨start, last, opening, called, closing⟩ := charges
  rw [closing.find, called.moved.others other different, opening.find]

theorem Charges.stays (charges : Charges call before after) {old : BillingOrder} (found : before.findOrder call.orderId = some old) :
    ∃ row, after.findOrder call.orderId = some row ∧ row.amountMinor = old.amountMinor ∧ row.createdAt = old.createdAt ∧
      (old.status = .confirmed → row = old) := by
  obtain ⟨start, last, opening, called, closing⟩ := charges
  rw [closing.find]
  exact called.moved.stays old ((opening.find _).trans found)

theorem Charges.fresh (charges : Charges call before after) (missing : before.findOrder call.orderId = none)
    {row : BillingOrder} (found : after.findOrder call.orderId = some row) :
    row.amountMinor = call.amount ∧ row.createdAt = before.now := by
  obtain ⟨start, last, opening, called, closing⟩ := charges
  rw [← opening.now]
  exact called.moved.fresh ((opening.find _).trans missing) row ((closing.find _).symm.trans found)

theorem Charges.ledger (charges : Charges call before after) {entry : LedgerEntry} (member : entry ∈ after.ledger) :
    entry ∈ before.ledger ∨ entry.subscriptionId = none := by
  obtain ⟨start, last, opening, called, closing⟩ := charges
  rw [← opening.ledger]
  exact called.moved.ledger entry (closing.ledger ▸ member)

theorem Charges.closed (charges : Charges call before after) (closed : Closed before call.orderId) : SameBooks before after := by
  obtain ⟨start, last, opening, called, closing⟩ := charges
  have same : last = start := by
    apply called.closed
    obtain ⟨row, found, done⟩ := closed
    exact ⟨row, (opening.find _).trans found, done⟩
  rw [same] at closing
  exact opening.trans closing

end Charges

end Calls

end Sprintable.Billing
