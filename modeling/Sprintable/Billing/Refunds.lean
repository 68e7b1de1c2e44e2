import Mathlib.Data.List.Nodup
import Sprintable.Billing.Model
import Sprintable.Logic.Runs

/-! Refunds and the daily reconciliation of confirmed orders. A refund leaves its order confirmed, and the
provider no longer calls the payment done; the reconciliation takes the whole amount for missing then. -/

namespace Sprintable.Billing.Refunds

/-- What `provider_ref` holds: a key of the provider, or the text of an adjustment. -/
inductive ProviderRef where
  | payment (paymentKey : PaymentKey)
  | cancel (transactionKey : Nat)
  | adjustment (orderId : OrderId)
  deriving DecidableEq

inductive Metadata where
  | charged
  | refund (orderId : OrderId) (cancelReason : String)
  | mismatch (orderId : OrderId) (internalAmountMinor : Nat) (tossAmountMinor : Option Int) (tossStatus : String)
  deriving DecidableEq

/-- An entry of the ledger. No entry is of another amount than a positive one. -/
structure Entry where
  orgId : Uuid
  entryType : EntryType
  amountMinor : Amount
  currency : Currency
  direction : Direction
  providerRef : Option ProviderRef
  metadata : Metadata
  deriving DecidableEq

/-- A payment at the provider, with the amounts of its cancellations. -/
structure TossPayment where
  paymentKey : PaymentKey
  orderId : OrderId
  totalAmount : Int
  cancels : List Int := []
  deriving DecidableEq

structure Books where
  orders : List BillingOrder := []
  ledger : List Entry := []
  payments : List TossPayment := []

/-- What the provider answers about a payment. -/
structure Lookup where
  status : String
  totalAmount : Option Int

structure CancelReply where
  transactionKey : Option Nat
  cancelAmount : Option Int

/-- Whether the provider carries a cancellation out, and the `cancels` of its answer; it may not be heard. -/
structure RefundReply where
  performed : Bool
  cancels : Option (List CancelReply)

inductive RefundError where
  | noOrder
  | otherOrg
  | notConfirmed (status : OrderStatus)
  | exceeds (cancelAmountMinor : Int) (amountMinor : Nat)
  | provider
  | missingCancels
  | missingKey
  | invalidAmount
  deriving DecidableEq

namespace TossPayment
variable (payment : TossPayment)

def status : String :=
  if payment.cancels = [] then "DONE" else if payment.cancels.sum = payment.totalAmount then "CANCELED" else "PARTIAL_CANCELED"

/-- A cancellation of an amount, or of what is left. It is refused beyond what is left. -/
def cancel (asked : Option Int) : TossPayment :=
  let amount := asked.getD (payment.totalAmount - payment.cancels.sum)
  if 0 < amount ∧ amount ≤ payment.totalAmount - payment.cancels.sum then { payment with cancels := payment.cancels ++ [amount] } else payment

end TossPayment

namespace Books
variable (books : Books)

def findOrder (orderId : OrderId) : Option BillingOrder := Keyed.find BillingOrder.orderId books.orders orderId

def findPayment (orderId : OrderId) : Option TossPayment := Keyed.find TossPayment.orderId books.payments orderId

/-- Append an entry; a reference that is already there changes nothing. -/
def recordLedgerEntry (entry : Entry) : Books :=
  if entry.providerRef.isSome && books.ledger.any fun old => old.providerRef = entry.providerRef then books
  else { books with ledger := books.ledger ++ [entry] }

/-- What the provider does about a cancellation. -/
def cancelPayment (orderId : OrderId) (asked : Option Int) (reply : RefundReply) : Books :=
  if reply.performed then
    { books with payments := Keyed.modify TossPayment.orderId books.payments orderId fun payment => payment.cancel asked }
  else books

/-- The entry of the last cancellation of an answer. -/
def refundEntry (order : BillingOrder) (cancelReason : String) (cancels : List CancelReply) : Except RefundError Entry :=
  match cancels.getLast? with
  | none => .error .missingCancels
  | some latest =>
    match latest.transactionKey, latest.cancelAmount with
    | some transactionKey, some refundedAmount =>
      if positive : 0 < refundedAmount.toNat then
        .ok { orgId := order.orgId, entryType := .refund, amountMinor := ⟨refundedAmount.toNat, positive⟩, currency := order.currency,
              direction := .debit, providerRef := some (.cancel transactionKey), metadata := .refund order.orderId cancelReason }
      else .error .invalidAmount
    | _, _ => .error .missingKey

def refundOrg (orgId : Uuid) (orderId : OrderId) (cancelReason : String) (cancelAmountMinor : Option Int) (reply : RefundReply) :
    Except RefundError Entry × Books :=
  match books.findOrder orderId with
  | none => (.error .noOrder, books)
  | some order =>
    if order.orgId ≠ orgId then (.error .otherOrg, books)
    else if order.status ≠ .confirmed ∨ order.paymentKey = none then (.error (.notConfirmed order.status), books)
    else if (order.amountMinor.minor : Int) < cancelAmountMinor.getD 0 then
      (.error (.exceeds (cancelAmountMinor.getD 0) order.amountMinor.minor), books)
    else
      let cancelled := books.cancelPayment orderId cancelAmountMinor reply
      match reply.cancels with
      | none => (.error .provider, cancelled)
      | some cancels =>
        match refundEntry order cancelReason cancels with
        | .error error => (.error error, cancelled)
        | .ok entry => (.ok entry, cancelled.recordLedgerEntry entry)

end Books

def RECONCILIATION_LOOKBACK : Nat := minutes (7 * 24 * 60)

structure Report where
  ordersChecked : Nat := 0
  matched : Nat := 0
  mismatched : Nat := 0
  skippedLookupError : Nat := 0
  deriving DecidableEq

/-- Nothing but a payment that is done has an amount. -/
def Lookup.tossAmount (lookup : Lookup) : Option Int := if lookup.status = "DONE" then lookup.totalAmount else none

def difference (order : BillingOrder) (lookup : Lookup) : Int := lookup.tossAmount.getD 0 - order.amountMinor.minor

theorem difference_positive {order : BillingOrder} {lookup : Lookup} (apart : lookup.tossAmount ≠ some (order.amountMinor.minor : Int)) :
    0 < (difference order lookup).natAbs := by
  have positive := order.amountMinor.positive
  rw [difference]
  cases amount : lookup.tossAmount with
  | none =>
    dsimp only [Option.getD_none]
    omega
  | some toss =>
    have other : toss ≠ (order.amountMinor.minor : Int) := fun same => apart (amount.trans (congrArg some same))
    dsimp only [Option.getD_some]
    omega

def adjustmentEntry (order : BillingOrder) (lookup : Lookup) (apart : lookup.tossAmount ≠ some (order.amountMinor.minor : Int)) : Entry where
  orgId := order.orgId
  entryType := .adjustment
  amountMinor := ⟨(difference order lookup).natAbs, difference_positive apart⟩
  currency := order.currency
  direction := if 0 < difference order lookup then .credit else .debit
  providerRef := some (.adjustment order.orderId)
  metadata := .mismatch order.orderId order.amountMinor.minor lookup.tossAmount lookup.status

/-- One order of the batch, with what the provider answers about it. -/
def reconcileOrder (lookup : OrderId → Option Lookup) (state : Report × Books) (order : BillingOrder) : Report × Books :=
  match lookup order.orderId with
  | none => ({ state.1 with skippedLookupError := state.1.skippedLookupError + 1 }, state.2)
  | some found =>
    if apart : found.tossAmount ≠ some (order.amountMinor.minor : Int) then
      ({ state.1 with mismatched := state.1.mismatched + 1 }, state.2.recordLedgerEntry (adjustmentEntry order found apart))
    else ({ state.1 with matched := state.1.matched + 1 }, state.2)

namespace Books
variable (books : Books)

/-- The confirmed orders of the last seven days. -/
def due (now : Nat) : List BillingOrder :=
  books.orders.filter fun order => order.status = .confirmed && now ≤ order.createdAt + RECONCILIATION_LOOKBACK

/-- What the provider answers, where it is reached and knows the payment. -/
def lookup (reached : OrderId → Bool) (orderId : OrderId) : Option Lookup :=
  if reached orderId then (books.findPayment orderId).map fun payment => ⟨payment.status, some payment.totalAmount⟩ else none

def dailyReconcileConfirmedOrders (now : Nat) (reached : OrderId → Bool) : Report × Books :=
  (books.due now).foldl (reconcileOrder (books.lookup reached)) ({ ordersChecked := (books.due now).length }, books)

/-- An order that is charged and confirmed, with its payment and its entry. No table takes another purpose, or an
order id twice. -/
def confirmCharge (order : BillingOrder) (paymentKey : PaymentKey) : Books :=
  if order.purpose ≠ .charge ∧ order.purpose ≠ .packPurchase then books
  else if (books.findOrder order.orderId).isSome || (books.findPayment order.orderId).isSome then books
  else
    let paid : Books := { books with
      orders := books.orders ++ [{ order with status := .confirmed, paymentKey := some paymentKey }]
      payments := books.payments ++ [{ paymentKey, orderId := order.orderId, totalAmount := order.amountMinor.minor }] }
    paid.recordLedgerEntry
      { orgId := order.orgId, entryType := order.purpose, amountMinor := order.amountMinor, currency := order.currency,
        direction := .credit, providerRef := some (.payment paymentKey), metadata := .charged }

end Books

inductive Event where
  | charge (order : BillingOrder) (paymentKey : PaymentKey)
  | refund (orgId : Uuid) (orderId : OrderId) (cancelReason : String) (cancelAmountMinor : Option Int) (reply : RefundReply)
  | reconcile (now : Nat) (reached : OrderId → Bool)

def step (books : Books) : Event → Books
  | .charge order paymentKey => books.confirmCharge order paymentKey
  | .refund orgId orderId cancelReason cancelAmountMinor reply => (books.refundOrg orgId orderId cancelReason cancelAmountMinor reply).2
  | .reconcile now reached => (books.dailyReconcileConfirmedOrders now reached).2

section Laws

/-- The books and the provider agree on what was charged, and the ledger knows its entries by their references. -/
structure Sound (books : Books) : Prop where
  agreed : ∀ order ∈ books.orders, order.status = .confirmed →
    ∃ payment, books.findPayment order.orderId = some payment ∧ payment.totalAmount = order.amountMinor.minor
  once : (books.ledger.filterMap Entry.providerRef).Nodup
  known : ∀ entry ∈ books.ledger, ∀ orderId, entry.providerRef = some (.adjustment orderId) → entry.entryType = .adjustment

def NoAdjustment (books : Books) : Prop := ∀ entry ∈ books.ledger, entry.entryType ≠ .adjustment

/-- The provider has cancelled some of a payment. -/
def Refunded (books : Books) (orderId : OrderId) : Prop := ∃ payment, books.findPayment orderId = some payment ∧ payment.cancels ≠ []

/-- A reconciliation that is answered about no order that was refunded. -/
def MeetsNoRefund (books : Books) : Event → Prop
  | .reconcile now reached => ∀ order ∈ books.due now, reached order.orderId = true → ¬ Refunded books order.orderId
  | _ => True

variable {books : Books} {entry : Entry}

@[simp] theorem record_orders (books : Books) (entry : Entry) : (books.recordLedgerEntry entry).orders = books.orders := by
  unfold Books.recordLedgerEntry
  split
  · rfl
  · rfl

@[simp] theorem record_payments (books : Books) (entry : Entry) : (books.recordLedgerEntry entry).payments = books.payments := by
  unfold Books.recordLedgerEntry
  split
  · rfl
  · rfl

theorem record_cases (books : Books) (entry : Entry) :
    (∃ old ∈ books.ledger, old.providerRef = entry.providerRef ∧ (books.recordLedgerEntry entry).ledger = books.ledger) ∨
      ((∀ ref, entry.providerRef = some ref → ref ∉ books.ledger.filterMap Entry.providerRef) ∧
        (books.recordLedgerEntry entry).ledger = books.ledger ++ [entry]) := by
  unfold Books.recordLedgerEntry
  split
  next there =>
    obtain ⟨-, found⟩ := Bool.and_eq_true_iff.mp there
    obtain ⟨old, member, same⟩ := List.any_eq_true.mp found
    exact .inl ⟨old, member, of_decide_eq_true same, rfl⟩
  next absent =>
    refine .inr ⟨fun ref same listed => absent ?_, rfl⟩
    obtain ⟨old, member, equal⟩ := List.mem_filterMap.mp listed
    rw [Bool.and_eq_true_iff, same]
    exact ⟨rfl, List.any_eq_true.mpr ⟨old, member, decide_eq_true equal⟩⟩

theorem Sound.record (sound : Sound books) (kind : ∀ orderId, entry.providerRef = some (.adjustment orderId) → entry.entryType = .adjustment) :
    Sound (books.recordLedgerEntry entry) := by
  refine ⟨fun order member => ?_, ?_, fun other member => ?_⟩
  · rw [record_orders] at member
    rw [Books.findPayment, record_payments]
    exact sound.agreed order member
  · rcases record_cases books entry with ⟨-, -, -, same⟩ | ⟨fresh, same⟩
    · rw [same]
      exact sound.once
    · rw [same, List.filterMap_append]
      cases ref : entry.providerRef with
      | none =>
        rw [List.filterMap_cons_none ref, List.filterMap_nil, List.append_nil]
        exact sound.once
      | some ref_ =>
        rw [List.filterMap_cons_some ref, List.filterMap_nil]
        exact List.nodup_append_comm.mp (List.nodup_cons.mpr ⟨fresh ref_ ref, sound.once⟩)
  · rcases record_cases books entry with ⟨-, -, -, same⟩ | ⟨-, same⟩
    · rw [same] at member
      exact sound.known other member
    · rw [same] at member
      rcases List.mem_append.mp member with old | new
      · exact sound.known other old
      · rw [List.mem_singleton.mp new]
        exact kind

theorem record_kept (none_ : NoAdjustment books) (other : entry.entryType ≠ .adjustment) : NoAdjustment (books.recordLedgerEntry entry) := by
  intro found member
  rcases record_cases books entry with ⟨-, -, -, same⟩ | ⟨-, same⟩
  · rw [same] at member
    exact none_ found member
  · rw [same] at member
    rcases List.mem_append.mp member with old | new
    · exact none_ found old
    · rw [List.mem_singleton.mp new]
      exact other

theorem record_adjustment (sound : Sound books) {orderId : OrderId} (ref : entry.providerRef = some (.adjustment orderId))
    (kind : entry.entryType = .adjustment) : ¬ NoAdjustment (books.recordLedgerEntry entry) := by
  intro none_
  rcases record_cases books entry with ⟨old, member, equal, same⟩ | ⟨-, same⟩
  · exact none_ old (same ▸ member) (sound.known old member orderId (equal.trans ref))
  · exact none_ entry (same ▸ List.mem_append_right _ (List.mem_singleton.mpr rfl)) kind

theorem done_iff (payment : TossPayment) : payment.status = "DONE" ↔ payment.cancels = [] := by
  unfold TossPayment.status
  split
  next none_ => exact iff_of_true rfl none_
  next some_ =>
    split
    · exact iff_of_false (by decide) some_
    · exact iff_of_false (by decide) some_

theorem toss_amount_iff {payment : TossPayment} {amount : Int} (same : payment.totalAmount = amount) :
    Lookup.tossAmount ⟨payment.status, some payment.totalAmount⟩ = some amount ↔ payment.cancels = [] := by
  unfold Lookup.tossAmount
  rw [← done_iff, same]
  split
  next done => exact iff_of_true rfl done
  next other => exact iff_of_false (Option.some_ne_none amount).symm other

end Laws

section Batches
variable {lookup : OrderId → Option Lookup}

def Differs (lookup : OrderId → Option Lookup) (order : BillingOrder) : Prop :=
  ∃ found, lookup order.orderId = some found ∧ found.tossAmount ≠ some (order.amountMinor.minor : Int)

theorem reconcile_order_cases (state : Report × Books) (order : BillingOrder) :
    (¬ Differs lookup order ∧ (reconcileOrder lookup state order).2 = state.2) ∨
      ∃ found apart, lookup order.orderId = some found ∧
        (reconcileOrder lookup state order).2 = state.2.recordLedgerEntry (adjustmentEntry order found apart) := by
  unfold reconcileOrder
  cases answer : lookup order.orderId with
  | none =>
    left
    refine ⟨?_, rfl⟩
    rintro ⟨found, same, -⟩
    rw [answer] at same
    cases same
  | some found =>
    dsimp only
    split
    next apart => exact .inr ⟨found, apart, rfl, rfl⟩
    next equal =>
      left
      refine ⟨?_, rfl⟩
      rintro ⟨other, same, apart⟩
      rw [answer] at same
      obtain rfl := Option.some.inj same
      exact equal apart

/-- One order of a batch keeps the books sound, and leaves no adjustment exactly if its amounts agree. -/
theorem reconcile_order_spec {state : Report × Books} (sound : Sound state.2) (order : BillingOrder) :
    Sound (reconcileOrder lookup state order).2 ∧
      (NoAdjustment (reconcileOrder lookup state order).2 → NoAdjustment state.2) ∧
      (NoAdjustment state.2 → (NoAdjustment (reconcileOrder lookup state order).2 ↔ ¬ Differs lookup order)) := by
  rcases @reconcile_order_cases lookup state order with ⟨agrees, same⟩ | ⟨found, apart, answer, same⟩
  · rw [same]
    exact ⟨sound, id, fun none_ => iff_of_true none_ agrees⟩
  · have never : ¬ NoAdjustment (state.2.recordLedgerEntry (adjustmentEntry order found apart)) := record_adjustment sound rfl rfl
    rw [same]
    exact ⟨sound.record fun _ _ => rfl, fun none_ => absurd none_ never, fun _ => iff_of_false never fun agrees => agrees ⟨found, answer, apart⟩⟩

theorem batch_spec {state : Report × Books} (sound : Sound state.2) (orders : List BillingOrder) :
    Sound (orders.foldl (reconcileOrder lookup) state).2 ∧
      (NoAdjustment (orders.foldl (reconcileOrder lookup) state).2 → NoAdjustment state.2) ∧
      (NoAdjustment state.2 → (NoAdjustment (orders.foldl (reconcileOrder lookup) state).2 ↔ ∀ order ∈ orders, ¬ Differs lookup order)) := by
  induction orders generalizing state with
  | nil => exact ⟨sound, id, fun none_ => iff_of_true none_ fun order member => absurd member List.not_mem_nil⟩
  | cons order rest ih =>
    obtain ⟨first, back, agrees⟩ := reconcile_order_spec sound order
    obtain ⟨later, backward, agree⟩ := ih first
    refine ⟨later, fun none_ => back (backward none_), fun none_ => ?_⟩
    rw [List.foldl_cons, List.forall_mem_cons]
    constructor
    · intro after
      have middle := backward after
      exact ⟨(agrees none_).mp middle, (agree middle).mp after⟩
    · rintro ⟨fits, others⟩
      exact (agree ((agrees none_).mpr fits)).mpr others

theorem differs_iff {books : Books} (sound : Sound books) {reached : OrderId → Bool} {order : BillingOrder} {now : Nat}
    (listed : order ∈ books.due now) : Differs (books.lookup reached) order ↔ reached order.orderId = true ∧ Refunded books order.orderId := by
  obtain ⟨member, due⟩ := List.mem_filter.mp listed
  have confirmed : order.status = .confirmed := of_decide_eq_true (Bool.and_eq_true_iff.mp due).1
  obtain ⟨payment, found, same⟩ := sound.agreed order member confirmed
  unfold Differs Books.lookup Refunded
  rw [found, Option.map_some]
  constructor
  · rintro ⟨answer, asked, apart⟩
    split at asked
    next heard =>
      obtain rfl := Option.some.inj asked
      exact ⟨heard, payment, rfl, fun none_ => apart ((toss_amount_iff same).mpr none_)⟩
    · cases asked
  · rintro ⟨heard, other, equal, some_⟩
    obtain rfl := Option.some.inj equal
    exact ⟨_, if_pos heard, fun agrees => some_ ((toss_amount_iff same).mp agrees)⟩

end Batches

section Steps
variable {books : Books}

theorem cancel_totalAmount (payment : TossPayment) (asked : Option Int) : (payment.cancel asked).totalAmount = payment.totalAmount := by
  unfold TossPayment.cancel
  dsimp only
  split
  · rfl
  · rfl

theorem cancel_orderId (payment : TossPayment) (asked : Option Int) : (payment.cancel asked).orderId = payment.orderId := by
  unfold TossPayment.cancel
  dsimp only
  split
  · rfl
  · rfl

theorem Sound.cancel (sound : Sound books) (orderId : OrderId) (asked : Option Int) (reply : RefundReply) :
    Sound (books.cancelPayment orderId asked reply) := by
  unfold Books.cancelPayment
  split
  · refine ⟨fun order member confirmed => ?_, sound.once, sound.known⟩
    obtain ⟨payment, found, same⟩ := sound.agreed order member confirmed
    rw [Books.findPayment] at found
    rw [Books.findPayment, Keyed.find_modify fun row => cancel_orderId row asked, found]
    split
    · exact ⟨_, rfl, (cancel_totalAmount payment asked).trans same⟩
    · exact ⟨payment, rfl, same⟩
  · exact sound

theorem cancel_ledger (books : Books) (orderId : OrderId) (asked : Option Int) (reply : RefundReply) :
    (books.cancelPayment orderId asked reply).ledger = books.ledger := by
  unfold Books.cancelPayment
  split
  · rfl
  · rfl

theorem refund_entry {order : BillingOrder} {cancelReason : String} {cancels : List CancelReply} {entry : Entry}
    (made : Books.refundEntry order cancelReason cancels = .ok entry) :
    entry.entryType = .refund ∧ ∀ orderId, entry.providerRef ≠ some (.adjustment orderId) := by
  unfold Books.refundEntry at made
  split at made
  · cases made
  · split at made
    · split at made
      · cases made
        exact ⟨rfl, fun orderId same => ProviderRef.noConfusion (Option.some.inj same)⟩
      · cases made
    · cases made

theorem refund_spec (sound : Sound books) (orgId : Uuid) (orderId : OrderId) (cancelReason : String) (asked : Option Int) (reply : RefundReply) :
    Sound (books.refundOrg orgId orderId cancelReason asked reply).2 ∧
      (NoAdjustment books → NoAdjustment (books.refundOrg orgId orderId cancelReason asked reply).2) := by
  have cancelled := sound.cancel orderId asked reply
  have kept : NoAdjustment books → NoAdjustment (books.cancelPayment orderId asked reply) := by
    intro none_ entry member
    rw [cancel_ledger] at member
    exact none_ entry member
  unfold Books.refundOrg
  split
  · exact ⟨sound, id⟩
  split
  · exact ⟨sound, id⟩
  split
  · exact ⟨sound, id⟩
  split
  · exact ⟨sound, id⟩
  dsimp only
  split
  · exact ⟨cancelled, kept⟩
  split
  · exact ⟨cancelled, kept⟩
  next entry made =>
    obtain ⟨kind, other⟩ := refund_entry made
    refine ⟨cancelled.record fun ref same => absurd same (other ref), fun none_ => record_kept (kept none_) ?_⟩
    rw [kind]
    decide

theorem charge_spec (sound : Sound books) (order : BillingOrder) (paymentKey : PaymentKey) :
    Sound (books.confirmCharge order paymentKey) ∧ (NoAdjustment books → NoAdjustment (books.confirmCharge order paymentKey)) := by
  unfold Books.confirmCharge
  split
  · exact ⟨sound, id⟩
  next purpose =>
    split
    · exact ⟨sound, id⟩
    next fresh =>
      obtain ⟨-, unpaid⟩ := Bool.or_eq_false_iff.mp (Bool.eq_false_iff.mpr fresh)
      have missing : books.findPayment order.orderId = none := Option.not_isSome_iff_eq_none.mp (Bool.eq_false_iff.mp unpaid)
      have paid : Sound { books with
          orders := books.orders ++ [{ order with status := .confirmed, paymentKey := some paymentKey }]
          payments := books.payments ++ [{ paymentKey, orderId := order.orderId, totalAmount := order.amountMinor.minor }] } := by
        refine ⟨fun other member confirmed => ?_, sound.once, sound.known⟩
        rcases List.mem_append.mp member with old | new
        · obtain ⟨payment, found, same⟩ := sound.agreed other old confirmed
          exact ⟨payment, Keyed.find_append_old found _, same⟩
        · rw [List.mem_singleton.mp new]
          exact ⟨_, Keyed.find_append_new missing rfl, rfl⟩
      have other : order.purpose ≠ .adjustment := by
        intro same
        rw [same] at purpose
        exact purpose ⟨by decide, by decide⟩
      exact ⟨paid.record fun orderId same => ProviderRef.noConfusion (Option.some.inj same), fun none_ => record_kept none_ other⟩

theorem step_spec (sound : Sound books) (event : Event) :
    Sound (step books event) ∧ (NoAdjustment books → (MeetsNoRefund books event ↔ NoAdjustment (step books event))) := by
  cases event with
  | charge order paymentKey =>
    obtain ⟨kept, none_⟩ := charge_spec sound order paymentKey
    exact ⟨kept, fun before => iff_of_true True.intro (none_ before)⟩
  | refund orgId orderId cancelReason asked reply =>
    obtain ⟨kept, none_⟩ := refund_spec sound orgId orderId cancelReason asked reply
    exact ⟨kept, fun before => iff_of_true True.intro (none_ before)⟩
  | reconcile now reached =>
    obtain ⟨kept, -, agree⟩ := @batch_spec (books.lookup reached) ({ ordersChecked := (books.due now).length }, books) sound (books.due now)
    refine ⟨kept, fun before => Iff.trans ?_ (agree before).symm⟩
    apply forall₂_congr
    intro order listed
    rw [differs_iff sound listed, not_and]

/-- Along every run the ledger stays without an adjustment exactly as long as no reconciliation is answered about an
order that was refunded, and no reference is written twice. -/
theorem adjustments_iff {start : Books} (sound : Sound start) (none_ : NoAdjustment start) (events : List Event) :
    (Runs.Throughout step MeetsNoRefund start events ↔ Runs.Throughout step (fun books event => NoAdjustment (step books event)) start events) ∧
      Runs.Throughout step (fun books event => ((step books event).ledger.filterMap Entry.providerRef).Nodup) start events := by
  constructor
  · apply @Runs.Throughout.exactly _ _ step MeetsNoRefund (fun _ => True) (fun books => Sound books ∧ NoAdjustment books)
    · exact fun state event _ valid => (step_spec valid.1 event).2 valid.2
    · exact fun state event _ valid done => ⟨(step_spec valid.1 event).1, done⟩
    · exact ⟨sound, none_⟩
    · exact fun _ _ => True.intro
  · have all : Runs.Throughout step (fun _ _ => True) start events := Runs.Throughout.trivial (fun _ _ => True.intro) start events
    apply @Runs.Throughout.carry _ _ step (fun _ _ => True) Sound _ _ start sound events all
    · exact fun state event _ valid => (step_spec valid event).1.once
    · exact fun state event _ valid => (step_spec valid event).1

end Steps

section Refunded

theorem sound_empty : Sound {} where
  agreed _ member := absurd member List.not_mem_nil
  once := List.nodup_nil
  known _ member := absurd member List.not_mem_nil

theorem none_empty : NoAdjustment {} := fun _ member => absurd member List.not_mem_nil

def monthOrder : BillingOrder where
  orgId := 1
  orderId := .checkout 1 7 100
  amountMinor := ⟨59000, by decide⟩
  currency := .krw
  createdAt := 0
  updatedAt := 0

/-- A part of the month is given back. -/
def partRefund : Event :=
  .refund 1 monthOrder.orderId "prorated remainder" (some 10000) { performed := true, cancels := some [⟨some 5, some 10000⟩] }

/-- A reconciliation of the day after a charge, and a refund after it. -/
def charged : List Event := [.charge monthOrder 1, .reconcile (minutes 1440) fun _ => true, partRefund]

theorem charged_unadjusted : Runs.Throughout step (fun books event => NoAdjustment (step books event)) {} charged := by
  apply (adjustments_iff sound_empty none_empty charged).1.mp
  refine ⟨True.intro, fun order listed _ => ?_, True.intro, True.intro⟩
  have same : order.orderId = monthOrder.orderId := by
    have only : ((step {} (.charge monthOrder 1)).due (minutes 1440)).all (·.orderId = monthOrder.orderId) = true := by decide
    exact of_decide_eq_true (List.all_eq_true.mp only order listed)
  rw [same]
  rintro ⟨payment, found, some_⟩
  have whole : (step {} (.charge monthOrder 1)).findPayment monthOrder.orderId = some { paymentKey := 1, orderId := monthOrder.orderId, totalAmount := 59000 } := by
    decide
  rw [whole] at found
  obtain rfl := Option.some.inj found
  exact some_ rfl

def partlyRefunded : List Event := [.charge monthOrder 1, partRefund, .reconcile (minutes 1440) fun _ => true]

def wholeAmount : Entry where
  orgId := 1
  entryType := .adjustment
  amountMinor := ⟨59000, by decide⟩
  currency := .krw
  direction := .debit
  providerRef := some (.adjustment monthOrder.orderId)
  metadata := .mismatch monthOrder.orderId 59000 none "PARTIAL_CANCELED"

/-- After a refund of a part the whole amount is written off. -/
theorem refund_written_off :
    ¬ ∀ start, Sound start → NoAdjustment start → ∀ events, NoAdjustment (Runs.final step start events) := by
  intro claimed
  have member : wholeAmount ∈ (Runs.final step {} partlyRefunded).ledger := by decide
  exact claimed {} sound_empty none_empty partlyRefunded wholeAmount member rfl

end Refunded

end Sprintable.Billing.Refunds
