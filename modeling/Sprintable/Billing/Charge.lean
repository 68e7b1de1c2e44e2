import Sprintable.Billing.Model
import Sprintable.Logic.Interleave

/-! Charging an organisation: the order row first, then the provider, then the
ledger, then the confirmation. Every write below is one committed transaction. -/

namespace Sprintable.Billing
open Interleave

/-- What the provider does with a charge. An unanswered charge went through, but
the response was lost. -/
inductive ChargeReply where
  | approved
  | approvedWithoutKey
  | unanswered (message : String)
  | declined (code : String)
  | unreachable (message : String)
  deriving DecidableEq, Repr

inductive LookupReply where
  | answered
  | status (status : String)
  | refused (code : String)
  | unreachable (message : String)
  deriving DecidableEq, Repr

/-- What the environment answers to one action. -/
structure Answer where
  configured : Bool := true
  decryptable : Bool := true
  charge : ChargeReply := .approved
  lookup : LookupReply := .answered
  token : Nat := 0
  organizationExists : Bool := true
  issued : Bool := true
  authenticatedAt : Option Nat := none

abbrev Request := Prog Answer Store

inductive Failure where
  | valueError (message : String)
  | tossApi (code : String)
  | runtime (message : String)
  | noResult
  deriving DecidableEq, Repr

/-- `str(exc)` of an error of the provider or of the connection to it. -/
def Failure.text : Failure → String
  | .tossApi code => code ++ ": Toss charge failed"
  | .valueError message | .runtime message => message
  | .noResult => "No row was found when one was required"

def duplicatedOrderId : String := "DUPLICATED_ORDER_ID"

def notFoundPayment : String := "NOT_FOUND_PAYMENT"

inductive TossAnswer where
  | payment (paymentKey : Option PaymentKey)
  | failed (failure : Failure)
  deriving DecidableEq, Repr

/-- A payment as the provider reports it. -/
structure Lookup where
  status : String
  paymentKey : Option PaymentKey
  deriving DecidableEq, Repr

/-- `reason[:500]`. -/
def clipReason (reason : String) : String := String.ofList (reason.toList.take 500)

namespace BillingOrder

def markFailed (order : BillingOrder) (reason : String) (now : Nat) : BillingOrder :=
  { order with status := .failed, failureReason := some (clipReason reason), updatedAt := now }

def confirm (order : BillingOrder) (paymentKey : PaymentKey) (now : Nat) : BillingOrder :=
  { order with status := .confirmed, paymentKey := some paymentKey, updatedAt := now }

/-- `WHERE status != 'confirmed'`. -/
def unlessConfirmed (change : BillingOrder → BillingOrder) (order : BillingOrder) : BillingOrder :=
  if order.status = .confirmed then order else change order

/-- `WHERE status = 'failed'`. -/
def reclaim (now : Nat) (order : BillingOrder) : BillingOrder :=
  if order.status = .failed then { order with status := .pending, updatedAt := now } else order

end BillingOrder

namespace Store
variable (store : Store)

/-- The provider makes at most one payment for an order id. -/
def tossCharge (orderId : OrderId) (amount : Amount) (answer : Answer) : TossAnswer × Store :=
  let paid : Store := { store with payments := store.payments ++ [⟨orderId, amount, store.payments.length⟩] }
  match answer.charge, (store.findPayment orderId).isSome with
  | .unreachable message, _ => (.failed (.runtime message), store)
  | .unanswered message, true => (.failed (.runtime message), store)
  | _, true => (.failed (.tossApi duplicatedOrderId), store)
  | .declined code, false => (.failed (.tossApi code), store)
  | .approved, false => (.payment (some store.payments.length), paid)
  | .approvedWithoutKey, false => (.payment none, paid)
  | .unanswered message, false => (.failed (.runtime message), paid)

def getPaymentByOrderId (orderId : OrderId) (answer : Answer) : Except Failure Lookup :=
  match answer.lookup, store.findPayment orderId with
  | .answered, some payment => .ok ⟨"DONE", some payment.paymentKey⟩
  | .answered, none => .error (.tossApi notFoundPayment)
  | .status status, _ => .ok ⟨status, none⟩
  | .refused code, _ => .error (.tossApi code)
  | .unreachable message, _ => .error (.runtime message)

/-- Append an entry; a provider reference that is already there changes nothing. -/
def recordLedgerEntry (entry : LedgerEntry) : Store :=
  if entry.providerRef.isSome && store.ledger.any fun old => old.providerRef = entry.providerRef then store
  else { store with ledger := store.ledger ++ [{ entry with ts := store.now }] }

def markFailedIfNotConfirmed (orderId : OrderId) (reason : String) : Store :=
  store.updateOrder orderId (BillingOrder.unlessConfirmed fun order => order.markFailed reason store.now)

def confirmOrder (orderId : OrderId) (paymentKey : PaymentKey) : Store :=
  store.updateOrder orderId (BillingOrder.unlessConfirmed fun order => order.confirm paymentKey store.now)

/-- `INSERT .. ON CONFLICT (order_id) DO NOTHING`, and whether it inserted. -/
def claimOrder (order : BillingOrder) : Bool × Store :=
  match store.findOrder order.orderId with
  | some _ => (false, store)
  | none => (true, { store with orders := store.orders ++ [{ order with createdAt := store.now, updatedAt := store.now }] })

/-- A failed order is taken for another attempt. The stored amount stays as it is. -/
def reclaimOrder (orderId : OrderId) (asked : Amount) : Bool × Store :=
  match store.findOrder orderId with
  | none => (false, store)
  | some order =>
    if order.status = .failed then
      (true, (store.updateOrder orderId (BillingOrder.reclaim store.now)).note
        (.reclaimed orderId asked order.amountMinor))
    else (false, store)

end Store

inductive KeyCheck where
  | unconfigured
  | missing
  | undecryptable
  | ready
  deriving DecidableEq, Repr

def Store.checkBillingKey (store : Store) (orgId : Uuid) (answer : Answer) : KeyCheck :=
  if !answer.configured then .unconfigured
  else if (store.activeBillingKey orgId).isNone then .missing
  else if !answer.decryptable then .undecryptable
  else .ready

/-- The object of an order that a session holds. Sessions do not expire what they
have loaded, a SELECT returns the held object as it is, and a bulk UPDATE changes
it when it meets the WHERE clause itself, whatever the row in the database is. -/
abbrev Held := Option BillingOrder

/-- The result of charging, and the object that the session holds afterwards. -/
structure Charged where
  result : Except Failure BillingOrder
  held : Held

def refetch (orderId : OrderId) : Held → Request Charged
  | some order => pure ⟨.ok order, some order⟩
  | none => do
    let found ← Prog.read fun store => store.findOrder orderId
    match found with
    | some order => pure ⟨.ok order, some order⟩
    | none => pure ⟨.error .noResult, none⟩

def markFailedIfNotConfirmed (orderId : OrderId) (reason : String) (held : Held) : Request Held :=
  Prog.atomically fun _ store =>
    (held.map (BillingOrder.unlessConfirmed fun order => order.markFailed reason store.now),
      store.markFailedIfNotConfirmed orderId reason)

/-- What a call of `charge_org` passes on. -/
structure ChargeCall where
  orgId : Uuid
  orderId : OrderId
  amount : Amount
  currency : Currency
  entryType : EntryType := .charge
  ledgerMetadata : Option LedgerMetadata := none

def ChargeCall.entry (call : ChargeCall) (paymentKey : PaymentKey) : LedgerEntry where
  orgId := call.orgId
  ts := 0
  entryType := call.entryType
  amountMinor := call.amount
  currency := call.currency
  direction := .credit
  providerRef := some paymentKey
  entryMetadata := call.ledgerMetadata

def ChargeCall.order (call : ChargeCall) : BillingOrder where
  orgId := call.orgId
  orderId := call.orderId
  amountMinor := call.amount
  currency := call.currency
  purpose := call.entryType
  createdAt := 0
  updatedAt := 0

/-- The ledger entry is committed before the order is confirmed. -/
def confirmWithLedger (call : ChargeCall) (paymentKey : PaymentKey) (held : Held) : Request Charged := do
  Prog.write fun store => store.recordLedgerEntry (call.entry paymentKey)
  let held ← Prog.atomically fun _ store =>
    (held.map (BillingOrder.unlessConfirmed fun order => order.confirm paymentKey store.now),
      store.confirmOrder call.orderId paymentKey)
  refetch call.orderId held

def reconcileDuplicatedOrder (call : ChargeCall) (held : Held) : Request Charged := do
  let lookup ← Prog.atomically fun answer store => (store.getPaymentByOrderId call.orderId answer, store)
  match lookup with
  | .error failure => pure ⟨.error failure, held⟩
  | .ok payment =>
    if payment.status ≠ "DONE" then do
      let held ← markFailedIfNotConfirmed call.orderId ("duplicated order lookup status=" ++ payment.status) held
      refetch call.orderId held
    else
      match payment.paymentKey with
      | none => do
        let held ← markFailedIfNotConfirmed call.orderId "duplicated order lookup missing paymentKey" held
        refetch call.orderId held
      | some paymentKey => confirmWithLedger call paymentKey held

def failAttempt (orderId : OrderId) (failure : Failure) (held : Held) : Request Charged := do
  let held ← markFailedIfNotConfirmed orderId failure.text held
  pure ⟨.error failure, held⟩

/-- The part of `charge_org` after the order is claimed. -/
def attemptCharge (call : ChargeCall) (held : Held) : Request Charged := do
  let check ← Prog.atomically fun answer store => (store.checkBillingKey call.orgId answer, store)
  match check with
  | .unconfigured =>
    pure ⟨.error (.runtime "org_billing_key_encryption_key not set — cannot encrypt/decrypt billing keys"), held⟩
  | .missing =>
    failAttempt call.orderId (.runtime ("no active billing key for org " ++ PyText.uuidText call.orgId)) held
  | .undecryptable => pure ⟨.error (.runtime ""), held⟩
  | .ready => do
    let answer ← Prog.atomically fun answer store => store.tossCharge call.orderId call.amount answer
    match answer with
    | .failed failure =>
      if failure = .tossApi duplicatedOrderId then reconcileDuplicatedOrder call held
      else failAttempt call.orderId failure held
    | .payment none => failAttempt call.orderId (.runtime "Toss charge response missing paymentKey") held
    | .payment (some paymentKey) => confirmWithLedger call paymentKey held

/-- `charge_org`: only the call that inserted the order, or took a failed one over,
goes to the provider. -/
def chargeOrg (call : ChargeCall) (held : Held) : Request Charged := do
  let owns ← Prog.atomically fun _ store => store.claimOrder call.order
  if owns then attemptCharge call held
  else do
    let existing ← refetch call.orderId held
    match existing.result with
    | .error _ => pure existing
    | .ok order =>
      if order.status = .confirmed ∨ order.status = .pending then pure existing
      else do
        let (reclaimed, held) ← Prog.atomically fun _ store =>
          (((store.reclaimOrder call.orderId call.amount).1, existing.held.map (BillingOrder.reclaim store.now)),
            (store.reclaimOrder call.orderId call.amount).2)
        if reclaimed then attemptCharge call held else refetch call.orderId held

/-- `charge_org` for an amount that a caller computed. -/
def chargeAmount (orgId : Uuid) (orderId : OrderId) (amountMinor : Int) (currency : Currency) (entryType : EntryType)
    (ledgerMetadata : Option LedgerMetadata) (held : Held) : Request Charged :=
  if positive : 0 < amountMinor then
    chargeOrg { orgId, orderId, amount := ⟨amountMinor.toNat, by omega⟩, currency, entryType, ledgerMetadata } held
  else pure ⟨.error (.valueError ("amount_minor must be positive: " ++ toString amountMinor)), held⟩

end Sprintable.Billing
