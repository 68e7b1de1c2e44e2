import Sprintable.Billing.Lowering

/-! A checkout of an organisation that has paid for the running period: when it
charges once more, and what its refusal leaves of the subscription. -/

namespace Sprintable.Billing
open Interleave

/-- How `checkout_subscription` ends: what it raises, or that it returns. It is
unclaimed when the organisation is gone or another checkout is in progress. -/
inductive CheckoutResult where
  | checkoutError
  | activePaidSubscriptionExists
  | unclaimed
  | keyNotIssued
  | amountNotComputed
  | checkoutDeclined (code : String)
  | chargeFailed (failure : Failure)
  | returned
  deriving DecidableEq, Repr

/-- A refusal by the provider is a `CheckoutDeclined`; other errors are passed on. -/
def Charged.checkoutResult (charged : Charged) : CheckoutResult :=
  match charged.result with
  | .ok _ => .returned
  | .error (.tossApi code) => .checkoutDeclined code
  | .error failure => .chargeFailed failure

/-- `checkout_subscription`, with the way in which it ends. -/
def checkoutSubscriptionResult (orgId : Uuid) (tier : Tier) (billingCycle : BillingCycle) : Request CheckoutResult :=
  if tier = .free then pure .checkoutError
  else do
    let existing ← Prog.read fun store => store.findSubscription orgId
    if existing.any fun subscription =>
        subscription.activePaid && (subscription.tier ≠ tier || subscription.billingCycle ≠ some billingCycle) then
      pure .activePaidSubscriptionExists
    else do
      let found ← Prog.read fun store => store.activeOffering tier
      match found with
      | none => pure .checkoutError
      | some offering => do
        let now ← Prog.read fun store => store.now
        let claimed ← Prog.atomically fun answer store =>
          if answer.organizationExists then store.claimCheckout orgId tier billingCycle offering now else (false, store)
        if claimed then do
          let issued ← Prog.atomically fun answer store => store.issueBillingKey orgId answer
          if issued then do
            let computed ← Prog.read fun store =>
              store.computeChargeAmount (existing.orElse fun _ => store.findSubscription orgId)
            match computed with
            | none => do
              Prog.write fun store => store.releaseClaim orgId now
              pure .amountNotComputed
            | some (amountMinor, currency) => do
              let charged ← chargeAmount orgId (.checkout orgId offering.id (Calendar.date now)) amountMinor currency
                .charge none none
              settlePurchase orgId now (fun subscription => { subscription with status := .active }) charged
              pure charged.checkoutResult
          else do
            Prog.write fun store => store.releaseClaim orgId now
            pure .keyNotIssued
        else pure .unclaimed

theorem checkout_result_dropped (orgId : Uuid) (tier : Tier) (billingCycle : BillingCycle) :
    (checkoutSubscriptionResult orgId tier billingCycle >>= fun _ => (pure () : Request Unit)) =
      checkoutSubscription orgId tier billingCycle := by
  unfold checkoutSubscriptionResult checkoutSubscription
  split
  · rfl
  refine (Prog.bind_assoc _ _ _).trans (Prog.bind_congr fun existing => ?_)
  split
  · rfl
  refine (Prog.bind_assoc _ _ _).trans (Prog.bind_congr fun found => ?_)
  cases found with
  | none => rfl
  | some offering =>
    refine (Prog.bind_assoc _ _ _).trans (Prog.bind_congr fun now => ?_)
    refine (Prog.bind_assoc _ _ _).trans (Prog.bind_congr fun claimed => ?_)
    cases claimed with
    | false => rfl
    | true =>
      refine (Prog.bind_assoc _ _ _).trans (Prog.bind_congr fun issued => ?_)
      cases issued with
      | false => rfl
      | true =>
        refine (Prog.bind_assoc _ _ _).trans (Prog.bind_congr fun computed => ?_)
        cases computed with
        | none => rfl
        | some computed =>
          refine (Prog.bind_assoc _ _ _).trans (Prog.bind_congr fun charged => ?_)
          exact (Prog.bind_assoc _ _ _).trans (Prog.bind_unit _)

theorem checkout_result_state (orgId : Uuid) (tier : Tier) (billingCycle : BillingCycle) (answers : List Answer) (store : Store) :
    ((checkoutSubscriptionResult orgId tier billingCycle).execute answers store).2 =
      ((checkoutSubscription orgId tier billingCycle).execute answers store).2 := by
  rw [← checkout_result_dropped]
  exact (Prog.execute_dropped _ _ _ _).symm

/-- The organisation has an active paid subscription whose period covers the time. -/
def Store.periodPaid (store : Store) (orgId : Uuid) : Bool :=
  (store.findSubscription orgId).any fun row => row.activePaid &&
    row.currentPeriodStart.any (fun periodStart => periodStart ≤ store.now) &&
    row.currentPeriodEnd.any (fun periodEnd => store.now < periodEnd)

/-- Wherever it is cut off, the checkout makes the provider take a payment only from
an organisation whose running period is not paid for. -/
def ChargesUncovered (store : Store) (orgId : Uuid) (tier : Tier) (billingCycle : BillingCycle) : Prop :=
  ∀ answers, ((checkoutSubscriptionResult orgId tier billingCycle).execute answers store).2.payments ≠ store.payments →
    store.periodPaid orgId = false

/-- A declined checkout leaves the tier, the status and the period of an active
subscription as they were. -/
def DeclineKeeps (store : Store) (orgId : Uuid) (tier : Tier) (billingCycle : BillingCycle) : Prop :=
  ∀ answers code row, store.findSubscription orgId = some row → row.status = .active →
    ((checkoutSubscriptionResult orgId tier billingCycle).execute answers store).1 = some (.checkoutDeclined code) →
    ∃ left, ((checkoutSubscriptionResult orgId tier billingCycle).execute answers store).2.findSubscription orgId = some left ∧
      left.tier = row.tier ∧ left.status = row.status ∧ left.currentPeriodStart = row.currentPeriodStart ∧
      left.currentPeriodEnd = row.currentPeriodEnd

/-- The subscription is one that the checkout sells once more: no guard refuses it,
it can be claimed, it has an amount, and no order of the day stands for it. -/
structure Resells (store : Store) (orgId : Uuid) (tier : Tier) (billingCycle : BillingCycle) (row : OrgSubscription)
    (offering : OfferingVersion) (computed : Nat × Currency) : Prop where
  found : store.findSubscription orgId = some row
  paid : tier ≠ .free
  same : row.activePaid = true → row.tier = tier ∧ row.billingCycle = some billingCycle
  offered : store.activeOffering tier = some offering
  claimable : row.claimable store.now = true
  computes : store.computeChargeAmount (some row) = some computed
  positive : 0 < computed.1
  unsettled : ¬ Closed store (.checkout orgId offering.id (Calendar.date store.now))

section Charging
variable {allowed : Answer → Prop} {post : Charged → Store → Prop} {call : ChargeCall} {start store : Store} {held : Held}

theorem refetch_reads {orderId : OrderId} {row : BillingOrder} (found : start.findOrder orderId = some row) :
    (refetch orderId none).Ends allowed (fun charged after => charged = ⟨.ok row, some row⟩ ∧ after = start) start := by
  refine Prog.Ends.observe fun _ _ => ?_
  rw [found]
  exact ⟨rfl, rfl⟩

theorem claim_present {row : BillingOrder} (found : start.findOrder call.orderId = some row) :
    start.claimOrder call.order = (false, start) := by
  have there : start.findOrder call.order.orderId = some row := found
  rw [Store.claimOrder, there]

theorem charge_org_reaches (unsettled : ¬ Closed start call.orderId)
    (attempts : ∀ store held, store.payments = start.payments → store.toTables = start.toTables →
      (attemptCharge call held).Ends allowed post store) :
    (chargeOrg call none).Ends allowed post start := by
  refine Prog.Ends.act fun _ _ => ?_
  cases found : start.findOrder call.orderId with
  | none =>
    have holds : HeldPending none := by
      intro object held
      cases held
    obtain ⟨owns, underway, payments⟩ := claim_underway found holds
    rw [owns, if_pos rfl]
    exact attempts _ _ payments underway.frame.tables
  | some row =>
    have failed : row.status = .failed := by
      by_contra done
      exact unsettled ⟨row, found, done⟩
    have retried : ¬ (row.status = .confirmed ∨ row.status = .pending) := by simp [failed]
    rw [claim_present found, if_neg Bool.false_ne_true]
    refine Prog.Ends.bind (refetch_reads found) ?_
    rintro _ _ ⟨rfl, rfl⟩
    dsimp only
    rw [if_neg retried]
    refine Prog.Ends.act fun _ _ => ?_
    have agrees : ∀ object, some row = some object → object.status = row.status := by
      intro object same
      cases same
      rfl
    obtain ⟨taken, underway, payments⟩ := reclaim_underway found failed agrees
    rw [taken, if_pos rfl]
    exact attempts _ _ payments underway.frame.tables

theorem charge_org_returns (closed : Closed start call.orderId) :
    (chargeOrg call none).Ends allowed (fun charged _ => ∃ order, charged.result = .ok order) start := by
  obtain ⟨row, found, done⟩ := closed
  refine Prog.Ends.act fun _ _ => ?_
  rw [claim_present found, if_neg Bool.false_ne_true]
  refine Prog.Ends.bind (refetch_reads found) ?_
  rintro _ store ⟨rfl, rfl⟩
  dsimp only
  split
  · exact ⟨row, rfl⟩
  · refine Prog.Ends.act fun _ _ => ?_
    have refused : store.reclaimOrder call.orderId call.amount = (false, store) := by
      rw [Store.reclaimOrder, found]
      exact if_neg done
    rw [refused]
    exact ⟨_, rfl⟩

theorem key_ready {answer : Answer} (configured : answer.configured = true) (decryptable : answer.decryptable = true)
    (key : (store.activeBillingKey call.orgId).isSome = true) : store.checkBillingKey call.orgId answer = .ready := by
  rw [Store.checkBillingKey, configured, decryptable, Option.isNone_eq_false_iff.mpr key]
  rfl

theorem confirm_with_ledger_payments (call : ChargeCall) (paymentKey : PaymentKey) (held : Held) (store : Store) :
    (confirmWithLedger call paymentKey held).Ends allowed (fun _ after => after.payments = store.payments) store := by
  refine Prog.Ends.act fun _ _ => Prog.Ends.act fun _ _ => ?_
  have kept : ((store.recordLedgerEntry (call.entry paymentKey)).confirmOrder call.orderId paymentKey).payments =
      store.payments :=
    recordLedgerEntry_payments (call.entry paymentKey)
  generalize held.map _ = held
  cases held with
  | some object => exact kept
  | none =>
    refine Prog.Ends.observe fun _ _ => ?_
    cases ((store.recordLedgerEntry (call.entry paymentKey)).confirmOrder call.orderId paymentKey).findOrder call.orderId with
    | none => exact kept
    | some row => exact kept

theorem attempt_charge_pays (unpaid : store.findPayment call.orderId = none)
    (key : (store.activeBillingKey call.orgId).isSome = true) :
    (attemptCharge call held).Ends (· = {}) (fun _ after =>
      after.payments = store.payments ++ [⟨call.orderId, call.amount, store.payments.length⟩]) store := by
  refine Prog.Ends.observe ?_
  rintro _ rfl
  rw [key_ready rfl rfl key]
  refine Prog.Ends.act ?_
  rintro _ rfl
  have approved : store.tossCharge call.orderId call.amount {} = (.payment (some store.payments.length),
      { store with payments := store.payments ++ [⟨call.orderId, call.amount, store.payments.length⟩] }) := by
    simp [Store.tossCharge, unpaid]
  rw [approved]
  exact confirm_with_ledger_payments call store.payments.length held
    { store with payments := store.payments ++ [⟨call.orderId, call.amount, store.payments.length⟩] }

/-- The provider refuses the card, and the lookup of a payment. -/
def refusal : Answer := { charge := .declined "REJECT_CARD_PAYMENT", lookup := .refused "REJECT_CARD_PAYMENT" }

theorem attempt_charge_refused (key : (store.activeBillingKey call.orgId).isSome = true) :
    (attemptCharge call held).Ends (· = refusal) (fun charged _ =>
      charged.result = .error (.tossApi "REJECT_CARD_PAYMENT")) store := by
  refine Prog.Ends.observe ?_
  rintro _ rfl
  rw [key_ready rfl rfl key]
  refine Prog.Ends.act ?_
  rintro _ rfl
  cases paid : store.findPayment call.orderId with
  | none =>
    have refused : store.tossCharge call.orderId call.amount refusal = (.failed (.tossApi "REJECT_CARD_PAYMENT"), store) := by
      simp [Store.tossCharge, refusal, paid]
    rw [refused]
    exact fun _ _ => rfl
  | some payment =>
    have duplicated : store.tossCharge call.orderId call.amount refusal = (.failed (.tossApi duplicatedOrderId), store) := by
      simp [Store.tossCharge, refusal, paid]
    rw [duplicated]
    refine Prog.Ends.observe ?_
    rintro _ rfl
    exact rfl

end Charging

section Selling
variable {allowed : Answer → Prop} {store state : Store} {orgId : Uuid} {tier : Tier} {billingCycle : BillingCycle}
  {row : OrgSubscription} {offering : OfferingVersion} {computed : Nat × Currency}

theorem claim_checkout_taken (found : store.findSubscription orgId = some row) (claimable : row.claimable store.now = true) :
    (store.claimCheckout orgId tier billingCycle offering store.now).1 = true := by
  simp [Store.claimCheckout, found, claimable]

theorem issue_key_taken (store : Store) (orgId : Uuid) {answer : Answer} (configured : answer.configured = true) (issued : answer.issued = true) :
    (store.issueBillingKey orgId answer).1 = true ∧
      ((store.issueBillingKey orgId answer).2.activeBillingKey orgId).isSome = true := by
  simp [Store.issueBillingKey, Store.activeBillingKey, configured, issued, List.find?_append]

/-- What follows the amount: the charge, and what it makes of the claimed row. -/
def chargeCheckout (orgId : Uuid) (offering : OfferingVersion) (now : Nat) (computed : Nat × Currency) : Request CheckoutResult := do
  let charged ← chargeAmount orgId (.checkout orgId offering.id (Calendar.date now)) computed.1 computed.2 .charge none none
  settlePurchase orgId now (fun subscription => { subscription with status := .active }) charged
  pure charged.checkoutResult

/-- The answers of a provider that issues the card, whatever it says to the charge. -/
structure Serving (answer : Answer) : Prop where
  exists_ : answer.organizationExists = true
  configured : answer.configured = true
  issued : answer.issued = true

theorem checkout_reaches {post : CheckoutResult → Store → Prop} (serves : ∀ answer, allowed answer → Serving answer)
    (resells : Resells store orgId tier billingCycle row offering computed)
    (charges : ∀ claimed : Store, claimed.findSubscription orgId = some (row.bought tier billingCycle offering.id store.now) →
      SameBooks store claimed → (claimed.activeBillingKey orgId).isSome = true →
      (chargeCheckout orgId offering store.now computed).Ends allowed post claimed) :
    (checkoutSubscriptionResult orgId tier billingCycle).Ends allowed post store := by
  unfold checkoutSubscriptionResult
  rw [if_neg resells.paid]
  refine Prog.Ends.observe fun _ _ => ?_
  have unrefused : (store.findSubscription orgId).any (fun subscription => subscription.activePaid &&
      (subscription.tier ≠ tier || subscription.billingCycle ≠ some billingCycle)) = false := by
    rw [resells.found, Option.any_some]
    cases active : row.activePaid with
    | false => rfl
    | true => simp [(resells.same active).1, (resells.same active).2]
  rw [unrefused, if_neg Bool.false_ne_true]
  refine Prog.Ends.observe fun _ _ => ?_
  rw [resells.offered]
  refine Prog.Ends.observe fun _ _ => Prog.Ends.act fun answer permitted => ?_
  rw [(serves answer permitted).exists_, if_pos rfl]
  have taken : (store.claimCheckout orgId tier billingCycle offering store.now).1 = true :=
    claim_checkout_taken resells.found resells.claimable
  obtain ⟨claimed, _, elsewhere, books⟩ := claim_checkout_spec taken
  rw [taken, if_pos rfl]
  have bought : store.rowOf orgId = row := by rw [Store.rowOf, resells.found, Option.getD_some]
  rw [bought] at claimed
  generalize (store.claimCheckout orgId tier billingCycle offering store.now).2 = claiming at *
  refine Prog.Ends.act fun answer permitted => ?_
  obtain ⟨registered, key⟩ := issue_key_taken claiming orgId (serves answer permitted).configured (serves answer permitted).issued
  obtain ⟨subscriptions, offerings⟩ := issueBillingKey_tables claiming orgId answer
  replace elsewhere := elsewhere.trans (issue_elsewhere orgId claiming answer)
  replace books := books.trans (issue_same_books orgId claiming answer)
  replace claimed : (claiming.issueBillingKey orgId answer).2.findSubscription orgId =
      some (row.bought tier billingCycle offering.id store.now) := by
    rw [Store.findSubscription, subscriptions]
    exact claimed
  rw [registered, if_pos rfl]
  generalize (claiming.issueBillingKey orgId answer).2 = issuing at *
  refine Prog.Ends.observe fun _ _ => ?_
  have amount : issuing.computeChargeAmount ((store.findSubscription orgId).orElse fun _ => issuing.findSubscription orgId) =
      some computed := by
    rw [compute_charge_congr elsewhere.offerings elsewhere.seats books.ledger, resells.found]
    exact resells.computes
  rw [amount]
  exact charges issuing claimed books key

theorem settle_purchase_payments (orgId : Uuid) (now : Nat) (change : OrgSubscription → OrgSubscription) (charged : Charged)
    (store : Store) :
    (settlePurchase orgId now change charged).Ends allowed (fun _ after => after.payments = store.payments) store := by
  unfold settlePurchase
  cases charged.result with
  | error failure => exact fun _ _ => rfl
  | ok order =>
    dsimp only
    split
    · exact fun _ _ _ _ => rfl
    · exact fun _ _ => rfl

theorem charge_amount_reaches {post : Charged → Store → Prop} {orderId : OrderId} (positive : 0 < computed.1)
    (ends : (chargeOrg (amountCall orgId orderId computed.1 computed.2 .charge none positive) none).Ends allowed post store) :
    (chargeAmount orgId orderId computed.1 computed.2 .charge none none).Ends allowed post store := by
  unfold chargeAmount
  rw [dif_pos (by omega)]
  exact ends

theorem SameBooks.closed {before after : Store} (books : SameBooks before after) {orderId : OrderId}
    (closed : Closed after orderId) : Closed before orderId := by
  obtain ⟨row, found, done⟩ := closed
  exact ⟨row, (books.find orderId).symm.trans found, done⟩

theorem SameBooks.closed_after {before after : Store} (books : SameBooks before after) {orderId : OrderId}
    (closed : Closed before orderId) : Closed after orderId := by
  obtain ⟨row, found, done⟩ := closed
  exact ⟨row, (books.find orderId).trans found, done⟩

theorem default_serves (answer : Answer) (same : answer = {}) : Serving answer := by
  rw [same]
  exact ⟨rfl, rfl, rfl⟩

theorem refusal_serves (answer : Answer) (same : answer = refusal) : Serving answer := by
  rw [same]
  exact ⟨rfl, rfl, rfl⟩

theorem checkout_pays (resells : Resells store orgId tier billingCycle row offering computed)
    (unpaid : store.findPayment (.checkout orgId offering.id (Calendar.date store.now)) = none) :
    (checkoutSubscriptionResult orgId tier billingCycle).Ends (· = {}) (fun _ after => after.payments ≠ store.payments) store := by
  apply checkout_reaches default_serves resells
  intro claimed found books key
  have charged : (chargeAmount orgId (.checkout orgId offering.id (Calendar.date store.now)) computed.1 computed.2 .charge none
      none).Ends (· = {}) (fun _ after => after.payments ≠ store.payments) claimed := by
    apply charge_amount_reaches resells.positive
    apply charge_org_reaches fun closed => resells.unsettled (books.closed closed)
    intro attempted held payments tables
    refine (attempt_charge_pays ?_ ?_).weaken ?_
    · rw [Store.findPayment, payments, books.payments]
      exact unpaid
    · rw [Store.activeBillingKey, tables]
      exact key
    · intro _ after paid same
      rw [paid, payments, books.payments] at same
      simp at same
  refine Prog.Ends.bind charged fun charged after paid => ?_
  refine Prog.Ends.bind (settle_purchase_payments orgId store.now _ charged after) fun _ last same => ?_
  exact fun unchanged => paid (same.symm.trans unchanged)

theorem checkout_declines (resells : Resells store orgId tier billingCycle row offering computed) :
    (checkoutSubscriptionResult orgId tier billingCycle).Ends (· = refusal) (fun result after =>
      result = .checkoutDeclined "REJECT_CARD_PAYMENT" ∧
        ∃ left, after.findSubscription orgId = some left ∧ left.status = .pending) store := by
  apply checkout_reaches refusal_serves resells
  intro claimed found books key
  have charged : (chargeAmount orgId (.checkout orgId offering.id (Calendar.date store.now)) computed.1 computed.2 .charge none
      none).Ends (· = refusal) (fun charged after => charged.result = .error (.tossApi "REJECT_CARD_PAYMENT") ∧
        after.toTables = claimed.toTables) claimed := by
    apply charge_amount_reaches resells.positive
    refine Prog.Ends.both ?_ ?_
    · apply charge_org_reaches fun closed => resells.unsettled (books.closed closed)
      intro attempted held payments tables
      apply attempt_charge_refused
      rw [Store.activeBillingKey, tables]
      exact key
    · have unheld : HeldAsRow claimed (.checkout orgId offering.id (Calendar.date store.now)) none := by
        intro object holds
        cases holds
      exact (charge_org_ends unheld).weaken fun _ _ alone => alone.frame.tables
  refine Prog.Ends.bind charged fun charged after ended => ?_
  obtain ⟨refused, tables⟩ := ended
  have there := (same_subscription tables orgId).trans found
  have settled : settlePurchase orgId store.now (fun subscription => { subscription with status := .active }) charged =
      Prog.write fun store' => store'.releaseClaim orgId store.now := by
    rw [settlePurchase, refused]
  rw [settled]
  refine Prog.Ends.act fun _ _ => ⟨?_, _, updateClaimed_found ?_ there rfl, rfl⟩
  · rw [Charged.checkoutResult, refused]
  · exact fun _ => rfl

/-- The provider's payments are as they were, and so is what an order id is made of. -/
structure Still (before after : Store) : Prop where
  payments : after.payments = before.payments
  now : after.now = before.now
  offerings : after.offerings = before.offerings

theorem Still.books {after last : Store} (still : Still store after) (books : SameBooks after last)
    (offerings : last.offerings = after.offerings) : Still store last :=
  ⟨books.payments.trans still.payments, books.now.trans still.now, offerings.trans still.offerings⟩

theorem still_attempt {call : ChargeCall} (paid : store.findPayment call.orderId ≠ none) : AttemptKeeps (Still store) call where
  tosses state answer still := by
    rcases toss_charge_cases state call.orderId call.amount answer with ⟨same, _⟩ | ⟨unpaid, _, _⟩
    · rw [same]
      exact still
    · rw [Store.findPayment, still.payments] at unpaid
      exact absurd unpaid paid
  records state paymentKey still := by
    have tables : (state.recordLedgerEntry (call.entry paymentKey)).toTables = state.toTables := recordLedgerEntry_tables _
    refine ⟨?_, ?_, ?_⟩
    · rw [recordLedgerEntry_payments]
      exact still.payments
    · rw [tables]
      exact still.now
    · rw [tables]
      exact still.offerings
  confirms _ _ still := ⟨still.payments, still.now, still.offerings⟩
  fails _ _ still := ⟨still.payments, still.now, still.offerings⟩

theorem still_charge {call : ChargeCall} (paid : store.findPayment call.orderId ≠ none) (held : Held) :
    (chargeOrg call held).Preserves (Still store) := by
  refine (still_attempt paid).charge (fun state still => ?_) (fun state still => ?_) held
  · unfold Store.claimOrder
    split <;> exact ⟨still.payments, still.now, still.offerings⟩
  · unfold Store.reclaimOrder
    split
    · exact still
    · split <;> exact ⟨still.payments, still.now, still.offerings⟩

theorem still_settled (orgId : Uuid) (now : Nat) (change : OrgSubscription → OrgSubscription) (charged : Charged) :
    (settlePurchase orgId now change charged).Preserves (Still store) := by
  have written : ∀ change : OrgSubscription → OrgSubscription,
      (Prog.write fun state => state.updateClaimed orgId now change : Request Unit).Preserves (Still store) :=
    fun _ _ _ still => ⟨⟨still.payments, still.now, still.offerings⟩, True.intro⟩
  unfold settlePurchase
  cases charged.result with
  | error failure => exact written _
  | ok order =>
    dsimp only
    split
    · exact (written change).bind fun _ => written _
    · exact written _

theorem still_claimed (still : Still store state) (orgId : Uuid) (tier : Tier) (billingCycle : BillingCycle)
    (offering : OfferingVersion) (now : Nat) : Still store (state.claimCheckout orgId tier billingCycle offering now).2 := by
  unfold Store.claimCheckout
  dsimp only
  split
  · unfold Store.upsertSubscription
    split
    · exact ⟨still.payments, still.now, still.offerings⟩
    · split <;> exact ⟨still.payments, still.now, still.offerings⟩
  · split <;> exact ⟨still.payments, still.now, still.offerings⟩

theorem checkout_still (paid : ∀ offering, store.activeOffering tier = some offering →
      store.findPayment (.checkout orgId offering.id (Calendar.date store.now)) ≠ none) :
    (checkoutSubscriptionResult orgId tier billingCycle).Preserves (Still store) := by
  unfold checkoutSubscriptionResult
  split
  · exact True.intro
  refine Prog.Preserves.observe fun _ _ _ => ?_
  split
  · exact True.intro
  refine Prog.Preserves.observe fun _ state still => ?_
  cases offered : state.activeOffering tier with
  | none => exact True.intro
  | some offering =>
    have sold : store.activeOffering tier = some offering := by
      rw [← offered, Store.activeOffering, Store.activeOffering, still.offerings]
    refine Prog.Preserves.observe fun _ state still => ?_
    have today : Calendar.date state.now = Calendar.date store.now := by rw [still.now]
    generalize state.now = now at *
    refine Prog.Preserves.act fun answer state still => ⟨?_, ?_⟩
    · split
      · exact still_claimed still _ _ _ _ _
      · exact still
    generalize (if answer.organizationExists then state.claimCheckout orgId tier billingCycle offering now
      else (false, state)).1 = claimed
    cases claimed with
    | false => exact True.intro
    | true =>
      refine Prog.Preserves.act fun answer state still => ⟨?_, ?_⟩
      · exact still.books (issue_same_books orgId state answer) (issueBillingKey_tables state orgId answer).2
      split
      · refine Prog.Preserves.observe fun _ state _ => ?_
        split
        · exact (fun _ _ still => ⟨⟨still.payments, still.now, still.offerings⟩, True.intro⟩)
        · refine Prog.Preserves.bind ?_ fun charged => (still_settled _ _ _ _).bind fun _ => True.intro
          unfold chargeAmount
          split
          · refine still_charge ?_ none
            rw [today]
            exact paid offering sold
          · exact True.intro
      · exact (fun _ _ still => ⟨⟨still.payments, still.now, still.offerings⟩, True.intro⟩)

theorem charge_amount_declined {orderId : OrderId} :
    (chargeAmount orgId orderId computed.1 computed.2 .charge none none).Ends allowed (fun charged _ =>
      ∀ code, charged.checkoutResult = .checkoutDeclined code → 0 < computed.1 ∧ ¬ Closed store orderId) store := by
  unfold chargeAmount
  split
  next positive =>
    by_cases closed : Closed store orderId
    · refine (charge_org_returns closed).weaken ?_
      intro charged _ returns code declined
      obtain ⟨order, ok⟩ := returns
      rw [Charged.checkoutResult, ok] at declined
      cases declined
    · refine (Prog.Ends.trivial _ store).weaken ?_
      exact fun _ _ _ _ _ => ⟨by omega, closed⟩
  next =>
    intro code declined
    cases declined

theorem checkout_declined (found : store.findSubscription orgId = some row) :
    (checkoutSubscriptionResult orgId tier billingCycle).Ends allowed (fun result _ =>
      ∀ code, result = .checkoutDeclined code → ∃ offering computed, Resells store orgId tier billingCycle row offering computed)
      store := by
  have unlike : ∀ {result : CheckoutResult} {state : Store}, (∀ code, result ≠ .checkoutDeclined code) →
      (pure result : Request CheckoutResult).Ends allowed (fun result _ => ∀ code, result = .checkoutDeclined code →
        ∃ offering computed, Resells store orgId tier billingCycle row offering computed) state :=
    fun different code same => absurd same (different code)
  unfold checkoutSubscriptionResult
  split
  · exact unlike (by simp)
  next paid =>
  refine Prog.Ends.observe fun _ _ => ?_
  rw [found]
  split
  · exact unlike (by simp)
  next unrefused =>
  refine Prog.Ends.observe fun _ _ => ?_
  cases offered : store.activeOffering tier with
  | none => exact unlike (by simp)
  | some offering =>
  refine Prog.Ends.observe fun _ _ => Prog.Ends.act fun answer _ => ?_
  cases answer.organizationExists with
  | false => exact unlike (by simp)
  | true =>
  simp only [if_true]
  cases taken : (store.claimCheckout orgId tier billingCycle offering store.now).1 with
  | false => exact unlike (by simp)
  | true =>
  obtain ⟨_, claimable, elsewhere, books⟩ := claim_checkout_spec taken
  generalize (store.claimCheckout orgId tier billingCycle offering store.now).2 = claiming at *
  refine Prog.Ends.act fun answer _ => ?_
  replace elsewhere := elsewhere.trans (issue_elsewhere orgId claiming answer)
  replace books := books.trans (issue_same_books orgId claiming answer)
  cases (claiming.issueBillingKey orgId answer).1 with
  | false => exact fun _ _ => unlike (by simp)
  | true =>
  generalize (claiming.issueBillingKey orgId answer).2 = issuing at *
  refine Prog.Ends.observe fun _ _ => ?_
  have amount : issuing.computeChargeAmount ((some row).orElse fun _ => issuing.findSubscription orgId) =
      store.computeChargeAmount (some row) :=
    compute_charge_congr elsewhere.offerings elsewhere.seats books.ledger (some row)
  rw [amount]
  cases computes : store.computeChargeAmount (some row) with
  | none => exact fun _ _ => unlike (by simp)
  | some computed =>
  have same : row.activePaid = true → row.tier = tier ∧ row.billingCycle = some billingCycle := by
    intro active
    simpa [active] using unrefused
  refine Prog.Ends.bind (@charge_amount_declined allowed issuing orgId computed _) fun charged after sold => ?_
  refine Prog.Ends.bind (Prog.Ends.trivial _ after) fun _ _ _ => ?_
  intro code declined
  obtain ⟨positive, unsettled⟩ := sold code declined
  exact ⟨offering, computed, found, paid, same, offered, claimable row found, computes, positive,
    fun closed => unsettled (books.closed_after closed)⟩

end Selling

section Claims
variable (store : Store) (orgId : Uuid) (tier : Tier) (billingCycle : BillingCycle)

/-- A second checkout charges for a paid period exactly when it sells the
subscription once more and the order of the day has no payment. -/
theorem charges_uncovered_iff :
    ChargesUncovered store orgId tier billingCycle ↔
      ¬ ∃ row offering computed, Resells store orgId tier billingCycle row offering computed ∧ store.periodPaid orgId = true ∧
        store.findPayment (.checkout orgId offering.id (Calendar.date store.now)) = none := by
  constructor
  · rintro uncovered ⟨row, offering, computed, resells, covered, unpaid⟩
    obtain ⟨answers, result, _, pays⟩ := (checkout_pays resells unpaid).reached
    exact Bool.false_ne_true ((uncovered answers pays).symm.trans covered)
  · intro unsold answers pays
    by_contra uncovered
    have covered := Bool.eq_true_of_not_eq_false uncovered
    obtain ⟨row, found, _⟩ := (Option.any_eq_true _ _).mp covered
    have state := checkout_result_state orgId tier billingCycle answers store
    rcases attempt_leaves (.checkout orgId tier billingCycle) answers store with same | ⟨offering, left⟩
    · exact pays (congrArg Store.payments (state.trans same))
    · have unbooked : ¬ SameBooks store ((checkoutSubscriptionResult orgId tier billingCycle).execute answers store).2 :=
        fun books => pays books.payments
      rw [state] at unbooked
      obtain ⟨computed, computes, bills⟩ := left.bills.resolve_left unbooked
      obtain ⟨positive, charges⟩ := bills.resolve_left unbooked
      rw [found, Option.getD_some] at computes
      refine unsold ⟨row, offering, computed, ⟨found, left.paid, (left.claimable row found).2, left.offered,
        (left.claimable row found).1, computes, positive, fun closed => unbooked (charges.closed closed)⟩, covered, ?_⟩
      by_contra paid
      apply pays
      refine (Prog.Preserves.execute (checkout_still fun other offered => ?_) answers ⟨rfl, rfl, rfl⟩).payments
      cases offered.symm.trans left.offered
      exact paid

theorem decline_keeps_iff :
    DeclineKeeps store orgId tier billingCycle ↔
      ¬ ∃ row offering computed, Resells store orgId tier billingCycle row offering computed ∧ row.status = .active := by
  constructor
  · rintro keeps ⟨row, offering, computed, resells, active⟩
    obtain ⟨answers, result, ended, declined, left, found, pending⟩ := (checkout_declines resells).reached
    rw [declined] at ended
    obtain ⟨kept, there, _, status, _⟩ := keeps answers _ row resells.found active ended
    cases found.symm.trans there
    rw [pending, active] at status
    cases status
  · intro unsold answers code row found active declined
    have ends : (checkoutSubscriptionResult orgId tier billingCycle).Ends (fun _ => True) (fun result _ => ∀ code,
        result = .checkoutDeclined code → ∃ offering computed, Resells store orgId tier billingCycle row offering computed)
        store := checkout_declined found
    obtain ⟨offering, computed, resells⟩ := ends.execute (fun _ _ => True.intro) declined code rfl
    exact absurd ⟨row, offering, computed, resells, active⟩ unsold

/-- A checkout on what the organisation has already, from any state that the calls
before it have left, is harmless exactly when it does not sell the subscription once more. -/
theorem second_checkout_iff :
    (ChargesUncovered store orgId tier billingCycle ↔
      ¬ ∃ row offering computed, Resells store orgId tier billingCycle row offering computed ∧ store.periodPaid orgId = true ∧
        store.findPayment (.checkout orgId offering.id (Calendar.date store.now)) = none) ∧
    (DeclineKeeps store orgId tier billingCycle ↔
      ¬ ∃ row offering computed, Resells store orgId tier billingCycle row offering computed ∧ row.status = .active) :=
  ⟨charges_uncovered_iff store orgId tier billingCycle, decline_keeps_iff store orgId tier billingCycle⟩

end Claims

/-- A day after the first checkout. -/
def boughtYesterday : Store :=
  Runs.final errandStep (.opened noon) [daysPass 0, runErrand (.attempt (.checkout 1 .team .monthly)) {}, daysPass 1]

/-- The same checkout on the next day charges once more, and when it is declined, the
subscription is pending. -/
theorem next_day_checkout :
    ¬ ChargesUncovered boughtYesterday 1 .team .monthly ∧ ¬ DeclineKeeps boughtYesterday 1 .team .monthly := by
  constructor
  · intro uncovered
    have covered : boughtYesterday.periodPaid 1 = true := by decide +kernel
    have paid : ((checkoutSubscriptionResult 1 .team .monthly).execute (List.replicate 20 {}) boughtYesterday).2.payments.length ≠
        boughtYesterday.payments.length := by decide +kernel
    exact Bool.false_ne_true ((uncovered _ fun same => paid (congrArg List.length same)).symm.trans covered)
  · intro keeps
    have active : (boughtYesterday.findSubscription 1).any (fun row => row.status = .active) = true := by decide +kernel
    have declined : ((checkoutSubscriptionResult 1 .team .monthly).execute (List.replicate 20 declined) boughtYesterday).1 =
        some (.checkoutDeclined "REJECT_CARD_PAYMENT") := by decide +kernel
    have pending : (((checkoutSubscriptionResult 1 .team .monthly).execute (List.replicate 20 Billing.declined)
        boughtYesterday).2.findSubscription 1).all (fun row => row.status = .pending) = true := by decide +kernel
    cases found : boughtYesterday.findSubscription 1 with
    | none =>
      rw [found] at active
      cases active
    | some row =>
      rw [found, Option.any_some, decide_eq_true_eq] at active
      obtain ⟨left, there, _, status, _⟩ := keeps _ _ row found active declined
      rw [there, Option.all_some, decide_eq_true_eq, status, active] at pending
      cases pending

end Sprintable.Billing
