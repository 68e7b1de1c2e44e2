import Sprintable.Billing.Charging

/-! Attempts at an order that run alone, one after the other: the entry points that
sell something, and one order of a sweep at a time. -/

namespace Sprintable.Billing
open Interleave

def OrderId.orgId : OrderId → Uuid
  | .renewal orgId _ _ | .checkout orgId _ _ | .tierChange orgId _ _ | .pack orgId _ _ => orgId

inductive Attempt where
  | checkout (orgId : Uuid) (tier : Tier) (billingCycle : BillingCycle)
  | changeTier (orgId : Uuid) (newTier : Tier)
  | purchasePacks (orgId : Uuid) (resource : String) (quantity : Int) (idempotencyKey : String)
  | renew (orgId : Uuid)
  | dun (orderId : OrderId)
  | reconcile (orderId : OrderId)

def BillingOrder.stale (order : BillingOrder) (now : Nat) : Bool :=
  order.status = .pending && order.createdAt + pendingStaleAfter < now

/-- The sweeps' attempts take the row as it is when they come to it. -/
def Attempt.request : Attempt → Request Unit
  | .checkout orgId tier billingCycle => checkoutSubscription orgId tier billingCycle
  | .changeTier orgId newTier => Billing.changeTier orgId newTier
  | .purchasePacks orgId resource quantity idempotencyKey => Billing.purchasePacks orgId resource quantity idempotencyKey
  | .renew orgId => do
    let now ← Prog.read fun store => store.now
    let found ← Prog.read fun store => store.findSubscription orgId
    match found with
    | none => pure ()
    | some subscription =>
      if subscription.due now then do
        let _ ← renewSubscription subscription
        pure ()
      else pure ()
  | .dun orderId => do
    let now ← Prog.read fun store => store.now
    let graceDays ← Prog.read fun store => store.dunningGraceDays
    let found ← Prog.read fun store => store.findOrder orderId
    match found with
    | none => pure ()
    | some order => do
      let _ ← dunOrder now graceDays order
      pure ()
  | .reconcile orderId => do
    let now ← Prog.read fun store => store.now
    let found ← Prog.read fun store => store.findOrder orderId
    match found with
    | none => pure ()
    | some order =>
      if order.stale now then do
        let _ ← reconcileOrder order
        pure ()
      else pure ()

section Rows
variable {store : Store} {orgId : Uuid} {now : Nat} {change : OrgSubscription → OrgSubscription}
  {subscription : OrgSubscription}

theorem updateClaimed_found (kept : ∀ old, (change old).orgId = old.orgId)
    (found : store.findSubscription orgId = some subscription) (claimed : subscription.checkoutClaimedAt = some now) :
    (store.updateClaimed orgId now change).findSubscription orgId = some (change subscription) := by
  refine (find_updateSubscription orgId fun old => ?_).trans ?_
  · split
    · exact kept old
    · rfl
  · rw [found, Option.map_some, if_pos claimed]

theorem active_offering_found {tier : Tier} {offering : OfferingVersion} (found : store.activeOffering tier = some offering) :
    offering ∈ store.offerings ∧ offering.tier = tier := by
  refine ⟨List.mem_of_find?_eq_some found, ?_⟩
  have wanted := List.find?_some found
  simp only [Bool.and_eq_true, decide_eq_true_eq] at wanted
  exact wanted.1.1

theorem issueBillingKey_tables (store : Store) (orgId : Uuid) (answer : Answer) :
    (store.issueBillingKey orgId answer).2.subscriptions = store.subscriptions ∧
      (store.issueBillingKey orgId answer).2.offerings = store.offerings := by
  unfold Store.issueBillingKey
  split <;> exact ⟨rfl, rfl⟩

end Rows

section Naming

/-- Every order row belongs to the organisation in its order id. -/
def Named (store : Store) : Prop := ∀ order ∈ store.orders, order.orgId = order.orderId.orgId

variable {store : Store} {α β : Type}

theorem named_update (named : Named store) (orderId : OrderId) {change : BillingOrder → BillingOrder}
    (kept : ∀ order, (change order).orgId = order.orgId ∧ (change order).orderId = order.orderId) :
    Named (store.updateOrder orderId change) := by
  intro order member
  obtain ⟨old, present, rfl⟩ := mem_updateOrder member
  split
  · rw [(kept old).1, (kept old).2]
    exact named old present
  · exact named old present

theorem named_unless (named : Named store) (orderId : OrderId) {change : BillingOrder → BillingOrder}
    (kept : ∀ order, (change order).orgId = order.orgId ∧ (change order).orderId = order.orderId) :
    Named (store.updateOrder orderId (BillingOrder.unlessConfirmed change)) := by
  refine named_update named orderId fun order => ?_
  unfold BillingOrder.unlessConfirmed
  split
  · exact ⟨rfl, rfl⟩
  · exact kept order

theorem named_congr (named : Named store) {after : Store} (same : after.orders = store.orders) : Named after := by
  intro order member
  exact named order (same ▸ member)

theorem named_claim (named : Named store) {call : ChargeCall} (name : call.orgId = call.orderId.orgId) :
    Named (store.claimOrder call.order).2 := by
  unfold Store.claimOrder
  split
  · exact named
  · intro order member
    rcases List.mem_append.mp member with old | new
    · exact named order old
    · rw [List.mem_singleton.mp new]
      exact name

theorem named_reclaim (named : Named store) (orderId : OrderId) (asked : Amount) :
    Named (store.reclaimOrder orderId asked).2 := by
  have reclaimed : Named (store.updateOrder orderId (BillingOrder.reclaim store.now)) := by
    refine named_update named orderId fun order => ?_
    unfold BillingOrder.reclaim
    split <;> exact ⟨rfl, rfl⟩
  unfold Store.reclaimOrder
  split
  · exact named
  · split
    · exact named_congr reclaimed rfl
    · exact named

/-- A request all of whose commits keep the rows named. -/
abbrev Naming (program : Request α) : Prop := program.Preserves Named

theorem naming_pure (value : α) : Naming (pure value : Request α) := True.intro

theorem naming_write {change : Store → Store} {next : Unit → Request β} (orders : ∀ store, (change store).orders = store.orders)
    (rest : Naming (next ())) : Naming (Prog.write change >>= next) :=
  Prog.Preserves.act fun _ store named => ⟨named_congr named (orders store), rest⟩

theorem refetch_naming (orderId : OrderId) (held : Held) : Naming (refetch orderId held) := refetch_preserves _ _

theorem toss_charge_orders (orderId : OrderId) (amount : Amount) (answer : Answer) :
    (store.tossCharge orderId amount answer).2.orders = store.orders := by
  rcases toss_charge_cases store orderId amount answer with ⟨same, _⟩ | ⟨_, paid, _⟩
  · rw [same]
  · rw [paid]

theorem named_attempt (call : ChargeCall) : AttemptKeeps Named call where
  tosses _ _ named := named_congr named (toss_charge_orders _ _ _)
  records _ _ named := named_congr named (recordLedgerEntry_orders _)
  confirms _ _ named := named_unless named _ fun _ => ⟨rfl, rfl⟩
  fails _ _ named := named_unless named _ fun _ => ⟨rfl, rfl⟩

theorem charge_org_naming {call : ChargeCall} (name : call.orgId = call.orderId.orgId) (held : Held) :
    Naming (chargeOrg call held) :=
  (named_attempt call).charge (fun _ named => named_claim named name) (fun _ named => named_reclaim named _ _) held

theorem charge_amount_naming {orgId : Uuid} {orderId : OrderId} (name : orgId = orderId.orgId) (amountMinor : Int)
    (currency : Currency) (entryType : EntryType) (ledgerMetadata : Option LedgerMetadata) (held : Held) :
    Naming (chargeAmount orgId orderId amountMinor currency entryType ledgerMetadata held) := by
  unfold chargeAmount
  split
  · exact charge_org_naming name held
  · exact naming_pure _

theorem named_found {orderId : OrderId} {order : BillingOrder} (named : Named store)
    (found : store.findOrder orderId = some order) : order.orgId = order.orderId.orgId :=
  named order (Keyed.find_mem found)

theorem sync_renewal_naming (orgId : Uuid) (orderId : OrderId) (held : Held) :
    Naming (syncRenewalRetryOutcome orgId orderId held) := by
  refine (refetch_naming _ _).bind fun order => ?_
  cases order.result with
  | error failure => exact naming_pure _
  | ok order =>
    refine Prog.Preserves.observe fun _ store _ => ?_
    cases store.findSubscription orgId with
    | none => exact naming_pure _
    | some subscription =>
      dsimp only
      split
      · split
        · exact naming_write (fun _ => rfl) (naming_pure _)
        · exact naming_pure _
      · exact naming_write (fun _ => rfl) (naming_pure _)

theorem upsertSubscription_orders (row : OrgSubscription) (allowed : OrgSubscription → Bool)
    (change : OrgSubscription → OrgSubscription) : (store.upsertSubscription row allowed change).orders = store.orders := by
  unfold Store.upsertSubscription
  split
  · rfl
  · split <;> rfl

theorem named_end_dunning (named : Named store) (orgId : Uuid) (orderId : OrderId) (order : BillingOrder) (seen : Seen)
    (freeOffering : Option OfferingVersion) : Named (store.endDunning orgId orderId order seen freeOffering) := by
  have freed : Named (if seen.recovered orgId order then store else store.freeSubscription orgId seen.now freeOffering) := by
    split
    · exact named
    · exact named_congr named (upsertSubscription_orders _ _ _)
  have kept : ∀ order : BillingOrder, (order.downgrade store.now).orgId = order.orgId ∧
      (order.downgrade store.now).orderId = order.orderId := fun _ => ⟨rfl, rfl⟩
  exact named_congr (named_unless freed orderId kept) rfl

theorem downgrade_naming (orgId : Uuid) (orderId : OrderId) : Naming (downgradeToFree orgId orderId) := by
  have ends (order : BillingOrder) (seen : Seen) (freeOffering : Option OfferingVersion) :
      Naming (Prog.write fun store => store.endDunning orgId orderId order seen freeOffering) :=
    fun _ _ named => ⟨named_end_dunning named _ _ _ _ _, True.intro⟩
  refine Prog.Preserves.observe fun _ store _ => ?_
  cases store.findOrder orderId with
  | none => exact naming_pure _
  | some order =>
    refine Prog.Preserves.observe fun _ _ _ => ?_
    refine Prog.Preserves.observe fun _ _ _ => ?_
    refine Prog.Preserves.observe fun _ _ _ => ?_
    refine Prog.Preserves.observe fun _ _ _ => ?_
    dsimp only
    split
    · exact ends _ _ _
    · exact Prog.Preserves.observe fun _ _ _ => ends _ _ _

theorem end_dunning_recovered {orgId : Uuid} {orderId : OrderId} {order : BillingOrder} {seen : Seen}
    (recovered : seen.recovered orgId order = true) (first second : Option OfferingVersion) :
    store.endDunning orgId orderId order seen first = store.endDunning orgId orderId order seen second := by
  simp only [Store.endDunning, recovered, if_true]

/-- With nothing between its statements, a downgrade is one change of the store. -/
theorem downgrade_alone {allowed : Answer → Prop} (start : Store) (orgId : Uuid) (orderId : OrderId) :
    (downgradeToFree orgId orderId).Along allowed
      (fun after => after = start ∨ after = start.downgradeToFree orgId orderId)
      (fun _ after => after = start.downgradeToFree orgId orderId) start := by
  refine Prog.Along.observe (.inl rfl) fun _ _ => ?_
  cases found : start.findOrder orderId with
  | none =>
    have same : start = start.downgradeToFree orgId orderId := by rw [Store.downgradeToFree, found]
    exact ⟨.inl rfl, same⟩
  | some order =>
    have same : start.endDunning orgId orderId order start.seen (start.activeOffering .free) =
        start.downgradeToFree orgId orderId := by rw [Store.downgradeToFree, found]
    refine Prog.Along.observe (.inl rfl) fun _ _ => ?_
    refine Prog.Along.observe (.inl rfl) fun _ _ => ?_
    refine Prog.Along.observe (.inl rfl) fun _ _ => ?_
    refine Prog.Along.observe (.inl rfl) fun _ _ => ?_
    dsimp only
    split
    next recovered =>
      have dropped := (end_dunning_recovered recovered none (start.activeOffering .free)).trans same
      exact ⟨.inl rfl, fun _ _ => ⟨.inr dropped, dropped⟩⟩
    next => exact ⟨.inl rfl, fun _ _ => ⟨.inl rfl, fun _ _ => ⟨.inr same, same⟩⟩⟩

theorem dun_order_naming (now graceDays : Nat) {order : BillingOrder} (name : order.orgId = order.orderId.orgId) :
    Naming (dunOrder now graceDays order) := by
  unfold dunOrder
  cases nextDunningAction order now graceDays with
  | wait => exact naming_pure _
  | retry =>
    refine (charge_org_naming name _).bind fun charged => ?_
    split
    · exact sync_renewal_naming _ _ _
    · exact naming_pure _
  | downgradeToFree => exact (downgrade_naming _ _).bind fun _ => naming_pure _

theorem reconcile_order_naming (order : BillingOrder) : Naming (reconcileOrder order) := by
  refine Prog.Preserves.observe fun answer store _ => ?_
  cases store.getPaymentByOrderId order.orderId answer with
  | error failure => exact naming_pure _
  | ok payment =>
    cases keyed : if payment.status = "DONE" then payment.paymentKey else none with
    | none =>
      simp only [keyed]
      exact ((named_attempt order.retryCall).marks _ _).bind fun _ => naming_pure _
    | some paymentKey =>
      simp only [keyed]
      exact ((named_attempt order.retryCall).ledger _ _).bind fun _ => naming_pure _

theorem settle_renewal_naming (orgId : Uuid) (orderId : OrderId) (periodEnd : Nat) (billingCycle : BillingCycle)
    (order : Option BillingOrder) : Naming (settleRenewal orgId orderId periodEnd billingCycle order) := by
  unfold settleRenewal
  split <;> exact naming_write (fun _ => rfl) (naming_pure _)

theorem renew_subscription_naming (subscription : OrgSubscription) : Naming (renewSubscription subscription) := by
  unfold renewSubscription
  split
  · refine Prog.Preserves.observe fun _ store _ => ?_
    dsimp only
    split
    · refine (charge_amount_naming rfl _ _ _ _ _).bind fun charged => ?_
      cases charged.result with
      | ok order => exact settle_renewal_naming _ _ _ _ _
      | error failure => exact (refetch_naming _ _).bind fun _ => settle_renewal_naming _ _ _ _ _
    · exact naming_pure _
  · exact naming_pure _

theorem release_naming (orgId : Uuid) (now : Nat) : Naming (Prog.write fun store => store.releaseClaim orgId now) :=
  fun _ _ named => ⟨named_congr named rfl, True.intro⟩

theorem settle_purchase_naming (orgId : Uuid) (now : Nat) (change : OrgSubscription → OrgSubscription) (charged : Charged) :
    Naming (settlePurchase orgId now change charged) := by
  unfold settlePurchase
  cases charged.result with
  | error failure => exact release_naming _ _
  | ok order =>
    dsimp only
    split
    · exact naming_write (fun _ => rfl) (release_naming _ _)
    · exact release_naming _ _

theorem claimCheckout_orders (orgId : Uuid) (tier : Tier) (billingCycle : BillingCycle) (offering : OfferingVersion)
    (now : Nat) : (store.claimCheckout orgId tier billingCycle offering now).2.orders = store.orders := by
  unfold Store.claimCheckout
  dsimp only
  split
  · exact upsertSubscription_orders _ _ _
  · split <;> rfl

theorem issueBillingKey_orders (orgId : Uuid) (answer : Answer) :
    (store.issueBillingKey orgId answer).2.orders = store.orders := by
  unfold Store.issueBillingKey
  split <;> rfl

theorem checkout_naming (orgId : Uuid) (tier : Tier) (billingCycle : BillingCycle) :
    Naming (checkoutSubscription orgId tier billingCycle) := by
  unfold checkoutSubscription
  split
  · exact naming_pure _
  refine Prog.Preserves.observe fun _ existing _ => ?_
  split
  · exact naming_pure _
  refine Prog.Preserves.observe fun _ offered _ => ?_
  cases offered.activeOffering tier with
  | none => exact naming_pure _
  | some offering =>
    refine Prog.Preserves.observe fun _ clock _ => ?_
    refine Prog.Preserves.act fun answer store named => ⟨?_, ?_⟩
    · refine named_congr named ?_
      split
      · exact claimCheckout_orders _ _ _ _ _
      · rfl
    generalize (if answer.organizationExists then
      store.claimCheckout orgId tier billingCycle offering clock.now else (false, store)) = outcome
    obtain ⟨granted, after⟩ := outcome
    cases granted with
    | false => exact naming_pure _
    | true =>
      refine Prog.Preserves.act fun answer store named => ⟨?_, ?_⟩
      · exact named_congr named (issueBillingKey_orders orgId answer)
      split
      · refine Prog.Preserves.observe fun _ store _ => ?_
        split
        · exact release_naming _ _
        · exact (charge_amount_naming rfl _ _ _ _ _).bind fun _ => settle_purchase_naming _ _ _ _
      · exact release_naming _ _

theorem claimTierChange_orders (orgId : Uuid) (now : Nat) :
    (store.claimTierChange orgId now).2.orders = store.orders := by
  unfold Store.claimTierChange
  split
  · rfl
  · split <;> rfl

theorem change_tier_naming (orgId : Uuid) (newTier : Tier) : Naming (changeTier orgId newTier) := by
  refine Prog.Preserves.observe fun _ store _ => ?_
  cases store.findSubscription orgId with
  | none => exact naming_pure _
  | some subscription =>
    refine Prog.Preserves.observe fun _ offered _ => ?_
    cases offered.tierChangeOffering subscription newTier with
    | none => exact naming_pure _
    | some newOffering =>
      refine Prog.Preserves.observe fun _ clock _ => ?_
      refine Prog.Preserves.act fun _ store named => ⟨named_congr named (claimTierChange_orders _ _), ?_⟩
      split
      · refine Prog.Preserves.observe fun _ store _ => ?_
        split
        · exact release_naming _ _
        · refine Prog.Preserves.observe fun _ _ _ => ?_
          exact (charge_amount_naming rfl _ _ _ _ _).bind fun _ => settle_purchase_naming _ _ _ _
      · exact naming_pure _

theorem purchase_packs_naming (orgId : Uuid) (resource : String) (quantity : Int) (idempotencyKey : String) :
    Naming (purchasePacks orgId resource quantity idempotencyKey) := by
  unfold purchasePacks
  split
  · exact naming_pure _
  refine Prog.Preserves.observe fun _ store _ => ?_
  split
  · exact naming_pure _
  · exact (charge_amount_naming rfl _ _ _ _ _).bind fun _ => naming_pure _

theorem attempt_naming (attempt : Attempt) : Naming attempt.request := by
  cases attempt with
  | checkout orgId tier billingCycle => exact checkout_naming orgId tier billingCycle
  | changeTier orgId newTier => exact change_tier_naming orgId newTier
  | purchasePacks orgId resource quantity idempotencyKey => exact purchase_packs_naming orgId resource quantity idempotencyKey
  | renew orgId =>
    refine Prog.Preserves.observe fun _ _ _ => Prog.Preserves.observe fun _ store _ => ?_
    cases store.findSubscription orgId with
    | none => exact naming_pure _
    | some subscription =>
      dsimp only
      split
      · exact (renew_subscription_naming subscription).bind fun _ => naming_pure _
      · exact naming_pure _
  | dun orderId =>
    refine Prog.Preserves.observe fun _ _ _ => Prog.Preserves.observe fun _ _ _ => ?_
    refine Prog.Preserves.observe fun _ store named => ?_
    cases found : store.findOrder orderId with
    | none => exact naming_pure _
    | some order => exact (dun_order_naming _ _ (named_found named found)).bind fun _ => naming_pure _
  | reconcile orderId =>
    refine Prog.Preserves.observe fun _ _ _ => Prog.Preserves.observe fun _ store _ => ?_
    cases store.findOrder orderId with
    | none => exact naming_pure _
    | some order =>
      dsimp only
      split
      · exact (reconcile_order_naming order).bind fun _ => naming_pure _
      · exact naming_pure _

end Naming

theorem attempt_books (attempt : Attempt) (self : Nat) (start : Store) : Books self attempt.request start := by
  cases attempt with
  | checkout orgId tier billingCycle => exact checkout_subscription_books orgId tier billingCycle
  | changeTier orgId newTier => exact change_tier_books orgId newTier
  | purchasePacks orgId resource quantity idempotencyKey =>
    exact purchase_packs_books orgId resource quantity idempotencyKey
  | renew orgId =>
    refine books_observe fun _ _ _ _ => books_observe fun store consistent _ _ => ?_
    cases store.findSubscription orgId with
    | none => exact books_pure _ _
    | some subscription =>
      dsimp only
      split
      · exact books_bind consistent (renew_subscription_books subscription) fun _ _ _ => books_pure _ _
      · exact books_pure _ _
  | dun orderId =>
    refine books_observe fun _ _ _ _ => books_observe fun _ _ _ _ => books_observe fun store consistent _ _ => ?_
    cases store.findOrder orderId with
    | none => exact books_pure _ _
    | some order => exact books_bind consistent (dun_order_books _ _ order consistent) fun _ _ _ => books_pure _ _
  | reconcile orderId =>
    refine books_observe fun _ _ _ _ => books_observe fun store consistent _ _ => ?_
    cases found : store.findOrder orderId with
    | none => exact books_pure _ _
    | some order =>
      dsimp only
      split
      · have owned : Owned order.retryCall store := ⟨order, Keyed.find_mem found, rfl, fun _ => rfl⟩
        exact books_bind consistent (reconcile_order_books owned) fun _ _ _ => books_pure _ _
      · exact books_pure _ _

/-- An attempt with the answers it gets, which may end before it does, or a change
of the other tables. -/
inductive AttemptEvent where
  | attempt (attempt : Attempt) (answers : List Answer)
  | outside (change : Tables → Tables)

def attemptStep (store : Store) : AttemptEvent → Store
  | .attempt attempt answers => (attempt.request.execute answers store).2
  | .outside change => { store with toTables := change store.toTables }

/-- The books agree, and the rows are named. -/
structure Kempt (store : Store) : Prop where
  consistent : Consistent store
  named : Named store

theorem Kempt.step {store : Store} (kempt : Kempt store) (event : AttemptEvent) : Kempt (attemptStep store event) := by
  cases event with
  | attempt attempt answers =>
    refine ⟨?_, (attempt_naming attempt).execute answers kempt.named⟩
    exact Safe.execute (fun _ _ => True.intro) kempt.consistent (attempt_books attempt 0 store) answers
  | outside change =>
    have committed : Commits store (attemptStep store (.outside change)) :=
      tables_commit kempt.consistent rfl rfl rfl (.inl rfl)
    exact ⟨committed.1, named_congr kempt.named rfl⟩

end Sprintable.Billing
