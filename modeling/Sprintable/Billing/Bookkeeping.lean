import Sprintable.Billing.Consistency

/-! Every request keeps the books at every commit of its own and under every
interference by others, so every run does. -/

namespace Sprintable.Billing
open Interleave

section Requests
variable {self : Nat} {α β : Type}

/-- A request that keeps the books, however long others run in between. -/
abbrev Books (self : Nat) (program : Request α) (start : Store) : Prop :=
  Safe billingRules self (fun _ => true = true) (fun _ _ => True) program start

theorem books_pure (value : α) (start : Store) : Books self (pure value) start := fun _ _ _ => True.intro

theorem books_act {action : Answer → Store → β × Store} {next : β → Request α} {start : Store}
    (step : ∀ state, Consistent state → Grows start state → ∀ answer, Commits state (action answer state).2 ∧
      Books self (next (action answer state).1) (action answer state).2) :
    Books self (Prog.atomically action >>= next) start := by
  refine Safe.act fun state consistent grows _ answer _ => ?_
  obtain ⟨committed, rest⟩ := step state consistent grows answer
  exact ⟨committed.1, fun _ _ => committed.2, rest⟩

theorem books_last {action : Answer → Store → β × Store} {start : Store}
    (step : ∀ state, Consistent state → Grows start state → ∀ answer, Commits state (action answer state).2) :
    Books self (Prog.atomically action) start := by
  intro state consistent grows _ answer _
  have committed := step state consistent grows answer
  exact ⟨committed.1, fun _ _ => committed.2, books_pure _ _⟩

theorem books_observe {query : Answer → Store → β} {next : β → Request α} {start : Store}
    (step : ∀ state, Consistent state → Grows start state → ∀ answer, Books self (next (query answer state)) state) :
    Books self (Prog.atomically (fun answer state => (query answer state, state)) >>= next) start :=
  books_act fun state consistent grows answer =>
    ⟨commits_refl consistent, step state consistent grows answer⟩

theorem books_bind {program : Request α} {next : α → Request β} {start : Store} (consistent : Consistent start)
    (first : Books self program start) (rest : ∀ value state, Consistent state → Books self (next value) state) :
    Books self (program >>= next) start :=
  Safe.bind consistent first fun value state valid _ => rest value state valid

section Charge
variable {start : Store}

theorem refetch_books (orderId : OrderId) (held : Held) : Books self (refetch orderId held) start := by
  cases held with
  | some order => exact books_pure _ _
  | none =>
    refine books_observe fun state _ _ _ => ?_
    cases state.findOrder orderId with
    | some order => exact books_pure _ _
    | none => exact books_pure _ _

theorem mark_failed_books (orderId : OrderId) (reason : String) (held : Held) :
    Books self (markFailedIfNotConfirmed orderId reason held) start :=
  books_last fun _ consistent _ _ => mark_failed_commit consistent orderId reason

theorem confirm_with_ledger_books {call : ChargeCall} {paymentKey : PaymentKey} (paid : Paid call paymentKey start)
    (held : Held) : Books self (confirmWithLedger call paymentKey held) start := by
  refine books_act fun state consistent grows _ => ?_
  have paidNow := paid.stays grows
  have recorded := record_commit consistent paidNow
  refine ⟨recorded, ?_⟩
  have present := record_present state call paymentKey
  refine books_act fun later consistent grown _ => ?_
  obtain ⟨entry, member, reference⟩ := present
  have booked : ∃ entry ∈ later.ledger, entry.providerRef = some paymentKey :=
    ⟨entry, grown.ledger entry member, reference⟩
  exact ⟨confirm_commit consistent ((paidNow.stays recorded.2).stays grown) booked, refetch_books _ _⟩

theorem lookup_paid {store : Store} (consistent : Consistent store) {call : ChargeCall} (owned : Owned call store)
    {answer : Answer} {payment : Lookup} {paymentKey : PaymentKey}
    (found : store.getPaymentByOrderId call.orderId answer = .ok payment)
    (keyed : payment.paymentKey = some paymentKey) : Paid call paymentKey store := by
  unfold Store.getPaymentByOrderId at found
  split at found
  next made _ selected =>
    cases found
    cases keyed
    have name : made.orderId = call.orderId := Keyed.find_key selected
    obtain ⟨order, present, same, amount⟩ := consistent.paid made (Keyed.find_mem selected)
    obtain ⟨row, member, rowName, rowAmount⟩ := owned
    have unique := consistent.order_unique present member (same.trans (name.trans rowName.symm))
    subst unique
    exact ⟨made, Keyed.find_mem selected, rfl, name, fun matched => (amount matched).symm.trans (rowAmount matched)⟩
  next =>
    cases found
  next =>
    cases found
    cases keyed
  all_goals cases found

theorem reconcile_duplicated_order_books {call : ChargeCall} (owned : Owned call start) (held : Held) :
    Books self (reconcileDuplicatedOrder call held) start := by
  refine books_observe fun state consistent grows answer => ?_
  have ownedNow := owned.stays grows
  cases found : state.getPaymentByOrderId call.orderId answer with
  | error failure => exact books_pure _ _
  | ok payment =>
    dsimp only
    split
    · exact books_bind consistent (mark_failed_books _ _ _) fun _ _ _ => refetch_books _ _
    · cases keyed : payment.paymentKey with
      | none => exact books_bind consistent (mark_failed_books _ _ _) fun _ _ _ => refetch_books _ _
      | some paymentKey => exact confirm_with_ledger_books (lookup_paid consistent ownedNow found keyed) held

theorem fail_attempt_books (orderId : OrderId) (failure : Failure) (held : Held) (consistent : Consistent start) :
    Books self (failAttempt orderId failure held) start :=
  books_bind consistent (mark_failed_books _ _ _) fun _ _ _ => books_pure _ _

theorem attempt_charge_books {call : ChargeCall} (owned : Owned call start) (held : Held) :
    Books self (attemptCharge call held) start := by
  refine books_observe fun state consistent grows answer => ?_
  have ownedNow := owned.stays grows
  cases state.checkBillingKey call.orgId answer with
  | unconfigured => exact books_pure _ _
  | undecryptable => exact books_pure _ _
  | missing => exact fail_attempt_books _ _ _ consistent
  | ready =>
    refine books_act fun asked consistent grown answer => ?_
    have ownedThen := ownedNow.stays grown
    obtain ⟨committed, paid⟩ := charge_commit consistent ownedThen answer
    refine ⟨committed, ?_⟩
    cases outcome : (asked.tossCharge call.orderId call.amount answer).1 with
    | failed failure =>
      dsimp only
      split
      · exact reconcile_duplicated_order_books (ownedThen.stays committed.2) held
      · exact fail_attempt_books _ _ _ committed.1
    | payment paymentKey =>
      cases paymentKey with
      | none => exact fail_attempt_books _ _ _ committed.1
      | some paymentKey => exact confirm_with_ledger_books (paid paymentKey outcome) held

theorem charge_org_books (call : ChargeCall) (held : Held) : Books self (chargeOrg call held) start := by
  refine books_act fun state consistent _ _ => ?_
  obtain ⟨claimed, owned⟩ := claim_commit consistent call
  refine ⟨claimed, ?_⟩
  cases owns : (state.claimOrder call.order).1 with
  | true => exact attempt_charge_books (owned owns) held
  | false =>
    refine books_bind claimed.1 (refetch_books _ _) fun existing later consistent => ?_
    cases existing.result with
    | error failure => exact books_pure _ _
    | ok order =>
      dsimp only
      split
      · exact books_pure _ _
      · refine books_act fun state consistent _ _ => ?_
        obtain ⟨reclaimed, owned⟩ := reclaim_commit consistent call
        refine ⟨reclaimed, ?_⟩
        cases taken : (state.reclaimOrder call.orderId call.amount).1 with
        | true => exact attempt_charge_books (owned taken) _
        | false => exact refetch_books _ _

theorem charge_amount_books (orgId : Uuid) (orderId : OrderId) (amountMinor : Int) (currency : Currency)
    (entryType : EntryType) (ledgerMetadata : Option LedgerMetadata) (held : Held) :
    Books self (chargeAmount orgId orderId amountMinor currency entryType ledgerMetadata held) start := by
  unfold chargeAmount
  split
  · exact charge_org_books _ _
  · exact books_pure _ _

end Charge

section Sweeps
variable {start store : Store}

theorem subscription_commit (consistent : Consistent store) (orgId : Uuid) (change : OrgSubscription → OrgSubscription) :
    Commits store (store.updateSubscription orgId change) :=
  tables_commit consistent rfl rfl rfl (.inl rfl)

theorem upsert_commit (consistent : Consistent store) (row : OrgSubscription) (allowed : OrgSubscription → Bool)
    (change : OrgSubscription → OrgSubscription) : Commits store (store.upsertSubscription row allowed change) := by
  unfold Store.upsertSubscription
  split
  · exact tables_commit consistent rfl rfl rfl (.inl rfl)
  · split
    · exact subscription_commit consistent _ _
    · exact commits_refl consistent

theorem find_updateSubscription (orgId : Uuid) {change : OrgSubscription → OrgSubscription}
    (kept : ∀ subscription, (change subscription).orgId = subscription.orgId) :
    (store.updateSubscription orgId change).findSubscription orgId = (store.findSubscription orgId).map change :=
  (Keyed.find_modify kept).trans (if_pos rfl)

theorem roll_found {orgId : Uuid} {subscription : OrgSubscription}
    (found : store.findSubscription orgId = some subscription) (orderId : OrderId)
    (periodStart periodEnd : Nat) (activate : Bool) : (store.rollPeriod orgId orderId periodStart periodEnd activate).findSubscription orgId =
      some { subscription with
        status := if activate then .active else subscription.status
        currentPeriodStart := some periodStart
        currentPeriodEnd := some periodEnd } := by
  refine (find_updateSubscription orgId ?_).trans ?_
  · exact fun _ => rfl
  · rw [found, Option.map_some]

/-- What a downgrade does to an active paid subscription is decided by what it has
seen, and by the claim that its write finds. -/
theorem downgrade_kept_iff {orgId : Uuid} {order : BillingOrder} {seen : Seen} {freeOffering : Option OfferingVersion}
    {subscription : OrgSubscription} (found : store.findSubscription orgId = some subscription)
    (paid : subscription.activePaid) :
    Kept subscription
        ((if seen.recovered orgId order then store else store.freeSubscription orgId seen.now freeOffering).findSubscription
          orgId) ↔
      seen.recovered orgId order = true ∨ subscription.claimable seen.now = false := by
  have same : Kept subscription (some subscription) := ⟨rfl, rfl, rfl, rfl⟩
  by_cases recovered : seen.recovered orgId order = true
  · rw [if_pos recovered, found]
    exact ⟨fun _ => .inl recovered, fun _ => same⟩
  rw [if_neg recovered]
  cases claimable : subscription.claimable seen.now with
  | false =>
    have kept : store.freeSubscription orgId seen.now freeOffering = store := by
      simp [Store.freeSubscription, Store.upsertSubscription, found, claimable]
    rw [kept, found]
    exact ⟨fun _ => .inr rfl, fun _ => same⟩
  | true =>
    have freed : (store.freeSubscription orgId seen.now freeOffering).findSubscription orgId =
        some (subscription.free freeOffering) := by
      simp only [Store.freeSubscription, Store.upsertSubscription, found, claimable, if_true]
      refine (find_updateSubscription orgId ?_).trans ?_
      · exact fun _ => rfl
      · rw [found, Option.map_some]
    rw [freed]
    constructor
    · intro kept
      have tier : Tier.free = subscription.tier := kept.1
      simp [OrgSubscription.activePaid, ← tier, Tier.paid] at paid
    · rintro (seen | claimed)
      · exact absurd seen recovered
      · cases claimed

theorem downgrade_eq {orgId : Uuid} {orderId : OrderId} {order : BillingOrder} (found : store.findOrder orderId = some order) :
    store.downgradeToFree orgId orderId =
      ((if store.recovered orgId order then store
        else store.freeSubscription orgId store.now (store.activeOffering .free)).updateOrder orderId
          (BillingOrder.unlessConfirmed fun order => order.downgrade store.now)).note
        (.downgrade orgId order store.seen store.orders (store.findSubscription orgId)
          ((if store.recovered orgId order then store
            else store.freeSubscription orgId store.now (store.activeOffering .free)).findSubscription orgId)) := by
  rw [Store.downgradeToFree, found]
  rfl

theorem end_dunning_commit (consistent : Consistent store) (orgId : Uuid) (orderId : OrderId) (order : BillingOrder)
    (seen : Seen) (freeOffering : Option OfferingVersion) :
    Commits store (store.endDunning orgId orderId order seen freeOffering) := by
  have freed : Commits store
      (if seen.recovered orgId order then store else store.freeSubscription orgId seen.now freeOffering) := by
    split
    · exact commits_refl consistent
    · exact upsert_commit consistent _ _ _
  have kept : ∀ order : BillingOrder, (order.downgrade store.now).orderId = order.orderId ∧
      (order.downgrade store.now).amountMinor = order.amountMinor := fun _ => ⟨rfl, rfl⟩
  have downgrades : ∀ order : BillingOrder, (order.downgrade store.now).status ≠ .confirmed := by
    simp [BillingOrder.downgrade]
  have closed := freed.trans (unconfirming_commit freed.1 orderId kept downgrades)
  refine closed.trans (note_commit closed.1 ?_)
  cases found : store.findSubscription orgId with
  | none => exact True.intro
  | some subscription => exact downgrade_kept_iff found

theorem downgrade_books (orgId : Uuid) (orderId : OrderId) : Books self (downgradeToFree orgId orderId) start := by
  have ends (order : BillingOrder) (seen : Seen) (freeOffering : Option OfferingVersion) (store : Store) :
      Books self (Prog.write fun store => store.endDunning orgId orderId order seen freeOffering) store :=
    books_last fun _ consistent _ _ => end_dunning_commit consistent _ _ _ _ _
  refine books_observe fun state _ _ _ => ?_
  cases state.findOrder orderId with
  | none => exact books_pure _ _
  | some order =>
    refine books_observe fun _ _ _ _ => ?_
    refine books_observe fun _ _ _ _ => ?_
    refine books_observe fun _ _ _ _ => ?_
    refine books_observe fun _ _ _ _ => ?_
    dsimp only
    split
    · exact ends _ _ _ _
    · exact books_observe fun _ _ _ _ => ends _ _ _ _

theorem sync_renewal_books (orgId : Uuid) (orderId : OrderId) (held : Held) (consistent : Consistent start) :
    Books self (syncRenewalRetryOutcome orgId orderId held) start := by
  refine books_bind consistent (refetch_books _ _) fun order _ _ => ?_
  cases order.result with
  | error failure => exact books_pure _ _
  | ok order =>
    refine books_observe fun state _ _ _ => ?_
    cases state.findSubscription orgId with
    | none => exact books_pure _ _
    | some subscription =>
      dsimp only
      split
      · split
        · refine books_act fun later consistent _ _ => ⟨?_, books_pure _ _⟩
          exact tables_commit consistent rfl rfl rfl (.inr ⟨orgId, orderId, rfl⟩)
        · exact books_pure _ _
      · exact books_act fun later consistent _ _ => ⟨subscription_commit consistent _ _, books_pure _ _⟩

theorem dun_order_books (now graceDays : Nat) (order : BillingOrder) (consistent : Consistent start) :
    Books self (dunOrder now graceDays order) start := by
  unfold dunOrder
  cases nextDunningAction order now graceDays with
  | wait => exact books_pure _ _
  | retry =>
    refine books_bind consistent (charge_org_books _ _) fun charged state consistent => ?_
    split
    · exact sync_renewal_books _ _ _ consistent
    · exact books_pure _ _
  | downgradeToFree =>
    exact books_bind consistent (downgrade_books _ _) fun _ _ _ => books_pure _ _

theorem reconcile_order_books {order : BillingOrder} (owned : Owned order.retryCall start) :
    Books self (reconcileOrder order) start := by
  refine books_observe fun state consistent grows answer => ?_
  have ownedNow := owned.stays grows
  cases found : state.getPaymentByOrderId order.orderId answer with
  | error failure => exact books_pure _ _
  | ok payment =>
    cases keyed : if payment.status = "DONE" then payment.paymentKey else none with
    | none => 
      simp only [keyed]
      exact books_bind consistent (mark_failed_books _ _ _) fun _ _ _ => books_pure _ _
    | some paymentKey =>
      simp only [keyed]
      have made : payment.paymentKey = some paymentKey := by
        split at keyed
        · exact keyed
        · cases keyed
      have paid : Paid order.retryCall paymentKey state := lookup_paid consistent ownedNow found made
      exact books_bind consistent (confirm_with_ledger_books paid _) fun _ _ _ => books_pure _ _

/-- What a sweep has read of the orders: others may move them on, but each keeps
its amount. -/
def Known (rows : List BillingOrder) (store : Store) : Prop := ∀ order ∈ rows, Owned order.retryCall store

theorem filter_known (wanted : BillingOrder → Bool) : Known (store.orders.filter wanted) store := by
  intro order member
  exact ⟨order, (List.mem_filter.mp member).1, rfl, fun _ => rfl⟩

theorem for_each_books {γ : Type} {items : List γ} {body : γ → Request Bool} (held : Store → Prop)
    (consistent : Consistent start) (initial : held start)
    (stays : ∀ {before after}, held before → Grows before after → held after)
    (step : ∀ item ∈ items, ∀ state, Consistent state → held state → Books self (body item) state) :
    Books self (Prog.forEachWhile items body) start := by
  have remembered : ∀ item ∈ items, ∀ state, Consistent state → held state →
      Safe billingRules self (fun _ => true = true) (fun _ => held) (body item) state := by
    intro item member state valid kept
    have body := step item member state valid kept
    exact (body.remember kept (fun held grows => stays held grows)
      (fun held others => stays held (others (self + 1) (by omega)))).weaken fun _ _ both => both.2
  exact (Safe.forEachWhile consistent initial (fun held grows => stays held grows) remembered).weaken
    fun _ _ _ => True.intro

theorem sweep_dunning_retries_books : Books self sweepDunningRetries start := by
  refine books_observe fun _ _ _ _ => ?_
  refine books_observe fun _ _ _ _ => ?_
  refine books_observe fun state consistent _ _ => ?_
  exact for_each_books (fun _ => True) consistent True.intro (fun _ _ => True.intro)
    fun order _ _ consistent _ => dun_order_books _ _ order consistent

theorem reconcile_orders_books {rows : List BillingOrder} (consistent : Consistent start) (known : Known rows start) :
    Books self (Prog.forEachWhile rows reconcileOrder) start := by
  refine for_each_books (Known rows) consistent known ?_ ?_
  · exact fun known grows order member => (known order member).stays grows
  · exact fun order member _ _ known => reconcile_order_books (known order member)

theorem sweep_stale_pending_orders_books : Books self sweepStalePendingOrders start := by
  refine books_observe fun read _ _ _ => ?_
  refine books_observe fun state consistent _ _ => ?_
  exact reconcile_orders_books consistent (filter_known _)

theorem settle_renewal_books (orgId : Uuid) (orderId : OrderId) (periodEnd : Nat) (billingCycle : BillingCycle)
    (order : Option BillingOrder) : Books self (settleRenewal orgId orderId periodEnd billingCycle order) start := by
  unfold settleRenewal
  split
  · refine books_act fun later consistent _ _ => ⟨?_, books_pure _ _⟩
    exact tables_commit consistent rfl rfl rfl (.inr ⟨orgId, orderId, rfl⟩)
  · exact books_act fun later consistent _ _ => ⟨subscription_commit consistent _ _, books_pure _ _⟩

theorem renew_subscription_books (subscription : OrgSubscription) :
    Books self (renewSubscription subscription) start := by
  unfold renewSubscription
  split
  · refine books_observe fun state consistent _ _ => ?_
    dsimp only
    split
    · refine books_bind consistent (charge_amount_books _ _ _ _ _ _ _) fun charged state consistent => ?_
      cases charged.result with
      | ok order => exact settle_renewal_books _ _ _ _ _
      | error failure =>
        exact books_bind consistent (refetch_books _ _) fun _ _ _ => settle_renewal_books _ _ _ _ _
    · exact books_pure _ _
  · exact books_pure _ _

theorem trigger_due_charges_books : Books self triggerDueCharges start := by
  refine books_observe fun _ _ _ _ => ?_
  refine books_observe fun state consistent _ _ => ?_
  exact for_each_books (fun _ => True) consistent True.intro (fun _ _ => True.intro)
    fun subscription _ _ _ _ => renew_subscription_books subscription

end Sweeps

section Purchases
variable {start store : Store}

theorem release_books (orgId : Uuid) (now : Nat) :
    Books self (Prog.write fun store => store.releaseClaim orgId now) start :=
  books_last fun _ consistent _ _ => subscription_commit consistent _ _

theorem claim_checkout_commit (consistent : Consistent store) (orgId : Uuid) (tier : Tier) (billingCycle : BillingCycle)
    (offering : OfferingVersion) (now : Nat) : Commits store (store.claimCheckout orgId tier billingCycle offering now).2 := by
  unfold Store.claimCheckout
  dsimp only
  split
  · exact upsert_commit consistent _ _ _
  · split
    · exact subscription_commit consistent _ _
    · exact commits_refl consistent

theorem claim_tier_change_commit (consistent : Consistent store) (orgId : Uuid) (now : Nat) :
    Commits store (store.claimTierChange orgId now).2 := by
  unfold Store.claimTierChange
  split
  · exact commits_refl consistent
  · split
    · exact subscription_commit consistent _ _
    · exact commits_refl consistent

theorem issue_commit (consistent : Consistent store) (orgId : Uuid) (answer : Answer) :
    Commits store (store.issueBillingKey orgId answer).2 := by
  unfold Store.issueBillingKey
  split
  · exact tables_commit consistent rfl rfl rfl (.inl rfl)
  · exact commits_refl consistent

theorem settle_purchase_books (orgId : Uuid) (now : Nat) (change : OrgSubscription → OrgSubscription)
    (charged : Charged) :
    Books self (settlePurchase orgId now change charged) start := by
  unfold settlePurchase
  cases charged.result with
  | error failure => exact release_books _ _
  | ok order =>
    dsimp only
    split
    · exact books_act fun later consistent _ _ => ⟨subscription_commit consistent _ _, release_books _ _⟩
    · exact release_books _ _

theorem checkout_subscription_books (orgId : Uuid) (tier : Tier) (billingCycle : BillingCycle) :
    Books self (checkoutSubscription orgId tier billingCycle) start := by
  unfold checkoutSubscription
  split
  · exact books_pure _ _
  · refine books_observe fun existing _ _ _ => ?_
    split
    · exact books_pure _ _
    · refine books_observe fun offered _ _ _ => ?_
      cases offered.activeOffering tier with
      | none => exact books_pure _ _
      | some offering =>
        refine books_observe fun clock _ _ _ => ?_
        refine books_act fun state consistent _ answer => ?_
        have claimed : Commits state (if answer.organizationExists then
            state.claimCheckout orgId tier billingCycle offering clock.now else (false, state)).2 := by
          split
          · exact claim_checkout_commit consistent _ _ _ _ _
          · exact commits_refl consistent
        refine ⟨claimed, ?_⟩
        generalize (if answer.organizationExists then
          state.claimCheckout orgId tier billingCycle offering clock.now else (false, state)) = outcome
        obtain ⟨granted, after⟩ := outcome
        cases granted with
        | false => exact books_pure _ _
        | true =>
          refine books_act fun state consistent _ answer => ⟨issue_commit consistent _ _, ?_⟩
          split
          · refine books_observe fun state consistent _ _ => ?_
            split
            · exact release_books _ _
            · exact books_bind consistent (charge_amount_books _ _ _ _ _ _ _) fun charged later _ =>
                settle_purchase_books _ _ _ _
          · exact release_books _ _

theorem change_tier_books (orgId : Uuid) (newTier : Tier) : Books self (changeTier orgId newTier) start := by
  refine books_observe fun read _ _ _ => ?_
  cases read.findSubscription orgId with
  | none => exact books_pure _ _
  | some subscription =>
    refine books_observe fun offered _ _ _ => ?_
    cases offered.tierChangeOffering subscription newTier with
    | none => exact books_pure _ _
    | some newOffering =>
      refine books_observe fun clock _ _ _ => ?_
      refine books_act fun state consistent _ _ => ⟨claim_tier_change_commit consistent _ _, ?_⟩
      split
      · refine books_observe fun state _ _ _ => ?_
        split
        · exact release_books _ _
        · refine books_observe fun state consistent _ _ => ?_
          exact books_bind consistent (charge_amount_books _ _ _ _ _ _ _) fun charged later _ =>
            settle_purchase_books _ _ _ _
      · exact books_pure _ _

theorem purchase_packs_books (orgId : Uuid) (resource : String) (quantity : Int) (idempotencyKey : String) :
    Books self (purchasePacks orgId resource quantity idempotencyKey) start := by
  unfold purchasePacks
  split
  · exact books_pure _ _
  · refine books_observe fun state consistent _ _ => ?_
    split
    · exact books_pure _ _
    · exact books_bind consistent (charge_amount_books _ _ _ _ _ _ _) fun _ _ _ => books_pure _ _

theorem retry_billing_order_books (orgId : Uuid) (orderId : OrderId) : Books self (retryBillingOrder orgId orderId) start := by
  refine books_observe fun state consistent _ _ => ?_
  split
  · exact books_pure _ _
  · split
    · exact books_bind consistent (charge_org_books _ _) fun _ _ _ => books_pure _ _
    · exact books_pure _ _

end Purchases

end Requests

/-- The requests that charge organisations. -/
inductive Job where
  | chargeOrg (call : ChargeCall)
  | triggerDueCharges
  | sweepDunningRetries
  | sweepStalePendingOrders
  | checkoutSubscription (orgId : Uuid) (tier : Tier) (billingCycle : BillingCycle)
  | changeTier (orgId : Uuid) (newTier : Tier)
  | purchasePacks (orgId : Uuid) (resource : String) (quantity : Int) (idempotencyKey : String)
  | retryBillingOrder (orgId : Uuid) (orderId : OrderId)

def Job.request : Job → Request Unit
  | .chargeOrg call => do
    let _ ← Billing.chargeOrg call none
    pure ()
  | .triggerDueCharges => Billing.triggerDueCharges
  | .sweepDunningRetries => Billing.sweepDunningRetries
  | .sweepStalePendingOrders => Billing.sweepStalePendingOrders
  | .checkoutSubscription orgId tier billingCycle => Billing.checkoutSubscription orgId tier billingCycle
  | .changeTier orgId newTier => Billing.changeTier orgId newTier
  | .purchasePacks orgId resource quantity idempotencyKey => Billing.purchasePacks orgId resource quantity idempotencyKey
  | .retryBillingOrder orgId orderId => Billing.retryBillingOrder orgId orderId

/-- Requests run in any number at a time. From outside, the tables other than the
orders and the ledger change in any way, the clock with them. -/
def billingHost : Host Answer Store Job (Tables → Tables) where
  launch _ job _ := { live := fun _ => true, program := job.request }
  outside change store := { store with toTables := change store.toTables }

theorem billing_disciplined : Disciplined billingHost billingRules where
  launch index job state consistent := by
    cases job with
    | chargeOrg call => exact books_bind consistent (charge_org_books call none) fun _ _ _ => books_pure _ _
    | triggerDueCharges => exact trigger_due_charges_books
    | sweepDunningRetries => exact sweep_dunning_retries_books
    | sweepStalePendingOrders => exact sweep_stale_pending_orders_books
    | checkoutSubscription orgId tier billingCycle => exact checkout_subscription_books orgId tier billingCycle
    | changeTier orgId newTier => exact change_tier_books orgId newTier
    | purchasePacks orgId resource quantity idempotencyKey =>
      exact purchase_packs_books orgId resource quantity idempotencyKey
    | retryBillingOrder orgId orderId => exact retry_billing_order_books orgId orderId
  outside change state consistent _ := by
    have committed : Commits state (billingHost.outside change state) := tables_commit consistent rfl rfl rfl (.inl rfl)
    exact ⟨committed.1, fun _ => committed.2⟩

end Sprintable.Billing
