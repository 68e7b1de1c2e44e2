import Sprintable.Billing.Effects

/-! Every attempt leaves only what is said of it, wherever it is cut off. -/

namespace Sprintable.Billing
open Interleave

section Purchases
variable {allowed : Answer → Prop} {store start : Store} {orgId : Uuid} {now : Nat}
  {change : OrgSubscription → OrgSubscription} {subscription : OrgSubscription} {charged : Charged}

theorem pure_along {α : Type} {stop : Store → Prop} {value : α} (stands : stop store) :
    (pure value : Request α).Along allowed stop (fun _ _ => True) store :=
  ⟨stands, True.intro⟩

theorem write_along {stop : Store → Prop} {change : Store → Store} (stands : stop store) (after : stop (change store)) :
    (Prog.write change : Request Unit).Along allowed stop (fun _ _ => True) store :=
  ⟨stands, fun _ _ => ⟨after, True.intro⟩⟩

/-- What the end of a purchase makes of a subscription that it has claimed. -/
structure Settled (orgId : Uuid) (change : OrgSubscription → OrgSubscription) (charged : Charged)
    (subscription : OrgSubscription) (before after : Store) : Prop where
  books : SameBooks before after
  elsewhere : Elsewhere orgId before after
  row : ∃ claim, after.findSubscription orgId = some (subscription.claimedAt claim) ∨
    (after.findSubscription orgId = some ((change subscription).claimedAt claim) ∧
      ∃ order, charged.result = .ok order ∧ order.status = .confirmed)

theorem update_claimed_elsewhere (kept : ∀ old, (change old).orgId = old.orgId) :
    Elsewhere orgId store (store.updateClaimed orgId now change) := by
  apply update_elsewhere
  intro row
  split
  · exact kept row
  · rfl

theorem settle_purchase_along (kept : ∀ old, (change old).orgId = old.orgId ∧
      (change old).checkoutClaimedAt = old.checkoutClaimedAt)
    (found : store.findSubscription orgId = some subscription) (claimed : subscription.checkoutClaimedAt = some now) :
    (settlePurchase orgId now change charged).Along allowed (Settled orgId change charged subscription store)
      (fun _ _ => True) store := by
  have same : subscription.claimedAt (some now) = subscription := by
    rw [← claimed]
    rfl
  have unchanged : Settled orgId change charged subscription store store := by
    refine ⟨same_books_refl store, elsewhere_refl orgId store, some now, .inl ?_⟩
    rw [same]
    exact found
  have released : Settled orgId change charged subscription store (store.releaseClaim orgId now) := by
    refine ⟨⟨rfl, rfl, rfl, rfl⟩, ?_, none, .inl ?_⟩
    · apply update_claimed_elsewhere
      exact fun _ => rfl
    · apply updateClaimed_found _ found claimed
      exact fun _ => rfl
  unfold settlePurchase
  cases result : charged.result with
  | error failure => exact write_along unchanged released
  | ok order =>
    dsimp only
    split
    next confirmed =>
      have changed := updateClaimed_found (fun old => (kept old).1) found claimed
      have held := (kept subscription).2.trans claimed
      have moved : Elsewhere orgId store (store.updateClaimed orgId now change) :=
        update_claimed_elsewhere fun old => (kept old).1
      refine ⟨unchanged, fun _ _ => write_along ?_ ?_⟩
      · refine ⟨⟨rfl, rfl, rfl, rfl⟩, moved, some now, .inr ⟨?_, order, result, confirmed⟩⟩
        rw [← held]
        exact changed
      · refine ⟨⟨rfl, rfl, rfl, rfl⟩, moved.trans ?_, none, .inr ⟨?_, order, result, confirmed⟩⟩
        · apply update_claimed_elsewhere
          exact fun _ => rfl
        · apply updateClaimed_found _ changed held
          exact fun _ => rfl
    next => exact write_along unchanged released

/-- What a charge and the end of a purchase leave, under a claim on the subscription. -/
structure Purchased (orgId : Uuid) (orderId : OrderId) (computed : Nat × Currency) (entryType : EntryType)
    (ledgerMetadata : Option LedgerMetadata) (change : OrgSubscription → OrgSubscription) (subscription : OrgSubscription)
    (before after : Store) : Prop where
  bills : Bills orgId orderId computed entryType ledgerMetadata before after
  elsewhere : Elsewhere orgId before after
  row : ∃ claim, after.findSubscription orgId = some (subscription.claimedAt claim) ∨
    (after.findSubscription orgId = some ((change subscription).claimedAt claim) ∧ Confirmed after orderId)

theorem purchase_along (change : OrgSubscription → OrgSubscription) (orderId : OrderId) (computed : Nat × Currency) (entryType : EntryType)
    (ledgerMetadata : Option LedgerMetadata)
    (kept : ∀ old, (change old).orgId = old.orgId ∧ (change old).checkoutClaimedAt = old.checkoutClaimedAt)
    (found : store.findSubscription orgId = some subscription) (claimed : subscription.checkoutClaimedAt = some now) :
    (chargeAmount orgId orderId computed.1 computed.2 entryType ledgerMetadata none >>=
      settlePurchase orgId now change).Along allowed
      (Purchased orgId orderId computed entryType ledgerMetadata change subscription store) (fun _ _ => True) store := by
  have same : subscription.claimedAt (some now) = subscription := by
    rw [← claimed]
    rfl
  have charging : ∀ after, (after = store ∨ ∃ positive, Called (amountCall orgId orderId computed.1 computed.2 entryType
      ledgerMetadata positive) store after) →
      after.findSubscription orgId = some subscription ∧ Elsewhere orgId store after ∧
        Bills orgId orderId computed entryType ledgerMetadata store after := by
    rintro after (rfl | ⟨positive, called⟩)
    · exact ⟨found, elsewhere_refl orgId after, .inl (same_books_refl after)⟩
    · exact ⟨(same_subscription called.moved.tables orgId).trans found, tables_elsewhere called.moved.tables,
        .inr ⟨positive, called.charges⟩⟩
  have charge : (chargeAmount orgId orderId computed.1 computed.2 entryType ledgerMetadata none).Along allowed
      (Purchased orgId orderId computed entryType ledgerMetadata change subscription store)
      (fun charged after => (after.findSubscription orgId = some subscription ∧ Elsewhere orgId store after ∧
        Bills orgId orderId computed entryType ledgerMetadata store after) ∧
        ∀ order, charged.result = .ok order → order.status = .confirmed → Confirmed after orderId) store := by
    refine (charge_amount_along orgId orderId computed.1 computed.2 entryType ledgerMetadata).weaken ?_ ?_
    · intro after stands
      obtain ⟨there, elsewhere, bills⟩ := charging after stands
      refine ⟨bills, elsewhere, some now, .inl ?_⟩
      rw [same]
      exact there
    · intro charged after stands ended
      refine ⟨charging after stands, fun order result confirmed => ?_⟩
      rcases ended with ⟨positive, alone⟩ | ⟨_, failure, rfl⟩
      · obtain ⟨row, present, reports, _⟩ := alone.order
        exact ⟨row, present, (reports.result order result).symm.trans confirmed⟩
      · cases result
  refine charge.bind fun charged after ended => ?_
  obtain ⟨⟨there, elsewhere, bills⟩, confirms⟩ := ended
  refine (settle_purchase_along kept there claimed).weaken ?_ fun _ _ _ _ => True.intro
  intro last settled
  refine ⟨bills.behind settled.books, elsewhere.trans settled.elsewhere, ?_⟩
  obtain ⟨claim, same | ⟨changed, order, result, confirmed⟩⟩ := settled.row
  · exact ⟨claim, .inl same⟩
  · obtain ⟨row, present, status⟩ := confirms order result confirmed
    exact ⟨claim, .inr ⟨changed, row, (settled.books.find orderId).trans present, status⟩⟩

section Checkout
variable {tier : Tier} {billingCycle : BillingCycle} {offering : OfferingVersion}

theorem claim_checkout_spec (claimed : (store.claimCheckout orgId tier billingCycle offering now).1 = true) :
    (store.claimCheckout orgId tier billingCycle offering now).2.findSubscription orgId =
        some ((store.rowOf orgId).bought tier billingCycle offering.id now) ∧
      (∀ old, store.findSubscription orgId = some old → old.claimable now = true) ∧
      Elsewhere orgId store (store.claimCheckout orgId tier billingCycle offering now).2 ∧
      SameBooks store (store.claimCheckout orgId tier billingCycle offering now).2 := by
  unfold Store.claimCheckout at claimed ⊢
  dsimp only at claimed ⊢
  cases found : store.findSubscription orgId with
  | none =>
    have row : store.rowOf orgId = { id := store.subscriptions.length, orgId } := by
      rw [Store.rowOf, found]
      rfl
    simp only [Store.upsertSubscription, found]
    refine ⟨?_, fun old same => (by cases same), ⟨rfl, rfl, rfl, rfl, rfl, rfl, fun other different => ?_⟩,
      ⟨rfl, rfl, rfl, rfl⟩⟩
    · rw [row]
      exact Keyed.find_append_new found rfl
    · apply Keyed.find_append_other
      exact different.symm
  | some old =>
    have row : store.rowOf orgId = old := by
      rw [Store.rowOf, found]
      rfl
    rw [found] at claimed
    dsimp only at claimed ⊢
    split
    next claimable =>
      refine ⟨?_, fun other same => (by cases same; exact claimable), ?_, ⟨rfl, rfl, rfl, rfl⟩⟩
      · rw [row]
        refine (find_updateSubscription orgId ?_).trans ?_
        · exact fun _ => rfl
        · rw [found, Option.map_some]
          rfl
      · apply update_elsewhere
        exact fun _ => rfl
    next unclaimable =>
      rw [if_neg unclaimable] at claimed
      cases claimed

theorem checkout_along :
    (checkoutSubscription orgId tier billingCycle).Along allowed
      (fun after => after = start ∨ ∃ offering, CheckedOut orgId tier billingCycle offering start after)
      (fun _ _ => True) start := by
  unfold checkoutSubscription
  split
  · exact pure_along (.inl rfl)
  next paid =>
  refine Prog.Along.observe (.inl rfl) fun _ _ => ?_
  split
  · exact pure_along (.inl rfl)
  next unowned =>
  refine Prog.Along.observe (.inl rfl) fun _ _ => ?_
  cases offered : start.activeOffering tier with
  | none => exact pure_along (.inl rfl)
  | some offering =>
    refine Prog.Along.observe (.inl rfl) fun _ _ => Prog.Along.act (.inl rfl) fun answer _ => ?_
    cases answer.organizationExists with
    | false => exact pure_along (.inl rfl)
    | true =>
    simp only [if_true]
    cases claimed : (start.claimCheckout orgId tier billingCycle offering start.now).1 with
    | false =>
      have same : (start.claimCheckout orgId tier billingCycle offering start.now).2 = start := by
        unfold Store.claimCheckout at claimed ⊢
        dsimp only at claimed ⊢
        split at claimed
        · cases claimed
        · split at claimed
          · cases claimed
          next unclaimable => rw [if_neg unclaimable]
      exact pure_along (.inl same)
    | true =>
    obtain ⟨found, claimable, elsewhere, books⟩ := claim_checkout_spec claimed
    generalize (start.claimCheckout orgId tier billingCycle offering start.now).2 = claiming at *
    have allowedRows : ∀ old, start.findSubscription orgId = some old → old.claimable start.now = true ∧
        (old.activePaid = true → old.tier = tier ∧ old.billingCycle = some billingCycle) := by
      intro old there
      refine ⟨claimable old there, fun active => ?_⟩
      rw [there] at unowned
      simpa [active] using unowned
    have begun : ∀ after claim, Elsewhere orgId start after → SameBooks start after → after.findSubscription orgId =
        some (((start.rowOf orgId).bought tier billingCycle offering.id start.now).claimedAt claim) →
        CheckedOut orgId tier billingCycle offering start after :=
      fun after claim elsewhere books row =>
        ⟨paid, offered, allowedRows, elsewhere, .inl books, claim, .inl row⟩
    have holds : ((start.rowOf orgId).bought tier billingCycle offering.id start.now).checkoutClaimedAt = some start.now := rfl
    refine Prog.Along.act (.inr ⟨offering, begun claiming (some start.now) elsewhere books found⟩) fun answer _ => ?_
    obtain ⟨subscriptions, offerings⟩ := issueBillingKey_tables claiming orgId answer
    replace elsewhere := elsewhere.trans (issue_elsewhere orgId claiming answer)
    replace books := books.trans (issue_same_books orgId claiming answer)
    replace found : (claiming.issueBillingKey orgId answer).2.findSubscription orgId =
        some ((start.rowOf orgId).bought tier billingCycle offering.id start.now) := by
      rw [Store.findSubscription, subscriptions]
      exact found
    generalize claiming.issueBillingKey orgId answer = issuing at *
    have stands := begun issuing.2 (some start.now) elsewhere books found
    have released : CheckedOut orgId tier billingCycle offering start (issuing.2.releaseClaim orgId start.now) := by
      apply begun _ none
      · apply elsewhere.trans
        apply update_claimed_elsewhere
        exact fun _ => rfl
      · exact books.trans ⟨rfl, rfl, rfl, rfl⟩
      · apply updateClaimed_found _ found holds
        exact fun _ => rfl
    split
    · refine Prog.Along.observe (.inr ⟨offering, stands⟩) fun _ _ => ?_
      have amount : issuing.2.computeChargeAmount ((start.findSubscription orgId).orElse fun _ => issuing.2.findSubscription orgId) =
          start.computeChargeAmount (some ((start.findSubscription orgId).getD
            ((start.rowOf orgId).bought tier billingCycle offering.id start.now))) := by
        rw [compute_charge_congr elsewhere.offerings elsewhere.seats books.ledger, found]
        cases start.findSubscription orgId <;> rfl
      rw [amount]
      split
      next => exact write_along (.inr ⟨offering, stands⟩) (.inr ⟨offering, released⟩)
      next amountMinor currency computed =>
        refine (purchase_along (fun row => { row with status := .active }) _ (amountMinor, currency) _ _ (fun _ => ⟨rfl, rfl⟩)
          found holds).weaken ?_
          fun _ _ _ _ => True.intro
        intro after purchased
        refine .inr ⟨offering, paid, offered, allowedRows, elsewhere.trans purchased.elsewhere, ?_, ?_⟩
        · exact .inr ⟨_, computed, purchased.bills.opened books⟩
        · obtain ⟨claim, same | ⟨changed, confirmed⟩⟩ := purchased.row
          · exact ⟨claim, .inl same⟩
          · exact ⟨claim, .inr ⟨changed, confirmed⟩⟩
    · exact write_along (.inr ⟨offering, stands⟩) (.inr ⟨offering, released⟩)

end Checkout

section TierChange
variable {newTier : Tier}

theorem claim_tier_change_spec (found : start.findSubscription orgId = some subscription)
    (claimed : (start.claimTierChange orgId now).1 = true) :
    (start.claimTierChange orgId now).2.findSubscription orgId = some (subscription.claimedAt (some now)) ∧
      Elsewhere orgId start (start.claimTierChange orgId now).2 ∧ SameBooks start (start.claimTierChange orgId now).2 := by
  unfold Store.claimTierChange at claimed ⊢
  rw [found] at claimed ⊢
  dsimp only at claimed ⊢
  split
  next =>
    refine ⟨?_, ?_, ⟨rfl, rfl, rfl, rfl⟩⟩
    · refine (find_updateSubscription orgId ?_).trans ?_
      · exact fun _ => rfl
      · rw [found, Option.map_some]
        rfl
    · apply update_elsewhere
      exact fun _ => rfl
  next unclaimable =>
    rw [if_neg unclaimable] at claimed
    cases claimed

theorem change_tier_along :
    (changeTier orgId newTier).Along allowed
      (fun after => after = start ∨ ∃ subscription newOffering,
        TierChanged (fun token => ∃ answer, allowed answer ∧ answer.token = token) orgId newTier subscription newOffering
          start after)
      (fun _ _ => True) start := by
  refine Prog.Along.observe (.inl rfl) fun _ _ => ?_
  cases found : start.findSubscription orgId with
  | none => exact pure_along (.inl rfl)
  | some subscription =>
  refine Prog.Along.observe (.inl rfl) fun _ _ => ?_
  cases offered : start.tierChangeOffering subscription newTier with
  | none =>
    dsimp only
    exact pure_along (.inl rfl)
  | some newOffering =>
  dsimp only
  refine Prog.Along.observe (.inl rfl) fun _ _ => Prog.Along.act (.inl rfl) fun _ _ => ?_
  cases claimed : (start.claimTierChange orgId start.now).1 with
  | false =>
    have same : (start.claimTierChange orgId start.now).2 = start := by
      unfold Store.claimTierChange at claimed ⊢
      rw [found] at claimed ⊢
      dsimp only at claimed ⊢
      split at claimed
      · cases claimed
      next unclaimable => rw [if_neg unclaimable]
    exact pure_along (.inl same)
  | true =>
  obtain ⟨there, elsewhere, books⟩ := claim_tier_change_spec found claimed
  generalize (start.claimTierChange orgId start.now).2 = claiming at *
  have begun : ∀ after claim, Elsewhere orgId start after → SameBooks start after →
      after.findSubscription orgId = some (subscription.claimedAt claim) →
      TierChanged (fun token => ∃ answer, allowed answer ∧ answer.token = token) orgId newTier subscription newOffering
        start after :=
    fun after claim elsewhere books row => ⟨found, offered, elsewhere, claim, .inl ⟨row, books⟩⟩
  have holds : (subscription.claimedAt (some start.now)).checkoutClaimedAt = some start.now := rfl
  have stands := begun claiming (some start.now) elsewhere books there
  refine Prog.Along.observe (.inr ⟨_, _, stands⟩) fun _ _ => ?_
  rw [compute_for_offering_congr elsewhere.seats books.ledger]
  split
  next =>
    refine write_along (.inr ⟨_, _, stands⟩) (.inr ⟨_, _, begun _ none ?_ ?_ ?_⟩)
    · apply elsewhere.trans
      apply update_claimed_elsewhere
      exact fun _ => rfl
    · exact books.trans ⟨rfl, rfl, rfl, rfl⟩
    · apply updateClaimed_found _ there holds
      exact fun _ => rfl
  next amountMinor currency computed =>
    refine Prog.Along.observe (.inr ⟨_, _, stands⟩) fun answer permitted => ?_
    refine (purchase_along (fun row => row.upgraded newTier newOffering.id start.now) _ (amountMinor, currency) _ _
      (fun _ => ⟨rfl, rfl⟩) there holds).weaken ?_ fun _ _ _ _ => True.intro
    intro after purchased
    obtain ⟨claim, row⟩ := purchased.row
    refine .inr ⟨subscription, newOffering, found, offered, elsewhere.trans purchased.elsewhere, claim, .inr ?_⟩
    exact ⟨answer.token, _, ⟨answer, permitted, rfl⟩, computed, purchased.bills.opened books, row⟩

end TierChange

theorem purchase_packs_along {resource : String} {quantity : Int} {idempotencyKey : String} :
    (purchasePacks orgId resource quantity idempotencyKey).Along allowed
      (fun after => after = start ∨ ∃ pack currency,
        PacksBought orgId resource quantity idempotencyKey pack currency start after)
      (fun _ _ => True) start := by
  unfold purchasePacks
  split
  · exact pure_along (.inl rfl)
  next wanted =>
  refine Prog.Along.observe (.inl rfl) fun _ _ => ?_
  split
  · exact pure_along (.inl rfl)
  next pack currency offered =>
  have more : 1 ≤ quantity := by omega
  have amount : (pack.priceMinor : Int) * quantity = (pack.priceMinor * quantity.toNat : Nat) := by
    rw [Int.natCast_mul, Int.toNat_of_nonneg (by omega)]
  rw [amount]
  have leaves : ∀ after, (after = start ∨ ∃ positive, Called (amountCall orgId (.pack orgId resource idempotencyKey)
      (pack.priceMinor * quantity.toNat) currency .packPurchase (some (.pack resource quantity.toNat pack.unit)) positive)
      start after) →
      after = start ∨ ∃ pack currency, PacksBought orgId resource quantity idempotencyKey pack currency start after := by
    rintro after (same | ⟨positive, called⟩)
    · exact .inl same
    · exact .inr ⟨pack, currency, more, offered, called.moved.tables, .inr ⟨positive, called.charges⟩⟩
  refine Prog.Along.bind ((charge_amount_along orgId _ _ currency _ _).weaken leaves ?_)
    fun _ _ stands => pure_along stands
  exact fun _ after stands _ => leaves after stands

section Sweeps

theorem refetch_along {orderId : OrderId} {held : Held} {stop : Store → Prop} (stands : stop store) :
    (refetch orderId held).Along allowed stop (fun fetched after => after = store ∧
      (∀ object, fetched.held = some object → held = some object ∨ store.findOrder orderId = some object) ∧
      ∀ order, fetched.result = .ok order → held = some order ∨ store.findOrder orderId = some order) store := by
  cases held with
  | some object =>
    refine ⟨stands, rfl, fun other same => .inl same, fun order same => .inl ?_⟩
    cases same
    rfl
  | none =>
    refine Prog.Along.observe stands fun _ _ => ?_
    cases found : store.findOrder orderId with
    | none =>
      refine ⟨stands, rfl, fun _ same => ?_, fun _ same => ?_⟩
      · cases same
      · cases same
    | some row =>
      refine ⟨stands, rfl, fun _ same => .inr same, fun _ same => .inr ?_⟩
      cases same
      rfl

theorem roll_elsewhere (orderId : OrderId) (periodStart periodEnd : Nat) (activate : Bool) :
    Elsewhere orgId store (store.rollPeriod orgId orderId periodStart periodEnd activate) := by
  refine ⟨rfl, rfl, rfl, rfl, rfl, rfl, fun other different => ?_⟩
  refine (Keyed.find_modify ?_).trans (if_neg different.symm)
  exact fun _ => rfl

theorem past_due_elsewhere : Elsewhere orgId store (store.markPastDue orgId) := by
  apply update_elsewhere
  exact fun _ => rfl

theorem past_due_found (found : store.findSubscription orgId = some subscription) :
    (store.markPastDue orgId).findSubscription orgId = some { subscription with status := .pastDue } := by
  refine (find_updateSubscription orgId ?_).trans ?_
  · exact fun _ => rfl
  · rw [found, Option.map_some]

theorem settle_renewal_along {orderId : OrderId} {periodEnd : Nat} {billingCycle : BillingCycle} {order : Option BillingOrder}
    {stop : Store → Prop} (stands : stop store)
    (rolls : order.map BillingOrder.status = some .confirmed →
      stop (store.rollPeriod orgId orderId periodEnd (computePeriodEnd periodEnd billingCycle) false))
    (lapses : stop (store.markPastDue orgId)) :
    (settleRenewal orgId orderId periodEnd billingCycle order).Along allowed stop (fun _ _ => True) store := by
  unfold settleRenewal
  split
  next confirmed => exact Prog.Along.act stands fun _ _ => pure_along (rolls confirmed)
  next => exact Prog.Along.act stands fun _ _ => pure_along lapses

theorem renew_subscription_along (found : start.findSubscription subscription.orgId = some subscription)
    (due : subscription.due start.now = true) :
    (renewSubscription subscription).Along allowed
      (fun after => after = start ∨ ∃ offeringVersionId periodEnd billingCycle,
        Renewed subscription offeringVersionId periodEnd billingCycle start after)
      (fun _ _ => True) start := by
  unfold renewSubscription
  split
  next offeringVersionId periodEnd onOffering ends =>
    refine Prog.Along.observe (.inl rfl) fun _ _ => ?_
    split
    next amountMinor currency billingCycle computed cycle =>
      let orderId : OrderId := .renewal subscription.orgId offeringVersionId (Calendar.date periodEnd)
      -- What the charge leaves, and what its report tells of the order.
      have charging : ∀ after, (after = start ∨ ∃ positive,
          Called (amountCall subscription.orgId orderId amountMinor currency .charge none positive) start after) →
          after.findSubscription subscription.orgId = some subscription ∧ Elsewhere subscription.orgId start after ∧
            Bills subscription.orgId orderId (amountMinor, currency) .charge none start after := by
        rintro after (rfl | ⟨positive, called⟩)
        · exact ⟨found, elsewhere_refl _ after, .inl (same_books_refl after)⟩
        · exact ⟨(same_subscription called.moved.tables _).trans found, tables_elsewhere called.moved.tables,
            .inr ⟨positive, called.charges⟩⟩
      have unsettled : ∀ after, (after = start ∨ ∃ positive,
          Called (amountCall subscription.orgId orderId amountMinor currency .charge none positive) start after) →
          Renewed subscription offeringVersionId periodEnd billingCycle start after := by
        intro after stands
        obtain ⟨there, elsewhere, bills⟩ := charging after stands
        exact ⟨found, due, onOffering, ends, cycle, elsewhere, ⟨_, computed, bills⟩, .inl there⟩
      have settles : ∀ after order, (after = start ∨ ∃ positive,
          Called (amountCall subscription.orgId orderId amountMinor currency .charge none positive) start after) →
          (order.map BillingOrder.status = some .confirmed → Confirmed after orderId) →
          (settleRenewal subscription.orgId orderId periodEnd billingCycle order).Along allowed
            (fun after => after = start ∨ ∃ offeringVersionId periodEnd billingCycle,
              Renewed subscription offeringVersionId periodEnd billingCycle start after) (fun _ _ => True) after := by
        intro after order stands confirms
        obtain ⟨there, elsewhere, bills⟩ := charging after stands
        apply settle_renewal_along
        · exact .inr ⟨_, _, _, unsettled after stands⟩
        · intro confirmed
          refine .inr ⟨_, _, _, found, due, onOffering, ends, cycle, elsewhere.trans (roll_elsewhere _ _ _ _),
            ⟨_, computed, bills.behind ⟨rfl, rfl, rfl, rfl⟩⟩, .inr (.inl ⟨?_, confirms confirmed⟩)⟩
          exact roll_found there _ _ _ _
        · exact .inr ⟨_, _, _, found, due, onOffering, ends, cycle, elsewhere.trans past_due_elsewhere,
            ⟨_, computed, bills.behind ⟨rfl, rfl, rfl, rfl⟩⟩, .inr (.inr (past_due_found there))⟩
      have charge : (chargeAmount subscription.orgId orderId amountMinor currency .charge none none).Along allowed
          (fun after => after = start ∨ ∃ offeringVersionId periodEnd billingCycle,
            Renewed subscription offeringVersionId periodEnd billingCycle start after)
          (fun charged after => (after = start ∨ ∃ positive,
              Called (amountCall subscription.orgId orderId amountMinor currency .charge none positive) start after) ∧
            (∀ order, charged.result = .ok order → order.status = .confirmed → Confirmed after orderId) ∧
            ∀ object, charged.held = some object → object.status = .confirmed → Confirmed after orderId) start := by
        refine (charge_amount_along subscription.orgId orderId amountMinor currency .charge none).weaken ?_ ?_
        · exact fun after stands => .inr ⟨_, _, _, unsettled after stands⟩
        · intro charged after stands ended
          rcases ended with ⟨positive, alone⟩ | ⟨_, failure, rfl⟩
          · obtain ⟨row, present, reports, _⟩ := alone.order
            refine ⟨stands, fun order result confirmed => ?_, fun object holds confirmed => ?_⟩
            · exact ⟨row, present, (reports.result order result).symm.trans confirmed⟩
            · exact ⟨row, present, (reports.held object holds).symm.trans confirmed⟩
          · refine ⟨stands, fun order result => ?_, fun object holds => ?_⟩
            · cases result
            · cases holds
      refine charge.bind fun charged after ended => ?_
      obtain ⟨stands, reported, holds⟩ := ended
      cases result : charged.result with
      | ok order =>
        refine settles after (some order) stands fun confirmed => ?_
        exact reported order result (Option.some.inj confirmed)
      | error failure =>
        refine Prog.Along.bind (refetch_along (.inr ⟨_, _, _, unsettled after stands⟩)) fun fetched last ended => ?_
        obtain ⟨rfl, kept, _⟩ := ended
        refine settles last fetched.held stands fun confirmed => ?_
        obtain ⟨object, held, status⟩ := Option.map_eq_some_iff.mp confirmed
        rcases kept object held with old | row
        · exact holds object old status
        · exact ⟨object, row, status⟩
    · exact pure_along (.inl rfl)
  · exact pure_along (.inl rfl)

theorem sync_renewal_along {orderId : OrderId} {held : Held} {stop : Store → Prop} (stands : stop store)
    (confirms : ∀ object, held = some object → object.status = .confirmed → Confirmed store orderId)
    (rolls : ∀ subscription periodEnd billingCycle, store.findSubscription orgId = some subscription →
      subscription.currentPeriodEnd = some periodEnd → subscription.billingCycle = some billingCycle →
      Confirmed store orderId →
      stop (store.rollPeriod orgId orderId periodEnd (computePeriodEnd periodEnd billingCycle) true))
    (lapses : ∀ subscription, store.findSubscription orgId = some subscription → stop (store.markPastDue orgId)) :
    (syncRenewalRetryOutcome orgId orderId held).Along allowed stop (fun _ _ => True) store := by
  refine Prog.Along.bind (refetch_along stands) fun fetched last ended => ?_
  obtain ⟨rfl, _, returned⟩ := ended
  cases result : fetched.result with
  | error failure => exact pure_along stands
  | ok order =>
    have confirmed : order.status = .confirmed → Confirmed last orderId := by
      intro status
      rcases returned order result with old | row
      · exact confirms order old status
      · exact ⟨order, row, status⟩
    refine Prog.Along.observe stands fun _ _ => ?_
    cases found : last.findSubscription orgId with
    | none => exact pure_along stands
    | some subscription =>
      dsimp only
      split
      next status =>
        split
        next oldDue billingCycle ends cycle =>
          exact Prog.Along.act stands fun _ _ => pure_along (rolls subscription oldDue billingCycle found ends cycle (confirmed status))
        next => exact pure_along stands
      next => exact Prog.Along.act stands fun _ _ => pure_along (lapses subscription found)

theorem dun_order_along {order : BillingOrder} (found : start.findOrder order.orderId = some order) :
    (dunOrder start.now start.dunningGraceDays order).Along allowed
      (fun after => after = start ∨ Retried order start after ∨ Downgraded order start after)
      (fun _ _ => True) start := by
  unfold dunOrder
  cases action : nextDunningAction order start.now start.dunningGraceDays with
  | wait => exact pure_along (.inl rfl)
  | downgradeToFree =>
    have left : ∀ after, after = start ∨ after = start.downgradeToFree order.orgId order.orderId →
        after = start ∨ Retried order start after ∨ Downgraded order start after :=
      fun after => Or.imp id fun same => .inr ⟨found, action, same⟩
    refine Prog.Along.bind ((downgrade_alone start order.orgId order.orderId).weaken left fun _ _ stands _ => left _ stands) ?_
    exact fun _ _ stands => pure_along stands
  | retry =>
    have failed : order.status = .failed := by
      by_contra other
      unfold nextDunningAction at action
      rw [if_pos other] at action
      cases action
    have agrees : HeldAsRow start order.retryCall.orderId (some order) := by
      intro object same
      cases same
      exact found
    have unsettled : ∀ after, Called order.retryCall start after → Retried order start after := fun after called =>
      ⟨found, failed, action, tables_elsewhere called.moved.tables, called.charges, .inl (same_subscription called.moved.tables _)⟩
    have charge : (chargeOrg order.retryCall (some order)).Along allowed
        (fun after => after = start ∨ Retried order start after ∨ Downgraded order start after)
        (fun charged after => Called order.retryCall start after ∧
          ∀ object, charged.held = some object → object.status = .confirmed → Confirmed after order.orderId) start := by
      refine (charge_org_along agrees).weaken (fun after called => .inr (.inl (unsettled after called))) ?_
      intro charged after called alone
      obtain ⟨row, present, reports, _⟩ := alone.order
      exact ⟨called, fun object holds status => ⟨row, present, (reports.held object holds).symm.trans status⟩⟩
    refine charge.bind fun charged after ended => ?_
    obtain ⟨called, holds⟩ := ended
    have same := same_subscription called.moved.tables order.orgId
    split
    next renewal =>
      have elsewhere : Elsewhere order.orgId start after := tables_elsewhere called.moved.tables
      apply sync_renewal_along (.inr (.inl (unsettled after called))) holds
      · intro subscription periodEnd billingCycle there ends cycle confirmed
        refine .inr (.inl ⟨found, failed, action, elsewhere.trans (roll_elsewhere _ _ _ _),
          called.charges.behind ⟨rfl, rfl, rfl, rfl⟩, .inr ⟨renewal, subscription, same.symm.trans there, .inl ?_⟩⟩)
        exact ⟨periodEnd, billingCycle, ends, cycle, confirmed, roll_found there _ _ _ _⟩
      · intro subscription there
        refine .inr (.inl ⟨found, failed, action, elsewhere.trans past_due_elsewhere,
          called.charges.behind ⟨rfl, rfl, rfl, rfl⟩, .inr ⟨renewal, subscription, same.symm.trans there, .inr ?_⟩⟩)
        exact past_due_found there
    next => exact pure_along (.inr (.inl (unsettled after called)))

theorem reconcile_order_along {order : BillingOrder} (found : start.findOrder order.orderId = some order)
    (pending : order.status = .pending) :
    (reconcileOrder order).Along allowed (fun after => after = start ∨ Reconciled order start after) (fun _ _ => True) start := by
  have along : ∀ {α : Type} {program : Request α} {store : Store}, Moving order.retryCall start program →
      Moved order.retryCall start store →
      program.Along allowed (fun after => after = start ∨ Reconciled order start after) (fun _ _ => True) store := by
    intro α program store moving moved
    have ends : program.Ends allowed (fun _ _ => True) store := Prog.Ends.trivial program store
    exact (ends.along moving moved).weaken (fun after moved => .inr ⟨found, pending, moved⟩) fun _ _ _ _ => True.intro
  apply along _ (moved_refl _ _)
  refine Prog.Preserves.observe fun answer store _ => ?_
  cases store.getPaymentByOrderId order.orderId answer with
  | error failure => exact moving_pure _
  | ok payment =>
    cases keyed : if payment.status = "DONE" then payment.paymentKey else none with
    | none =>
      simp only [keyed]
      exact ((moved_attempt order.retryCall start).marks _ _).bind fun _ => moving_pure _
    | some paymentKey =>
      simp only [keyed]
      exact ((moved_attempt order.retryCall start).ledger _ _).bind fun _ => moving_pure _

end Sweeps

theorem attempt_along (attempt : Attempt) :
    attempt.request.Along allowed (fun after => after = start ∨
      attempt.Leaves (fun token => ∃ answer, allowed answer ∧ answer.token = token) start after) (fun _ _ => True) start := by
  cases attempt with
  | checkout orgId tier billingCycle => exact checkout_along
  | changeTier orgId newTier => exact change_tier_along
  | purchasePacks orgId resource quantity idempotencyKey => exact purchase_packs_along
  | renew orgId =>
    refine Prog.Along.observe (.inl rfl) fun _ _ => Prog.Along.observe (.inl rfl) fun _ _ => ?_
    cases found : start.findSubscription orgId with
    | none => exact pure_along (.inl rfl)
    | some subscription =>
      dsimp only
      split
      next due =>
        have own : subscription.orgId = orgId := Keyed.find_key found
        subst own
        refine Prog.Along.ended ((renew_subscription_along found due).weaken ?_ fun _ _ _ ended => ended) ()
        rintro after (same | renewed)
        · exact .inl same
        · obtain ⟨offeringVersionId, periodEnd, billingCycle, renewed⟩ := renewed
          exact .inr ⟨subscription, offeringVersionId, periodEnd, billingCycle, rfl, renewed⟩
      next => exact pure_along (.inl rfl)
  | dun orderId =>
    refine Prog.Along.observe (.inl rfl) fun _ _ => Prog.Along.observe (.inl rfl) fun _ _ => ?_
    refine Prog.Along.observe (.inl rfl) fun _ _ => ?_
    cases found : start.findOrder orderId with
    | none => exact pure_along (.inl rfl)
    | some order =>
      have own : order.orderId = orderId := Keyed.find_key found
      subst own
      refine Prog.Along.ended ((dun_order_along found).weaken ?_ fun _ _ _ ended => ended) ()
      rintro after (same | left)
      · exact .inl same
      · exact .inr ⟨order, rfl, left⟩
  | reconcile orderId =>
    refine Prog.Along.observe (.inl rfl) fun _ _ => Prog.Along.observe (.inl rfl) fun _ _ => ?_
    cases found : start.findOrder orderId with
    | none => exact pure_along (.inl rfl)
    | some order =>
      have own : order.orderId = orderId := Keyed.find_key found
      subst own
      dsimp only
      split
      next stale =>
        have pending : order.status = .pending := by
          simp only [BillingOrder.stale, Bool.and_eq_true, decide_eq_true_eq] at stale
          exact stale.1
        refine Prog.Along.ended ((reconcile_order_along found pending).weaken ?_ fun _ _ _ ended => ended) ()
        rintro after (same | reconciled)
        · exact .inl same
        · exact .inr ⟨order, rfl, reconciled⟩
      next => exact pure_along (.inl rfl)

end Purchases

theorem attempt_leaves (attempt : Attempt) (answers : List Answer) (store : Store) :
    (attempt.request.execute answers store).2 = store ∨
      attempt.Leaves (fun token => ∃ answer ∈ answers, answer.token = token) store (attempt.request.execute answers store).2 :=
  ((attempt_along attempt).execute fun _ listed => listed).1

end Sprintable.Billing
