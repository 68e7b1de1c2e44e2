import Sprintable.Billing.Errands

/-! What an errand does to the subscription of one organisation, and what it does
to one order. -/

namespace Sprintable.Billing
open Interleave

/-- A new row, as the dunning sweep inserts it. -/
def OrgSubscription.krw (id orgId : Uuid) : OrgSubscription := { id, orgId, currency := some .krw }

/-- The organisation that an errand is about, where the errand itself says it. -/
def Errand.own : Errand → Option Uuid
  | .attempt (.checkout orgId _ _) | .attempt (.changeTier orgId _) | .attempt (.renew orgId) | .reserveDowngrade orgId _
  | .cancelSubscription orgId | .cancelPendingDowngrade orgId | .applyPending orgId | .revertExpired orgId => some orgId
  | .grantCredit call => some call.orgId
  | .attempt (.purchasePacks _ _ _ _) | .attempt (.dun _) | .attempt (.reconcile _) => none

/-- The subscription of an organisation before and after an errand. -/
inductive Turn (tokens : Nat → Prop) (before after : Store) (orgId : Uuid) : Errand → Prop where
  | kept {errand : Errand} (quiet : errand.own ≠ some orgId ∨ after = before)
    (same : after.findSubscription orgId = before.findSubscription orgId) :
    Turn tokens before after orgId errand
  | checkedOut {tier : Tier} {billingCycle : BillingCycle} {offering : OfferingVersion}
    (left : CheckedOut orgId tier billingCycle offering before after) :
    Turn tokens before after orgId (.attempt (.checkout orgId tier billingCycle))
  | tierChanged {newTier : Tier} {subscription : OrgSubscription} {newOffering : OfferingVersion}
    (left : TierChanged tokens orgId newTier subscription newOffering before after) :
    Turn tokens before after orgId (.attempt (.changeTier orgId newTier))
  | renewed {subscription : OrgSubscription} {offeringVersionId : Uuid} {periodEnd : Nat} {billingCycle : BillingCycle}
    (own : subscription.orgId = orgId) (left : Renewed subscription offeringVersionId periodEnd billingCycle before after) :
    Turn tokens before after orgId (.attempt (.renew orgId))
  | retried {order : BillingOrder} (own : order.orgId = orgId) (left : Retried order before after) :
    Turn tokens before after orgId (.attempt (.dun order.orderId))
  | freed {order : BillingOrder} {subscription : OrgSubscription} (own : order.orgId = orgId)
    (left : Downgraded order before after) (unrecovered : before.recovered orgId order = false)
    (found : before.findSubscription orgId = some subscription) (claimable : subscription.claimable before.now = true)
    (row : after.findSubscription orgId = some (subscription.free (before.activeOffering .free))) :
    Turn tokens before after orgId (.attempt (.dun order.orderId))
  | enrolled {order : BillingOrder} (own : order.orgId = orgId) (missing : before.findSubscription orgId = none)
    (row : after.findSubscription orgId =
      some ((OrgSubscription.krw before.subscriptions.length orgId).free (before.activeOffering .free))) :
    Turn tokens before after orgId (.attempt (.dun order.orderId))
  | reserved {errand : Errand} {newTier : Tier} {subscription : OrgSubscription} {offering : OfferingVersion}
    (request : errand = .reserveDowngrade orgId newTier ∨ (errand = .cancelSubscription orgId ∧ newTier = .free))
    (left : Reserves orgId newTier subscription offering before after)
    (row : after.findSubscription orgId = some (subscription.reserve newTier offering.id subscription.currentPeriodEnd)) :
    Turn tokens before after orgId errand
  | withdrawn {subscription : OrgSubscription} (found : before.findSubscription orgId = some subscription)
    (reserved : subscription.pendingChangeApplyAt.isSome) (row : after.findSubscription orgId = some subscription.withdrawn) :
    Turn tokens before after orgId (.cancelPendingDowngrade orgId)
  | overSeats {subscription : OrgSubscription} {newTier : Tier} {offeringVersionId : Uuid} {newOffering : OfferingVersion}
    (falls : Falls orgId subscription newTier offeringVersionId newOffering before)
    (beyond : before.overSeats orgId newTier newOffering) (row : after.findSubscription orgId = some subscription.withdrawn) :
    Turn tokens before after orgId (.applyPending orgId)
  | applied {subscription : OrgSubscription} {newTier : Tier} {offeringVersionId : Uuid} {newOffering : OfferingVersion}
    (falls : Falls orgId subscription newTier offeringVersionId newOffering before)
    (fits : ¬ before.overSeats orgId newTier newOffering)
    (row : after.findSubscription orgId =
      some (subscription.applyPending newTier offeringVersionId before.now subscription.billingCycle)) :
    Turn tokens before after orgId (.applyPending orgId)
  | granted {call : GrantCall} {row : OrgSubscription} (own : call.orgId = orgId)
    (found : before.findSubscription orgId = some row ∨ before.findSubscription orgId = none ∧
      row = { id := before.subscriptions.length, orgId, currency := some call.currency })
    (higher : row.tier.rank ≤ call.targetTier.rank) (lasting : 0 < call.months)
    (changed : after.findSubscription orgId =
      some (row.granted call.targetTier before.now (Calendar.addMonths before.now call.months)))
    (recorded : ∃ grant, after.grants = before.grants ++ [grant] ∧ grant.orgId = orgId ∧ grant.ts = before.now ∧
      grant.grantExpiresAt = Calendar.addMonths before.now call.months ∧ grant.targetTier = call.targetTier ∧
      grant.prevTier = row.tier) :
    Turn tokens before after orgId (.grantCredit call)
  | reverted {grant : TierGrant} {subscription : OrgSubscription} (revertable : grant ∈ before.revertable)
    (own : grant.orgId = orgId) (expired : grant.grantExpiresAt < before.now)
    (found : before.findSubscription orgId = some subscription) (unchanged : subscription.tier = grant.targetTier)
    (row : after.findSubscription orgId = some (subscription.reverted grant.prevTier))
    (spent : after.grantReverts = before.grantReverts ++ [grant.id]) :
    Turn tokens before after orgId (.revertExpired orgId)

section Rows
variable {tokens : Nat → Prop} {before after store : Store} {orgId : Uuid}

theorem upsert_missing {row : OrgSubscription} {allowed : OrgSubscription → Bool} {change : OrgSubscription → OrgSubscription}
    (missing : store.findSubscription row.orgId = none) :
    (store.upsertSubscription row allowed change).findSubscription row.orgId = some row := by
  rw [Store.upsertSubscription, missing]
  exact Keyed.find_append_new missing rfl

theorem upsert_found {row old : OrgSubscription} {allowed : OrgSubscription → Bool} {change : OrgSubscription → OrgSubscription}
    (found : store.findSubscription row.orgId = some old) (kept : ∀ row, (change row).orgId = row.orgId) :
    (store.upsertSubscription row allowed change).findSubscription row.orgId = some (if allowed old then change old else old) := by
  rw [Store.upsertSubscription, found]
  dsimp only
  split
  · rw [find_updateSubscription row.orgId kept, found, Option.map_some]
  · exact found

theorem upsert_others {row : OrgSubscription} {allowed : OrgSubscription → Bool} {change : OrgSubscription → OrgSubscription}
    (kept : ∀ row, (change row).orgId = row.orgId) {other : Uuid} (different : other ≠ row.orgId) :
    (store.upsertSubscription row allowed change).findSubscription other = store.findSubscription other := by
  unfold Store.upsertSubscription
  split
  · apply Keyed.find_append_other
    exact different.symm
  · split
    · exact (Keyed.find_modify kept).trans (if_neg different.symm)
    · rfl

theorem update_others {change : OrgSubscription → OrgSubscription} (kept : ∀ row, (change row).orgId = row.orgId) {other : Uuid}
    (different : other ≠ orgId) : (store.updateSubscription orgId change).findSubscription other = store.findSubscription other :=
  (Keyed.find_modify kept).trans (if_neg different.symm)

theorem update_found {change : OrgSubscription → OrgSubscription} (kept : ∀ row, (change row).orgId = row.orgId)
    {subscription : OrgSubscription} (found : store.findSubscription orgId = some subscription) :
    (store.updateSubscription orgId change).findSubscription orgId = some (change subscription) := by
  rw [find_updateSubscription orgId kept, found, Option.map_some]

theorem apply_pending_org (row : OrgSubscription) (newTier : Tier) (offeringVersionId : Uuid) (now : Nat)
    (billingCycle : Option BillingCycle) : (row.applyPending newTier offeringVersionId now billingCycle).orgId = row.orgId := by
  unfold OrgSubscription.applyPending
  split <;> rfl

theorem tier_change_raises {subscription : OrgSubscription} {newTier : Tier} {offering : OfferingVersion}
    (offered : store.tierChangeOffering subscription newTier = some offering) : subscription.tier.rank < newTier.rank := by
  unfold Store.tierChangeOffering at offered
  split at offered
  · cases offered
  next accepted =>
    simp only [not_or, Nat.not_le] at accepted
    exact accepted.2.2.2.2.2

theorem applied_unreserved (subscription : OrgSubscription) (newTier : Tier) (offeringVersionId : Uuid) (now : Nat) (billingCycle : Option BillingCycle) :
    (subscription.applyPending newTier offeringVersionId now billingCycle).pendingTier = none ∧
      (subscription.applyPending newTier offeringVersionId now billingCycle).pendingChangeApplyAt = none := by
  unfold OrgSubscription.applyPending
  split <;> exact ⟨rfl, rfl⟩

theorem downgrade_turn {order : BillingOrder} (left : Downgraded order before after) (orgId : Uuid) :
    Turn tokens before after orgId (.attempt (.dun order.orderId)) := by
  have after_is := left.left
  rw [downgrade_eq left.found] at after_is
  by_cases own : orgId = order.orgId
  · subst own
    cases unrecovered : before.recovered order.orgId order with
    | true =>
      rw [unrecovered] at after_is
      refine .kept (.inl nofun) ?_
      rw [after_is]
      rfl
    | false =>
      rw [unrecovered] at after_is
      have same : after.findSubscription order.orgId = (before.freeSubscription order.orgId before.now (before.activeOffering .free)).findSubscription order.orgId := by
        rw [after_is]
        rfl
      cases found : before.findSubscription order.orgId with
      | none =>
        refine .enrolled rfl found (same.trans ?_)
        apply upsert_missing
        exact found
      | some subscription =>
        cases claimable : subscription.claimable before.now with
        | true =>
          refine .freed rfl left unrecovered found claimable (same.trans ?_)
          refine (upsert_found found ?_).trans ?_
          · exact fun _ => rfl
          · rw [if_pos claimable]
        | false =>
          refine .kept (.inl nofun) (same.trans ?_)
          refine (upsert_found found ?_).trans ?_
          · exact fun _ => rfl
          · rw [claimable, found]
            rfl
  · refine .kept (.inl nofun) ?_
    rw [after_is]
    change (if before.recovered order.orgId order then before else before.freeSubscription order.orgId before.now (before.activeOffering .free)).findSubscription orgId = _
    split
    · rfl
    · apply upsert_others
      · exact fun _ => rfl
      · exact own

theorem attempt_turn {attempt : Attempt} (leaves : attempt.Leaves tokens before after) (orgId : Uuid) :
    Turn tokens before after orgId (.attempt attempt) := by
  cases attempt with
  | checkout own tier billingCycle =>
    obtain ⟨offering, left⟩ := leaves
    by_cases same : orgId = own
    · subst same
      exact .checkedOut left
    · exact .kept (.inl fun own => same (Option.some.inj own).symm) (left.elsewhere.others orgId same)
  | changeTier own newTier =>
    obtain ⟨subscription, newOffering, left⟩ := leaves
    by_cases same : orgId = own
    · subst same
      exact .tierChanged left
    · exact .kept (.inl fun own => same (Option.some.inj own).symm) (left.elsewhere.others orgId same)
  | purchasePacks own resource quantity idempotencyKey =>
    obtain ⟨pack, currency, left⟩ := leaves
    exact .kept (.inl nofun) (same_subscription left.tables orgId)
  | renew own =>
    obtain ⟨subscription, offeringVersionId, periodEnd, billingCycle, rfl, left⟩ := leaves
    by_cases same : orgId = subscription.orgId
    · subst same
      exact .renewed rfl left
    · exact .kept (.inl fun own => same (Option.some.inj own).symm) (left.elsewhere.others orgId same)
  | dun orderId =>
    obtain ⟨order, rfl, left | left⟩ := leaves
    · by_cases same : orgId = order.orgId
      · subst same
        exact .retried rfl left
      · exact .kept (.inl nofun) (left.elsewhere.others orgId same)
    · exact downgrade_turn left orgId
  | reconcile orderId =>
    obtain ⟨order, rfl, left⟩ := leaves
    exact .kept (.inl nofun) (same_subscription left.moved.tables orgId)

theorem reserve_turn {errand : Errand} {own : Uuid} {newTier : Tier} {subscription : OrgSubscription} {offering : OfferingVersion}
    (request : errand = .reserveDowngrade own newTier ∨ (errand = .cancelSubscription own ∧ newTier = .free))
    (left : Reserves own newTier subscription offering before after) (orgId : Uuid) :
    Turn tokens before after orgId errand := by
  by_cases same : orgId = own
  · subst same
    refine .reserved request left ?_
    rw [left.left]
    apply update_found _ (activePaidSub_found left.active).1
    exact fun _ => rfl
  · refine .kept (.inl ?_) ?_
    · rcases request with rfl | ⟨rfl, _⟩ <;> exact fun asked => same (Option.some.inj asked).symm
    · rw [left.left]
      apply update_others _ same
      exact fun _ => rfl

theorem grant_turn (call : GrantCall) (orgId : Uuid) :
    Turn tokens before (before.grantCredit call) orgId (.grantCredit call) := by
  unfold Store.grantCredit
  split
  · exact .kept (.inr rfl) rfl
  dsimp only
  split
  · exact .kept (.inr rfl) rfl
  next higher =>
  split
  · exact .kept (.inr rfl) rfl
  next amountMinor derived =>
  split
  next positive =>
    have lasting : 0 < call.months := by
      obtain ⟨offering, _, priced⟩ := Option.map_eq_some_iff.mp derived
      rw [← priced] at positive
      exact Nat.pos_of_mul_pos_left positive
    by_cases own : orgId = call.orgId
    · subst own
      cases found : before.findSubscription call.orgId with
      | none =>
        refine .granted rfl (.inr ⟨found, rfl⟩) (Nat.zero_le _) lasting ?_ ⟨_, rfl, rfl, rfl, rfl, rfl, rfl⟩
        apply upsert_missing
        exact found
      | some old =>
        rw [found] at higher
        refine .granted rfl (.inl found) (Nat.le_of_not_lt higher) lasting ?_ ⟨_, rfl, rfl, rfl, rfl, rfl, rfl⟩
        refine (upsert_found found ?_).trans ?_
        · exact fun _ => rfl
        · rw [if_pos rfl]
          rfl
    · refine .kept (.inl fun asked => own (Option.some.inj asked).symm) ?_
      apply upsert_others _ own
      exact fun _ => rfl
  next => exact .kept (.inr rfl) rfl

theorem revert_grant_spec (store : Store) (now : Nat) (grant : TierGrant) :
    store.revertGrant now grant = store ∨ (grant.grantExpiresAt < now ∧
      (∃ subscription, store.findSubscription grant.orgId = some subscription ∧ subscription.tier = grant.targetTier ∧
        (store.revertGrant now grant).findSubscription grant.orgId = some (subscription.reverted grant.prevTier)) ∧
      (∀ other, other ≠ grant.orgId → (store.revertGrant now grant).findSubscription other = store.findSubscription other) ∧
      (store.revertGrant now grant).now = store.now ∧ (store.revertGrant now grant).offerings = store.offerings ∧
      (store.revertGrant now grant).grants = store.grants ∧
      (store.revertGrant now grant).grantReverts =
        if store.grantReverts.contains grant.id then store.grantReverts else store.grantReverts ++ [grant.id]) := by
  unfold Store.revertGrant
  split
  · exact .inl rfl
  next expired =>
  split
  · exact .inl rfl
  next unchanged =>
  obtain ⟨subscription, found, tier⟩ := Option.map_eq_some_iff.mp (Decidable.not_not.mp unchanged)
  refine .inr ⟨by omega, ⟨subscription, found, tier, ?_⟩, fun other different => ?_, rfl, rfl, rfl, rfl⟩
  · apply update_found _ found
    exact fun _ => rfl
  · apply update_others _ different
    exact fun _ => rfl

theorem revert_turn {grant : TierGrant} (revertable : grant ∈ before.revertable) (orgId : Uuid) :
    Turn tokens before (before.revertGrant before.now grant) orgId (.revertExpired grant.orgId) := by
  have wanted := (List.mem_filter.mp revertable).2
  simp only [Bool.and_eq_true, Bool.not_eq_true'] at wanted
  rcases revert_grant_spec before before.now grant with same | ⟨expired, ⟨subscription, found, tier, row⟩, others, _, _, _, spent⟩
  · exact .kept (.inr same) (by rw [same])
  by_cases own : orgId = grant.orgId
  · subst own
    refine .reverted revertable rfl expired found tier row ?_
    rw [spent, wanted.2]
    rfl
  · exact .kept (.inl fun asked => own (Option.some.inj asked).symm) (others orgId own)

theorem errand_turn {errand : Errand} (leaves : errand.Leaves tokens before after) (orgId : Uuid) :
    Turn tokens before after orgId errand := by
  cases errand with
  | attempt tried => exact attempt_turn leaves orgId
  | reserveDowngrade own newTier =>
    obtain ⟨subscription, offering, left⟩ := leaves
    exact reserve_turn (.inl rfl) left orgId
  | cancelSubscription own =>
    obtain ⟨subscription, offering, left⟩ := leaves
    exact reserve_turn (.inr ⟨rfl, rfl⟩) left orgId
  | cancelPendingDowngrade own =>
    obtain ⟨subscription, found, reserved, rfl⟩ := leaves
    by_cases same : orgId = own
    · subst same
      refine .withdrawn found reserved ?_
      apply update_found _ found
      exact fun _ => rfl
    · refine .kept (.inl fun asked => same (Option.some.inj asked).symm) ?_
      apply update_others _ same
      exact fun _ => rfl
  | applyPending own =>
    obtain ⟨subscription, newTier, offeringVersionId, newOffering, falls, left⟩ := leaves
    by_cases same : orgId = own
    · subst same
      rcases left with ⟨beyond, rfl⟩ | ⟨fits, rfl⟩
      · refine .overSeats falls beyond ?_
        apply update_found _ falls.found
        exact fun _ => rfl
      · refine .applied falls fits ?_
        apply update_found _ falls.found
        exact fun _ => apply_pending_org _ _ _ _ _
    · refine .kept (.inl fun asked => same (Option.some.inj asked).symm) ?_
      rcases left with ⟨_, rfl⟩ | ⟨_, rfl⟩
      · apply update_others _ same
        exact fun _ => rfl
      · apply update_others _ same
        exact fun _ => apply_pending_org _ _ _ _ _
  | grantCredit call =>
    rw [show after = before.grantCredit call from leaves]
    exact grant_turn call orgId
  | revertExpired own =>
    obtain ⟨grant, revertable, rfl, rfl⟩ := leaves
    exact revert_turn revertable orgId

/-- What belongs to no subscription and to no order stays as it is. -/
structure Unmoved (before after : Store) : Prop where
  now : after.now = before.now
  offerings : after.offerings = before.offerings
  grants : after.grants = before.grants
  reverts : after.grantReverts = before.grantReverts

theorem upsert_unmoved (store : Store) (row : OrgSubscription) (allowed : OrgSubscription → Bool) (change : OrgSubscription → OrgSubscription) :
    Unmoved store (store.upsertSubscription row allowed change) := by
  unfold Store.upsertSubscription
  split
  · exact ⟨rfl, rfl, rfl, rfl⟩
  · split <;> exact ⟨rfl, rfl, rfl, rfl⟩

theorem downgrade_unmoved (orgId : Uuid) (orderId : OrderId) : Unmoved store (store.downgradeToFree orgId orderId) := by
  cases found : store.findOrder orderId with
  | none =>
    rw [Store.downgradeToFree, found]
    exact ⟨rfl, rfl, rfl, rfl⟩
  | some order =>
    rw [downgrade_eq found]
    have freed : ∀ after, after = (if store.recovered orgId order then store else store.freeSubscription orgId store.now (store.activeOffering .free)) →
        Unmoved store after := by
      rintro _ rfl
      split
      · exact ⟨rfl, rfl, rfl, rfl⟩
      · exact upsert_unmoved _ _ _ _
    obtain ⟨now, offerings, grants, reverts⟩ := freed _ rfl
    exact ⟨now, offerings, grants, reverts⟩

theorem attempt_unmoved {attempt : Attempt} (leaves : attempt.Leaves tokens before after) : Unmoved before after := by
  have besides : ∀ orgId, Elsewhere orgId before after → Unmoved before after :=
    fun _ elsewhere => ⟨elsewhere.now, elsewhere.offerings, elsewhere.grants, elsewhere.reverts⟩
  have unchanged : after.toTables = before.toTables → Unmoved before after := by
    intro same
    constructor <;> rw [same]
  cases attempt with
  | checkout orgId tier billingCycle =>
    obtain ⟨_, left⟩ := leaves
    exact besides _ left.elsewhere
  | changeTier orgId newTier =>
    obtain ⟨_, _, left⟩ := leaves
    exact besides _ left.elsewhere
  | purchasePacks orgId resource quantity idempotencyKey =>
    obtain ⟨_, _, left⟩ := leaves
    exact unchanged left.tables
  | renew orgId =>
    obtain ⟨_, _, _, _, _, left⟩ := leaves
    exact besides _ left.elsewhere
  | dun orderId =>
    obtain ⟨_, _, left | left⟩ := leaves
    · exact besides _ left.elsewhere
    · rw [left.left]
      exact downgrade_unmoved _ _
  | reconcile orderId =>
    obtain ⟨_, _, left⟩ := leaves
    exact unchanged left.moved.tables

theorem grant_made (store : Store) (call : GrantCall) :
    (store.grantCredit call).now = store.now ∧ (store.grantCredit call).offerings = store.offerings ∧
      (store.grantCredit call).grantReverts = store.grantReverts ∧ ((store.grantCredit call).grants = store.grants ∨
        ∃ grant, (store.grantCredit call).grants = store.grants ++ [grant] ∧ grant.id = store.grants.length ∧
          grant.ts = store.now ∧ grant.prevTier.rank ≤ grant.targetTier.rank) := by
  unfold Store.grantCredit
  split
  · exact ⟨rfl, rfl, rfl, .inl rfl⟩
  dsimp only
  split
  · exact ⟨rfl, rfl, rfl, .inl rfl⟩
  next higher =>
  split
  · exact ⟨rfl, rfl, rfl, .inl rfl⟩
  split
  · obtain ⟨now, offerings, _, reverts⟩ := upsert_unmoved store _ _ _
    exact ⟨now, offerings, reverts, .inr ⟨_, rfl, rfl, rfl, Nat.le_of_not_lt higher⟩⟩
  · exact ⟨rfl, rfl, rfl, .inl rfl⟩

theorem errand_unmoved {errand : Errand} (leaves : errand.Leaves tokens before after) :
    (∃ call, errand = .grantCredit call) ∨ (∃ orgId, errand = .revertExpired orgId) ∨ Unmoved before after := by
  cases errand with
  | attempt tried => exact .inr (.inr (attempt_unmoved leaves))
  | reserveDowngrade orgId newTier =>
    obtain ⟨_, _, left⟩ := leaves
    rw [left.left]
    exact .inr (.inr ⟨rfl, rfl, rfl, rfl⟩)
  | cancelSubscription orgId =>
    obtain ⟨_, _, left⟩ := leaves
    rw [left.left]
    exact .inr (.inr ⟨rfl, rfl, rfl, rfl⟩)
  | cancelPendingDowngrade orgId =>
    obtain ⟨_, _, _, rfl⟩ := leaves
    exact .inr (.inr ⟨rfl, rfl, rfl, rfl⟩)
  | applyPending orgId =>
    obtain ⟨_, _, _, _, _, ⟨_, rfl⟩ | ⟨_, rfl⟩⟩ := leaves <;> exact .inr (.inr ⟨rfl, rfl, rfl, rfl⟩)
  | grantCredit call => exact .inl ⟨call, rfl⟩
  | revertExpired orgId => exact .inr (.inl ⟨orgId, rfl⟩)

theorem grants_kept {errand : Errand} (leaves : errand.Leaves tokens before after) (other : ∀ call, errand ≠ .grantCredit call) :
    after.grants = before.grants := by
  rcases errand_unmoved leaves with ⟨call, rfl⟩ | ⟨orgId, rfl⟩ | unmoved
  · exact absurd rfl (other call)
  · obtain ⟨grant, _, _, rfl⟩ := leaves
    rcases revert_grant_spec before before.now grant with same | ⟨_, _, _, _, _, grants, _⟩
    · rw [same]
    · exact grants
  · exact unmoved.grants

theorem errand_tables {errand : Errand} (leaves : errand.Leaves tokens before after) :
    after.now = before.now ∧ after.offerings = before.offerings := by
  rcases errand_unmoved leaves with ⟨call, rfl⟩ | ⟨orgId, rfl⟩ | unmoved
  · rw [show after = before.grantCredit call from leaves]
    exact ⟨(grant_made before call).1, (grant_made before call).2.1⟩
  · obtain ⟨grant, _, _, rfl⟩ := leaves
    rcases revert_grant_spec before before.now grant with same | ⟨_, _, _, now, offerings, _⟩
    · rw [same]
      exact ⟨rfl, rfl⟩
    · exact ⟨now, offerings⟩
  · exact ⟨unmoved.now, unmoved.offerings⟩

theorem errand_grants {errand : Errand} (leaves : errand.Leaves tokens before after) :
    after.grants = before.grants ∨ ∃ grant, after.grants = before.grants ++ [grant] ∧ grant.id = before.grants.length ∧
      grant.ts = before.now ∧ grant.prevTier.rank ≤ grant.targetTier.rank := by
  by_cases granting : ∃ call, errand = .grantCredit call
  · obtain ⟨call, rfl⟩ := granting
    rw [show after = before.grantCredit call from leaves]
    exact (grant_made before call).2.2.2
  · exact .inl (grants_kept leaves fun call same => granting ⟨call, same⟩)

end Rows

theorem event_tables (store : Store) (event : ErrandEvent) :
    store.now ≤ (errandStep store event).now ∧ ∀ grant ∈ store.grants, grant ∈ (errandStep store event).grants := by
  cases event with
  | meanwhile surroundings => exact ⟨Nat.le_add_right _ _, fun _ member => member⟩
  | errand errand answers =>
    rcases errand_leaves errand answers store with same | leaves
    · rw [same]
      exact ⟨Nat.le_refl _, fun _ member => member⟩
    · refine ⟨Nat.le_of_eq (errand_tables leaves).1.symm, fun grant member => ?_⟩
      rcases errand_grants leaves with same | ⟨new, added, _⟩
      · rw [same]
        exact member
      · rw [added]
        exact List.mem_append_left _ member

end Sprintable.Billing
