import Sprintable.Billing.Agreement

/-! When the dunning sweep gives a paid-up organisation up. The signs of recovery that it
looks for compare when orders were made, not when they were confirmed. -/

namespace Sprintable.Billing
open Interleave

/-- The order is for the period that the subscription is in: its id names the period's
first day, or it changed the subscription to the offering that it is on. -/
def OrderId.pays (subscription : OrgSubscription) : OrderId → Bool
  | .renewal orgId _ periodEnd =>
    orgId = subscription.orgId && subscription.currentPeriodStart.any fun start => Calendar.date start = periodEnd
  | .checkout orgId offeringVersionId today =>
    orgId = subscription.orgId && subscription.offeringVersionId = some offeringVersionId &&
      subscription.currentPeriodStart.any fun start => Calendar.date start = today
  | .tierChange orgId offeringVersionId _ =>
    orgId = subscription.orgId && subscription.offeringVersionId = some offeringVersionId
  | .pack .. => false

/-- A confirmed order has paid for the current period, and the failed order is older: it was
made before that one was confirmed. A confirmed order is not updated again. -/
def PaidSince (subscription : OrgSubscription) (orders : List BillingOrder) (failed : BillingOrder) : Prop :=
  subscription.activePaid = true ∧ ∃ paying ∈ orders, paying.status = .confirmed ∧
    paying.orderId.pays subscription = true ∧ failed.createdAt < paying.updatedAt

/-- A downgrade leaves the subscription of a paid-up organisation as it is. -/
def Note.sparesPaidUp : Note → Prop
  | .downgrade _ failed _ orders (some before) after => PaidSince before orders failed → Kept before after
  | _ => True

/-- A sign that the organisation pays again stood when the downgrade looked for it: a confirmed
order made after the failed one, a card issued after it, or a live claim of a checkout, which its
write looks for once more. -/
def Recovering (orgId : Uuid) (failed : BillingOrder) (seen : Seen) (subscription : OrgSubscription) : Prop :=
  (∃ newer ∈ seen.orders, newer.orgId = orgId ∧ newer.status = .confirmed ∧ failed.createdAt < newer.createdAt) ∨
    (∃ key ∈ seen.billingKeys, key.orgId = orgId ∧ key.active = true ∧
      ∃ issued, key.issuedAt = some issued ∧ failed.createdAt < issued) ∨
    ∃ claimed, (subscription.checkoutClaimedAt = some claimed ∨
        ∃ row ∈ seen.subscriptions, row.orgId = orgId ∧ row.checkoutClaimedAt = some claimed) ∧
      seen.now ≤ claimed + staleClaimWindow

/-- The paid-up organisation of a downgrade shows a sign that it pays again. -/
def Note.meetsRecovering : Note → Prop
  | .downgrade orgId failed seen orders (some before) _ => PaidSince before orders failed → Recovering orgId failed seen before
  | _ => True

theorem held_iff {subscription : OrgSubscription} {now : Nat} :
    subscription.claimable now = false ↔
      ∃ claimed, subscription.checkoutClaimedAt = some claimed ∧ now ≤ claimed + staleClaimWindow := by
  cases claimed : subscription.checkoutClaimedAt with
  | none =>
    rw [OrgSubscription.claimable, claimed]
    constructor
    · intro unclaimable
      cases unclaimable
    · rintro ⟨_, same, _⟩
      cases same
  | some instant =>
    rw [OrgSubscription.claimable, claimed, Option.all_some, decide_eq_false_iff_not, Nat.not_lt]
    constructor
    · exact fun live => ⟨instant, rfl, live⟩
    · rintro ⟨_, same, live⟩
      cases same
      exact live

theorem recovering_iff {orgId : Uuid} {failed : BillingOrder} {seen : Seen} {subscription : OrgSubscription} :
    seen.recovered orgId failed = true ∨ subscription.claimable seen.now = false ↔
      Recovering orgId failed seen subscription := by
  rw [held_iff]
  simp only [Seen.recovered, Seen.hasNewerConfirmedOrder, Seen.hasNewlyIssuedBillingKey, Seen.hasActiveCheckoutClaim,
    Recovering, Bool.or_eq_true, List.any_eq_true, Bool.and_eq_true, decide_eq_true_eq, Option.any_eq_true]
  constructor
  · rintro (((⟨newer, listed, ⟨own, confirmed⟩, later⟩ | ⟨key, listed, ⟨own, active⟩, issued, dated, later⟩) |
      ⟨row, listed, own, claimed, dated, live⟩) | ⟨claimed, dated, live⟩)
    · exact .inl ⟨newer, listed, own, confirmed, later⟩
    · exact .inr (.inl ⟨key, listed, own, active, issued, dated, later⟩)
    · exact .inr (.inr ⟨claimed, .inr ⟨row, listed, own, dated⟩, live⟩)
    · exact .inr (.inr ⟨claimed, .inl dated, live⟩)
  · rintro (⟨newer, listed, own, confirmed, later⟩ | ⟨key, listed, own, active, issued, dated, later⟩ |
      ⟨claimed, dated | ⟨row, listed, own, dated⟩, live⟩)
    · exact .inl (.inl (.inl ⟨newer, listed, ⟨own, confirmed⟩, later⟩))
    · exact .inl (.inl (.inr ⟨key, listed, ⟨own, active⟩, issued, dated, later⟩))
    · exact .inr ⟨claimed, dated, live⟩
    · exact .inl (.inr ⟨row, listed, own, claimed, dated, live⟩)

/-- In every run of overlapping requests, sweeps and crashes, the downgrades leave every paid-up
organisation alone exactly if each of them sees a newer confirmed order, a newer card or a claim. -/
theorem downgrade_spares_iff_recovered (tables : Tables) (events : List BillingEvent) :
    (∀ note ∈ (ran tables events).history, note.sparesPaidUp) ↔ ∀ note ∈ (ran tables events).history, note.meetsRecovering := by
  refine forall₂_congr fun note listed => ?_
  have sparing := (ran_consistent tables events).spared note listed
  cases note with
  | reclaimed orderId asked stored => exact Iff.rfl
  | rolled orgId orderId => exact Iff.rfl
  | downgrade orgId failed seen orders before after =>
    cases before with
    | none => exact Iff.rfl
    | some before => exact imp_congr_right fun paid => (sparing paid.1).trans recovering_iff

section Scenarios

instance decidableKept (before : OrgSubscription) : (after : Option OrgSubscription) → Decidable (Kept before after)
  | none => .isFalse id
  | some _ => inferInstanceAs (Decidable (_ ∧ _ ∧ _ ∧ _))

instance decidablePaidSince (subscription : OrgSubscription) (orders : List BillingOrder) (failed : BillingOrder) :
    Decidable (PaidSince subscription orders failed) :=
  inferInstanceAs (Decidable (_ ∧ ∃ paying ∈ orders, _ ∧ _ ∧ _))

instance decidableSparesPaidUp : (note : Note) → Decidable note.sparesPaidUp
  | .downgrade _ failed _ orders (some before) after =>
    inferInstanceAs (Decidable (PaidSince before orders failed → Kept before after))
  | .downgrade _ _ _ _ none _ | .reclaimed .. | .rolled .. => .isTrue True.intro

def declined : Answer := { charge := .declined "REJECT_CARD_PAYMENT" }

def afterDays (days : Nat) : BillingEvent :=
  .outside fun tables => { tables with now := tables.now + days * Calendar.microsPerDay }

def afterSeconds (count : Nat) : BillingEvent :=
  .outside fun tables => { tables with now := tables.now + seconds count }

/-- While the renewal waits for the provider, a pack purchase is declined. The
renewal is confirmed, and the pack order fails on each day of grace. -/
def renewalThenPack : List BillingEvent :=
  [afterDays 1, .start .triggerDueCharges] ++ List.replicate 4 (.run 0 {}) ++
    afterSeconds 30 :: alone 1 (.purchasePacks 1 "stt_minutes" 1 "k") 8 declined ++
    afterSeconds 1 :: List.replicate 8 (.run 0 {}) ++
    (List.range 7).flatMap fun day => afterDays 1 :: alone (day + 2) .sweepDunningRetries 10 declined

/-- The eighth day's sweep. -/
def lastSweep : List BillingEvent := afterDays 1 :: alone 9 .sweepDunningRetries 11 {}

/-- The renewal that paid for the current period was confirmed after the pack order had failed,
and the sweep takes the organisation to free all the same. -/
theorem paid_up_organisation_downgraded :
    (ran subscribed (renewalThenPack ++ lastSweep)).subscriptions.map OrgSubscription.tier = [.free] ∧
      ¬ ∀ note ∈ (ran subscribed (renewalThenPack ++ lastSweep)).history, note.sparesPaidUp := by
  constructor
  · decide +kernel
  · decide +kernel

end Scenarios

end Sprintable.Billing
