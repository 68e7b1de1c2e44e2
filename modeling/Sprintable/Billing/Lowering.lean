import Sprintable.Billing.Downgrade
import Sprintable.Billing.Turns

/-! A reserved change only lowers the tier, as long as nothing else puts the
subscription below it in the meantime: no other operation looks at the reservation. -/

namespace Sprintable.Billing
open Interleave

/-- The store, with the end of the period that each organisation last made a
reservation in. -/
structure Reserving where
  store : Store
  reservedFor : Uuid → Option Nat := fun _ => none

def ErrandEvent.reserves : ErrandEvent → Uuid → Bool
  | .errand (.reserveDowngrade orgId _) _, other | .errand (.cancelSubscription orgId) _, other => orgId = other
  | _, _ => false

def reservingStep (state : Reserving) (event : ErrandEvent) : Reserving where
  store := errandStep state.store event
  reservedFor orgId :=
    if event.reserves orgId ∧ (errandStep state.store event).findSubscription orgId ≠ state.store.findSubscription orgId then
      (state.store.findSubscription orgId).bind OrgSubscription.currentPeriodEnd
    else state.reservedFor orgId

/-- Whether the end of dunning takes the subscription to free. -/
def Store.endsFree (store : Store) (order : BillingOrder) (subscription : OrgSubscription) : Bool :=
  nextDunningAction order store.now store.dunningGraceDays = .downgradeToFree &&
    !store.recovered order.orgId order && subscription.claimable store.now

/-- What else lowers a tier leaves no higher one reserved. -/
def Revalidated (store : Store) : ErrandEvent → Bool
  | .errand (.attempt (.dun orderId)) _ => (store.findOrder orderId).all fun order =>
      (store.findSubscription order.orgId).all fun subscription =>
        !store.endsFree order subscription || subscription.pendingTier.all fun newTier => newTier = .free
  | .errand (.attempt (.checkout orgId tier _)) _ => (store.findSubscription orgId).all fun subscription =>
      subscription.activePaid || !subscription.claimable store.now ||
        subscription.pendingTier.all fun newTier => newTier.rank ≤ tier.rank
  | .errand (.revertExpired orgId) _ => store.revertable.all fun grant =>
      grant.orgId ≠ orgId || store.now ≤ grant.grantExpiresAt || (store.findSubscription orgId).all fun subscription =>
        subscription.tier ≠ grant.targetTier || subscription.pendingTier.all fun newTier => newTier.rank ≤ grant.prevTier.rank
  | _ => true

/-- The sweep puts the subscription on the tier that is reserved. -/
def Applies (orgId : Uuid) (subscription : OrgSubscription) (newTier : Tier) (before after : Store) : Prop :=
  before.findSubscription orgId = some subscription ∧ subscription.pendingTier = some newTier ∧
    ∃ offeringVersionId, after.findSubscription orgId =
      some (subscription.applyPending newTier offeringVersionId before.now subscription.billingCycle)

/-- The new tier is not above the old one, and the period of the reservation is over. -/
def AppliesLower (state : Reserving) (event : ErrandEvent) : Prop :=
  ∀ orgId answers, event = .errand (.applyPending orgId) answers → ∀ subscription newTier,
    Applies orgId subscription newTier state.store (errandStep state.store event) →
    newTier.rank ≤ subscription.tier.rank ∧ ∃ periodEnd, state.reservedFor orgId = some periodEnd ∧ periodEnd ≤ state.store.now

/-- A reservation is below the tier, and for the end of the period it was made in. -/
structure Lowers (reservedFor : Option Nat) (subscription : OrgSubscription) : Prop where
  lower : ∀ newTier, subscription.pendingTier = some newTier → newTier.rank ≤ subscription.tier.rank
  dated : ∀ applyAt, subscription.pendingChangeApplyAt = some applyAt → reservedFor = some applyAt

def Lowering (state : Reserving) : Prop :=
  ∀ orgId subscription, state.store.findSubscription orgId = some subscription → Lowers (state.reservedFor orgId) subscription

section Lowering
variable {state : Reserving} {orgId : Uuid} {reservedFor : Option Nat} {subscription row : OrgSubscription}

theorem Lowers.raised (lowers : Lowers reservedFor subscription) (tier : row.pendingTier = subscription.pendingTier)
    (applyAt : row.pendingChangeApplyAt = subscription.pendingChangeApplyAt) (raised : subscription.tier.rank ≤ row.tier.rank) :
    Lowers reservedFor row := by
  refine ⟨fun newTier reserved => ?_, fun date reserved => lowers.dated date (applyAt.symm.trans reserved)⟩
  exact Nat.le_trans (lowers.lower newTier (tier.symm.trans reserved)) raised

theorem Lowers.lowered (lowers : Lowers reservedFor subscription) (tier : row.pendingTier = subscription.pendingTier)
    (applyAt : row.pendingChangeApplyAt = subscription.pendingChangeApplyAt)
    (above : subscription.pendingTier.all (fun newTier => newTier.rank ≤ row.tier.rank) = true) :
    Lowers reservedFor row := by
  refine ⟨fun newTier reserved => ?_, fun date reserved => lowers.dated date (applyAt.symm.trans reserved)⟩
  rw [← tier, reserved] at above
  simpa using above

theorem lowers_unreserved (tier : row.pendingTier = none) (applyAt : row.pendingChangeApplyAt = none) : Lowers reservedFor row := by
  refine ⟨fun newTier reserved => ?_, fun date reserved => ?_⟩
  · rw [tier] at reserved
    cases reserved
  · rw [applyAt] at reserved
    cases reserved

theorem reservedFor_kept {event : ErrandEvent}
    (same : event.reserves orgId = true →
      (errandStep state.store event).findSubscription orgId = state.store.findSubscription orgId) :
    (reservingStep state event).reservedFor orgId = state.reservedFor orgId := by
  apply if_neg
  rintro ⟨reserves, moved⟩
  exact moved (same reserves)

theorem unrecorded {event : ErrandEvent} (other : event.reserves orgId = false) :
    (reservingStep state event).reservedFor orgId = state.reservedFor orgId := by
  apply reservedFor_kept
  rw [other]
  exact fun reserves => absurd reserves Bool.false_ne_true

theorem Lowering.rowOf (lowering : Lowering state) (orgId : Uuid) : Lowers (state.reservedFor orgId) (state.store.rowOf orgId) := by
  unfold Store.rowOf
  cases found : state.store.findSubscription orgId with
  | none => exact lowers_unreserved rfl rfl
  | some subscription => exact lowering orgId subscription found

theorem checkout_above {tier : Tier} {billingCycle : BillingCycle} {offering : OfferingVersion} {answers : List Answer} {after : Store}
    (lowering : Lowering state) (left : CheckedOut orgId tier billingCycle offering state.store after)
    (sound : Revalidated state.store (.errand (.attempt (.checkout orgId tier billingCycle)) answers) = true) :
    (state.store.rowOf orgId).pendingTier.all (fun newTier => newTier.rank ≤ tier.rank) = true := by
  unfold Store.rowOf
  cases found : state.store.findSubscription orgId with
  | none => rfl
  | some subscription =>
    obtain ⟨claimable, owned⟩ := left.claimable subscription found
    rw [Revalidated, found] at sound
    cases active : subscription.activePaid with
    | true =>
      rw [← (owned active).1, Option.getD_some, Option.all_eq_true]
      intro newTier reserved
      exact decide_eq_true ((lowering orgId subscription found).lower newTier reserved)
    | false => simpa [active, claimable] using sound

theorem Lowering.errand (lowering : Lowering state) {errand : Errand} {answers : List Answer} {tokens : Nat → Prop}
    (sound : Revalidated state.store (.errand errand answers) = true)
    (turn : Turn tokens state.store (errandStep state.store (.errand errand answers)) orgId errand)
    (found : (errandStep state.store (.errand errand answers)).findSubscription orgId = some row) :
    Lowers ((reservingStep state (.errand errand answers)).reservedFor orgId) row := by
  cases turn with
  | kept _ same =>
    rw [reservedFor_kept fun _ => same]
    exact lowering orgId row (same.symm.trans found)
  | checkedOut left =>
    rw [unrecorded rfl]
    have above := checkout_above lowering left sound
    obtain ⟨claim, pending | ⟨active, _⟩⟩ := left.row
    · rw [Option.some.inj (found.symm.trans pending)]
      exact (lowering.rowOf orgId).lowered rfl rfl above
    · rw [Option.some.inj (found.symm.trans active)]
      exact (lowering.rowOf orgId).lowered rfl rfl above
  | tierChanged left =>
    rw [unrecorded rfl]
    have lowers := lowering orgId _ left.found
    have raises := tier_change_raises left.offered
    obtain ⟨claim, ⟨same, _⟩ | ⟨token, computed, _, _, _, same | ⟨upgraded, _⟩⟩⟩ := left.row
    · rw [Option.some.inj (found.symm.trans same)]
      exact lowers.raised rfl rfl (Nat.le_refl _)
    · rw [Option.some.inj (found.symm.trans same)]
      exact lowers.raised rfl rfl (Nat.le_refl _)
    · rw [Option.some.inj (found.symm.trans upgraded)]
      exact lowers.raised rfl rfl (Nat.le_of_lt raises)
  | renewed own left =>
    subst own
    rw [unrecorded rfl]
    have lowers := lowering _ _ left.found
    obtain same | ⟨rolled, _⟩ | lapsed := left.row
    · rw [Option.some.inj (found.symm.trans same)]
      exact lowers
    · rw [Option.some.inj (found.symm.trans rolled)]
      exact lowers.raised rfl rfl (Nat.le_refl _)
    · rw [Option.some.inj (found.symm.trans lapsed)]
      exact lowers.raised rfl rfl (Nat.le_refl _)
  | retried own left =>
    subst own
    rw [unrecorded rfl]
    obtain same | ⟨_, subscription, there, ⟨periodEnd, billingCycle, _, _, _, rolled⟩ | lapsed⟩ := left.row
    · exact lowering _ row (same.symm.trans found)
    · rw [Option.some.inj (found.symm.trans rolled)]
      exact (lowering _ _ there).raised rfl rfl (Nat.le_refl _)
    · rw [Option.some.inj (found.symm.trans lapsed)]
      exact (lowering _ _ there).raised rfl rfl (Nat.le_refl _)
  | freed own left unrecovered there claimable freed =>
    subst own
    rw [unrecorded rfl, Option.some.inj (found.symm.trans freed)]
    refine (lowering _ _ there).lowered rfl rfl ?_
    simp only [Revalidated, left.found, there, Option.all_some, Store.endsFree, left.beyond, unrecovered, claimable] at sound
    rw [Option.all_eq_true]
    intro newTier reserved
    have free : newTier = .free := by simpa [reserved] using sound
    rw [free]
    rfl
  | enrolled own missing enrolled =>
    rw [Option.some.inj (found.symm.trans enrolled)]
    exact lowers_unreserved rfl rfl
  | @reserved _ newTier subscription offering request left changed =>
    obtain ⟨there, _, _⟩ := activePaidSub_found left.active
    rw [Option.some.inj (found.symm.trans changed)]
    refine ⟨fun tier reserved => ?_, fun applyAt reserved => ?_⟩
    · cases reserved
      exact Nat.le_of_lt left.lower
    · have ends : subscription.currentPeriodEnd = some applyAt := reserved
      by_cases moved : (errandStep state.store (.errand errand answers)).findSubscription orgId = state.store.findSubscription orgId
      · rw [reservedFor_kept fun _ => moved]
        rw [changed, there] at moved
        refine (lowering orgId subscription there).dated applyAt ?_
        rw [← Option.some.inj moved]
        exact ends
      · have reserves : (ErrandEvent.errand errand answers).reserves orgId = true := by
          rcases request with rfl | ⟨rfl, _⟩ <;> exact decide_eq_true rfl
        refine (if_pos ⟨reserves, moved⟩).trans ?_
        rw [there]
        exact ends
  | withdrawn there reserved withdrawn =>
    rw [Option.some.inj (found.symm.trans withdrawn)]
    exact lowers_unreserved rfl rfl
  | overSeats falls beyond withdrawn =>
    rw [Option.some.inj (found.symm.trans withdrawn)]
    exact lowers_unreserved rfl rfl
  | applied falls fits applied =>
    obtain ⟨tier, applyAt⟩ := applied_unreserved _ _ _ _ _
    rw [Option.some.inj (found.symm.trans applied)]
    exact lowers_unreserved tier applyAt
  | granted own there higher _ granted recorded =>
    rw [unrecorded rfl, Option.some.inj (found.symm.trans granted)]
    rcases there with there | ⟨_, rfl⟩
    · exact (lowering orgId _ there).raised rfl rfl higher
    · exact lowers_unreserved rfl rfl
  | @reverted grant subscription revertable own expired there unchanged reverted spent =>
    subst own
    rw [unrecorded rfl, Option.some.inj (found.symm.trans reverted)]
    rw [Revalidated, List.all_eq_true] at sound
    have late : ¬ state.store.now ≤ grant.grantExpiresAt := by omega
    have above : subscription.pendingTier.all (fun newTier => newTier.rank ≤ grant.prevTier.rank) = true := by
      simpa [there, unchanged, late] using sound grant revertable
    exact (lowering _ _ there).lowered rfl rfl above

theorem Lowering.step (lowering : Lowering state) {event : ErrandEvent} (sound : Revalidated state.store event = true) :
    Lowering (reservingStep state event) := by
  intro orgId row found
  cases event with
  | meanwhile surroundings =>
    rw [unrecorded rfl]
    exact lowering orgId row found
  | errand errand answers =>
    rcases errand_leaves errand answers state.store with same | leaves
    · have kept : (errandStep state.store (.errand errand answers)).findSubscription orgId = state.store.findSubscription orgId := by
        rw [same]
      exact lowering.errand sound (.kept (.inr same) kept : Turn (fun _ => True) _ _ _ _) found
    · exact lowering.errand sound (errand_turn leaves orgId) found

end Lowering

/-- When the sweep applies a reserved change, it lowers the tier, at the end of the
period that the change was reserved in. -/
theorem reserved_change_lowers (now : Nat) (events : List ErrandEvent)
    (sound : Runs.Throughout reservingStep (fun state event => Revalidated state.store event = true)
      { store := .opened now } events) :
    Runs.Throughout reservingStep AppliesLower { store := .opened now } events := by
  have initial : Lowering { store := .opened now } := by
    intro orgId subscription found
    cases found
  refine sound.carry (fun _ _ sound lowering => lowering.step sound) initial ?_
  rintro state event - lowering orgId answers rfl subscription newTier ⟨found, tier, offeringVersionId, row⟩
  have lowers := lowering orgId subscription found
  refine ⟨lowers.lower newTier tier, ?_⟩
  rcases errand_leaves (.applyPending orgId) answers state.store with same | leaves
  · rw [same, found] at row
    have unreserved := (applied_unreserved subscription newTier offeringVersionId state.store.now subscription.billingCycle).1
    rw [← Option.some.inj row, tier] at unreserved
    cases unreserved
  · obtain ⟨other, _, _, _, falls, _⟩ := leaves
    have due := falls.due
    rw [Option.some.inj (falls.found.symm.trans found), OrgSubscription.changeDue, Option.any_eq_true] at due
    obtain ⟨applyAt, reserved, past⟩ := due
    exact ⟨applyAt, lowers.dated applyAt reserved, of_decide_eq_true past⟩

section Scenarios

/-- The card and the offering versions of one organisation, some days later. -/
def market (days : Nat) : Surroundings where
  elapsed := days * Calendar.microsPerDay
  billingKeys := [⟨1, true, some 0⟩]
  offerings := [
    { id := 6, tier := .free, currency := .krw, monthlyPriceMinor := 0, annualPriceMinor := 0, includedSeats := 2 },
    { id := 7, tier := .starter, currency := .krw, monthlyPriceMinor := 9900, annualPriceMinor := 99000, includedSeats := 5 },
    { id := 8, tier := .team, currency := .krw, monthlyPriceMinor := 29900, annualPriceMinor := 299000, includedSeats := 20
      packCatalog := [("stt_minutes", ⟨1000, none, "minutes"⟩)] }]
  seats := [(1, 3)]
  dunningGraceDays := 7
  distinct := by decide

def daysPass (days : Nat) : ErrandEvent := .meanwhile (market days)

/-- An errand with one answer for all its actions. -/
def runErrand (errand : Errand) (answer : Answer) : ErrandEvent := .errand errand (List.replicate 20 answer)

/-- A reservation for the end of a month. -/
def teamToStarter : List ErrandEvent :=
  [daysPass 0, runErrand (.attempt (.checkout 1 .team .monthly)) {}, runErrand (.reserveDowngrade 1 .starter) {}]

/-- A declined pack order ends the subscription, and the reservation brings it back. -/
def freedBeforeChange : List ErrandEvent :=
  [runErrand (.attempt (.purchasePacks 1 "stt_minutes" 1 "k")) declined, daysPass 8,
    runErrand (.attempt (.dun (.pack 1 "stt_minutes" "k"))) {}, daysPass 30]

/-- Free for weeks, the organisation is put on the tier that it had reserved. -/
theorem stale_reservation_raises :
    ¬ Runs.Throughout reservingStep AppliesLower { store := .opened noon }
      (teamToStarter ++ freedBeforeChange ++ [runErrand (.applyPending 1) {}]) := by
  rw [Runs.Throughout.append]
  rintro ⟨_, applies, _⟩
  generalize finished : Runs.final reservingStep { store := .opened noon } (teamToStarter ++ freedBeforeChange) = state at applies
  have tiers : (state.store.findSubscription 1).map (fun subscription => (subscription.tier, subscription.pendingTier)) =
      some (.free, some .starter) := by
    rw [← finished]
    decide +kernel
  have lands : (errandStep state.store (runErrand (.applyPending 1) {})).findSubscription 1 =
      (state.store.findSubscription 1).map fun subscription =>
        subscription.applyPending .starter 7 state.store.now subscription.billingCycle := by
    rw [← finished]
    decide +kernel
  obtain ⟨subscription, found, row⟩ := Option.map_eq_some_iff.mp tiers
  rw [found, Option.map_some] at lands
  obtain ⟨tier, reserved⟩ := Prod.mk.inj row
  have lower := (applies 1 _ rfl subscription .starter ⟨found, reserved, 7, lands⟩).1
  rw [tier] at lower
  exact absurd lower (by decide)

theorem reserved_change_lowers_in_time :
    Runs.Throughout reservingStep AppliesLower { store := .opened noon }
      (teamToStarter ++ [daysPass 40, runErrand (.applyPending 1) {}]) := by
  apply reserved_change_lowers
  decide +kernel

end Scenarios

end Sprintable.Billing
