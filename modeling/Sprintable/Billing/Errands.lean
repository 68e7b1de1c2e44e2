import Sprintable.Billing.Footprint
import Sprintable.Billing.Grants
import Sprintable.Billing.Reservations

/-! Everything that changes a subscription, as errands that run alone, one after the
other: the attempts at an order, the reservations, the grants, and one row of a
sweep at a time. -/

namespace Sprintable.Billing
open Interleave

inductive Errand where
  | attempt (attempt : Attempt)
  | reserveDowngrade (orgId : Uuid) (newTier : Tier)
  | cancelSubscription (orgId : Uuid)
  | cancelPendingDowngrade (orgId : Uuid)
  | applyPending (orgId : Uuid)
  | grantCredit (call : GrantCall)
  | revertExpired (orgId : Uuid)

/-- An errand of `sweep_pending_tier_downgrades` or of the grants' sweep takes its row as it is then. -/
def Errand.request : Errand → Request Unit
  | .attempt tried => tried.request
  | .reserveDowngrade orgId newTier => Billing.reserveDowngrade orgId newTier
  | .cancelSubscription orgId => Billing.cancelSubscription orgId
  | .cancelPendingDowngrade orgId => Billing.cancelPendingDowngrade orgId
  | .applyPending orgId => do
    let now ← Prog.read fun store => store.now
    let found ← Prog.read fun store => store.findSubscription orgId
    match found with
    | none => pure ()
    | some subscription => if subscription.changeDue now then applyPendingChange now subscription else pure ()
  | .grantCredit call => Prog.write fun store => store.grantCredit call
  | .revertExpired orgId => do
    let now ← Prog.read fun store => store.now
    let found ← Prog.read fun store => store.revertable.find? fun grant => grant.orgId = orgId
    match found with
    | none => pure ()
    | some grant => Prog.write fun store => store.revertGrant now grant

/-- What billing finds around it. The offering versions have a primary key. -/
structure Surroundings where
  elapsed : Nat
  billingKeys : List OrgBillingKey
  offerings : List OfferingVersion
  seats : List (Uuid × Nat)
  dunningGraceDays : Nat
  distinct : (offerings.map OfferingVersion.id).Nodup

/-- An errand with the answers it gets, which may end before it does, or time that
passes while the surroundings change. -/
inductive ErrandEvent where
  | errand (errand : Errand) (answers : List Answer)
  | meanwhile (surroundings : Surroundings)

def Store.surrounded (store : Store) (surroundings : Surroundings) : Store :=
  { store with
    now := store.now + surroundings.elapsed
    billingKeys := surroundings.billingKeys
    offerings := surroundings.offerings
    seats := surroundings.seats
    dunningGraceDays := surroundings.dunningGraceDays }

def errandStep (store : Store) : ErrandEvent → Store
  | .errand errand answers => (errand.request.execute answers store).2
  | .meanwhile surroundings => store.surrounded surroundings

def Store.opened (now : Nat) : Store := { now }

namespace OrgSubscription

def granted (row : OrgSubscription) (targetTier : Tier) (now periodEnd : Nat) : OrgSubscription :=
  { row with tier := targetTier, status := .active, currentPeriodStart := some now, currentPeriodEnd := some periodEnd }

def reverted (row : OrgSubscription) (prevTier : Tier) : OrgSubscription :=
  { row with tier := prevTier, status := .active, currentPeriodStart := none, currentPeriodEnd := none }

end OrgSubscription

/-- The reservation of a change to a lower tier, at the end of the period. -/
structure Reserves (orgId : Uuid) (newTier : Tier) (subscription : OrgSubscription) (offering : OfferingVersion)
    (before after : Store) : Prop where
  active : before.activePaidSub orgId = some subscription
  lower : newTier.rank < subscription.tier.rank
  offered : before.offeringOf newTier subscription.currency = some offering
  left : after = before.updateSubscription orgId fun row =>
    row.reserve newTier offering.id subscription.currentPeriodEnd

structure Falls (orgId : Uuid) (subscription : OrgSubscription) (newTier : Tier) (offeringVersionId : Uuid)
    (newOffering : OfferingVersion) (before : Store) : Prop where
  found : before.findSubscription orgId = some subscription
  due : subscription.changeDue before.now = true
  tier : subscription.pendingTier = some newTier
  onOffering : subscription.pendingOfferingVersionId = some offeringVersionId
  offered : before.findOffering offeringVersionId = some newOffering

/-- Whether the seats in use forbid the change; a cancellation does not ask. -/
def Store.overSeats (store : Store) (orgId : Uuid) (newTier : Tier) (newOffering : OfferingVersion) : Prop :=
  newTier ≠ .free ∧ newOffering.includedSeats < store.countHumanSeats orgId

def Errand.Leaves (tokens : Nat → Prop) (before after : Store) : Errand → Prop
  | .attempt tried => tried.Leaves tokens before after
  | .reserveDowngrade orgId newTier => ∃ subscription offering, Reserves orgId newTier subscription offering before after
  | .cancelSubscription orgId => ∃ subscription offering, Reserves orgId .free subscription offering before after
  | .cancelPendingDowngrade orgId => ∃ subscription, before.findSubscription orgId = some subscription ∧
      subscription.pendingChangeApplyAt.isSome ∧ after = before.updateSubscription orgId OrgSubscription.withdrawn
  | .applyPending orgId => ∃ subscription newTier offeringVersionId newOffering,
      Falls orgId subscription newTier offeringVersionId newOffering before ∧
        ((before.overSeats orgId newTier newOffering ∧ after = before.updateSubscription orgId OrgSubscription.withdrawn) ∨
          (¬ before.overSeats orgId newTier newOffering ∧ after = before.updateSubscription orgId fun row =>
            row.applyPending newTier offeringVersionId before.now subscription.billingCycle))
  | .grantCredit call => after = before.grantCredit call
  | .revertExpired orgId => ∃ grant, grant ∈ before.revertable ∧ grant.orgId = orgId ∧ after = before.revertGrant before.now grant

section Errands
variable {allowed : Answer → Prop} {start : Store} {orgId : Uuid}

theorem activePaidSub_found {subscription : OrgSubscription} (active : start.activePaidSub orgId = some subscription) :
    start.findSubscription orgId = some subscription ∧ subscription.activePaid = true ∧
      subscription.currentPeriodEnd.isSome = true := by
  obtain ⟨found, wanted⟩ := Option.filter_eq_some_iff.mp active
  simpa [found] using wanted

theorem active_paid_rank {subscription : OrgSubscription} (paid : subscription.activePaid = true) :
    Tier.free.rank < subscription.tier.rank := by
  unfold OrgSubscription.activePaid at paid
  cases tier : subscription.tier with
  | free => simp [tier, Tier.paid] at paid
  | starter | team | business => decide

theorem reserve_along {newTier : Tier} {subscription : OrgSubscription} {offering : OfferingVersion}
    (active : start.activePaidSub orgId = some subscription) (lower : newTier.rank < subscription.tier.rank)
    (offered : start.offeringOf newTier subscription.currency = some offering) :
    (reservePendingChange subscription newTier offering.id).Along allowed
      (fun after => after = start ∨ ∃ subscription offering, Reserves orgId newTier subscription offering start after)
      (fun _ _ => True) start := by
  have own : subscription.orgId = orgId := Keyed.find_key (activePaidSub_found active).1
  refine write_along (.inl rfl) (.inr ⟨subscription, offering, active, lower, offered, ?_⟩)
  rw [own]

theorem apply_pending_along :
    (Errand.applyPending orgId).request.Along allowed
      (fun after => after = start ∨ (Errand.applyPending orgId).Leaves (fun _ => True) start after)
      (fun _ _ => True) start := by
  refine Prog.Along.observe (.inl rfl) fun _ _ => Prog.Along.observe (.inl rfl) fun _ _ => ?_
  cases found : start.findSubscription orgId with
  | none => exact pure_along (.inl rfl)
  | some subscription =>
    dsimp only
    split
    next due =>
      have own : subscription.orgId = orgId := Keyed.find_key found
      subst own
      unfold applyPendingChange
      split
      next offeringVersionId newTier onOffering tier =>
        refine Prog.Along.observe (.inl rfl) fun _ _ => ?_
        cases offered : start.findOffering offeringVersionId with
        | none => exact pure_along (.inl rfl)
        | some newOffering =>
          have falls : Falls subscription.orgId subscription newTier offeringVersionId newOffering start :=
            ⟨found, due, tier, onOffering, offered⟩
          refine Prog.Along.observe (.inl rfl) fun _ _ => ?_
          have counted : (newTier ≠ .free ∧ newOffering.includedSeats <
              (if newTier = .free then 0 else start.countHumanSeats subscription.orgId)) ↔
              start.overSeats subscription.orgId newTier newOffering := by
            refine and_congr_right fun paid => ?_
            rw [if_neg paid]
          generalize (if newTier = .free then 0 else start.countHumanSeats subscription.orgId) = seats at counted ⊢
          split
          next beyond =>
            apply write_along
            · exact .inl rfl
            · exact .inr ⟨_, _, _, _, falls, .inl ⟨counted.mp beyond, rfl⟩⟩
          next fits =>
            apply write_along
            · exact .inl rfl
            · exact .inr ⟨_, _, _, _, falls, .inr ⟨fun beyond => fits (counted.mpr beyond), rfl⟩⟩
      next => exact pure_along (.inl rfl)
    next => exact pure_along (.inl rfl)

theorem errand_along (errand : Errand) :
    errand.request.Along allowed (fun after => after = start ∨
      errand.Leaves (fun token => ∃ answer, allowed answer ∧ answer.token = token) start after) (fun _ _ => True) start := by
  cases errand with
  | attempt tried => exact attempt_along tried
  | reserveDowngrade orgId newTier =>
    simp only [Errand.request, reserveDowngrade]
    split
    · exact pure_along (.inl rfl)
    refine Prog.Along.observe (.inl rfl) fun _ _ => ?_
    cases active : start.activePaidSub orgId with
    | none => exact pure_along (.inl rfl)
    | some subscription =>
      dsimp only
      split
      · exact pure_along (.inl rfl)
      next lower =>
        refine Prog.Along.observe (.inl rfl) fun _ _ => ?_
        cases offered : start.offeringOf newTier subscription.currency with
        | none => exact pure_along (.inl rfl)
        | some offering => exact reserve_along active (Nat.lt_of_not_le lower) offered
  | cancelSubscription orgId =>
    refine Prog.Along.observe (.inl rfl) fun _ _ => ?_
    cases active : start.activePaidSub orgId with
    | none => exact pure_along (.inl rfl)
    | some subscription =>
      refine Prog.Along.observe (.inl rfl) fun _ _ => ?_
      cases offered : start.offeringOf .free subscription.currency with
      | none => exact pure_along (.inl rfl)
      | some offering => exact reserve_along active (active_paid_rank (activePaidSub_found active).2.1) offered
  | cancelPendingDowngrade orgId =>
    refine Prog.Along.observe (.inl rfl) fun _ _ => ?_
    cases found : start.findSubscription orgId with
    | none => exact pure_along (.inl rfl)
    | some subscription =>
      dsimp only
      split
      · exact pure_along (.inl rfl)
      next reserved =>
        refine write_along (.inl rfl) (.inr ⟨subscription, found, ?_, rfl⟩)
        simpa [Option.isSome_iff_ne_none] using reserved
  | applyPending orgId => exact apply_pending_along
  | grantCredit call => exact write_along (.inl rfl) (.inr rfl)
  | revertExpired orgId =>
    refine Prog.Along.observe (.inl rfl) fun _ _ => Prog.Along.observe (.inl rfl) fun _ _ => ?_
    cases found : start.revertable.find? fun grant => grant.orgId = orgId with
    | none => exact pure_along (.inl rfl)
    | some grant =>
      refine write_along (.inl rfl) (.inr ⟨grant, List.mem_of_find?_eq_some found, ?_, rfl⟩)
      simpa using List.find?_some found

end Errands

theorem errand_leaves (errand : Errand) (answers : List Answer) (store : Store) :
    errandStep store (.errand errand answers) = store ∨
      errand.Leaves (fun token => ∃ answer ∈ answers, answer.token = token) store (errandStep store (.errand errand answers)) :=
  ((errand_along errand).execute fun _ listed => listed).1

end Sprintable.Billing
