import Sprintable.Boosts.Toggles

/-! The chain of the spend captures. Each capture leaves the next one behind, so a
boost that spends always has a capture that waits or one under way that will leave one.
A capture is the only link: when it is lost, nothing starts the chain again. -/

namespace Sprintable.Boosts

open Gates (GateStatus)

/-- The run is on, below its cap, and its spend can be read. -/
def BoostRun.spends (run : BoostRun) : Bool :=
  run.status == .running && run.capReachedAt.isNone && run.spendBlockedAt.isNone

namespace Desk
variable (desk : Desk)

def spends : Bool := desk.run.any BoostRun.spends

def dayLeft (clock : Nat) : Bool := desk.gate.sealedAds.any fun seal_ => decide (clock + hours 24 ≤ seal_.endsAt)

/-- The spend of the boost must go on being captured. -/
def needsCapture (clock : Nat) : Bool := desk.spends && desk.dayLeft clock

def captureWaits : Bool := desk.snapshots.any fun row => row.paid && row.status == .pending

/-- A capture that is inserted for this time would be there. -/
def dueFree (dueAt : Nat) : Bool := desk.snapshots.all fun row => row.dueAt != dueAt || (row.paid && row.status == .pending)

end Desk

/-- The capture will schedule the next one, or stop the boost. -/
def Capture.carries (capture : Capture) : Bool :=
  !capture.dead && capture.snapshotId.isSome &&
    match capture.stage with
    | .claimed | .notStarted | .failedRead | .blocking _ => true
    | .resolved | .reading | .captured | .scheduling =>
      capture.run.spends && capture.gate.sealedAds.any fun seal_ => decide (capture.dueAt + recurringSnapshotInterval ≤ seal_.endsAt)
    | .capFollow _ | .blockFollow => false

namespace Boost
variable (boost : Boost)

/-- Without this capture nothing would capture the spend again. -/
def lastLink (capture : Capture) (clock : Nat) : Bool :=
  boost.needsCapture clock && capture.carries && !boost.captureWaits &&
    !boost.captures.any fun other => other.id != capture.id && other.carries

/-- The time for which a stage of a capture schedules the next one, if it does. -/
def nextDue (capture : Capture) : Option Nat :=
  match capture.stage with
  | .scheduling => some (capture.dueAt + recurringSnapshotInterval)
  | .notStarted => some (capture.now + spendReadRetryBackoff 1)
  | .failedRead =>
    if spendReadFailuresBeforeStop ≤ boost.consecutiveFailures then none
    else some (capture.now + spendReadRetryBackoff boost.consecutiveFailures)
  | _ => none

end Boost

/-- A boost and the time of its latest event. -/
structure Timed where
  boost : Boost
  clock : Nat := 0

def Event.now : Event → Nat
  | .requestBoost _ _ now | .moveGate _ _ now | .start _ now | .scheduledStart now | .pause _ _ now | .resume _ _ now
  | .cancel _ _ now | .finishCancel now | .pauseLeft _ now | .captureAfterFailedPause _ now | .claim _ now | .recover _ now
  | .claimCapture _ now | .refreshSpend _ now => now
  | _ => 0

namespace Timed
variable (timed : Timed)

def step (timed : Timed) (event : Event) : Timed where
  boost := timed.boost.step event
  clock := max timed.clock event.now

/-- No link of the chain is lost: a capture that is the last link neither crashes nor
fails in what follows its failure, finds the time of the next one free, and a boost
that comes to need captures (a start or a resume that is acknowledged, a longer period)
gets one. -/
def keepsChain (event : Event) : Bool :=
  let boost := timed.boost
  let clock := max timed.clock event.now
  match event with
  | .crashCapture id => (boost.capture? id).all fun capture => capture.dead || !boost.lastLink capture clock
  | .escapeCapture id _ =>
    (boost.capture? id).all fun capture => capture.dead ||
      match capture.stage with
      | .notStarted | .failedRead | .blocking _ => !boost.lastLink capture clock
      | _ => true
  | .advanceCapture id _ =>
    (boost.capture? id).all fun capture => capture.dead || !boost.lastLink capture clock || (boost.nextDue capture).all boost.dueFree
  | .advance id _ =>
    (boost.job? id).all fun job => job.dead ||
      match job.stage with
      | .switchAnswer .acknowledged =>
        job.operation == .pause || boost.needsCapture clock || boost.captureWaits ||
          !(boost.run.any fun run => run.capReachedAt.isNone && run.spendBlockedAt.isNone) || !boost.dayLeft clock ||
          (decide (job.now + hours 24 ≤ job.terms.endsAt) && boost.dueFree (job.now + hours 24))
      | _ => true
  | .requestBoost terms _ now =>
    !boost.spends || boost.needsCapture clock || boost.captureWaits || decide (terms.endsAt < clock + hours 24) ||
      (boost.gate.status == .approved && boost.run.any BoostRun.live && boost.dueFree now)
  | _ => true

/-- Whenever no capture is under way, a boost that needs captures has one that waits. -/
def ChainHolds : Prop :=
  (∀ capture ∈ timed.boost.captures, capture.dead = true) → timed.boost.needsCapture timed.clock = true →
    timed.boost.captureWaits = true

end Timed

/-- What requests do to the snapshots: none that waits is lost, and a row waits only if
it waited before or is new. -/
structure Grown (old new : List Snapshot) : Prop where
  numbered : new.map Snapshot.id = List.range new.length
  longer : old.length ≤ new.length
  waits : (old.any fun row => row.paid && row.status == .pending) = true → (new.any fun row => row.paid && row.status == .pending) = true
  pending : ∀ row ∈ new, row.status = .pending → old.length ≤ row.id ∨ ∃ earlier ∈ old, earlier.id = row.id ∧ earlier.status = .pending

namespace Grown
variable {old new : List Snapshot}

theorem refl (numbered : old.map Snapshot.id = List.range old.length) : Grown old old :=
  ⟨numbered, Nat.le_refl _, id, fun row member waits => .inr ⟨row, member, rfl, waits⟩⟩

theorem trans {last : List Snapshot} (earlier : Grown old new) (later : Grown new last) : Grown old last where
  numbered := later.numbered
  longer := Nat.le_trans earlier.longer later.longer
  waits := later.waits ∘ earlier.waits
  pending row member waits := by
    rcases later.pending row member waits with fresh | ⟨middle, present, name, also⟩
    · exact .inl (Nat.le_trans earlier.longer fresh)
    · rcases earlier.pending middle present also with fresh | ⟨first, existing, same, pending⟩
      · exact .inl (name ▸ fresh)
      · exact .inr ⟨first, existing, same.trans name, pending⟩

theorem append (numbered : old.map Snapshot.id = List.range old.length) {row : Snapshot} (name : row.id = old.length) :
    Grown old (old ++ [row]) where
  numbered := by
    rw [List.map_append, List.map_singleton, numbered, name, List.length_append, List.length_singleton, List.range_succ]
  longer := by
    rw [List.length_append]
    exact Nat.le_add_right _ _
  waits waiting := by
    rw [List.any_append, waiting, Bool.true_or]
  pending other member waits := by
    rcases List.mem_append.mp member with before | new
    · exact .inr ⟨other, before, rfl, waits⟩
    · rw [List.mem_singleton.mp new, name]
      exact .inl (Nat.le_refl _)

theorem modify (numbered : old.map Snapshot.id = List.range old.length) (id : Nat) {change : Snapshot → Snapshot}
    (name : ∀ row, (change row).id = row.id) (paid : ∀ row, (change row).paid = row.paid)
    (status : ∀ row, (change row).status = row.status) : Grown old (Keyed.modify Snapshot.id old id change) where
  numbered := by
    rw [Keyed.map_key_modify old id name, numbered]
    exact congrArg List.range (List.length_map _).symm
  longer := Nat.le_of_eq (List.length_map _).symm
  waits waiting := by
    obtain ⟨row, member, waits⟩ := List.any_eq_true.mp waiting
    refine List.any_eq_true.mpr ⟨_, List.mem_map_of_mem member, ?_⟩
    split
    · rw [paid, status]
      exact waits
    · exact waits
  pending row member waits := by
    obtain ⟨earlier, present, rfl⟩ := List.mem_map.mp member
    right
    refine ⟨earlier, present, ?_⟩
    by_cases own : earlier.id = id
    · rw [if_pos own] at waits ⊢
      exact ⟨(name earlier).symm, (status earlier).symm.trans waits⟩
    · rw [if_neg own] at waits ⊢
      exact ⟨rfl, waits⟩

theorem close (numbered : old.map Snapshot.id = List.range old.length) {id : Nat} (taken : ∀ row ∈ old, row.id = id → row.status ≠ .pending)
    {change : Snapshot → Snapshot} (name : ∀ row, (change row).id = row.id) (closed : ∀ row, (change row).status ≠ .pending) :
    Grown old (Keyed.modify Snapshot.id old id change) where
  numbered := by
    rw [Keyed.map_key_modify old id name, numbered]
    exact congrArg List.range (List.length_map _).symm
  longer := Nat.le_of_eq (List.length_map _).symm
  waits waiting := by
    obtain ⟨row, member, waits⟩ := List.any_eq_true.mp waiting
    refine List.any_eq_true.mpr ⟨row, List.mem_map.mpr ⟨row, member, if_neg fun own => ?_⟩, waits⟩
    simp only [Bool.and_eq_true, beq_iff_eq] at waits
    exact taken row member own waits.2
  pending row member waits := by
    obtain ⟨earlier, present, rfl⟩ := List.mem_map.mp member
    right
    refine ⟨earlier, present, ?_⟩
    by_cases own : earlier.id = id
    · rw [if_pos own] at waits
      exact absurd waits (closed earlier)
    · rw [if_neg own] at waits ⊢
      exact ⟨rfl, waits⟩

end Grown

namespace Desk
variable {desk after : Desk} {clock : Nat}

theorem waits_of_row {row : Snapshot} (member : row ∈ desk.snapshots) (waits : (row.paid && row.status == .pending) = true) :
    desk.captureWaits = true :=
  List.any_eq_true.mpr ⟨row, member, waits⟩

theorem insertSnapshot_grown (numbered : desk.snapshots.map (·.id) = List.range desk.snapshots.length) (due : Nat) :
    Grown desk.snapshots (desk.insertSnapshot due).snapshots := by
  unfold insertSnapshot
  split
  · exact .refl numbered
  · exact .append numbered rfl

theorem insertSnapshot_waits {due : Nat} (free : desk.dueFree due = true) : (desk.insertSnapshot due).captureWaits = true := by
  unfold insertSnapshot
  split
  next taken =>
    obtain ⟨row, member, same⟩ := List.any_eq_true.mp taken
    have waits := List.all_eq_true.mp free row member
    simp only [beq_iff_eq] at same
    simp only [same, bne_self_eq_false, Bool.false_or] at waits
    exact waits_of_row member waits
  next => exact waits_of_row (List.mem_append_right _ (List.mem_singleton_self _)) rfl

theorem pendingPaid_empty (idle : desk.captureWaits = false) : desk.pendingPaid = [] := by
  apply List.filter_eq_nil_iff.mpr
  intro row member waits
  rw [waits_of_row member waits] at idle
  cases idle

theorem scheduleCaptureNow_grown {due : Nat} (executed : desk.scheduleCaptureNow due = .ok after)
    (numbered : desk.snapshots.map (·.id) = List.range desk.snapshots.length) : Grown desk.snapshots after.snapshots := by
  unfold scheduleCaptureNow at executed
  split at executed
  · cases executed
    exact .refl numbered
  split at executed
  · cases executed
    exact insertSnapshot_grown numbered due
  split at executed
  · cases executed
    exact .refl numbered
  split at executed
  · cases executed
  · cases executed
    exact .modify numbered _ (fun _ => rfl) (fun _ => rfl) fun _ => rfl

theorem scheduleCaptureNow_waits {due : Nat} (executed : desk.scheduleCaptureNow due = .ok after)
    (numbered : desk.snapshots.map (·.id) = List.range desk.snapshots.length) (live : desk.run.any BoostRun.live = true)
    (free : desk.dueFree due = true) : after.captureWaits = true := by
  by_cases waiting : desk.captureWaits = true
  · exact (scheduleCaptureNow_grown executed numbered).waits waiting
  · unfold scheduleCaptureNow at executed
    rw [live, pendingPaid_empty (by simpa using waiting)] at executed
    cases executed
    exact insertSnapshot_waits free

theorem leaveApproved_grown {before : GateStatus} {now : Nat} (executed : desk.leaveApproved before now = .ok after)
    (numbered : desk.snapshots.map (·.id) = List.range desk.snapshots.length) : Grown desk.snapshots after.snapshots := by
  unfold leaveApproved at executed
  split at executed
  · exact scheduleCaptureNow_grown executed numbered
  · cases executed
    exact .refl numbered

theorem captureAfterFailedCancelPause_grown (numbered : desk.snapshots.map (·.id) = List.range desk.snapshots.length) {id : Uuid}
    {now : Nat} (executed : desk.captureAfterFailedCancelPause id now = .ok after) : Grown desk.snapshots after.snapshots := by
  unfold captureAfterFailedCancelPause at executed
  split at executed
  · split at executed
    · cases executed
      exact .refl numbered
    split at executed
    · cases executed
      exact .refl numbered
    split at executed
    · cases executed
      exact .refl numbered
    · exact scheduleCaptureNow_grown executed numbered
  · cases executed
    exact .refl numbered

theorem dayLeft_earlier {first : Nat} (earlier : first ≤ clock) (left : desk.dayLeft clock = true) : desk.dayLeft first = true := by
  obtain ⟨seal_, present, fits⟩ := (Option.any_eq_true _ _).mp left
  refine (Option.any_eq_true _ _).mpr ⟨seal_, present, ?_⟩
  simp only [decide_eq_true_eq] at fits ⊢
  omega

theorem needs_iff : desk.needsCapture clock = true ↔ desk.spends = true ∧ desk.dayLeft clock = true := by
  unfold needsCapture
  rw [Bool.and_eq_true]

theorem needs_of (sealedTerms : after.gate.sealedAds = desk.gate.sealedAds) (spends : after.spends = true → desk.spends = true)
    (needs : after.needsCapture clock = true) : desk.needsCapture clock = true := by
  have both := needs_iff.mp needs
  refine needs_iff.mpr ⟨spends both.1, ?_⟩
  unfold dayLeft
  rw [← sealedTerms]
  exact both.2

/-- What a step that is none of the captures' keeps of the chain. -/
structure Sustained (clock : Nat) (desk after : Desk) : Prop where
  grown : Grown desk.snapshots after.snapshots
  needs : after.needsCapture clock = true → desk.needsCapture clock = true ∨ after.captureWaits = true

theorem Sustained.of_needs (grown : Grown desk.snapshots after.snapshots)
    (sealedTerms : after.gate.sealedAds = desk.gate.sealedAds) (spends : after.spends = true → desk.spends = true) :
    desk.Sustained clock after :=
  ⟨grown, fun needs => .inl (needs_of sealedTerms spends needs)⟩

theorem Sustained.of_same (numbered : desk.snapshots.map (·.id) = List.range desk.snapshots.length)
    (snapshots : after.snapshots = desk.snapshots) (sealedTerms : after.gate.sealedAds = desk.gate.sealedAds)
    (run : after.run = desk.run) : desk.Sustained clock after := by
  refine .of_needs ?_ sealedTerms ?_
  · rw [snapshots]
    exact .refl numbered
  · unfold spends
    rw [run]
    exact id

theorem reset_idle (run : BoostRun) (present : after.run = some run.reset) : after.spends = false := by
  unfold spends
  rw [present]
  rfl

theorem Sustained.of_commands (numbered : desk.snapshots.map (·.id) = List.range desk.snapshots.length)
    (same : after = { desk with commands := after.commands }) : desk.Sustained clock after := by
  rw [same]
  exact .of_same numbered rfl rfl rfl

/-- A request writes the run's start of a cycle and the capture of a boost that leaves
its approval. -/
theorem requestAdsBoost_grown (numbered : desk.snapshots.map (·.id) = List.range desk.snapshots.length) {terms : Terms}
    {requester : Uuid} {now : Nat} (executed : desk.requestAdsBoost terms requester now = .ok after) :
    Grown desk.snapshots after.snapshots ∧ after.spends = desk.spends ∧
      (desk.gate.status = .approved → desk.run.any BoostRun.live = true → desk.dueFree now = true → after.captureWaits = true) := by
  unfold requestAdsBoost at executed
  split at executed
  · cases executed
  dsimp only at executed
  generalize (if desk.gate.status = .voided then none else desk.gate.sealedAds) = old at executed
  by_cases approved : desk.gate.status = .approved
  · have on : desk.gate.status ≠ .voided := by rw [approved]; decide
    rw [if_neg on, if_pos approved] at executed
    split at executed
    · cases executed
    have grown := leaveApproved_grown executed numbered
    have left : (Desk.sealTerms (desk.voidPendingCommands termsChangedCode) terms requester).scheduleCaptureNow now = .ok after := by
      unfold leaveApproved at executed
      rwa [if_pos ⟨rfl, by simp [sealTerms]⟩] at executed
    refine ⟨grown, ?_, fun _ live free => scheduleCaptureNow_waits left numbered live free⟩
    obtain ⟨snapshots, rfl⟩ := scheduleCaptureNow_ok left
    rfl
  · rw [if_neg approved] at executed
    split at executed
    · cases executed
    cases executed
    refine ⟨?_, ?_, fun impossible => absurd impossible approved⟩
    · split
      · exact .refl numbered
      · exact .refl numbered
    · split
      · unfold spends
        cases desk.run <;> rfl
      · rfl

theorem requestAdsBoost_sustained (numbered : desk.snapshots.map (·.id) = List.range desk.snapshots.length) {terms : Terms}
    {requester : Uuid} {now : Nat}
    (guarded : (!desk.spends || desk.needsCapture clock || desk.captureWaits || decide (terms.endsAt < clock + hours 24) ||
      (desk.gate.status == .approved && desk.run.any BoostRun.live && desk.dueFree now)) = true)
    (executed : desk.requestAdsBoost terms requester now = .ok after) : desk.Sustained clock after := by
  obtain ⟨grown, spends_same, waits⟩ := requestAdsBoost_grown numbered executed
  have sealedTerms := (requestAdsBoost_ok executed).2.2.2.1
  refine ⟨grown, fun needs => ?_⟩
  obtain ⟨on, left⟩ := needs_iff.mp needs
  have fits : clock + hours 24 ≤ terms.endsAt := by
    obtain ⟨seal_, present, fits⟩ := (Option.any_eq_true _ _).mp left
    rw [sealedTerms] at present
    cases present
    exact of_decide_eq_true fits
  rw [spends_same] at on
  simp only [Bool.or_eq_true, Bool.and_eq_true, Bool.not_eq_true', decide_eq_true_eq, beq_iff_eq] at guarded
  rcases guarded with (((off | already) | waiting) | short) | ⟨⟨approved, live⟩, free⟩
  · rw [on] at off
    cases off
  · exact .inl already
  · exact .inr (grown.waits waiting)
  · exact absurd fits (Nat.not_le_of_lt short)
  · exact .inr (waits approved live free)

theorem moveGate_sustained (numbered : desk.snapshots.map (·.id) = List.range desk.snapshots.length) {newStatus : GateStatus}
    {resolverId : Option Uuid} {now : Nat} (executed : desk.moveGate newStatus resolverId now = .ok after) :
    desk.Sustained clock after := by
  unfold moveGate at executed
  split at executed
  next =>
    have grown := leaveApproved_grown executed numbered
    obtain ⟨snapshots, rfl⟩ := leaveApproved_ok executed
    exact .of_needs grown rfl id
  next => cases executed

theorem startDue_sustained (numbered : desk.snapshots.map (·.id) = List.range desk.snapshots.length) {requester : Uuid}
    {initiatedBy : Initiator} {now : Nat} (executed : desk.requestAdsBoostStart requester initiatedBy now = .ok after) :
    desk.Sustained clock after := by
  unfold requestAdsBoostStart at executed
  split at executed
  · cases executed
  split at executed
  · cases executed
  obtain ⟨seal_, _, ⟨rfl, _⟩ | rfl⟩ := createOrGet_ok executed
  · exact .of_same numbered rfl rfl rfl
  · exact .of_same numbered rfl rfl rfl

theorem markCancelled_sustained {actor : Uuid} {now : Nat} (executed : desk.markCancelled actor now = .ok after)
    (numbered : desk.snapshots.map (·.id) = List.range desk.snapshots.length) : desk.Sustained clock after := by
  unfold markCancelled at executed
  split at executed
  next =>
    cases executed
    exact .of_same numbered rfl rfl rfl
  next run present =>
    have marked : (desk.putRun { run with cancelRequestedAt := some now, cancelRequestedBy := some actor }).spends = desk.spends := by
      unfold spends
      rw [present]
      rfl
    split at executed
    · dsimp only at executed
      split at executed
      · cases executed
        exact .of_needs (.refl numbered) rfl (by rw [marked]; exact id)
      · have grown := scheduleCaptureNow_grown executed numbered
        obtain ⟨snapshots, rfl⟩ := scheduleCaptureNow_ok executed
        exact .of_needs grown rfl (by rw [← marked]; exact id)
    · cases executed
      refine .of_needs (.refl numbered) rfl ?_
      rw [reset_idle run rfl]
      exact fun impossible => by cases impossible

theorem cancelAdsBoost_sustained (numbered : desk.snapshots.map (·.id) = List.range desk.snapshots.length) {actor : Uuid}
    {admin : Bool} {now : Nat} (executed : desk.cancelAdsBoost actor admin now = .ok after) : desk.Sustained clock after := by
  unfold cancelAdsBoost at executed
  split at executed
  · cases executed
  split at executed
  · split at executed
    · cases executed
      exact .of_same numbered rfl rfl rfl
    · cases executed
  split at executed
  · cases executed
  obtain ⟨left, first, rest⟩ := Runs.bind_ok executed
  have grown := leaveApproved_grown first numbered
  obtain ⟨snapshots, rfl⟩ := leaveApproved_ok first
  have later : Sustained clock _ after := markCancelled_sustained rest grown.numbered
  refine ⟨grown.trans later.grown, fun needs => (later.needs needs).imp_left fun before => ?_⟩
  exact needs_of rfl id before

theorem finishCancelIfStopped_sustained (numbered : desk.snapshots.map (·.id) = List.range desk.snapshots.length) (now : Nat) :
    desk.Sustained clock (desk.finishCancelIfStopped now) := by
  rcases desk.finishCancelIfStopped_cases now with same | ⟨run, cycles, _, _, same⟩
  · rw [same]
    exact .of_same numbered rfl rfl rfl
  · rw [same]
    refine .of_needs (.refl numbered) rfl ?_
    rw [reset_idle run rfl]
    exact fun impossible => by cases impossible

theorem cleared_spends (run : Option BoostRun) : (run.map cleared).any BoostRun.spends = run.any BoostRun.spends := by
  cases run with
  | none => rfl
  | some run =>
    simp only [Option.map_some, Option.any_some]
    unfold cleared
    split <;> rfl

theorem retryCommand_sustained (numbered : desk.snapshots.map (·.id) = List.range desk.snapshots.length) {id : Uuid}
    {confirmed : Bool} (executed : desk.retryCommand id confirmed = .ok after) : desk.Sustained clock after := by
  obtain ⟨command, commands, _, _, ⟨rfl, _⟩ | ⟨rfl, _⟩⟩ := retryCommand_ok executed
  · exact .of_same numbered rfl rfl rfl
  · refine .of_needs (.refl numbered) rfl ?_
    unfold spends
    rw [cleared_spends]
    exact fun same => same

end Desk

/-- The columns that say whether the run spends. -/
def meter (run : BoostRun) : RunStatus × Option Nat × Option Nat := (run.status, run.capReachedAt, run.spendBlockedAt)

theorem steady_meter : World.Steady meter where
  flush loaded assigned stored same := by
    simp only [meter, Prod.mk.injEq] at same
    simp only [meter, BoostRun.flush, same.1, same.2.1, same.2.2, flushed_same]
  quiet _ _ _ _ _ := rfl

theorem spends_of_meter {first second : Option BoostRun} (same : meter (first.getD {}) = meter (second.getD {})) :
    first.any BoostRun.spends = second.any BoostRun.spends := by
  have read : ∀ run : Option BoostRun, run.any BoostRun.spends = (run.getD {}).spends := by
    intro run
    cases run <;> rfl
  simp only [meter, Prod.mk.injEq] at same
  rw [read, read]
  unfold BoostRun.spends
  rw [same.1, same.2.1, same.2.2]

namespace World
variable (world : World) (job : Job) {clock : Nat}

theorem advance_snapshots (answer : Answer) (other : job.stage ≠ .switchAnswer .acknowledged) :
    (world.advance job answer).snapshots = world.snapshots := by
  unfold advance
  split
  · unfold startExecution
    split <;> rfl
  · unfold resolveExecutionContext
    dsimp only
    repeat' split
    all_goals rfl
  · unfold readAccountCurrency
    split
    · dsimp only
      split <;> rfl
    · rfl
  · unfold claimCampaignCreation
    dsimp only
    repeat' split
    all_goals rfl
  · unfold checkBeforeCreation
    split <;> rfl
  · rfl
  · unfold callCreation
    dsimp only
    split <;> rfl
  · unfold recordCreation
    split
    · rfl
    · dsimp only
      split <;> rfl
    · rfl
  · unfold checkBeforeSwitch
    split <;> rfl
  · unfold checkCapAndBudget
    split
    · rfl
    split <;> rfl
  · rfl
  next reply answered =>
    cases reply with
    | acknowledged => exact absurd answered other
    | failed effected => rfl
    | lost effected => rfl

theorem recordCreated_meter (ids : ObjectIds) : meter (recordCreated job ids) = meter job.run := by
  unfold recordCreated
  dsimp only
  split <;> rfl

theorem advance_meter (answer : Answer) (other : job.stage ≠ .switchAnswer .acknowledged) :
    meter ((world.advance job answer).run.getD {}) = meter (world.run.getD {}) := by
  by_cases created : ∃ ids failure, job.stage = .createAnswer ids failure
  · obtain ⟨ids, failure, stage⟩ := created
    unfold advance
    rw [stage]
    dsimp only
    rw [recordCreation_run]
    refine steady_meter.stored ?_ world.run
    split
    · exact recordCreated_meter job ids
    · exact recordCreated_meter job ids
  · refine world.advance_view job steady_meter answer ?_ other
    intro ids failure stage
    exact created ⟨ids, failure, stage⟩

theorem advance_gate (answer : Answer) : (world.advance job answer).gate = world.gate := by
  have worked := world.advance_worked job answer
  generalize world.advance job answer = after at worked
  cases worked with
  | goesOn => rfl
  | ends => rfl

theorem complete_snapshots : (world.complete job).snapshots = world.snapshots := rfl

theorem complete_waits : (world.complete job).captureWaits = world.captureWaits := rfl

theorem scheduleSpendSnapshots_grown (numbered : world.snapshots.map (·.id) = List.range world.snapshots.length) (anchorAt endsAt : Nat) :
    Grown world.snapshots (world.scheduleSpendSnapshots anchorAt endsAt).snapshots := by
  unfold scheduleSpendSnapshots
  split
  · exact Desk.insertSnapshot_grown numbered _
  · exact .refl numbered

theorem recordSwitch_grown (numbered : world.snapshots.map (·.id) = List.range world.snapshots.length) (answer : Answer) :
    Grown world.snapshots (world.recordSwitch job answer .acknowledged).snapshots := by
  have scheduled :
      Grown world.snapshots ((world.writeRun job (switchedRun job answer)).scheduleSpendSnapshots job.now job.terms.endsAt).snapshots :=
    scheduleSpendSnapshots_grown (world.writeRun job (switchedRun job answer)) numbered _ _
  unfold recordSwitch
  dsimp only
  rw [complete_snapshots]
  cases job.operation with
  | boostStart => exact scheduled
  | pause => exact .refl numbered
  | resume =>
    dsimp only
    split
    · exact scheduled
    · exact .refl numbered

/-- After an acknowledged start or resume a capture waits, if its time is free and in the period. -/
theorem recordSwitch_waits (answer : Answer) (switchesOn : job.operation ≠ .pause) (fits : job.now + hours 24 ≤ job.terms.endsAt)
    (free : world.dueFree (job.now + hours 24) = true) : (world.recordSwitch job answer .acknowledged).captureWaits = true := by
  have scheduled : ((world.writeRun job (switchedRun job answer)).scheduleSpendSnapshots job.now job.terms.endsAt).captureWaits = true := by
    unfold scheduleSpendSnapshots
    rw [if_pos fits]
    exact Desk.insertSnapshot_waits free
  unfold recordSwitch
  dsimp only
  rw [complete_waits]
  cases operation : job.operation with
  | boostStart => exact scheduled
  | pause => exact absurd operation switchesOn
  | resume =>
    dsimp only
    split
    next => exact scheduled
    next waiting =>
      by_contra idle
      exact waiting (List.isEmpty_iff.mpr (Desk.pendingPaid_empty (by simpa using idle)))

theorem recordSwitch_spends (answer : Answer) (on : (world.recordSwitch job answer .acknowledged).spends = true) :
    (world.run.any fun run => run.capReachedAt.isNone && run.spendBlockedAt.isNone) = true ∧
      (job.operation = .pause → world.spends = true) := by
  obtain ⟨snapshots, same⟩ := world.recordSwitch_acknowledged job answer
  rw [same] at on
  obtain ⟨after, present, spends⟩ := (Option.any_eq_true _ _).mp on
  obtain ⟨run, stored, written⟩ := Option.map_eq_some_iff.mp present
  subst written
  have cap : (job.run.flush (switchedRun job answer) run).capReachedAt = run.capReachedAt := by
    have kept : (switchedRun job answer).capReachedAt = job.run.capReachedAt := by
      unfold switchedRun
      repeat' split
      all_goals rfl
    unfold BoostRun.flush
    rw [kept]
    exact flushed_same _ _
  have block : (job.run.flush (switchedRun job answer) run).spendBlockedAt = run.spendBlockedAt := by
    have kept : (switchedRun job answer).spendBlockedAt = job.run.spendBlockedAt := by
      unfold switchedRun
      repeat' split
      all_goals rfl
    unfold BoostRun.flush
    rw [kept]
    exact flushed_same _ _
  unfold BoostRun.spends at spends
  rw [cap, block] at spends
  simp only [Bool.and_eq_true, beq_iff_eq] at spends
  refine ⟨(Option.any_eq_true _ _).mpr ⟨run, stored, by rw [spends.1.2, spends.2]; rfl⟩, fun pauses => ?_⟩
  refine (Option.any_eq_true _ _).mpr ⟨run, stored, ?_⟩
  have still : run.status = .running := by
    have running := spends.1.1
    rcases flushed_cases job.run.status (switchedRun job answer).status run.status with old | new
    · exact old.symm.trans running
    · have off : (switchedRun job answer).status ≠ .running := by
        unfold switchedRun
        rw [pauses]
        dsimp only
        split <;> simp
      exact absurd (new.symm.trans running) off
  unfold BoostRun.spends
  rw [still, spends.1.2, spends.2]
  rfl

theorem recordSwitch_sustained (numbered : world.snapshots.map (·.id) = List.range world.snapshots.length) (answer : Answer)
    (guarded : (job.operation == .pause || world.needsCapture clock || world.captureWaits ||
      !(world.run.any fun run => run.capReachedAt.isNone && run.spendBlockedAt.isNone) || !world.dayLeft clock ||
      (decide (job.now + hours 24 ≤ job.terms.endsAt) && world.dueFree (job.now + hours 24))) = true) :
    world.toDesk.Sustained clock (world.recordSwitch job answer .acknowledged).toDesk := by
  have grown := world.recordSwitch_grown job numbered answer
  have gate : (world.recordSwitch job answer .acknowledged).gate = world.gate := by
    obtain ⟨snapshots, same⟩ := world.recordSwitch_acknowledged job answer
    rw [same]
    rfl
  refine ⟨grown, fun needs => ?_⟩
  obtain ⟨on, left⟩ := Desk.needs_iff.mp needs
  have days : world.dayLeft clock = true := by
    unfold Desk.dayLeft at left ⊢
    rwa [gate] at left
  obtain ⟨free_run, paused⟩ := world.recordSwitch_spends job answer on
  by_cases pauses : job.operation = .pause
  · exact .inl (Desk.needs_iff.mpr ⟨paused pauses, days⟩)
  · simp only [Bool.or_eq_true, Bool.and_eq_true, Bool.not_eq_true', decide_eq_true_eq, beq_iff_eq] at guarded
    rcases guarded with ((((stops | already) | waiting) | held) | short) | ⟨fits, free⟩
    · exact absurd stops pauses
    · exact .inl already
    · exact .inr (grown.waits waiting)
    · rw [free_run] at held
      cases held
    · rw [days] at short
      cases short
    · exact .inr (world.recordSwitch_waits job answer pauses fits free)

theorem advance_sustained (numbered : world.snapshots.map (·.id) = List.range world.snapshots.length) (answer : Answer)
    (guarded : job.stage = .switchAnswer .acknowledged → (job.operation == .pause || world.needsCapture clock || world.captureWaits ||
      !(world.run.any fun run => run.capReachedAt.isNone && run.spendBlockedAt.isNone) || !world.dayLeft clock ||
      (decide (job.now + hours 24 ≤ job.terms.endsAt) && world.dueFree (job.now + hours 24))) = true) :
    world.toDesk.Sustained clock (world.advance job answer).toDesk := by
  by_cases acknowledged : job.stage = .switchAnswer .acknowledged
  · have step : world.advance job answer = world.recordSwitch job answer .acknowledged := by
      unfold advance
      rw [acknowledged]
    rw [step]
    exact world.recordSwitch_sustained job numbered answer (guarded acknowledged)
  · refine .of_needs ?_ (congrArg _ (world.advance_gate job answer)) ?_
    · rw [world.advance_snapshots job answer acknowledged]
      exact .refl numbered
    · unfold Desk.spends
      rw [spends_of_meter (world.advance_meter job answer acknowledged)]
      exact id

theorem recoverInterrupted_desk (id : Uuid) (now : Nat) :
    ∃ commands, (world.recoverInterrupted id now).toDesk = { world.toDesk with commands } := by
  unfold recoverInterrupted
  split
  · exact ⟨world.commands, rfl⟩
  split
  · exact ⟨_, rfl⟩
  · exact ⟨world.commands, rfl⟩

theorem claimCommand_desk (id : Uuid) (now : Nat) :
    ∃ commands, (world.claimCommand id now).toDesk = { world.toDesk with commands } := by
  unfold claimCommand
  split
  · exact ⟨world.commands, rfl⟩
  split
  · exact ⟨_, rfl⟩
  · exact ⟨world.commands, rfl⟩

theorem adopt_sustained {after : World} (numbered : world.snapshots.map (·.id) = List.range world.snapshots.length) {found : ObjectIds}
    {budget : Option Nat} {answer : Answer} (executed : world.adopt found budget answer = .ok after) :
    world.toDesk.Sustained clock after.toDesk := by
  obtain ⟨seal_, run, commands, _, present, _, _, _, rfl⟩ := world.adopt_ok executed
  refine .of_needs (.refl numbered) rfl ?_
  unfold Desk.spends
  rw [present]
  simp only [Option.any_some]
  have same : meter (released (adopted run found budget seal_.versionId seal_.connectionId)) = meter run := by
    unfold adopted
    dsimp only
    split <;> rfl
  have kept : BoostRun.spends (released (adopted run found budget seal_.versionId seal_.connectionId)) = run.spends := by
    simp only [meter, Prod.mk.injEq] at same
    unfold BoostRun.spends
    rw [same.1, same.2.1, same.2.2]
  rw [kept]
  exact id

end World

namespace Desk
variable (desk : Desk)

theorem pauseByScheduler_columns (resolverId : Option Uuid) (answer : CaptureAnswer) (now : Nat) :
    (desk.pauseByScheduler resolverId answer now).snapshots = desk.snapshots ∧
      (desk.pauseByScheduler resolverId answer now).run = desk.run ∧
      (desk.pauseByScheduler resolverId answer now).gate = desk.gate := by
  rw [(desk.pauseByScheduler_toggled resolverId answer now).eq]
  exact ⟨rfl, rfl, rfl⟩

theorem spends_of_run {desk after : Desk} (same : after.run = desk.run) (on : after.spends = true) : desk.spends = true := by
  unfold spends at on ⊢
  rwa [same] at on

theorem setSnapshot_grown {desk : Desk} (numbered : desk.snapshots.map (·.id) = List.range desk.snapshots.length) {held : Option Nat}
    (taken : ∀ id, held = some id → ∀ row ∈ desk.snapshots, row.id = id → row.status ≠ .pending) {change : Snapshot → Snapshot}
    (name : ∀ row, (change row).id = row.id) (closed : ∀ row, (change row).status ≠ .pending) :
    Grown desk.snapshots (desk.setSnapshot held change).snapshots := by
  cases held with
  | none => exact .refl numbered
  | some id => exact .close numbered (taken id rfl) name closed

theorem setSnapshot_run (held : Option Nat) (change : Snapshot → Snapshot) : (desk.setSnapshot held change).run = desk.run := by
  cases held <;> rfl

theorem setSnapshot_gate (held : Option Nat) (change : Snapshot → Snapshot) : (desk.setSnapshot held change).gate = desk.gate := by
  cases held <;> rfl

end Desk

theorem Capture.carries_live {capture : Capture} (carrier : capture.carries = true) :
    capture.dead = false ∧ capture.snapshotId.isSome = true := by
  unfold carries at carrier
  simp only [Bool.and_eq_true, Bool.not_eq_true'] at carrier
  exact carrier.1

theorem Capture.carries_loaded {capture : Capture}
    (stage : capture.stage = .resolved ∨ capture.stage = .reading ∨ capture.stage = .captured ∨ capture.stage = .scheduling)
    (carrier : capture.carries = true) :
    capture.run.status = .running ∧ capture.run.capReachedAt = none ∧ capture.run.spendBlockedAt = none ∧
      (capture.gate.sealedAds.any fun seal_ => decide (capture.dueAt + recurringSnapshotInterval ≤ seal_.endsAt)) = true := by
  unfold carries BoostRun.spends at carrier
  rcases stage with stage | stage | stage | stage
  all_goals
    rw [stage] at carrier
    simp only [Bool.and_eq_true, beq_iff_eq, Option.isNone_iff_eq_none] at carrier
    exact ⟨carrier.2.1.1.1, carrier.2.1.1.2, carrier.2.1.2, carrier.2.2⟩

/-- The capture after a stage holds the same snapshot. -/
def Capture.continues (capture next : Capture) : Prop :=
  next.id = capture.id ∧ next.snapshotId = capture.snapshotId ∧ next.dueAt = capture.dueAt ∧ next.now = capture.now

/-- The boost rests on the capture, and finds the time of the next one free. -/
def Boost.restsOn (boost : Boost) (clock : Nat) (capture : Capture) : Prop :=
  boost.needsCapture clock = true ∧ capture.carries = true ∧ (boost.nextDue capture).all boost.dueFree = true

/-- What one stage of a capture does to the chain: where `link` holds it leaves a capture
that waits, or goes on and stays a link, unless the boost stops to spend. -/
structure Boost.Tended (link : Prop) (before : Boost) (capture : Capture) (after : Boost) : Prop where
  grown : Grown before.snapshots after.snapshots
  gate : after.gate = before.gate
  count : after.captureCount = before.captureCount
  spends : after.spends = true → before.spends = true
  passes :
    (after.captures = before.captures.filter (fun other => other.id ≠ capture.id) ∧ (link → after.captureWaits = true)) ∨
      ∃ next, capture.continues next ∧ after.captures = Keyed.put Capture.id before.captures next ∧
        (link → after.spends = true → next.carries = true)

namespace Boost
variable {boost : Boost} {capture : Capture} {clock : Nat}

section Stages
variable (numbered : boost.snapshots.map (·.id) = List.range boost.snapshots.length)

include numbered

theorem endCapture_tended (idle : boost.needsCapture clock = true → capture.carries = true → boost.captureWaits = true) :
    boost.Tended (boost.restsOn clock capture) capture (boost.endCapture capture) where
  grown := .refl numbered
  gate := rfl
  count := rfl
  spends := id
  passes := .inl ⟨rfl, fun link => idle link.1 link.2.1⟩

theorem scheduled_tended (due : Nat) (named : boost.needsCapture clock = true → capture.carries = true → boost.nextDue capture = some due) :
    boost.Tended (boost.restsOn clock capture) capture ((boost.endCapture capture).onDesk (·.insertSnapshot due)) where
  grown := Desk.insertSnapshot_grown numbered due
  gate := insertSnapshot_gate _ _
  count := rfl
  spends := Desk.spends_of_run (insertSnapshot_run _ _)
  passes := by
    refine .inl ⟨rfl, fun link => Desk.insertSnapshot_waits ?_⟩
    have free := link.2.2
    rw [named link.1 link.2.1] at free
    exact free

theorem putCapture_tended (next : Capture) (same : capture.continues next)
    (carries : boost.needsCapture clock = true → capture.carries = true → next.carries = true) :
    boost.Tended (boost.restsOn clock capture) capture (boost.putCapture next) where
  grown := .refl numbered
  gate := rfl
  count := rfl
  spends := id
  passes := .inr ⟨next, same, rfl, fun link _ => carries link.1 link.2.1⟩

theorem failCapture_tended {link : Prop}
    (taken : ∀ id, capture.snapshotId = some id → ∀ row ∈ boost.snapshots, row.id = id → row.status ≠ .pending)
    (code : String) (stage : CaptureStage) (carries : link → ({ capture with stage } : Capture).carries = true) :
    boost.Tended link capture (boost.failCapture capture code stage) where
  grown := Desk.setSnapshot_grown numbered taken (fun _ => rfl) fun _ => by simp
  gate := Desk.setSnapshot_gate _ _ _
  count := rfl
  spends := Desk.spends_of_run (Desk.setSnapshot_run _ _ _)
  passes := .inr ⟨_, by constructor <;> simp, rfl, fun link _ => carries link⟩

theorem resolveSpendContext_tended (answer : CaptureAnswer) (due : capture.dueAt ≤ clock)
    (taken : ∀ id, capture.snapshotId = some id → ∀ row ∈ boost.snapshots, row.id = id → row.status ≠ .pending) :
    boost.Tended (boost.restsOn clock capture) capture (boost.resolveSpendContext capture answer) := by
  have goes_on : ∀ stage, (stage = .notStarted ∨ ∃ code, stage = .blocking code) → capture.carries = true →
      ({ capture with stage } : Capture).carries = true := by
    intro stage kind carries
    obtain ⟨alive, held⟩ := Capture.carries_live carries
    unfold Capture.carries
    rcases kind with rfl | ⟨code, rfl⟩
    · simp [alive, held]
    · simp [alive, held]
  unfold resolveSpendContext
  split
  · exact failCapture_tended numbered taken _ _ fun link => goes_on _ (.inl rfl) link.2.1
  next run present =>
    split
    · exact failCapture_tended numbered taken _ _ fun link => goes_on _ (.inl rfl) link.2.1
    split
    · exact failCapture_tended numbered taken _ _ fun link => goes_on _ (.inr ⟨_, rfl⟩) link.2.1
    dsimp only
    have loaded : boost.needsCapture clock = true → capture.carries = true →
        ({ capture with gate := boost.gate, run, stage := .resolved } : Capture).carries = true := by
      intro needs carries
      obtain ⟨alive, held⟩ := Capture.carries_live carries
      obtain ⟨on, left⟩ := Desk.needs_iff.mp needs
      obtain ⟨seal_, sealedTerms, fits⟩ := (Option.any_eq_true _ _).mp left
      have on_run : run.spends = true := by
        unfold Desk.spends at on
        rw [present] at on
        exact on
      have in_period : (boost.gate.sealedAds.any fun seal_ => decide (capture.dueAt + recurringSnapshotInterval ≤ seal_.endsAt)) = true := by
        refine (Option.any_eq_true _ _).mpr ⟨seal_, sealedTerms, decide_eq_true ?_⟩
        have later := of_decide_eq_true fits
        unfold recurringSnapshotInterval
        omega
      unfold Capture.carries
      simp only [alive, held, on_run, in_period, Bool.not_false, Bool.and_self]
    split
    · obtain ⟨snapshots, run_same, gate⟩ := boost.toDesk.pauseByScheduler_columns boost.gate.resolverId answer capture.now
      refine ⟨?_, gate, rfl, Desk.spends_of_run run_same, ?_⟩
      · exact (congrArg (Grown boost.snapshots) snapshots).mpr (.refl numbered)
      · exact .inr ⟨_, by constructor <;> simp, rfl, fun link _ => loaded link.1 link.2.1⟩
    · exact putCapture_tended numbered _ (by constructor <;> simp) loaded

theorem checkBlocked_tended (stage : capture.stage = .resolved)
    (taken : ∀ id, capture.snapshotId = some id → ∀ row ∈ boost.snapshots, row.id = id → row.status ≠ .pending) :
    boost.Tended (boost.restsOn clock capture) capture (boost.checkBlocked capture) := by
  unfold checkBlocked
  split
  next blocked =>
    refine failCapture_tended numbered taken _ _ fun link => ?_
    rw [(Capture.carries_loaded (.inl stage) link.2.1).2.2.1] at blocked
    cases blocked
  next =>
    refine putCapture_tended numbered _ (by constructor <;> simp) fun _ carries => ?_
    unfold Capture.carries at carries ⊢
    rw [stage] at carries
    exact carries

theorem readSpend_tended (stage : capture.stage = .reading) (answer : SpendAnswer)
    (taken : ∀ id, capture.snapshotId = some id → ∀ row ∈ boost.snapshots, row.id = id → row.status ≠ .pending) :
    boost.Tended (boost.restsOn clock capture) capture (boost.readSpend capture answer) := by
  have goes_on : capture.carries = true → ({ capture with stage := .captured } : Capture).carries = true := by
    intro carries
    unfold Capture.carries at carries ⊢
    rw [stage] at carries
    exact carries
  have loses : ∀ stage, (stage = .failedRead ∨ ∃ code, stage = .blocking code) → capture.carries = true →
      ({ capture with stage } : Capture).carries = true := by
    intro stage kind carries
    obtain ⟨alive, held⟩ := Capture.carries_live carries
    unfold Capture.carries
    rcases kind with rfl | ⟨code, rfl⟩
    · simp [alive, held]
    · simp [alive, held]
  unfold readSpend
  split
  next spendMinor =>
    unfold storeReading
    dsimp only
    split
    · refine ⟨?_, Desk.setSnapshot_gate _ _ _, rfl, Desk.spends_of_run (Desk.setSnapshot_run _ _ _), ?_⟩
      · exact Desk.setSnapshot_grown numbered taken (fun _ => rfl) fun _ => by simp
      · exact .inr ⟨_, by constructor <;> simp, rfl, fun link _ => goes_on link.2.1⟩
    next immediate =>
      split
      · refine endCapture_tended numbered fun _ carries => ?_
        have held := (Capture.carries_live carries).2
        rw [immediate] at held
        cases held
      · refine ⟨.append numbered rfl, rfl, rfl, id, ?_⟩
        exact .inr ⟨_, by constructor <;> simp, rfl, fun link _ => goes_on link.2.1⟩
  next code => exact failCapture_tended numbered taken _ _ fun link => loses _ (.inr ⟨_, rfl⟩) link.2.1
  next code =>
    split
    next immediate =>
      refine endCapture_tended numbered fun _ carries => ?_
      have held := (Capture.carries_live carries).2
      rw [Option.isNone_iff_eq_none.mp immediate] at held
      cases held
    next => exact failCapture_tended numbered taken _ _ fun link => loses _ (.inl rfl) link.2.1

theorem enforceSpendCap_tended (stage : capture.stage = .captured) :
    boost.Tended (boost.restsOn clock capture) capture (boost.enforceSpendCap capture) := by
  unfold enforceSpendCap
  split
  next capped =>
    refine putCapture_tended numbered _ (by constructor <;> simp) fun _ carries => ?_
    rw [(Capture.carries_loaded (.inr (.inr (.inl stage))) carries).2.1] at capped
    cases capped
  split
  next =>
    have idle : ({ boost with run := boost.run.map fun (stored : BoostRun) => { stored with capReachedAt := some capture.now } } :
        Boost).spends = false := by
      unfold Desk.spends
      cases boost.run with
      | none => rfl
      | some run => simp [BoostRun.spends]
    refine ⟨.refl numbered, rfl, rfl, fun on => absurd (idle.symm.trans on) Bool.false_ne_true, ?_⟩
    exact .inr ⟨_, by constructor <;> simp, rfl, fun _ on => absurd (idle.symm.trans on) Bool.false_ne_true⟩
  next =>
    refine putCapture_tended numbered _ (by constructor <;> simp) fun _ carries => ?_
    unfold Capture.carries at carries ⊢
    rw [stage] at carries
    exact carries

theorem paused_insert {desk : Desk} (toggled : boost.toDesk.Toggled .pause desk) (due : Nat) :
    Grown boost.snapshots (desk.insertSnapshot due).snapshots ∧ (desk.insertSnapshot due).run = boost.run ∧
      (desk.insertSnapshot due).gate = boost.gate := by
  have same := toggled.eq
  have own : desk.snapshots.map (·.id) = List.range desk.snapshots.length := by
    rw [same]
    exact numbered
  have grown := Desk.insertSnapshot_grown own due
  refine ⟨?_, ?_, ?_⟩
  · rwa [show desk.snapshots = boost.snapshots by rw [same]] at grown
  · rw [insertSnapshot_run, same]
  · rw [insertSnapshot_gate, same]

theorem followThroughCap_tended {newlyReached : Bool} (stage : capture.stage = .capFollow newlyReached) (answer : CaptureAnswer) :
    boost.Tended (boost.restsOn clock capture) capture (boost.followThroughCap capture newlyReached answer) := by
  have ends_here : capture.carries = false := by
    unfold Capture.carries
    rw [stage]
    exact Bool.and_false _
  have follows : ∀ (followed : Boost) (next : Capture), capture.continues next → Grown boost.snapshots followed.snapshots →
      followed.run = boost.run → followed.gate = boost.gate → followed.captureCount = boost.captureCount →
      followed.captures = boost.captures → boost.Tended (boost.restsOn clock capture) capture (followed.putCapture next) := by
    intro followed next same grown run gate count captures
    refine ⟨grown, gate, count, Desk.spends_of_run run, .inr ⟨next, same, ?_, fun link _ => ?_⟩⟩
    · exact congrArg (Keyed.put Capture.id · next) captures
    · exact absurd (ends_here.symm.trans link.2.1) Bool.false_ne_true
  unfold followThroughCap
  dsimp only
  generalize (boost.run.map BoostRun.status).getD capture.run.status = status
  by_cases stopped : status = .paused
  · rw [if_pos stopped]
    cases newlyReached with
    | true =>
      obtain ⟨grown, run, gate⟩ := paused_insert numbered .known (capture.now + blockFollowUp)
      exact follows _ _ (by constructor <;> simp) grown run gate rfl rfl
    | false => exact follows boost _ (by constructor <;> simp) (.refl numbered) rfl rfl rfl rfl
  · rw [if_neg stopped]
    by_cases pausing : status = .pausePending
    · rw [if_pos pausing]
      obtain ⟨grown, run, gate⟩ := paused_insert numbered .known (capture.now + blockFollowUp)
      exact follows _ _ (by constructor <;> simp) grown run gate rfl rfl
    · rw [if_neg pausing]
      obtain ⟨grown, run, gate⟩ := paused_insert numbered
        (boost.toDesk.pauseByScheduler_toggled capture.gate.resolverId answer capture.now) (capture.now + blockFollowUp)
      exact follows _ _ (by constructor <;> simp) grown run gate rfl rfl

theorem scheduleNext_tended (stage : capture.stage = .scheduling) : boost.Tended (boost.restsOn clock capture) capture (boost.scheduleNext capture) := by
  have named : boost.nextDue capture = some (capture.dueAt + recurringSnapshotInterval) := by
    unfold nextDue
    rw [stage]
  unfold scheduleNext
  dsimp only
  split
  next recurring =>
    split
    next seal_ sealedTerms =>
      split
      next => exact scheduled_tended numbered _ fun _ _ => named
      next beyond =>
        refine endCapture_tended numbered fun _ carries => ?_
        obtain ⟨other, present, fits⟩ :=
          (Option.any_eq_true _ _).mp (Capture.carries_loaded (.inr (.inr (.inr stage))) carries).2.2.2
        rw [sealedTerms] at present
        cases present
        exact absurd (of_decide_eq_true fits) beyond
    next unsealed =>
      refine endCapture_tended numbered fun _ carries => ?_
      have fits := (Capture.carries_loaded (.inr (.inr (.inr stage))) carries).2.2.2
      rw [unsealed] at fits
      cases fits
  next once =>
    refine endCapture_tended numbered fun _ carries => ?_
    obtain ⟨running, uncapped, _⟩ := Capture.carries_loaded (.inr (.inr (.inr stage))) carries
    exact absurd ⟨(Capture.carries_live carries).2, running, by rw [uncapped]; rfl⟩ once

theorem rescheduleNotStarted_tended (stage : capture.stage = .notStarted) (past : capture.now ≤ clock) :
    boost.Tended (boost.restsOn clock capture) capture (boost.rescheduleNotStarted capture) := by
  unfold rescheduleNotStarted
  dsimp only
  split
  next => exact scheduled_tended numbered _ fun _ _ => by unfold nextDue; rw [stage]
  next beyond =>
    refine endCapture_tended numbered fun needs _ => ?_
    obtain ⟨seal_, sealedTerms, fits⟩ := (Option.any_eq_true _ _).mp (Desk.needs_iff.mp needs).2
    have day : 0 < hours 24 := by decide
    have before_end : capture.now < seal_.endsAt := by
      have later := of_decide_eq_true fits
      omega
    rw [sealedTerms] at beyond
    exact absurd (decide_eq_true before_end) beyond

theorem afterFailedSpendRead_tended (stage : capture.stage = .failedRead) :
    boost.Tended (boost.restsOn clock capture) capture (boost.afterFailedSpendRead capture) := by
  unfold afterFailedSpendRead
  dsimp only
  split
  next =>
    refine putCapture_tended numbered _ (by constructor <;> simp) fun _ carries => ?_
    obtain ⟨alive, held⟩ := Capture.carries_live carries
    unfold Capture.carries
    simp [alive, held]
  next few =>
    split
    next =>
      refine scheduled_tended numbered _ fun _ _ => ?_
      unfold nextDue
      rw [stage]
      exact if_neg few
    next off =>
      refine endCapture_tended numbered fun needs _ => ?_
      obtain ⟨run, present, on⟩ := (Option.any_eq_true _ _).mp (Desk.needs_iff.mp needs).1
      unfold BoostRun.spends at on
      simp only [Bool.and_eq_true] at on
      exact absurd ((Option.any_eq_true _ _).mpr ⟨run, present, by rw [on.1.1, on.2]; rfl⟩) off

theorem blockUnreadableSpend_tended (code : String) : boost.Tended (boost.restsOn clock capture) capture (boost.blockUnreadableSpend capture code) := by
  have needs_run : boost.needsCapture clock = true → ∃ run, boost.run = some run ∧ run.spends = true :=
    fun needs => (Option.any_eq_true _ _).mp (Desk.needs_iff.mp needs).1
  unfold blockUnreadableSpend
  split
  next absent =>
    refine endCapture_tended numbered fun needs _ => ?_
    obtain ⟨run, present, _⟩ := needs_run needs
    rw [absent] at present
    cases present
  next run present =>
    dsimp only
    split
    next blocked =>
      refine putCapture_tended numbered _ (by constructor <;> simp) fun needs _ => ?_
      obtain ⟨other, same, on⟩ := needs_run needs
      rw [present] at same
      cases same
      unfold BoostRun.spends at on
      simp only [Bool.and_eq_true, Option.isNone_iff_eq_none] at on
      rw [on.2] at blocked
      cases blocked
    next =>
      have idle : ({ boost with run := some { run with spendBlockedAt := some capture.now, spendBlockedCode := some code } } :
          Boost).spends = false := by
        simp [Desk.spends, BoostRun.spends]
      refine ⟨.refl numbered, rfl, rfl, fun on => absurd (idle.symm.trans on) Bool.false_ne_true, ?_⟩
      exact .inr ⟨_, by constructor <;> simp, rfl, fun _ on => absurd (idle.symm.trans on) Bool.false_ne_true⟩

theorem followThroughBlock_tended (stage : capture.stage = .blockFollow) (answer : CaptureAnswer) :
    boost.Tended (boost.restsOn clock capture) capture (boost.followThroughBlock capture answer) := by
  have ends_here : capture.carries = false := by
    unfold Capture.carries
    rw [stage]
    exact Bool.and_false _
  have follows : ∀ followed : Boost, Grown boost.snapshots followed.snapshots → (followed.spends = true → boost.spends = true) →
      followed.gate = boost.gate → followed.captureCount = boost.captureCount → followed.captures = boost.captures →
      boost.Tended (boost.restsOn clock capture) capture (followed.endCapture capture) := by
    intro followed grown spends gate count captures
    refine ⟨grown, gate, count, spends, .inl ⟨congrArg (List.filter _ ·) captures, fun link => ?_⟩⟩
    exact absurd (ends_here.symm.trans link.2.1) Bool.false_ne_true
  obtain ⟨desk, run, -, from_, followed⟩ := boost.followThroughBlock_eq capture answer
  have spends : run.any BoostRun.spends = boost.spends := by
    unfold Desk.spends
    rcases from_ with rfl | rfl
    · rfl
    · cases boost.run <;> rfl
  rcases followed with plain | further
  · rw [plain]
    refine follows _ (.refl numbered) ?_ rfl rfl rfl
    intro on
    exact spends.symm.trans on
  · rw [further]
    refine follows _ ?_ ?_ ?_ rfl rfl
    · have own : ({ boost.toDesk with commands := desk.commands, run } : Desk).snapshots.map (·.id) =
          List.range boost.snapshots.length := numbered
      exact Desk.insertSnapshot_grown own _
    · intro on
      unfold Desk.spends at on
      rw [show Desk.run _ = run from insertSnapshot_run _ _, spends] at on
      exact on
    · exact insertSnapshot_gate _ _

theorem advanceCapture_tended
    (taken : ∀ id, capture.snapshotId = some id → ∀ row ∈ boost.snapshots, row.id = id → row.status ≠ .pending)
    (due : capture.dueAt ≤ capture.now) (past : capture.now ≤ clock) (answer : CaptureAnswer) :
    boost.Tended (boost.restsOn clock capture) capture (boost.advanceCapture capture answer) := by
  unfold advanceCapture
  split
  next stage => exact resolveSpendContext_tended numbered answer (Nat.le_trans due past) taken
  next stage => exact checkBlocked_tended numbered stage taken
  next stage => exact readSpend_tended numbered stage answer.spend taken
  next stage => exact enforceSpendCap_tended numbered stage
  next newlyReached stage => exact followThroughCap_tended numbered stage answer
  next stage => exact scheduleNext_tended numbered stage
  next stage => exact rescheduleNotStarted_tended numbered stage past
  next stage => exact afterFailedSpendRead_tended numbered stage
  next code stage => exact blockUnreadableSpend_tended numbered code
  next stage => exact followThroughBlock_tended numbered stage answer

end Stages

end Boost

theorem Boost.Tended.of_weaker {first second : Prop} {boost after : Boost} {capture : Capture} (tended : boost.Tended first capture after)
    (implies : second → first) : boost.Tended second capture after where
  grown := tended.grown
  gate := tended.gate
  count := tended.count
  spends := tended.spends
  passes := by
    rcases tended.passes with ⟨captures, waits⟩ | ⟨next, same, captures, carries⟩
    · exact .inl ⟨captures, waits ∘ implies⟩
    · exact .inr ⟨next, same, captures, carries ∘ implies⟩

def Desk.taken (desk : Desk) (id : Nat) : Prop := id < desk.snapshots.length ∧ ∀ row ∈ desk.snapshots, row.id = id → row.status ≠ .pending

theorem Grown.taken {desk after : Desk} (grown : Grown desk.snapshots after.snapshots) {id : Nat} (before : desk.taken id) : after.taken id := by
  refine ⟨Nat.lt_of_lt_of_le before.1 grown.longer, fun row member name waits => ?_⟩
  rcases grown.pending row member waits with fresh | ⟨earlier, present, same, pending⟩
  · have := before.1
    omega
  · exact before.2 earlier present (same.trans name) pending

/-- A boost that needs captures has one that waits or one under way that will leave one. -/
structure Timed.Linked (timed : Timed) : Prop where
  numbered : timed.boost.snapshots.map (·.id) = List.range timed.boost.snapshots.length
  names : (timed.boost.captures.map (·.id)).Nodup
  below : ∀ capture ∈ timed.boost.captures, capture.id < timed.boost.captureCount
  timely : ∀ capture ∈ timed.boost.captures, capture.dueAt ≤ capture.now ∧ capture.now ≤ timed.clock
  taken : ∀ capture ∈ timed.boost.captures, ∀ id, capture.snapshotId = some id → timed.boost.taken id
  chain : timed.boost.needsCapture timed.clock = true →
    timed.boost.captureWaits = true ∨ ∃ capture ∈ timed.boost.captures, capture.carries = true

namespace Timed.Linked
variable {timed : Timed}

theorem holds (linked : timed.Linked) : timed.ChainHolds := by
  intro gone needs
  rcases linked.chain needs with waits | ⟨capture, member, carries⟩
  · exact waits
  · have alive := (Capture.carries_live carries).1
    rw [gone capture member] at alive
    cases alive

theorem needs_earlier {clock : Nat} (later : timed.clock ≤ clock) (needs : timed.boost.needsCapture clock = true) :
    timed.boost.needsCapture timed.clock = true := by
  obtain ⟨on, left⟩ := Desk.needs_iff.mp needs
  exact Desk.needs_iff.mpr ⟨on, Desk.dayLeft_earlier later left⟩

theorem sustain (linked : timed.Linked) {after : Boost} {clock : Nat} (later : timed.clock ≤ clock)
    (captures : after.captures = timed.boost.captures) (count : after.captureCount = timed.boost.captureCount)
    (sustained : timed.boost.toDesk.Sustained clock after.toDesk) : Linked { boost := after, clock } where
  numbered := sustained.grown.numbered
  names := captures ▸ linked.names
  below := by
    rw [captures, count]
    exact linked.below
  timely capture member := by
    rw [captures] at member
    have times := linked.timely capture member
    exact ⟨times.1, Nat.le_trans times.2 later⟩
  taken capture member id held := by
    rw [captures] at member
    exact sustained.grown.taken (linked.taken capture member id held)
  chain needs := by
    rcases sustained.needs needs with before | waits
    · rcases linked.chain (needs_earlier later before) with waiting | ⟨capture, member, carries⟩
      · exact .inl (sustained.grown.waits waiting)
      · exact .inr ⟨capture, captures ▸ member, carries⟩
    · exact .inl waits

theorem tend (linked : timed.Linked) {capture : Capture} (member : capture ∈ timed.boost.captures) {after : Boost}
    (tended : timed.boost.Tended (timed.boost.lastLink capture timed.clock = true) capture after) :
    Linked { boost := after, clock := timed.clock } := by
  have others : ∀ other ∈ after.captures, other ∈ timed.boost.captures ∨ capture.continues other := by
    intro other present
    rcases tended.passes with ⟨captures, _⟩ | ⟨next, same, captures, _⟩
    · rw [captures] at present
      exact .inl (List.mem_filter.mp present).1
    · rw [captures] at present
      rcases Keyed.mem_put present with rfl | ⟨old, _⟩
      · exact .inr same
      · exact .inl old
  constructor
  · exact tended.grown.numbered
  · rcases tended.passes with ⟨captures, _⟩ | ⟨next, _, captures, _⟩
    · rw [captures]
      exact linked.names.sublist (List.filter_sublist.map _)
    · rw [captures, Keyed.map_key_put]
      exact linked.names
  · intro other present
    rw [tended.count]
    rcases others other present with old | same
    · exact linked.below other old
    · rw [same.1]
      exact linked.below capture member
  · intro other present
    rcases others other present with old | same
    · exact linked.timely other old
    · rw [same.2.2.1, same.2.2.2]
      exact linked.timely capture member
  · intro other present id held
    rcases others other present with old | same
    · exact tended.grown.taken (linked.taken other old id held)
    · rw [same.2.1] at held
      exact tended.grown.taken (linked.taken capture member id held)
  · intro needs
    have before := Desk.needs_of (congrArg BoostGate.sealedAds tended.gate) tended.spends needs
    by_cases waiting : timed.boost.captureWaits = true
    · exact .inl (tended.grown.waits waiting)
    by_cases helped : ∃ other ∈ timed.boost.captures, other.id ≠ capture.id ∧ other.carries = true
    · obtain ⟨other, present, different, carries⟩ := helped
      refine .inr ⟨other, ?_, carries⟩
      rcases tended.passes with ⟨captures, _⟩ | ⟨next, same, captures, _⟩
      · rw [captures]
        exact List.mem_filter.mpr ⟨present, by simpa using different⟩
      · rw [captures]
        refine List.mem_map.mpr ⟨other, present, if_neg ?_⟩
        rwa [same.1]
    · have link : timed.boost.lastLink capture timed.clock = true := by
        rcases linked.chain before with waits | ⟨other, present, carries⟩
        · exact absurd waits waiting
        · have own : other = capture := by
            by_contra different
            refine helped ⟨other, present, fun same => different ?_, carries⟩
            have found := Keyed.find_of_mem linked.names present
            rw [same, Keyed.find_of_mem linked.names member] at found
            exact (Option.some.inj found).symm
          subst own
          unfold Boost.lastLink
          have alone : (timed.boost.captures.any fun third => third.id != other.id && third.carries) = false := by
            rw [List.any_eq_false]
            intro third existing both
            simp only [Bool.and_eq_true, bne_iff_ne] at both
            exact helped ⟨third, existing, both⟩
          simp [before, carries, waiting, alone]
      rcases tended.passes with ⟨_, waits⟩ | ⟨next, same, captures, carries⟩
      · exact .inl (waits link)
      · refine .inr ⟨next, ?_, carries link (Desk.needs_iff.mp needs).1⟩
        rw [captures]
        exact List.mem_map.mpr ⟨capture, member, if_pos same.1.symm⟩

end Timed.Linked

/-- What an event of the requests and of the jobs does to the chain. -/
structure Boost.Carried (clock : Nat) (before after : Boost) : Prop where
  captures : after.captures = before.captures
  count : after.captureCount = before.captureCount
  sustained : before.toDesk.Sustained clock after.toDesk

namespace Boost.Carried
variable {before after : Boost} {clock : Nat}

theorem of_desk {desk : Desk} (sustained : before.toDesk.Sustained clock desk) : before.Carried clock (before.onTables desk) :=
  ⟨rfl, rfl, sustained⟩

theorem of_world {world : World} (sustained : before.toDesk.Sustained clock world.toDesk) : before.Carried clock (before.onWorld world) :=
  ⟨rfl, rfl, sustained⟩

theorem noteCycle (carried : before.Carried clock after) : before.Carried clock (before.noteCycle after) := by
  unfold Boost.noteCycle
  split
  · exact carried
  · exact ⟨carried.captures, carried.count, carried.sustained⟩

theorem noteConfirmation (carried : before.Carried clock after) (id : Uuid) : before.Carried clock (before.noteConfirmation id after) := by
  unfold Boost.noteConfirmation
  split
  · exact ⟨carried.captures, carried.count, carried.sustained⟩
  · exact carried

theorem onJob (numbered : before.snapshots.map (·.id) = List.range before.snapshots.length) (id : Nat) (act : World → Job → World)
    (kept : ∀ job, before.job? id = some job → job.dead = false →
      before.toDesk.Sustained clock (act before.toWorld job).toDesk) : before.Carried clock (before.onJob id act) := by
  have unchanged : before.Carried clock before := ⟨rfl, rfl, .of_same numbered rfl rfl rfl⟩
  exact Boost.onJob_preserves unchanged id act fun job found alive => of_world (kept job found alive)

end Boost.Carried

theorem Timed.carried_step (timed : Timed) (numbered : timed.boost.snapshots.map (·.id) = List.range timed.boost.snapshots.length)
    {event : Event} (requests : event.captures = false) (guarded : timed.keepsChain event = true) :
    timed.boost.Carried (max timed.clock event.now) (timed.boost.step event) := by
  have unchanged : timed.boost.Carried (max timed.clock event.now) timed.boost := ⟨rfl, rfl, .of_same numbered rfl rfl rfl⟩
  unfold Boost.step
  apply Runs.settle_preserves unchanged
  intro after executed
  cases event with
  | requestBoost terms requester now =>
    obtain ⟨desk, accepted, rfl⟩ := Runs.map_ok executed
    exact .of_desk (Desk.requestAdsBoost_sustained numbered guarded accepted)
  | moveGate newStatus resolverId now =>
    obtain ⟨desk, accepted, rfl⟩ := Runs.map_ok executed
    exact .of_desk (Desk.moveGate_sustained numbered accepted)
  | start requester now =>
    obtain ⟨desk, accepted, rfl⟩ := Runs.map_ok executed
    exact .of_desk (Desk.startDue_sustained numbered accepted)
  | scheduledStart now =>
    change timed.boost.startDue now = .ok after at executed
    unfold Boost.startDue at executed
    split at executed
    · split at executed
      · obtain ⟨desk, accepted, rfl⟩ := Runs.map_ok executed
        exact .of_desk (Desk.startDue_sustained numbered accepted)
      · cases executed
        exact unchanged
    · cases executed
      exact unchanged
  | pause requester preferred now =>
    obtain ⟨desk, accepted, rfl⟩ := Runs.map_ok executed
    exact .of_desk (.of_commands numbered (Desk.requestToggle_ok accepted).eq)
  | resume requester preferred now =>
    obtain ⟨desk, accepted, rfl⟩ := Runs.map_ok executed
    exact .of_desk (.of_commands numbered (Desk.requestToggle_ok accepted).eq)
  | cancel actor admin now =>
    obtain ⟨desk, accepted, rfl⟩ := Runs.map_ok executed
    exact .noteCycle (.of_desk (Desk.cancelAdsBoost_sustained numbered accepted))
  | finishCancel now =>
    cases executed
    exact .noteCycle (.of_desk (Desk.finishCancelIfStopped_sustained numbered now))
  | pauseLeft preferred now =>
    obtain ⟨desk, accepted, rfl⟩ := Runs.map_ok executed
    exact .of_desk (.of_commands numbered (Desk.pauseLeftCampaign_ok accepted).eq)
  | captureAfterFailedPause id now =>
    obtain ⟨desk, accepted, rfl⟩ := Runs.map_ok executed
    have grown := Desk.captureAfterFailedCancelPause_grown numbered accepted
    obtain ⟨snapshots, rfl⟩ := Desk.captureAfterFailedCancelPause_ok accepted
    exact .of_desk (.of_needs grown rfl fun on => on)
  | retry id confirmed =>
    obtain ⟨desk, accepted, rfl⟩ := Runs.map_ok executed
    exact .noteConfirmation (.of_desk (Desk.retryCommand_sustained numbered accepted)) id
  | adopt found budget answer =>
    obtain ⟨world, accepted, rfl⟩ := Runs.map_ok executed
    exact .of_world (timed.boost.toWorld.adopt_sustained numbered accepted)
  | setPublishPaused paused =>
    cases executed
    exact .of_desk (.of_same numbered rfl rfl rfl)
  | requeuePaused =>
    cases executed
    refine .of_desk ?_
    unfold Desk.requeuePaused
    split
    · exact .of_same numbered rfl rfl rfl
    · exact .of_same numbered rfl rfl rfl
  | claim id now =>
    cases executed
    obtain ⟨commands, same⟩ := timed.boost.toWorld.claimCommand_desk id now
    exact .of_world (same ▸ .of_same numbered rfl rfl rfl)
  | advance id answer =>
    cases executed
    refine .onJob numbered id _ fun job found alive => timed.boost.toWorld.advance_sustained job numbered answer fun stage => ?_
    unfold Timed.keepsChain at guarded
    dsimp only at guarded
    rw [found] at guarded
    simpa only [Option.all_some, alive, Bool.false_or, stage] using guarded
  | escape id =>
    cases executed
    exact .onJob numbered id _ fun job _ _ => .of_same numbered rfl rfl rfl
  | crash id =>
    cases executed
    exact .onJob numbered id _ fun job _ _ => .of_same numbered rfl rfl rfl
  | recover id now =>
    cases executed
    obtain ⟨commands, same⟩ := timed.boost.toWorld.recoverInterrupted_desk id now
    exact .of_world (same ▸ .of_same numbered rfl rfl rfl)
  | _ => cases requests

namespace Timed.Linked
variable {timed : Timed}

theorem onCapture (linked : timed.Linked) (id : Nat) (act : Boost → Capture → Boost)
    (kept : ∀ capture, timed.boost.capture? id = some capture → capture.dead = false → capture ∈ timed.boost.captures →
      timed.boost.Tended (timed.boost.lastLink capture timed.clock = true) capture (act timed.boost capture)) :
    Linked { boost := timed.boost.onCapture id act, clock := timed.clock } := by
  unfold Boost.onCapture
  split
  · exact linked
  next capture found =>
    have member : capture ∈ timed.boost.captures := Keyed.find_mem found
    cases alive : capture.dead with
    | true => exact linked
    | false => exact linked.tend member (kept capture found alive member)

theorem advanceCapture (linked : timed.Linked) (id : Nat) (answer : CaptureAnswer)
    (guarded : timed.keepsChain (.advanceCapture id answer) = true) :
    Linked { boost := timed.boost.onCapture id fun boost capture => boost.advanceCapture capture answer, clock := timed.clock } := by
  refine linked.onCapture id _ fun capture found alive member => ?_
  have times := linked.timely capture member
  have taken : ∀ id, capture.snapshotId = some id → ∀ row ∈ timed.boost.snapshots, row.id = id → row.status ≠ .pending :=
    fun id held => (linked.taken capture member id held).2
  refine (Boost.advanceCapture_tended linked.numbered taken times.1 times.2 answer).of_weaker fun last => ?_
  unfold keepsChain at guarded
  dsimp only [Event.now] at guarded
  rw [found, Nat.max_eq_left (Nat.zero_le _)] at guarded
  simp only [Option.all_some, alive, Bool.false_or, last, Bool.not_true] at guarded
  unfold Boost.lastLink at last
  simp only [Bool.and_eq_true] at last
  exact ⟨last.1.1.1, last.1.1.2, guarded⟩

theorem escapeCapture (linked : timed.Linked) (id : Nat) (code : String)
    (guarded : timed.keepsChain (.escapeCapture id code) = true) :
    Linked { boost := timed.boost.onCapture id fun boost capture => boost.escapeCapture capture code, clock := timed.clock } := by
  refine linked.onCapture id _ fun capture found alive member => ?_
  have taken : ∀ id, capture.snapshotId = some id → ∀ row ∈ timed.boost.snapshots, row.id = id → row.status ≠ .pending :=
    fun id held => (linked.taken capture member id held).2
  unfold keepsChain at guarded
  dsimp only [Event.now] at guarded
  rw [found, Nat.max_eq_left (Nat.zero_le _)] at guarded
  simp only [Option.all_some, alive, Bool.false_or] at guarded
  have ends_idle : timed.boost.lastLink capture timed.clock = false →
      timed.boost.Tended (timed.boost.lastLink capture timed.clock = true) capture (timed.boost.endCapture capture) := by
    intro idle
    exact ⟨.refl linked.numbered, rfl, rfl, fun on => on, .inl ⟨rfl, fun link => absurd (idle.symm.trans link) Bool.false_ne_true⟩⟩
  have fails : timed.boost.Tended (timed.boost.lastLink capture timed.clock = true) capture
      (if capture.snapshotId.isNone then timed.boost.endCapture capture else timed.boost.failCapture capture code .failedRead) := by
    split
    next immediate =>
      apply ends_idle
      unfold Boost.lastLink Capture.carries
      simp [Option.isNone_iff_eq_none.mp immediate]
    next =>
      refine Boost.failCapture_tended linked.numbered taken code .failedRead fun last => ?_
      unfold Boost.lastLink at last
      simp only [Bool.and_eq_true] at last
      obtain ⟨alive, held⟩ := Capture.carries_live last.1.1.2
      unfold Capture.carries
      simp [alive, held]
  unfold Boost.escapeCapture
  cases stage : capture.stage with
  | notStarted => exact ends_idle (by simpa [stage] using guarded)
  | failedRead => exact ends_idle (by simpa [stage] using guarded)
  | blocking code => exact ends_idle (by simpa [stage] using guarded)
  | _ => exact fails

theorem crashCapture (linked : timed.Linked) (id : Nat) (guarded : timed.keepsChain (.crashCapture id) = true) :
    Linked { boost := timed.boost.onCapture id Boost.crashCapture, clock := timed.clock } := by
  refine linked.onCapture id _ fun capture found alive member => ?_
  unfold keepsChain at guarded
  dsimp only [Event.now] at guarded
  rw [found, Nat.max_eq_left (Nat.zero_le _)] at guarded
  simp only [Option.all_some, alive, Bool.false_or, Bool.not_eq_true'] at guarded
  refine ⟨.refl linked.numbered, rfl, rfl, fun on => on, .inr ⟨_, by constructor <;> simp, rfl, fun last => ?_⟩⟩
  exact absurd (guarded.symm.trans last) Bool.false_ne_true

theorem claimCapture (linked : timed.Linked) (id now : Nat) :
    Linked { boost := timed.boost.claimCapture id now, clock := max timed.clock now } := by
  have later := linked.sustain (Nat.le_max_left timed.clock now) rfl rfl (.of_same linked.numbered rfl rfl rfl)
  unfold Boost.claimCapture
  split
  · exact later
  next row found =>
    split
    next due =>
      have name : row.id = id := Keyed.find_key found
      have inside : id < timed.boost.snapshots.length := by
        have present : row.id ∈ timed.boost.snapshots.map (·.id) := List.mem_map_of_mem (Keyed.find_mem found)
        rw [linked.numbered, List.mem_range, name] at present
        exact present
      have closed : ∀ (row : Snapshot) (wanted : Nat), row ∈ Keyed.modify Snapshot.id timed.boost.snapshots id
          (fun row => { row with status := .inProgress }) → row.id = wanted → row.status = .pending →
          wanted ≠ id ∧ row ∈ timed.boost.snapshots := by
        intro row wanted member named pending
        obtain ⟨old, present, rfl⟩ := List.mem_map.mp member
        by_cases own : old.id = id
        · rw [if_pos own] at pending
          cases pending
        · rw [if_neg own] at named ⊢
          exact ⟨named ▸ own, present⟩
      constructor
      · dsimp only
        have same : (Keyed.modify Snapshot.id timed.boost.snapshots id fun row => { row with status := .inProgress }).map Snapshot.id =
            timed.boost.snapshots.map Snapshot.id := Keyed.map_key_modify _ id fun _ => rfl
        refine same.trans (linked.numbered.trans ?_)
        exact congrArg List.range (List.length_map _).symm
      · refine Keyed.nodup_append linked.names fun old member => ?_
        have := linked.below old member
        dsimp only
        omega
      · intro other member
        rcases List.mem_append.mp member with old | new
        · exact Nat.lt_succ_of_lt (linked.below other old)
        · rw [List.mem_singleton.mp new]
          exact Nat.lt_succ_self _
      · intro other member
        rcases List.mem_append.mp member with old | new
        · have times := linked.timely other old
          exact ⟨times.1, Nat.le_trans times.2 (Nat.le_max_left _ _)⟩
        · rw [List.mem_singleton.mp new]
          exact ⟨due.2.2, Nat.le_max_right _ _⟩
      · intro other member wanted held
        have bounded : wanted < timed.boost.snapshots.length ∧
            (wanted = id ∨ ∀ row ∈ timed.boost.snapshots, row.id = wanted → row.status ≠ .pending) := by
          rcases List.mem_append.mp member with old | new
          · have before := linked.taken other old wanted held
            exact ⟨before.1, .inr before.2⟩
          · rw [List.mem_singleton.mp new] at held
            cases held
            exact ⟨inside, .inl rfl⟩
        refine ⟨Nat.lt_of_lt_of_eq bounded.1 (List.length_map _).symm, fun row member named pending => ?_⟩
        obtain ⟨different, old⟩ := closed row wanted member named pending
        exact (bounded.2.resolve_left different) row old named pending
      · exact fun _ => .inr ⟨_, List.mem_append_right _ (List.mem_singleton_self _), rfl⟩
    next => exact later

theorem refreshSpend (linked : timed.Linked) (answer : CaptureAnswer) (now : Nat) :
    Linked { boost := timed.boost.refreshSpendNow answer now, clock := max timed.clock now } := by
  have later := linked.sustain (Nat.le_max_left timed.clock now) rfl rfl (.of_same linked.numbered rfl rfl rfl)
  unfold Boost.refreshSpendNow
  dsimp only
  split
  · exact later
  split
  · exact later
  split
  · exact later
  constructor
  · exact linked.numbered
  · refine Keyed.nodup_append linked.names fun old member => ?_
    have := linked.below old member
    dsimp only
    omega
  · intro other member
    rcases List.mem_append.mp member with old | new
    · exact Nat.lt_succ_of_lt (linked.below other old)
    · rw [List.mem_singleton.mp new]
      exact Nat.lt_succ_self _
  · intro other member
    rcases List.mem_append.mp member with old | new
    · exact later.timely other old
    · rw [List.mem_singleton.mp new]
      exact ⟨Nat.le_refl _, Nat.le_max_right _ _⟩
  · intro other member wanted held
    rcases List.mem_append.mp member with old | new
    · exact linked.taken other old wanted held
    · rw [List.mem_singleton.mp new] at held
      cases held
  · intro needs
    rcases later.chain needs with waits | ⟨capture, member, carries⟩
    · exact .inl waits
    · exact .inr ⟨capture, List.mem_append_left _ member, carries⟩

theorem step (linked : timed.Linked) {event : Event} (guarded : timed.keepsChain event = true) : (timed.step event).Linked := by
  by_cases captures : event.captures = true
  · cases event with
    | claimCapture id now => exact linked.claimCapture id now
    | advanceCapture id answer =>
      have kept := linked.advanceCapture id answer guarded
      rwa [← Nat.max_eq_left (Nat.zero_le timed.clock)] at kept
    | escapeCapture id code =>
      have kept := linked.escapeCapture id code guarded
      rwa [← Nat.max_eq_left (Nat.zero_le timed.clock)] at kept
    | crashCapture id =>
      have kept := linked.crashCapture id guarded
      rwa [← Nat.max_eq_left (Nat.zero_le timed.clock)] at kept
    | refreshSpend answer now => exact linked.refreshSpend answer now
    | _ => cases captures
  · have carried := timed.carried_step linked.numbered (by simpa using captures) guarded
    exact linked.sustain (Nat.le_max_left _ _) carried.captures carried.count carried.sustained

theorem initial (gateId orgId : Uuid) {snapshots : List Snapshot} (numbered : snapshots.map (·.id) = List.range snapshots.length)
    (clock : Nat) : Linked { boost := Boost.initial gateId orgId snapshots, clock } where
  numbered := numbered
  names := List.nodup_nil
  below _ member := by cases member
  timely _ member := by cases member
  taken _ member := by cases member
  chain needs := by cases (Desk.needs_iff.mp needs).1

end Timed.Linked

/-- Along every run that loses no link, a boost that spends and has a day left has a
capture that waits whenever none is under way. -/
theorem capture_chain_goes_on (gateId orgId : Uuid) (snapshots : List Snapshot)
    (numbered : snapshots.map (·.id) = List.range snapshots.length) (clock : Nat) (events : List Event)
    (kept : Runs.Throughout Timed.step (fun timed event => timed.keepsChain event = true)
      { boost := Boost.initial gateId orgId snapshots, clock } events) :
    (Runs.final Timed.step { boost := Boost.initial gateId orgId snapshots, clock } events).ChainHolds := by
  have linked : Timed.Linked (Runs.final Timed.step { boost := Boost.initial gateId orgId snapshots, clock } events) := by
    apply kept.invariant
    · exact fun _ _ guarded linked => Timed.Linked.step linked guarded
    · exact Timed.Linked.initial gateId orgId numbered clock
  exact linked.holds

namespace Example

/-- A running boost and its first capture, read and followed by the next one. -/
def captureRead : List Event :=
  started ++ [.claimCapture 0 (3 + hours 24)] ++ List.replicate 5 (.advanceCapture 0 { spend := .read 3000 })

def captureLost : List Event := started ++ [.claimCapture 0 (3 + hours 24), .crashCapture 0]

end Example

open Example in
theorem capture_leaves_the_next_one :
    Runs.Throughout Timed.step (fun timed event => timed.keepsChain event = true) { boost := Boost.initial 0 0 [], clock := 0 } captureRead ∧
      (Runs.final Timed.step { boost := Boost.initial 0 0 [], clock := 0 } captureRead).ChainHolds := by
  have kept : Runs.Throughout Timed.step (fun timed event => timed.keepsChain event = true)
      { boost := Boost.initial 0 0 [], clock := 0 } captureRead := by
    decide +kernel
  exact ⟨kept, capture_chain_goes_on 0 0 [] rfl 0 captureRead kept⟩

open Example in
/-- The tick takes the only capture and its process is gone: a running boost with nine
days left is never captured again. -/
theorem crash_ends_the_chain :
    ¬ ∀ events, (Runs.final Timed.step { boost := Boost.initial 0 0 [], clock := 0 } events).ChainHolds := by
  intro holds
  have gone : (Runs.final Timed.step { boost := Boost.initial 0 0 [], clock := 0 } captureLost).boost.captures.all (·.dead) = true := by
    decide +kernel
  have needs : (Runs.final Timed.step { boost := Boost.initial 0 0 [], clock := 0 } captureLost).boost.needsCapture (3 + hours 24) = true := by
    decide +kernel
  have idle : (Runs.final Timed.step { boost := Boost.initial 0 0 [], clock := 0 } captureLost).boost.captureWaits = false := by
    decide +kernel
  have clock : (Runs.final Timed.step { boost := Boost.initial 0 0 [], clock := 0 } captureLost).clock = 3 + hours 24 := by
    decide +kernel
  have waits := holds captureLost (List.all_eq_true.mp gone) (clock.symm ▸ needs)
  rw [idle] at waits
  cases waits

end Sprintable.Boosts
