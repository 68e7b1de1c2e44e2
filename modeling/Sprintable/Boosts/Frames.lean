import Sprintable.Boosts.Runs

/-! What the events of a boost leave alone. Requests and captures never touch the
columns of the run that executions rest on, and they rewrite no command that a
worker holds; the lemmas here say so once for all invariants. -/

namespace Sprintable.Boosts

open Gates (GateStatus)

/-- The run without the columns that requests and captures write. -/
def BoostRun.core (run : BoostRun) : BoostRun :=
  { run with
    startedAt := none
    pausedAt := none
    capReachedAt := none
    spendBlockedAt := none
    spendBlockedCode := none
    spendBlockedNotifiedAt := none
    accountCurrency := none
    createdForVersionId := none
    cycleStartedAt := none
    cancelRequestedAt := none
    cancelRequestedBy := none }

def Desk.core (desk : Desk) : Option BoostRun := desk.run.map BoostRun.core

/-- What a row keeps through every request, and the statuses no request gives it. -/
structure BoostCommand.Kept (old new : BoostCommand) : Prop where
  id : new.id = old.id
  boost : new.boost = old.boost
  cycle : new.adsBoostCycle = old.adsBoostCycle
  seq : new.toggleSeq = old.toggleSeq
  version : new.approvedVersion = old.approvedVersion
  held : old.status = .inProgress → new = old
  taken : new.status = .inProgress → old.status = .inProgress
  completed : new.status = .completed → old.status = .completed

namespace BoostCommand.Kept
variable {first second third : BoostCommand}

theorem refl (command : BoostCommand) : command.Kept command := ⟨rfl, rfl, rfl, rfl, rfl, fun _ => rfl, fun taken => taken, fun finished => finished⟩

theorem trans (earlier : first.Kept second) (later : second.Kept third) : first.Kept third where
  id := later.id.trans earlier.id
  boost := later.boost.trans earlier.boost
  cycle := later.cycle.trans earlier.cycle
  seq := later.seq.trans earlier.seq
  version := later.version.trans earlier.version
  held := by
    intro running
    have same := earlier.held running
    exact (later.held (same ▸ running)).trans same
  taken := earlier.taken ∘ later.taken
  completed := earlier.completed ∘ later.completed

theorem of_status {old new : BoostCommand} (same : (new.id, new.boost, new.adsBoostCycle, new.toggleSeq, new.approvedVersion) =
    (old.id, old.boost, old.adsBoostCycle, old.toggleSeq, old.approvedVersion)) (idle : old.status ≠ .inProgress)
    (free : new.status ≠ .inProgress) (unfinished : new.status ≠ .completed) : old.Kept new := by
  simp only [Prod.mk.injEq] at same
  exact ⟨same.1, same.2.1, same.2.2.1, same.2.2.2.1, same.2.2.2.2, fun running => absurd running idle,
    fun running => absurd running free, fun completed => absurd completed unfinished⟩

end BoostCommand.Kept

/-- Row by row, the second table is what requests made of the first. -/
def Handled (old new : List BoostCommand) : Prop := List.Forall₂ BoostCommand.Kept old new

/-- Commands are numbered in the order of their creation. -/
def Numbered (commands : List BoostCommand) : Prop := commands.map (·.id) = List.range commands.length

namespace Numbered
variable {commands : List BoostCommand}

theorem unique (numbered : Numbered commands) : (commands.map (·.id)).Nodup := by
  rw [show commands.map (·.id) = _ from numbered]
  exact List.nodup_range

theorem append {command : BoostCommand} (numbered : Numbered commands) (fresh : command.id = commands.length) :
    Numbered (commands ++ [command]) := by
  unfold Numbered at numbered ⊢
  rw [List.map_append, List.map_singleton, numbered, fresh, List.length_append, List.length_singleton, List.range_succ]

theorem modify (numbered : Numbered commands) (id : Uuid) {change : BoostCommand → BoostCommand}
    (kept : ∀ command, (change command).id = command.id) : Numbered (Keyed.modify (·.id) commands id change) := by
  unfold Numbered at numbered ⊢
  rw [Keyed.map_key_modify commands id kept, numbered]
  exact congrArg List.range (List.length_map _).symm

theorem same {first second : BoostCommand} (numbered : Numbered commands) (one : first ∈ commands) (other : second ∈ commands)
    (equal : first.id = second.id) : first = second := by
  have found := Keyed.find_of_mem numbered.unique one
  have again := Keyed.find_of_mem numbered.unique other
  rw [equal, again] at found
  exact (Option.some.inj found).symm

end Numbered

namespace Handled
variable {old new : List BoostCommand}

theorem refl (commands : List BoostCommand) : Handled commands commands :=
  List.forall₂_same.mpr fun command _ => .refl command

theorem trans {third : List BoostCommand} (earlier : Handled old new) (later : Handled new third) : Handled old third := by
  unfold Handled at earlier later ⊢
  induction earlier generalizing third with
  | nil => exact later
  | cons kept _ ih =>
    cases later with
    | cons keeps rest => exact .cons (kept.trans keeps) (ih rest)

theorem map {change : BoostCommand → BoostCommand} (kept : ∀ command ∈ old, command.Kept (change command)) :
    Handled old (old.map change) := by
  unfold Handled
  rw [List.forall₂_map_right_iff]
  exact List.forall₂_same.mpr kept

theorem put {command changed : BoostCommand} (numbered : Numbered old) (member : command ∈ old)
    (kept : command.Kept changed) : Handled old (Keyed.put (·.id) old changed) := by
  apply map
  intro row present
  split
  next same =>
    have equal : row = command := numbered.same present member (same.trans kept.id)
    exact equal ▸ kept
  next => exact .refl row

theorem back (handled : Handled old new) {command : BoostCommand} (member : command ∈ new) :
    ∃ earlier ∈ old, earlier.Kept command := by
  unfold Handled at handled
  induction handled with
  | nil => cases member
  | cons kept _ ih =>
    rcases List.mem_cons.mp member with rfl | later
    · exact ⟨_, List.mem_cons_self, kept⟩
    · obtain ⟨earlier, present, keeps⟩ := ih later
      exact ⟨earlier, List.mem_cons_of_mem _ present, keeps⟩

theorem forth (handled : Handled old new) {command : BoostCommand} (member : command ∈ old) :
    ∃ later ∈ new, command.Kept later := by
  unfold Handled at handled
  induction handled with
  | nil => cases member
  | cons kept _ ih =>
    rcases List.mem_cons.mp member with rfl | rest
    · exact ⟨_, List.mem_cons_self, kept⟩
    · obtain ⟨later, present, keeps⟩ := ih rest
      exact ⟨later, List.mem_cons_of_mem _ present, keeps⟩

theorem numbered (handled : Handled old new) (ordered : Numbered old) : Numbered new := by
  have ids : new.map (·.id) = old.map (·.id) := by
    clear ordered
    unfold Handled at handled
    induction handled with
    | nil => rfl
    | cons kept _ ih => rw [List.map_cons, List.map_cons, ih, kept.id]
  have length := handled.length_eq
  unfold Numbered at ordered ⊢
  rw [ids, ordered, length]

end Handled

namespace Desk
variable {desk after : Desk}

theorem scheduleCaptureNow_ok {due : Nat} (executed : desk.scheduleCaptureNow due = .ok after) :
    ∃ snapshots, after = { desk with snapshots } := by
  unfold scheduleCaptureNow at executed
  split at executed
  · cases executed
    exact ⟨_, rfl⟩
  · split at executed
    · cases executed
      unfold insertSnapshot
      split
      · exact ⟨_, rfl⟩
      · exact ⟨_, rfl⟩
    · split at executed
      · cases executed
        exact ⟨_, rfl⟩
      · split at executed
        · cases executed
        · cases executed
          exact ⟨_, rfl⟩

theorem leaveApproved_ok {before : GateStatus} {now : Nat} (executed : desk.leaveApproved before now = .ok after) :
    ∃ snapshots, after = { desk with snapshots } := by
  unfold leaveApproved at executed
  split at executed
  · exact scheduleCaptureNow_ok executed
  · cases executed
    exact ⟨_, rfl⟩

theorem voidPendingCommands_handled (reasonCode : String) :
    Handled desk.commands (desk.voidPendingCommands reasonCode).commands := by
  apply Handled.map
  intro command _
  split
  next queued => exact .of_status rfl (by rw [queued.1]; decide) (by simp) (by simp)
  next => exact .refl command

theorem voidBlockedStarts_handled : Handled desk.commands desk.voidBlockedStarts.commands := by
  apply Handled.map
  intro command _
  split
  next blocked => exact .of_status rfl (by rw [blocked.1]; decide) (by simp) (by simp)
  next => exact .refl command

theorem requeuePaused_handled : Handled desk.commands desk.requeuePaused.commands := by
  unfold requeuePaused
  split
  · exact .refl _
  · apply Handled.map
    intro command _
    split
    next blocked =>
      exact .of_status rfl (by rw [blocked.1]; decide) (by simp [Publications.Command.requeue])
        (by simp [Publications.Command.requeue])
    next => exact .refl command

theorem humanRetryable_idle {command : Publications.Command} (retryable : command.humanRetryable = true) :
    command.status ≠ .inProgress := by
  intro running
  simp [Publications.Command.humanRetryable, Publications.Command.newsletterRetryable, running] at retryable

theorem retryDeadLetter_eq (desk : Desk) (command : BoostCommand) :
    ∃ commands, desk.retryDeadLetter command = { desk with commands } ∧
      (Numbered desk.commands → command ∈ desk.commands → Handled desk.commands commands) := by
  unfold retryDeadLetter
  split
  next retryable =>
    refine ⟨_, rfl, fun numbered member => .put numbered member ?_⟩
    exact .of_status rfl (humanRetryable_idle retryable) (by simp [Publications.Command.requeue])
      (by simp [Publications.Command.requeue])
  next => exact ⟨_, rfl, fun _ _ => .refl _⟩

theorem createOrGet_ok {operation : Operation} {toggleSeq : Nat} {requester : Uuid} {initiatedBy : Option Initiator} {now : Nat}
    (executed : desk.createOrGet operation toggleSeq requester initiatedBy now = .ok after) :
    ∃ seal_, desk.gate.sealedAds = some seal_ ∧
      (after = desk ∧ (∃ command ∈ desk.commands, sameCommand seal_ operation toggleSeq command = true) ∨
        after = { desk with
          commands := desk.commands ++ [desk.newCommand seal_ operation toggleSeq requester initiatedBy now] }) := by
  unfold createOrGet at executed
  split at executed
  next => cases executed
  next seal_ sealedTerms =>
    refine ⟨seal_, sealedTerms, ?_⟩
    split at executed
    next known =>
      cases executed
      exact .inl ⟨rfl, List.any_eq_true.mp known⟩
    next =>
      cases executed
      exact .inr rfl

theorem requestAdsBoostStart_core {requester : Uuid} {initiatedBy : Initiator} {now : Nat}
    (executed : desk.requestAdsBoostStart requester initiatedBy now = .ok after) : after.core = desk.core := by
  unfold requestAdsBoostStart at executed
  split at executed
  · cases executed
  split at executed
  · cases executed
  obtain ⟨seal_, _, ⟨rfl, _⟩ | rfl⟩ := createOrGet_ok executed
  · rfl
  · rfl

theorem requestAdsBoost_ok {terms : Terms} {requester : Uuid} {now : Nat}
    (executed : desk.requestAdsBoost terms requester now = .ok after) :
    after.core = desk.core ∧ Handled desk.commands after.commands ∧ after.sealings = desk.sealings + 1 ∧
      after.gate.sealedAds = some { terms with versionId := desk.sealings } ∧ after.gate.status = .pending ∧
      after.publishPaused = desk.publishPaused ∧ after.cycles = desk.cycles := by
  unfold requestAdsBoost at executed
  split at executed
  next => cases executed
  next =>
    dsimp only at executed
    have cycled_core : ∀ moved : Desk, moved = (if desk.gate.status = .voided then
        { desk with run := desk.run.map fun (run : BoostRun) => { run with cycleStartedAt := some now } } else desk) →
        moved.core = desk.core ∧ moved.commands = desk.commands ∧ moved.sealings = desk.sealings ∧
          moved.publishPaused = desk.publishPaused ∧ moved.cycles = desk.cycles := by
      rintro moved rfl
      split
      · refine ⟨?_, rfl, rfl, rfl, rfl⟩
        simp only [core, Option.map_map]
        rfl
      · exact ⟨rfl, rfl, rfl, rfl, rfl⟩
    generalize (if desk.gate.status = .voided then
        { desk with run := desk.run.map fun (run : BoostRun) => { run with cycleStartedAt := some now } } else desk) = moved
      at executed cycled_core
    generalize (if desk.gate.status = .voided then none else desk.gate.sealedAds) = old at executed
    obtain ⟨core_same, commands_same, sealings_same, paused_same, cycles_same⟩ := cycled_core moved rfl
    split at executed
    next => cases executed
    next =>
      split at executed
      next =>
        obtain ⟨snapshots, rfl⟩ := leaveApproved_ok executed
        refine ⟨core_same, ?_, ?_, ?_, rfl, paused_same, cycles_same⟩
        · exact commands_same ▸ voidPendingCommands_handled termsChangedCode
        · exact congrArg (· + 1) sealings_same
        · exact congrArg (fun version => some (Seal.mk terms version)) sealings_same
      next =>
        cases executed
        refine ⟨core_same, ?_, ?_, ?_, rfl, paused_same, cycles_same⟩
        · exact commands_same ▸ .refl _
        · exact congrArg (· + 1) sealings_same
        · exact congrArg (fun version => some (Seal.mk terms version)) sealings_same

theorem moveGate_ok {newStatus : GateStatus} {resolverId : Option Uuid} {now : Nat}
    (executed : desk.moveGate newStatus resolverId now = .ok after) :
    gateMoves.contains (desk.gate.status, newStatus) = true ∧
      ∃ snapshots, after = { desk with gate := { desk.gate with status := newStatus, resolverId }, snapshots } := by
  unfold moveGate at executed
  split at executed
  next allowed =>
    obtain ⟨snapshots, rfl⟩ := leaveApproved_ok executed
    exact ⟨allowed, snapshots, rfl⟩
  next => cases executed

theorem captureAfterFailedCancelPause_ok {id : Uuid} {now : Nat}
    (executed : desk.captureAfterFailedCancelPause id now = .ok after) : ∃ snapshots, after = { desk with snapshots } := by
  unfold captureAfterFailedCancelPause at executed
  split at executed
  next =>
    split at executed
    next =>
      cases executed
      exact ⟨_, rfl⟩
    next =>
      split at executed
      next =>
        cases executed
        exact ⟨_, rfl⟩
      next =>
        split at executed
        next =>
          cases executed
          exact ⟨_, rfl⟩
        next => exact scheduleCaptureNow_ok executed
  next =>
    cases executed
    exact ⟨_, rfl⟩

theorem markCancelled_ok {actor : Uuid} {now : Nat} (executed : desk.markCancelled actor now = .ok after) :
    after.commands = desk.commands ∧ after.gate = desk.gate ∧ after.sealings = desk.sealings ∧
      (after.core = desk.core ∨
        ∃ run, desk.run = some run ∧ after.run = some run.reset ∧ run.campaignId = none ∧ run.adsetId = none ∧
          run.adId = none ∧ run.createCallStartedAt = none ∧ desk.commandOut = false) := by
  unfold markCancelled at executed
  split at executed
  next =>
    cases executed
    exact ⟨rfl, rfl, rfl, .inl rfl⟩
  next run present =>
    split at executed
    next =>
      have marked_core : (desk.putRun { run with cancelRequestedAt := some now, cancelRequestedBy := some actor }).core =
          desk.core := by
        simp only [core, putRun, present, Option.map_some]
        rfl
      split at executed
      · cases executed
        exact ⟨rfl, rfl, rfl, .inl marked_core⟩
      · obtain ⟨snapshots, rfl⟩ := scheduleCaptureNow_ok executed
        exact ⟨rfl, rfl, rfl, .inl marked_core⟩
    next empty =>
      cases executed
      simp only [Bool.or_eq_true, not_or, Bool.not_eq_true, Option.isSome_eq_false_iff, Option.isNone_iff_eq_none] at empty
      exact ⟨rfl, rfl, rfl, .inr ⟨run, present, rfl, empty.1.1.1.1, empty.1.1.1.2, empty.1.1.2, empty.1.2, empty.2⟩⟩

theorem cancelAdsBoost_ok {actor : Uuid} {admin : Bool} {now : Nat} (executed : desk.cancelAdsBoost actor admin now = .ok after) :
    Handled desk.commands after.commands ∧ after.gate.sealedAds = desk.gate.sealedAds ∧ after.sealings = desk.sealings ∧
      (after.core = desk.core ∨
        ∃ run, desk.run = some run ∧ after.run = some run.reset ∧ run.campaignId = none ∧ run.adsetId = none ∧
          run.adId = none ∧ run.createCallStartedAt = none ∧ after.commandOut = false) := by
  unfold cancelAdsBoost at executed
  split at executed
  next => cases executed
  next =>
    split at executed
    next =>
      split at executed
      · cases executed
        exact ⟨.refl _, rfl, rfl, .inl rfl⟩
      · cases executed
    next =>
      split at executed
      next => cases executed
      next =>
        obtain ⟨left, first, rest⟩ := Runs.bind_ok executed
        obtain ⟨snapshots, rfl⟩ := leaveApproved_ok first
        obtain ⟨commands_same, gate_same, sealings_same, outcome⟩ := markCancelled_ok rest
        have handled : Handled desk.commands ((desk.voidPendingCommands cancelVoidReasonCode).voidBlockedStarts).commands :=
          (voidPendingCommands_handled cancelVoidReasonCode).trans voidBlockedStarts_handled
        refine ⟨commands_same ▸ handled, gate_same ▸ rfl, sealings_same, ?_⟩
        rcases outcome with core_same | ⟨run, present, reset, empty⟩
        · exact .inl core_same
        · refine .inr ⟨run, present, reset, empty.1, empty.2.1, empty.2.2.1, empty.2.2.2.1, ?_⟩
          have nothing := empty.2.2.2.2
          unfold commandOut at nothing ⊢
          rw [commands_same]
          exact nothing

theorem finishCancelIfStopped_cases (now : Nat) :
    desk.finishCancelIfStopped now = desk ∨
      ∃ run cycles, desk.run = some run ∧ desk.cancelFinishes run = true ∧
        desk.finishCancelIfStopped now = { desk.putRun run.reset with cycles } := by
  unfold finishCancelIfStopped
  split
  next => exact .inl rfl
  next run present =>
    split
    next finishes => exact .inr ⟨run, _, present, finishes, rfl⟩
    next => exact .inl rfl

/-- The claim and the mark of a run without a complete set of objects are given up. -/
def cleared (run : BoostRun) : BoostRun := if run.ids.complete then run else World.released run

theorem retryCommand_ok {id : Uuid} {confirmed : Bool} (executed : desk.retryCommand id confirmed = .ok after) :
    ∃ command commands, desk.command id = some command ∧ (Numbered desk.commands → Handled desk.commands commands) ∧
      (after = { desk with commands } ∧ command.reasonCode ≠ some createOutcomeUnknownCode ∨
        after = { desk with commands, run := desk.run.map cleared } ∧ confirmed = true ∧
          command.reasonCode = some createOutcomeUnknownCode) := by
  unfold retryCommand at executed
  split at executed
  next => cases executed
  next command found =>
    have member : command ∈ desk.commands := Keyed.find_mem found
    split at executed
    next => cases executed
    next =>
      split at executed
      next known =>
        cases executed
        obtain ⟨commands, same, handled⟩ := retryDeadLetter_eq desk command
        exact ⟨command, commands, found, fun numbered => handled numbered member, .inl ⟨same, known⟩⟩
      next unknown =>
        split at executed
        next => cases executed
        next asked =>
          cases executed
          obtain ⟨commands, same, handled⟩ := retryDeadLetter_eq { desk with run := desk.run.map cleared } command
          refine ⟨command, commands, found, fun numbered => handled numbered member, .inr ⟨same, ?_, ?_⟩⟩
          · simpa using asked
          · simpa using unknown

theorem mem_latestToggles {cycle : Nat} {command : BoostCommand} :
    command ∈ desk.latestToggles cycle ↔
      command ∈ desk.commands ∧ command.isToggle = true ∧ command.adsBoostCycle = cycle ∧
        ∀ other ∈ desk.commands, other.isToggle = true → other.adsBoostCycle = cycle →
          other.toggleSeq ≤ command.toggleSeq := by
  simp only [latestToggles, toggles, List.mem_filter, beq_iff_eq, List.all_eq_true, decide_eq_true_eq, and_imp]
  constructor
  · rintro ⟨⟨⟨member, toggle⟩, own⟩, last⟩
    exact ⟨member, toggle, own, fun other present kind same => last other present kind same⟩
  · rintro ⟨member, toggle, own, last⟩
    exact ⟨⟨⟨member, toggle⟩, own⟩, fun other present kind same => last other present kind same⟩

theorem latestToggle_mem {cycle : Nat} {preferred : Uuid} {latest : BoostCommand}
    (found : desk.latestToggle cycle preferred = some latest) : latest ∈ desk.latestToggles cycle := by
  unfold latestToggle at found
  rcases Option.or_eq_some_iff.mp found with chosen | ⟨_, first⟩
  · exact List.mem_of_find?_eq_some chosen
  · exact List.mem_of_mem_head? first

theorem exists_latest {rows : List BoostCommand} (some_row : rows ≠ []) :
    ∃ last ∈ rows, ∀ other ∈ rows, other.toggleSeq ≤ last.toggleSeq := by
  induction rows with
  | nil => exact absurd rfl some_row
  | cons row rest ih =>
    by_cases empty : rest = []
    · refine ⟨row, List.mem_cons_self, ?_⟩
      intro other member
      rw [empty, List.mem_singleton] at member
      exact member ▸ Nat.le_refl _
    · obtain ⟨last, member, greatest⟩ := ih empty
      by_cases above : row.toggleSeq ≤ last.toggleSeq
      · refine ⟨last, List.mem_cons_of_mem _ member, ?_⟩
        intro other present
        rcases List.mem_cons.mp present with rfl | later
        · exact above
        · exact greatest other later
      · refine ⟨row, List.mem_cons_self, ?_⟩
        intro other present
        rcases List.mem_cons.mp present with rfl | later
        · exact Nat.le_refl _
        · have := greatest other later
          omega

theorem latestToggle_none {cycle : Nat} {preferred : Uuid} (missing : desk.latestToggle cycle preferred = none) :
    ∀ command ∈ desk.commands, command.isToggle = true → command.adsBoostCycle ≠ cycle := by
  intro command member toggle own
  have empty : desk.latestToggles cycle = [] := by
    unfold latestToggle at missing
    exact List.head?_eq_none_iff.mp (Option.or_eq_none_iff.mp missing).2
  have own_row : command ∈ desk.toggles.filter fun row => row.adsBoostCycle == cycle :=
    List.mem_filter.mpr ⟨List.mem_filter.mpr ⟨member, toggle⟩, by simpa using own⟩
  obtain ⟨last, present, greatest⟩ := exists_latest (List.ne_nil_of_mem own_row)
  have : last ∈ desk.latestToggles cycle := by
    unfold latestToggles
    exact List.mem_filter.mpr ⟨present, List.all_eq_true.mpr fun other row => decide_eq_true (greatest other row)⟩
  rw [empty] at this
  cases this

theorem le_lastToggleSeq {command : BoostCommand} (member : command ∈ desk.commands) (toggle : command.isToggle = true) :
    command.toggleSeq ≤ desk.lastToggleSeq := by
  have present : command.toggleSeq ∈ desk.toggles.map (·.toggleSeq) :=
    List.mem_map_of_mem (List.mem_filter.mpr ⟨member, toggle⟩)
  unfold lastToggleSeq
  cases greatest : (desk.toggles.map (·.toggleSeq)).max? with
  | none =>
    rw [List.max?_eq_none_iff] at greatest
    rw [greatest] at present
    cases present
  | some last => exact (List.max?_eq_some_iff.mp greatest).2 _ present

/-- Where the number of a new toggle stands: not below those of its cycle, and above
every number of the cycles in which no toggle is yet. -/
structure NextSeq (desk : Desk) (seq : Nat) : Prop where
  own : ∀ command ∈ desk.commands, command.isToggle = true → command.adsBoostCycle = desk.cycle → command.toggleSeq ≤ seq
  fresh : (∃ command ∈ desk.commands, command.isToggle = true ∧ command.adsBoostCycle = desk.cycle ∧ command.toggleSeq ≤ seq) ∨
    ∀ command ∈ desk.commands, command.isToggle = true → command.toggleSeq < seq

/-- What an accepted pause or resume does: it keeps the rows, retries the last toggle
or adds a toggle. -/
inductive Toggled (desk : Desk) (operation : Operation) : Desk → Prop where
  | known : Toggled desk operation desk
  | retried (latest : BoostCommand) (commands : List BoostCommand) (member : latest ∈ desk.commands)
      (handled : Numbered desk.commands → Handled desk.commands commands) : Toggled desk operation { desk with commands }
  | added (seal_ : Seal) (seq : Nat) (requester : Uuid) (initiatedBy : Option Initiator) (now : Nat)
      (sealedTerms : desk.gate.sealedAds = some seal_) (started : desk.startedIn desk.cycle = true) (next : desk.NextSeq seq) :
      Toggled desk operation
        { desk with commands := desk.commands ++ [desk.newCommand seal_ operation seq requester initiatedBy now] }

theorem Toggled.eq {operation : Operation} (toggled : desk.Toggled operation after) :
    after = { desk with commands := after.commands } := by
  cases toggled <;> rfl

theorem NextSeq.of_latest {preferred : Uuid} {latest : BoostCommand} (found : desk.latestToggle desk.cycle preferred = some latest)
    {seq : Nat} (above : latest.toggleSeq ≤ seq) : desk.NextSeq seq := by
  obtain ⟨member, toggle, own, last⟩ := mem_latestToggles.mp (latestToggle_mem found)
  refine ⟨?_, .inl ⟨latest, member, toggle, own, above⟩⟩
  intro command present kind same
  have := last command present kind same
  omega

theorem createOrGet_toggled {operation : Operation} {seq : Nat} {requester : Uuid} {initiatedBy : Option Initiator} {now : Nat}
    (started : desk.startedIn desk.cycle = true) (next : desk.NextSeq seq)
    (executed : desk.createOrGet operation seq requester initiatedBy now = .ok after) : desk.Toggled operation after := by
  obtain ⟨seal_, sealedTerms, ⟨rfl, _⟩ | rfl⟩ := createOrGet_ok executed
  · exact .known
  · exact .added seal_ seq requester initiatedBy now sealedTerms started next

theorem requestToggle_ok {operation : Operation} {requester : Uuid} {initiatedBy : Option Initiator} {usable : Bool}
    {preferred : Uuid} {now : Nat}
    (executed : desk.requestToggle operation requester initiatedBy usable preferred now = .ok after) :
    desk.Toggled operation after := by
  unfold requestToggle at executed
  split at executed
  · cases executed
  split at executed
  · cases executed
  next begun =>
    have started : desk.startedIn desk.cycle = true := by simpa using begun
    split at executed
    · cases executed
    split at executed
    · cases executed
    cases found : desk.latestToggle desk.cycle preferred with
    | none =>
      rw [found] at executed
      dsimp only at executed
      split at executed
      · cases executed
      · refine createOrGet_toggled started ⟨?_, .inr ?_⟩ executed
        · intro command member toggle own
          exact absurd own (latestToggle_none found command member toggle)
        · intro command member toggle
          exact Nat.lt_succ_of_le (le_lastToggleSeq member toggle)
    | some latest =>
      rw [found] at executed
      dsimp only at executed
      have member : latest ∈ desk.commands := (mem_latestToggles.mp (latestToggle_mem found)).1
      split at executed
      · exact createOrGet_toggled started (.of_latest found (Nat.le_succ _)) executed
      · split at executed
        · split at executed
          · cases executed
            exact .known
          · cases executed
            obtain ⟨commands, same, handled⟩ := retryDeadLetter_eq desk latest
            rw [same]
            exact .retried latest commands member fun numbered => handled numbered member
        · exact createOrGet_toggled started (.of_latest found (Nat.le_refl _)) executed
        · exact createOrGet_toggled started (.of_latest found (Nat.le_refl _)) executed
        · cases executed
        · exact createOrGet_toggled started (.of_latest found (Nat.le_succ _)) executed

theorem pauseLeftCampaign_ok {preferred : Uuid} {now : Nat} (executed : desk.pauseLeftCampaign preferred now = .ok after) :
    desk.Toggled .pause after := by
  unfold pauseLeftCampaign at executed
  split at executed
  · cases executed
    exact .known
  split at executed
  · cases executed
    exact .known
  split at executed
  · cases executed
    exact .known
  split at executed
  · cases executed
    exact .known
  · exact requestToggle_ok executed

theorem pauseByScheduler_toggled (resolverId : Option Uuid) (answer : CaptureAnswer) (now : Nat) :
    desk.Toggled .pause (desk.pauseByScheduler resolverId answer now) := by
  unfold pauseByScheduler
  split
  · exact .known
  · split
    next paused executed => exact requestToggle_ok executed
    next => exact .known

end Desk

end Sprintable.Boosts
