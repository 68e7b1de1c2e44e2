import Sprintable.Boosts.Frames

/-! What a capture does to a boost besides working on its snapshots: it may ask for a
pause and write the columns of the cap and of the block, and nothing else. -/

namespace Sprintable.Boosts

namespace Desk

theorem insertSnapshot_eq (desk : Desk) (due : Nat) : ∃ snapshots, desk.insertSnapshot due = { desk with snapshots } := by
  unfold insertSnapshot
  split
  · exact ⟨_, rfl⟩
  · exact ⟨_, rfl⟩

theorem failSnapshot_eq (desk : Desk) (id : Option Nat) (code : String) (now : Nat) :
    ∃ snapshots, desk.failSnapshot id code now = { desk with snapshots } := by
  cases id with
  | none => exact ⟨_, rfl⟩
  | some id => exact ⟨_, rfl⟩

theorem setSnapshot_eq (desk : Desk) (id : Option Nat) (change : Snapshot → Snapshot) :
    ∃ snapshots, desk.setSnapshot id change = { desk with snapshots } := by
  cases id with
  | none => exact ⟨_, rfl⟩
  | some id => exact ⟨_, rfl⟩

end Desk

/-- What a capture does to a boost besides its snapshots and its own progress: at most
it asks for a pause and writes the columns of the cap and of the block. -/
structure Boost.Captured (before after : Boost) : Prop where
  gate : after.gate = before.gate
  core : after.core = before.core
  sealings : after.sealings = before.sealings
  provider : after.provider = before.provider
  jobs : after.jobs = before.jobs
  jobCount : after.jobCount = before.jobCount
  history : after.history = before.history
  commands : ∃ desk, before.toDesk.Toggled .pause desk ∧ after.commands = desk.commands

namespace Boost.Captured
variable {before after : Boost}

theorem of_desk {desk : Desk} (toggled : before.toDesk.Toggled .pause desk) (snapshots : List Snapshot) (run : Option BoostRun)
    (core : run.map BoostRun.core = before.core)
    (same : after.toWorld = { before.toWorld with
      toDesk := { before.toDesk with commands := desk.commands, snapshots, run } }) : before.Captured after := by
  constructor
  · exact congrArg (·.gate) same
  · exact (congrArg (·.toDesk.core) same).trans core
  · exact congrArg (·.sealings) same
  · exact congrArg (·.provider) same
  · exact congrArg (·.jobs) same
  · exact congrArg (·.jobCount) same
  · exact congrArg (·.history) same
  · exact ⟨desk, toggled, congrArg (·.commands) same⟩

theorem of_snapshots (snapshots : List Snapshot)
    (same : after.toWorld = { before.toWorld with toDesk := { before.toDesk with snapshots } }) : before.Captured after :=
  .of_desk .known snapshots before.run rfl same

theorem refl (boost : Boost) : boost.Captured boost := .of_snapshots boost.snapshots rfl

end Boost.Captured

namespace Boost
variable (boost : Boost) (capture : Capture)

theorem endCapture_captured : boost.Captured (boost.endCapture capture) := .of_snapshots boost.snapshots rfl

theorem putCapture_captured (changed : Capture) : boost.Captured (boost.putCapture changed) := .of_snapshots boost.snapshots rfl

theorem failCapture_captured (code : String) (stage : CaptureStage) : boost.Captured (boost.failCapture capture code stage) := by
  obtain ⟨snapshots, same⟩ := boost.toDesk.failSnapshot_eq capture.snapshotId code capture.now
  exact .of_snapshots snapshots (by simp only [failCapture, onDesk, putCapture, same])

theorem insertSnapshot_captured (due : Nat) : boost.Captured ((boost.endCapture capture).onDesk (·.insertSnapshot due)) := by
  obtain ⟨snapshots, same⟩ := boost.toDesk.insertSnapshot_eq due
  exact .of_snapshots snapshots (by simp only [onDesk, endCapture, same])

theorem resolveSpendContext_captured (answer : CaptureAnswer) : boost.Captured (boost.resolveSpendContext capture answer) := by
  unfold resolveSpendContext
  split
  · exact failCapture_captured ..
  split
  · exact failCapture_captured ..
  split
  · exact failCapture_captured ..
  dsimp only
  split
  · have toggled := boost.toDesk.pauseByScheduler_toggled boost.gate.resolverId answer capture.now
    refine .of_desk toggled boost.snapshots boost.run rfl ?_
    simp only [onDesk, putCapture]
    rw [toggled.eq]
  · exact putCapture_captured ..

theorem checkBlocked_captured : boost.Captured (boost.checkBlocked capture) := by
  unfold checkBlocked
  split
  · exact failCapture_captured ..
  · exact putCapture_captured ..

theorem readSpend_captured (answer : SpendAnswer) : boost.Captured (boost.readSpend capture answer) := by
  unfold readSpend
  split
  next spendMinor =>
    unfold storeReading
    dsimp only
    split
    · obtain ⟨snapshots, same⟩ := boost.toDesk.setSnapshot_eq capture.snapshotId fun row =>
        { row with
          status := .captured
          spendMinor := some spendMinor
          adsBoostCycle := some capture.run.cycleNo
          capturedAt := some capture.now
          errorCode := none }
      exact .of_snapshots snapshots (by simp only [onDesk, putCapture, same])
    · split
      · exact endCapture_captured ..
      · exact .of_snapshots _ rfl
  next => exact failCapture_captured ..
  next =>
    split
    · exact endCapture_captured ..
    · exact failCapture_captured ..

theorem enforceSpendCap_captured : boost.Captured (boost.enforceSpendCap capture) := by
  unfold enforceSpendCap
  split
  · exact putCapture_captured ..
  split
  · refine .of_desk .known boost.snapshots _ ?_ rfl
    simp only [Desk.core, Option.map_map]
    rfl
  · exact putCapture_captured ..

theorem followThroughCap_captured (newlyReached : Bool) (answer : CaptureAnswer) :
    boost.Captured (boost.followThroughCap capture newlyReached answer) := by
  have inserted : ∀ (desk : Desk), boost.toDesk.Toggled .pause desk →
      ∃ snapshots, desk.insertSnapshot (capture.now + blockFollowUp) = { boost.toDesk with commands := desk.commands, snapshots } := by
    intro desk toggled
    obtain ⟨snapshots, same⟩ := desk.insertSnapshot_eq (capture.now + blockFollowUp)
    refine ⟨snapshots, same.trans ?_⟩
    rw [toggled.eq]
  unfold followThroughCap
  dsimp only
  generalize (boost.run.map BoostRun.status).getD capture.run.status = status
  by_cases stopped : status = .paused
  · rw [if_pos stopped]
    cases newlyReached with
    | true =>
      obtain ⟨snapshots, same⟩ := inserted boost.toDesk .known
      exact .of_snapshots snapshots (by simp only [onDesk, putCapture, if_true, same])
    | false => exact putCapture_captured ..
  · rw [if_neg stopped]
    by_cases pausing : status = .pausePending
    · rw [if_pos pausing]
      obtain ⟨snapshots, same⟩ := inserted boost.toDesk .known
      exact .of_snapshots snapshots (by simp only [onDesk, putCapture, same])
    · rw [if_neg pausing]
      have toggled := boost.toDesk.pauseByScheduler_toggled capture.gate.resolverId answer capture.now
      obtain ⟨snapshots, same⟩ := inserted _ toggled
      exact .of_desk toggled snapshots boost.run rfl (by simp only [onDesk, putCapture, same])

theorem scheduleNext_captured : boost.Captured (boost.scheduleNext capture) := by
  unfold scheduleNext
  dsimp only
  split
  · split
    · split
      · exact insertSnapshot_captured ..
      · exact endCapture_captured ..
    · exact endCapture_captured ..
  · exact endCapture_captured ..

theorem rescheduleNotStarted_captured : boost.Captured (boost.rescheduleNotStarted capture) := by
  unfold rescheduleNotStarted
  dsimp only
  split
  · exact insertSnapshot_captured ..
  · exact endCapture_captured ..

theorem afterFailedSpendRead_captured : boost.Captured (boost.afterFailedSpendRead capture) := by
  unfold afterFailedSpendRead
  dsimp only
  split
  · exact putCapture_captured ..
  split
  · exact insertSnapshot_captured ..
  · exact endCapture_captured ..

theorem blockUnreadableSpend_captured (code : String) : boost.Captured (boost.blockUnreadableSpend capture code) := by
  unfold blockUnreadableSpend
  split
  · exact endCapture_captured ..
  next run present =>
    dsimp only
    split
    · exact putCapture_captured ..
    · refine .of_desk .known boost.snapshots _ ?_ rfl
      simp only [Desk.core, present, Option.map_some]
      rfl

/-- The follow-up of a block may put a pause down and note that people were told, and may go on with a snapshot. -/
theorem followThroughBlock_eq (answer : CaptureAnswer) : ∃ desk run, boost.toDesk.Toggled .pause desk ∧
    (run = boost.run ∨ run = boost.run.map fun stored => { stored with spendBlockedNotifiedAt := some capture.now }) ∧
    let noted := boost.onDesk fun _ => { boost.toDesk with commands := desk.commands, run }
    (boost.followThroughBlock capture answer = noted.endCapture capture ∨
      boost.followThroughBlock capture answer = (noted.onDesk (·.insertSnapshot (capture.now + blockFollowUp))).endCapture capture) := by
  unfold followThroughBlock
  dsimp only
  have paused : ∀ stopped : Bool, ∃ desk, boost.toDesk.Toggled .pause desk ∧
      (if stopped = true then boost else boost.onDesk (·.pauseByScheduler capture.gate.resolverId answer capture.now)) =
        boost.onDesk fun _ => desk := by
    intro stopped
    cases stopped with
    | true => exact ⟨boost.toDesk, .known, rfl⟩
    | false => exact ⟨_, boost.toDesk.pauseByScheduler_toggled capture.gate.resolverId answer capture.now, rfl⟩
  generalize (capture.run.spendBlockedCode == some spendContextLostCode || capture.run.status == .paused ||
    capture.run.status == .pausePending) = stopped
  obtain ⟨desk, toggled, same⟩ := paused stopped
  rw [same]
  generalize (capture.run.spendBlockedNotifiedAt.isNone && answer.notified) = told
  have noted : ∃ run,
      (run = boost.run ∨ run = boost.run.map fun stored => { stored with spendBlockedNotifiedAt := some capture.now }) ∧
      (if told = true then
          { boost.onDesk fun _ => desk with
            run := (boost.onDesk fun _ => desk).run.map fun (stored : BoostRun) =>
              { stored with spendBlockedNotifiedAt := some capture.now } }
        else boost.onDesk fun _ => desk) =
        boost.onDesk fun _ => { boost.toDesk with commands := desk.commands, run } := by
    rw [toggled.eq]
    cases told with
    | true => exact ⟨_, .inr rfl, rfl⟩
    | false => exact ⟨_, .inl rfl, rfl⟩
  obtain ⟨run, from_, noted⟩ := noted
  rw [noted]
  refine ⟨desk, run, toggled, from_, ?_⟩
  split
  · exact .inr rfl
  · exact .inl rfl

theorem followThroughBlock_captured (answer : CaptureAnswer) : boost.Captured (boost.followThroughBlock capture answer) := by
  obtain ⟨desk, run, toggled, from_, followed⟩ := boost.followThroughBlock_eq capture answer
  have core : run.map BoostRun.core = boost.core := by
    rcases from_ with rfl | rfl
    · rfl
    · rw [Option.map_map]
      rfl
  rcases followed with plain | further
  · rw [plain]
    exact .of_desk toggled boost.snapshots run core rfl
  · obtain ⟨snapshots, inserted⟩ :=
      Desk.insertSnapshot_eq { boost.toDesk with commands := desk.commands, run } (capture.now + blockFollowUp)
    rw [further]
    exact .of_desk toggled snapshots run core (by simp only [onDesk, endCapture, inserted])

theorem advanceCapture_captured (answer : CaptureAnswer) : boost.Captured (boost.advanceCapture capture answer) := by
  unfold advanceCapture
  split
  · exact resolveSpendContext_captured ..
  · exact checkBlocked_captured ..
  · exact readSpend_captured ..
  · exact enforceSpendCap_captured ..
  · exact followThroughCap_captured ..
  · exact scheduleNext_captured ..
  · exact rescheduleNotStarted_captured ..
  · exact afterFailedSpendRead_captured ..
  · exact blockUnreadableSpend_captured ..
  · exact followThroughBlock_captured ..

theorem claimCapture_captured (snapshotId now : Nat) : boost.Captured (boost.claimCapture snapshotId now) := by
  unfold claimCapture
  split
  · exact .refl boost
  · split
    · exact .of_snapshots _ rfl
    · exact .refl boost

theorem refreshSpendNow_captured (answer : CaptureAnswer) (now : Nat) : boost.Captured (boost.refreshSpendNow answer now) := by
  unfold refreshSpendNow
  dsimp only
  split
  · exact .refl boost
  · split
    · exact .refl boost
    · split
      · exact .refl boost
      · exact .of_snapshots boost.snapshots rfl

theorem escapeCapture_captured (code : String) : boost.Captured (boost.escapeCapture capture code) := by
  unfold escapeCapture
  split
  · exact endCapture_captured ..
  · exact endCapture_captured ..
  · exact endCapture_captured ..
  · split
    · exact endCapture_captured ..
    · exact failCapture_captured ..

theorem onCapture_captured {id : Nat} (act : Boost → Capture → Boost) (kept : ∀ capture, boost.Captured (act boost capture)) :
    boost.Captured (boost.onCapture id act) := by
  unfold onCapture
  split
  · exact .refl boost
  · split
    · exact .refl boost
    · exact kept _

end Boost

def Event.captures : Event → Bool
  | .claimCapture .. | .advanceCapture .. | .escapeCapture .. | .crashCapture .. | .refreshSpend .. => true
  | _ => false

theorem Boost.captured_step (boost : Boost) {event : Event} (captures : event.captures = true) :
    boost.Captured (boost.step event) := by
  cases event with
  | claimCapture id now => exact boost.claimCapture_captured id now
  | advanceCapture id answer =>
    exact boost.onCapture_captured (fun boost capture => boost.advanceCapture capture answer) fun capture =>
      boost.advanceCapture_captured capture answer
  | escapeCapture id code =>
    exact boost.onCapture_captured (fun boost capture => boost.escapeCapture capture code) fun capture =>
      boost.escapeCapture_captured capture code
  | crashCapture id => exact boost.onCapture_captured Boost.crashCapture fun capture => boost.putCapture_captured _
  | refreshSpend answer now => exact boost.refreshSpendNow_captured answer now
  | _ => cases captures

end Sprintable.Boosts
