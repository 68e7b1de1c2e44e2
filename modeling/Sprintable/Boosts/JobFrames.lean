import Sprintable.Boosts.CaptureFrames

/-! What one stage of a job does: it works on its own command and on its own row among
the jobs, and it never touches the gate. -/

namespace Sprintable.Boosts

open Publications (Command CommandStatus)

/-- How the end of a job may change its command: the row keeps what names it, and it is
completed only by an acknowledged switch. -/
structure Concluding (acknowledged : Prop) (change : Command → Command) : Prop where
  id : ∀ command, (change command).id = command.id
  seq : ∀ command, (change command).toggleSeq = command.toggleSeq
  version : ∀ command, (change command).approvedVersion = command.approvedVersion
  completed : ∀ command, (change command).status = .completed → command.status = .completed ∨ acknowledged
  ended : ∀ command, command.status = .inProgress → (change command).status ≠ .inProgress

theorem markStopNotice_columns (command : Command) :
    command.markStopNotice.toggleSeq = command.toggleSeq ∧ command.markStopNotice.approvedVersion = command.approvedVersion := by
  unfold Command.markStopNotice
  split <;> exact ⟨rfl, rfl⟩

theorem applyFailure_columns (command : Command) (errorCode lastError : Option String) (now : Nat)
    (retryAfterSeconds reasonResetAt : Option Nat) :
    let failed := command.applyFailure errorCode lastError now retryAfterSeconds reasonResetAt
    failed.toggleSeq = command.toggleSeq ∧ failed.approvedVersion = command.approvedVersion := by
  unfold Command.applyFailure
  cases Publications.classifyFailureKind errorCode with
  | connection => exact markStopNotice_columns _
  | needsCheck | notSent | paused => exact markStopNotice_columns _
  | transient =>
    dsimp only
    split
    · exact markStopNotice_columns _
    · exact ⟨rfl, rfl⟩

namespace Concluding
variable {acknowledged : Prop}

theorem failure (errorCode lastError : Option String) (now : Nat) :
    Concluding acknowledged fun command => command.applyFailure errorCode lastError now none none where
  id command := command.applyFailure_id errorCode lastError now none none
  seq command := (applyFailure_columns command errorCode lastError now none none).1
  version command := (applyFailure_columns command errorCode lastError now none none).2
  completed command finished := by
    obtain ⟨_, _, _, blocked | dead | ⟨queued, _⟩⟩ := command.applyFailure_cases errorCode lastError now none none
    · rw [blocked] at finished
      cases finished
    · rw [dead] at finished
      cases finished
    · rw [queued] at finished
      cases finished
  ended command _ := by
    obtain ⟨_, _, _, blocked | dead | ⟨queued, _⟩⟩ := command.applyFailure_cases errorCode lastError now none none
    · rw [blocked]
      decide
    · rw [dead]
      decide
    · rw [queued]
      decide

theorem refusal (code : String) : Concluding acknowledged fun command => command.markBlockedUnapproved code code where
  id _ := rfl
  seq _ := rfl
  version _ := rfl
  completed _ finished := by cases finished
  ended _ _ := by simp [Command.markBlockedUnapproved]

theorem paused :
    Concluding acknowledged fun command => { command with status := .blocked, failureKind := some .paused } where
  id _ := rfl
  seq _ := rfl
  version _ := rfl
  completed _ finished := by cases finished
  ended _ _ := by simp

theorem completion (acked : acknowledged) :
    Concluding acknowledged fun command => { command with status := .completed, lastError := none, failureKind := none } where
  id _ := rfl
  seq _ := rfl
  version _ := rfl
  completed _ _ := .inr acked
  ended _ _ := by simp

theorem escaped (code : Option String) (now : Nat) :
    Concluding acknowledged fun command =>
      if command.status = .inProgress then command.applyFailure code code now none none else command := by
  have failed : Concluding acknowledged _ := failure code code now
  constructor
  · intro command
    split
    · exact failed.id command
    · rfl
  · intro command
    split
    · exact failed.seq command
    · rfl
  · intro command
    split
    · exact failed.version command
    · rfl
  · intro command finished
    split at finished
    · exact failed.completed command finished
    · exact .inl finished
  · intro command running
    rw [if_pos running]
    exact failed.ended command running

end Concluding

structure Job.Same (job next : Job) : Prop where
  id : next.id = job.id
  commandId : next.commandId = job.commandId
  operation : next.operation = job.operation
  version : next.approvedVersion = job.approvedVersion
  now : next.now = job.now
  dead : next.dead = job.dead

/-- What one stage of a job does besides its own work on the run and at the provider. -/
inductive World.Worked (world : World) (job : Job) : World → Prop where
  | goesOn (next : Job) (same : job.Same next) (commands : List BoostCommand) (run : Option BoostRun) (provider : Provider)
      (history : List Note)
      (mark : commands = world.commands ∨ commands = Keyed.modify (·.id) world.commands job.commandId fun command =>
        { command with providerCallStartedAt := some job.now }) :
      Worked world job
        { world with
          toDesk := { world.toDesk with commands, run }
          provider
          history
          jobs := Keyed.put Job.id world.jobs next }
  | ends (change : Command → Command) (concluding : Concluding (job.stage = .switchAnswer .acknowledged) change)
      (run : Option BoostRun) (snapshots : List Snapshot) (history : List Note) :
      Worked world job
        { world with
          toDesk := { world.toDesk with
            commands := Keyed.modify (·.id) world.commands job.commandId fun command =>
              { command with toCommand := change command.toCommand }
            run
            snapshots }
          history
          jobs := world.jobs.filter fun other => other.id ≠ job.id }

/-- The status and the cycle of the run; a run that is not there yet counts as a new one. -/
def Desk.phase (run : Option BoostRun) : RunStatus × Nat := ((run.getD {}).status, (run.getD {}).cycleNo)

namespace World
variable (world : World) (job : Job)

theorem putJob_worked (stored : World) (next : Job) (same : job.Same next) (run : Option BoostRun) (provider : Provider)
    (history : List Note) (written : stored = { world with toDesk := { world.toDesk with run }, provider, history }) :
    world.Worked job (stored.putJob next) := by
  subst written
  exact .goesOn next same world.commands run provider history (.inl rfl)

theorem conclude_worked (stored : World) (change : Command → Command)
    (concluding : Concluding (job.stage = .switchAnswer .acknowledged) change) (run : Option BoostRun) (snapshots : List Snapshot)
    (history : List Note) (written : stored = { world with toDesk := { world.toDesk with run, snapshots }, history }) :
    world.Worked job (stored.conclude job change) := by
  subst written
  exact .ends change concluding run snapshots history

theorem fail_worked (stored : World) (code : String) (run : Option BoostRun) (history : List Note)
    (written : stored = { world with toDesk := { world.toDesk with run }, history }) : world.Worked job (stored.fail job code) :=
  world.conclude_worked job stored _ (.failure _ _ _) run world.snapshots history written

theorem refuse_worked (stored : World) (code : String) (run : Option BoostRun)
    (written : stored = { world with toDesk := { world.toDesk with run } }) : world.Worked job (stored.refuse job code) :=
  world.conclude_worked job stored _ (.refusal code) run world.snapshots world.history written

theorem startExecution_worked : world.Worked job (world.startExecution job) := by
  unfold startExecution
  split
  · exact world.conclude_worked job world _ .paused world.run world.snapshots world.history rfl
  · refine Worked.goesOn { job with stage := .marked } ?_ _ world.run world.provider world.history (.inr rfl)
    constructor <;> rfl

theorem resolveExecutionContext_worked (answer : Answer) : world.Worked job (world.resolveExecutionContext job answer) := by
  unfold resolveExecutionContext
  dsimp only
  split
  · exact world.fail_worked job world _ world.run world.history rfl
  next seal_ _ =>
    split
    · exact world.refuse_worked job world _ world.run rfl
    split
    · exact world.refuse_worked job world _ world.run rfl
    split
    · exact world.refuse_worked job world _ world.run rfl
    split
    · exact world.refuse_worked job _ _ _ rfl
    split
    · exact world.fail_worked job _ _ _ world.history rfl
    split
    · refine world.putJob_worked job _ _ ?_ _ world.provider world.history rfl
      constructor <;> rfl
    · split
      · exact world.fail_worked job _ _ _ world.history rfl
      · refine world.putJob_worked job _ _ ?_ _ world.provider world.history rfl
        constructor <;> rfl
    · split
      · exact world.fail_worked job _ _ _ world.history rfl
      · refine world.putJob_worked job _ _ ?_ _ world.provider world.history rfl
        constructor <;> rfl

theorem readAccountCurrency_worked (answer : Answer) : world.Worked job (world.readAccountCurrency job answer) := by
  unfold readAccountCurrency
  split
  next currency _ =>
    dsimp only
    split
    · exact world.fail_worked job _ _ _ world.history rfl
    · refine world.putJob_worked job _ _ ?_ _ world.provider world.history rfl
      constructor <;> rfl
  next => exact world.fail_worked job world _ world.run world.history rfl

theorem claimCampaignCreation_worked : world.Worked job (world.claimCampaignCreation job) := by
  unfold claimCampaignCreation
  split
  · exact world.fail_worked job world _ world.run world.history rfl
  · split
    · refine world.putJob_worked job _ _ ?_ _ world.provider world.history rfl
      constructor <;> rfl
    split
    · refine world.putJob_worked job world _ ?_ world.run world.provider world.history rfl
      constructor <;> rfl
    split
    · exact world.fail_worked job world _ world.run world.history rfl
    · exact world.fail_worked job world _ world.run world.history rfl

theorem checkBeforeCreation_worked : world.Worked job (world.checkBeforeCreation job) := by
  unfold checkBeforeCreation
  split
  · exact world.refuse_worked job _ _ _ rfl
  · refine world.putJob_worked job world _ ?_ world.run world.provider world.history rfl
    constructor <;> rfl

theorem callCreation_worked (answer : Answer) : world.Worked job (world.callCreation job answer) := by
  unfold callCreation
  dsimp only
  generalize (job.existing.campaign.isNone && answer.currencyKnown) = sent
  cases sent with
  | true =>
    refine world.putJob_worked job _ _ ?_ world.run _ (.createSent job.id :: world.history) rfl
    constructor <;> rfl
  | false =>
    refine world.putJob_worked job _ _ ?_ world.run _ world.history rfl
    constructor <;> rfl

theorem recordCreation_worked (ids : ObjectIds) (failure : Option CreateFailure) :
    world.Worked job (world.recordCreation job ids failure) := by
  unfold recordCreation
  split
  · refine world.putJob_worked job _ _ ?_ _ world.provider world.history rfl
    constructor <;> rfl
  next level =>
    dsimp only
    by_cases first : level = some .campaign
    · rw [if_pos first]
      exact world.fail_worked job _ _ _ (.createRejected job.id :: world.history) rfl
    · rw [if_neg first]
      exact world.fail_worked job _ _ _ world.history rfl
  · exact world.fail_worked job _ _ _ world.history rfl

theorem checkBeforeSwitch_worked : world.Worked job (world.checkBeforeSwitch job) := by
  unfold checkBeforeSwitch
  split
  · refine world.putJob_worked job world _ ?_ world.run world.provider world.history rfl
    constructor <;> rfl
  · exact world.refuse_worked job world _ world.run rfl
  · exact world.refuse_worked job world _ world.run rfl

theorem checkCapAndBudget_worked (checked : Seal) : world.Worked job (world.checkCapAndBudget job checked) := by
  unfold checkCapAndBudget
  split
  · exact world.refuse_worked job world _ world.run rfl
  split
  · exact world.fail_worked job world _ world.run world.history rfl
  · refine world.putJob_worked job world _ ?_ world.run world.provider world.history rfl
    constructor <;> rfl

theorem callSwitch_worked (answer : Answer) : world.Worked job (world.callSwitch job answer) := by
  unfold callSwitch
  refine world.putJob_worked job _ _ ?_ world.run _ world.history rfl
  constructor <;> rfl

theorem scheduleSpendSnapshots_eq (anchorAt endsAt : Nat) :
    ∃ snapshots, world.scheduleSpendSnapshots anchorAt endsAt = { world with toDesk := { world.toDesk with snapshots } } := by
  unfold scheduleSpendSnapshots
  split
  · obtain ⟨snapshots, same⟩ := world.toDesk.insertSnapshot_eq (anchorAt + hours 24)
    exact ⟨snapshots, by rw [same]⟩
  · exact ⟨world.snapshots, rfl⟩

/-- The switch that is acknowledged: its status on the run, a capture perhaps, the command completed. -/
theorem recordSwitch_acknowledged (answer : Answer) :
    ∃ snapshots, world.recordSwitch job answer .acknowledged =
      ({ world with
        toDesk := { world.toDesk with
          run := world.run.map fun stored => job.run.flush (switchedRun job answer) stored
          snapshots } } : World).complete job := by
  unfold recordSwitch writeRun
  dsimp only
  generalize switchedRun job answer = assigned
  cases job.operation with
  | boostStart =>
    obtain ⟨snapshots, same⟩ := scheduleSpendSnapshots_eq
      { world with run := world.run.map fun stored => job.run.flush assigned stored } job.now job.terms.endsAt
    exact ⟨snapshots, by rw [same]⟩
  | pause => exact ⟨world.snapshots, rfl⟩
  | resume =>
    dsimp only
    split
    · obtain ⟨snapshots, same⟩ := scheduleSpendSnapshots_eq
        { world with run := world.run.map fun stored => job.run.flush assigned stored } job.now job.terms.endsAt
      exact ⟨snapshots, by rw [same]⟩
    · exact ⟨world.snapshots, rfl⟩

theorem recordSwitch_worked (answer : Answer) (reply : SwitchReply) (answered : job.stage = .switchAnswer reply) :
    world.Worked job (world.recordSwitch job answer reply) := by
  cases reply with
  | acknowledged =>
    obtain ⟨snapshots, same⟩ := world.recordSwitch_acknowledged job answer
    rw [same]
    exact world.conclude_worked job _ _ (.completion answered) _ snapshots world.history rfl
  | failed effected => exact world.fail_worked job world _ world.run world.history rfl
  | lost effected => exact world.fail_worked job world _ world.run world.history rfl

theorem advance_worked (answer : Answer) : world.Worked job (world.advance job answer) := by
  unfold advance
  split
  · exact world.startExecution_worked job
  · exact world.resolveExecutionContext_worked job answer
  · exact world.readAccountCurrency_worked job answer
  · exact world.claimCampaignCreation_worked job
  · exact world.checkBeforeCreation_worked job
  · refine world.putJob_worked job _ _ ?_ _ world.provider world.history rfl
    constructor <;> rfl
  · exact world.callCreation_worked job answer
  · exact world.recordCreation_worked job _ _
  · exact world.checkBeforeSwitch_worked job
  · exact world.checkCapAndBudget_worked job _
  · exact world.callSwitch_worked job answer
  next reply answered => exact world.recordSwitch_worked job answer reply answered

/-- A view of the run that neither the account's currency nor the creation claim shows in. -/
structure Steady {β : Type} (view : BoostRun → β) : Prop where
  flush : ∀ loaded assigned stored : BoostRun, view assigned = view loaded → view (loaded.flush assigned stored) = view stored
  quiet : ∀ (run : BoostRun) accountCurrency createClaimedAt createCallStartedAt createHolder,
    view { run with accountCurrency, createClaimedAt, createCallStartedAt, createHolder } = view run

theorem Steady.stored {β : Type} {view : BoostRun → β} (steady : Steady view) {loaded assigned : BoostRun}
    (same : view assigned = view loaded) (run : Option BoostRun) :
    view ((run.map fun stored => loaded.flush assigned stored).getD {}) = view (run.getD {}) := by
  cases run with
  | none => rfl
  | some stored => exact steady.flush loaded assigned stored same

theorem advance_view {β : Type} {view : BoostRun → β} (steady : Steady view) (answer : Answer)
    (other : ∀ ids failure, job.stage ≠ .createAnswer ids failure) (unswitched : job.stage ≠ .switchAnswer .acknowledged) :
    view ((world.advance job answer).run.getD {}) = view (world.run.getD {}) := by
  unfold advance
  split
  · unfold startExecution
    split <;> rfl
  · unfold resolveExecutionContext
    dsimp only
    split
    · rfl
    split
    · rfl
    split
    · rfl
    split
    · rfl
    split
    · rfl
    split
    · rfl
    split
    · rfl
    · split <;> rfl
    · split <;> rfl
  · unfold readAccountCurrency
    split
    · dsimp only
      split <;> exact steady.stored (steady.quiet job.run _ _ _ _) world.run
    · rfl
  · unfold claimCampaignCreation
    split
    · rfl
    next run present =>
      dsimp only
      split
      · rw [present]
        exact steady.quiet run _ _ _ _
      split
      · rfl
      split <;> rfl
  · unfold checkBeforeCreation
    split
    · exact steady.stored (steady.quiet job.run _ _ _ _) world.run
    · rfl
  · exact steady.stored (steady.quiet job.run _ _ _ _) world.run
  · unfold callCreation
    dsimp only
    split <;> rfl
  next ids failure created => exact absurd created (other ids failure)
  · unfold checkBeforeSwitch
    split <;> rfl
  · unfold checkCapAndBudget
    split
    · rfl
    split <;> rfl
  · rfl
  next reply answered =>
    cases reply with
    | acknowledged => exact absurd answered unswitched
    | failed effected => rfl
    | lost effected => rfl

theorem steady_phase : Steady fun run => (run.status, run.cycleNo) where
  flush loaded assigned stored same := by
    simp only [Prod.mk.injEq] at same
    simp only [BoostRun.flush, same.1, same.2, flushed_same]
  quiet _ _ _ _ _ := rfl

theorem recordCreation_run (ids : ObjectIds) (failure : Option CreateFailure) :
    (world.recordCreation job ids failure).run =
      world.run.map fun stored => job.run.flush
        (if failure = some .unknown then recordCreated job ids else released (recordCreated job ids)) stored := by
  unfold recordCreation
  split
  · rfl
  · dsimp only
    split <;> rfl
  · rfl

theorem recordCreated_phase (ids : ObjectIds) :
    (recordCreated job ids).status = job.run.status ∧ (recordCreated job ids).cycleNo = job.run.cycleNo := by
  unfold recordCreated
  dsimp only
  split <;> exact ⟨rfl, rfl⟩

theorem advance_phase (answer : Answer) (other : job.stage ≠ .switchAnswer .acknowledged) :
    Desk.phase (world.advance job answer).run = Desk.phase world.run := by
  by_cases created : ∃ ids failure, job.stage = .createAnswer ids failure
  · obtain ⟨ids, failure, stage⟩ := created
    obtain ⟨status, cycle⟩ := recordCreated_phase job ids
    unfold advance
    rw [stage]
    dsimp only
    rw [recordCreation_run]
    refine steady_phase.stored ?_ world.run
    split
    · exact Prod.ext status cycle
    · exact Prod.ext status cycle
  · refine world.advance_view job steady_phase answer ?_ other
    intro ids failure stage
    exact created ⟨ids, failure, stage⟩

/-- The objects of the run, and the budget and the account they were created with. -/
def made (run : BoostRun) : ObjectIds × Option Nat × Option Uuid := (run.ids, run.createdBudgetMinor, run.createdConnectionId)

theorem steady_made : Steady made where
  flush loaded assigned stored same := by
    simp only [made, BoostRun.ids, Prod.mk.injEq, ObjectIds.mk.injEq] at same
    obtain ⟨⟨campaign, adset, ad⟩, budget, connection⟩ := same
    simp only [made, BoostRun.ids, BoostRun.flush, campaign, adset, ad, budget, connection, flushed_same]
  quiet _ _ _ _ _ := rfl

theorem switchedRun_made (answer : Answer) : made (switchedRun job answer) = made job.run := by
  unfold switchedRun
  split
  · rfl
  · split <;> rfl
  · rfl

theorem advance_made (answer : Answer) (other : ∀ ids failure, job.stage ≠ .createAnswer ids failure) :
    made ((world.advance job answer).run.getD {}) = made (world.run.getD {}) := by
  by_cases acknowledged : job.stage = .switchAnswer .acknowledged
  · obtain ⟨snapshots, same⟩ := world.recordSwitch_acknowledged job answer
    unfold advance
    rw [acknowledged]
    dsimp only
    rw [same]
    exact steady_made.stored (switchedRun_made job answer) world.run
  · exact world.advance_view job steady_made answer other acknowledged

theorem advance_provider (answer : Answer) (uncreated : job.stage ≠ .createCall) (unswitched : ∀ checked, job.stage ≠ .switchCall checked) :
    (world.advance job answer).provider = world.provider := by
  unfold advance
  split
  · unfold startExecution
    split <;> rfl
  · unfold resolveExecutionContext
    dsimp only
    split
    · rfl
    split
    · rfl
    split
    · rfl
    split
    · rfl
    split
    · rfl
    split
    · rfl
    split
    · rfl
    · split <;> rfl
    · split <;> rfl
  · unfold readAccountCurrency
    split
    · dsimp only
      split <;> rfl
    · rfl
  · unfold claimCampaignCreation
    split
    · rfl
    · split
      · rfl
      split
      · rfl
      split <;> rfl
  · unfold checkBeforeCreation
    split <;> rfl
  · rfl
  next stage => exact absurd stage uncreated
  · unfold recordCreation
    split
    · rfl
    · dsimp only
      split <;> rfl
    · rfl
  · unfold checkBeforeSwitch
    split <;> rfl
  · unfold checkCapAndBudget
    split
    · rfl
    split <;> rfl
  next checked stage => exact absurd stage (unswitched checked)
  next reply _ =>
    cases reply with
    | acknowledged =>
      obtain ⟨snapshots, same⟩ := world.recordSwitch_acknowledged job answer
      rw [same]
      rfl
    | failed effected => rfl
    | lost effected => rfl

theorem escape_worked : world.Worked job (world.escape job) :=
  world.conclude_worked job world _ (.escaped _ _) world.run world.snapshots world.history rfl

theorem cleared_view {β : Type} {view : BoostRun → β} (steady : Steady view) (run : Option BoostRun) :
    view ((run.map Desk.cleared).getD {}) = view (run.getD {}) := by
  cases run with
  | none => rfl
  | some run =>
    simp only [Option.map_some, Option.getD_some]
    unfold Desk.cleared
    split
    · rfl
    · exact steady.quiet run _ _ _ _

theorem adopt_ok {world after : World} {found : ObjectIds} {budget : Option Nat} {answer : Answer}
    (executed : world.adopt found budget answer = .ok after) :
    ∃ seal_ run commands, world.gate.sealedAds = some seal_ ∧ world.run = some run ∧
      (Numbered world.commands → Handled world.commands commands) ∧
      (found.adset.isSome = true → budget = some seal_.budgetMinor) ∧ found.campaign.isSome = true ∧
      after = { world with
        toDesk := { world.toDesk with
          run := some (released (adopted run found budget seal_.versionId seal_.connectionId))
          commands } } := by
  unfold adopt at executed
  split at executed
  next seal_ run sealedTerms present =>
    split at executed
    · cases executed
    next command selected =>
      have member : command ∈ world.commands := List.mem_of_find?_eq_some selected
      have version : command.approvedVersion = seal_.versionId := by
        have := List.find?_some selected
        simp only [Bool.and_eq_true, beq_iff_eq] at this
        exact this.2
      split at executed
      · cases executed
      next applicable =>
        split at executed
        · cases executed
        next fits =>
          cases executed
          obtain ⟨commands, same, handled⟩ := Desk.retryDeadLetter_eq
            (world.toDesk.putRun (released (adopted run found budget command.approvedVersion seal_.connectionId))) command
          refine ⟨seal_, run, commands, sealedTerms, present, fun numbered => handled numbered member, ?_, ?_, ?_⟩
          · intro made
            by_contra different
            exact fits ⟨made, different⟩
          · simp only [not_or] at applicable
            simpa [Option.isSome_iff_ne_none] using applicable.2.2.2.2.2.2
          · rw [same, version]
            rfl
  next => cases executed

theorem adopted_phase (run : BoostRun) (found : ObjectIds) (budget : Option Nat) (version connection : Uuid) :
    (adopted run found budget version connection).status = run.status ∧
      (adopted run found budget version connection).cycleNo = run.cycleNo := by
  unfold adopted
  dsimp only
  split <;> exact ⟨rfl, rfl⟩

end World

end Sprintable.Boosts
