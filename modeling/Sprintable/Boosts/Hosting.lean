import Sprintable.Boosts.JobFrames

/-! Each job has its own command, and the command is in progress as long as the job is
there. This holds along every run in which no worker outlives the recovery of its
command. -/

namespace Sprintable.Boosts

def World.recovers (world : World) (id : Uuid) (now : Nat) : Bool :=
  (world.command id).any fun command =>
    command.status == .inProgress && Publications.Store.stuckSince now command.toCommand

/-- A recovery that acts while a worker still executes the command. -/
def World.recoversUnderWorker (world : World) (id : Uuid) (now : Nat) : Bool :=
  world.recovers id now && world.jobs.any fun job => job.commandId == id && !job.dead

/-- No worker outlives the recovery of its command. -/
def Boost.hostsJobs (boost : Boost) : Event → Bool
  | .recover id now => !boost.toWorld.recoversUnderWorker id now
  | _ => true

structure Boost.Hosted (boost : Boost) : Prop where
  numbered : Numbered boost.commands
  unique : (boost.jobs.map Job.id).Nodup
  counted : ∀ job ∈ boost.jobs, job.id < boost.jobCount
  own : ∀ job ∈ boost.jobs, ∃ command ∈ boost.commands, command.id = job.commandId ∧ command.status = .inProgress
  distinct : ∀ first ∈ boost.jobs, ∀ second ∈ boost.jobs, first.commandId = second.commandId → first = second

namespace Boost.Hosted
variable {before after : Boost}

theorem same_job (hosted : before.Hosted) {first second : Job} (one : first ∈ before.jobs) (other : second ∈ before.jobs)
    (equal : first.id = second.id) : first = second := by
  have found := Keyed.find_of_mem hosted.unique one
  have again := Keyed.find_of_mem hosted.unique other
  rw [equal, again] at found
  exact (Option.some.inj found).symm

theorem handled (hosted : before.Hosted) (rows : Numbered before.commands → Handled before.commands after.commands)
    (jobs : after.jobs = before.jobs) (count : after.jobCount = before.jobCount) : after.Hosted := by
  have handled := rows hosted.numbered
  constructor
  · exact handled.numbered hosted.numbered
  · exact jobs ▸ hosted.unique
  · rw [jobs, count]
    exact hosted.counted
  · intro job member
    obtain ⟨command, present, name, running⟩ := hosted.own job (jobs ▸ member)
    obtain ⟨later, existing, kept⟩ := handled.forth present
    rw [kept.held running] at existing
    exact ⟨command, existing, name, running⟩
  · rw [jobs]
    exact hosted.distinct

theorem appended (hosted : before.Hosted) {command : BoostCommand} (rows : after.commands = before.commands ++ [command])
    (fresh : command.id = before.commands.length) (jobs : after.jobs = before.jobs) (count : after.jobCount = before.jobCount) :
    after.Hosted := by
  constructor
  · exact rows ▸ hosted.numbered.append fresh
  · exact jobs ▸ hosted.unique
  · rw [jobs, count]
    exact hosted.counted
  · intro job member
    obtain ⟨row, present, name, running⟩ := hosted.own job (jobs ▸ member)
    exact ⟨row, rows ▸ List.mem_append_left _ present, name, running⟩
  · rw [jobs]
    exact hosted.distinct

theorem toggled (hosted : before.Hosted) {operation : Operation} {desk : Desk} (toggled : before.toDesk.Toggled operation desk)
    (rows : after.commands = desk.commands) (jobs : after.jobs = before.jobs) (count : after.jobCount = before.jobCount) :
    after.Hosted := by
  cases toggled with
  | known => exact hosted.handled (fun _ => rows ▸ .refl _) jobs count
  | retried latest commands member handled => exact hosted.handled (fun numbered => rows ▸ handled numbered) jobs count
  | added seal_ seq requester initiatedBy now present started next => exact hosted.appended rows rfl jobs count

theorem startRequested (hosted : before.Hosted) {requester : Uuid} {initiatedBy : Initiator} {now : Nat} {desk : Desk}
    (executed : before.requestAdsBoostStart requester initiatedBy now = .ok desk) : (before.onTables desk).Hosted := by
  unfold Desk.requestAdsBoostStart at executed
  split at executed
  · cases executed
  split at executed
  · cases executed
  obtain ⟨seal_, _, ⟨rfl, _⟩ | rfl⟩ := Desk.createOrGet_ok executed
  · exact hosted
  · exact hosted.appended rfl rfl rfl rfl

theorem own_modify (hosted : before.Hosted) {job other : Job} (member : job ∈ before.jobs) (present : other ∈ before.jobs)
    (different : other.id ≠ job.id) (change : BoostCommand → BoostCommand) :
    ∃ command ∈ Keyed.modify (·.id) before.commands job.commandId change,
      command.id = other.commandId ∧ command.status = .inProgress := by
  obtain ⟨command, existing, name, running⟩ := hosted.own other present
  refine ⟨command, List.mem_map.mpr ⟨command, existing, if_neg ?_⟩, name, running⟩
  intro same
  exact different (congrArg Job.id (hosted.distinct other present job member (name.symm.trans same)))

theorem put_job (hosted : before.Hosted) {job : Job} (member : job ∈ before.jobs) (next : Job) (id : next.id = job.id)
    (command : next.commandId = job.commandId) {commands : List BoostCommand} (numbered : Numbered commands)
    (rows : ∀ row ∈ before.commands, ∃ later ∈ commands, later.id = row.id ∧ later.status = row.status)
    (jobs : after.jobs = Keyed.put Job.id before.jobs next) (count : after.jobCount = before.jobCount)
    (same : after.commands = commands) : after.Hosted := by
  subst same
  have ids : after.jobs.map Job.id = before.jobs.map Job.id := jobs ▸ Keyed.map_key_put _ _
  have unique : (after.jobs.map Job.id).Nodup := ids ▸ hosted.unique
  -- The job that is put stands for the job before it.
  have earlier : ∀ other ∈ after.jobs, ∃ old ∈ before.jobs, old.id = other.id ∧ old.commandId = other.commandId := by
    intro other present
    rw [jobs] at present
    obtain ⟨old, existing, rfl⟩ := List.mem_map.mp present
    split
    next own => exact ⟨job, member, id.symm, command.symm⟩
    next => exact ⟨old, existing, rfl, rfl⟩
  constructor
  · exact numbered
  · exact unique
  · intro other present
    obtain ⟨old, existing, name, _⟩ := earlier other present
    rw [count]
    exact name ▸ hosted.counted old existing
  · intro other present
    obtain ⟨old, existing, _, order⟩ := earlier other present
    obtain ⟨row, there, name, running⟩ := hosted.own old existing
    obtain ⟨later, place, again, status⟩ := rows row there
    exact ⟨later, place, again.trans (name.trans order), status.trans running⟩
  · intro first one second other equal
    obtain ⟨early, existing, name, order⟩ := earlier first one
    obtain ⟨late, there, again, other_order⟩ := earlier second other
    have identical := hosted.distinct early existing late there (order.trans (equal.trans other_order.symm))
    have found := Keyed.find_of_mem unique one
    rw [← name, identical, again, Keyed.find_of_mem unique other] at found
    exact (Option.some.inj found).symm

theorem worked (hosted : before.Hosted) {job : Job} {world : World} (member : job ∈ before.jobs)
    (worked : before.toWorld.Worked job world) : (before.onWorld world).Hosted := by
  cases worked with
  | goesOn next same commands run provider history mark =>
    rcases mark with rfl | rfl
    · exact hosted.put_job member next same.id same.commandId hosted.numbered (fun row present => ⟨row, present, rfl, rfl⟩) rfl rfl rfl
    · refine hosted.put_job member next same.id same.commandId (hosted.numbered.modify _ fun _ => ?_) ?_ rfl rfl rfl
      · rfl
      · intro row present
        refine ⟨_, List.mem_map_of_mem present, ?_⟩
        split <;> exact ⟨rfl, rfl⟩
  | ends change concluding run snapshots history =>
    have still : ∀ other ∈ before.jobs.filter fun other => other.id ≠ job.id, other ∈ before.jobs ∧ other.id ≠ job.id := by
      intro other present
      simpa using List.mem_filter.mp present
    constructor
    · exact hosted.numbered.modify _ fun command => concluding.id command.toCommand
    · exact hosted.unique.sublist (List.filter_sublist.map _)
    · exact fun other present => hosted.counted other (still other present).1
    · exact fun other present => hosted.own_modify member (still other present).1 (still other present).2 _
    · exact fun first one second other => hosted.distinct first (still first one).1 second (still second other).1

theorem crash (hosted : before.Hosted) {job : Job} (member : job ∈ before.jobs) :
    (before.onWorld (before.toWorld.crash job)).Hosted :=
  hosted.put_job member { job with dead := true } rfl rfl hosted.numbered (fun row present => ⟨row, present, rfl, rfl⟩) rfl rfl rfl

theorem claim (hosted : before.Hosted) (id : Uuid) (now : Nat) :
    (before.onWorld (before.toWorld.claimCommand id now)).Hosted := by
  unfold World.claimCommand
  split
  · exact hosted
  next command found =>
    split
    next due =>
      have present : command ∈ before.commands := Keyed.find_mem found
      have name := Keyed.find_key found
      have pending : command.status = .pending := by
        simp only [Publications.Store.due, Bool.and_eq_true, beq_iff_eq] at due
        exact due.1.1
      have unheld : ∀ job ∈ before.jobs, job.commandId ≠ id := by
        intro job member same
        obtain ⟨row, existing, own, running⟩ := hosted.own job member
        rw [hosted.numbered.same existing present (own.trans (same.trans name.symm)), pending] at running
        cases running
      constructor
      · exact hosted.numbered.modify _ fun _ => rfl
      · refine Keyed.nodup_append hosted.unique ?_
        intro job member
        exact Nat.ne_of_lt (hosted.counted job member)
      · intro job member
        rcases List.mem_append.mp member with old | new
        · exact Nat.lt_succ_of_lt (hosted.counted job old)
        · rw [List.mem_singleton.mp new]
          exact Nat.lt_succ_self _
      · intro job member
        rcases List.mem_append.mp member with old | new
        · obtain ⟨row, existing, own, running⟩ := hosted.own job old
          exact ⟨row, List.mem_map.mpr ⟨row, existing, if_neg fun same => unheld job old (own.symm.trans same)⟩, own, running⟩
        · rw [List.mem_singleton.mp new]
          refine ⟨_, List.mem_map.mpr ⟨command, present, if_pos name⟩, name, rfl⟩
      · intro first one second other equal
        rcases List.mem_append.mp one with old | new
        · rcases List.mem_append.mp other with late | fresh
          · exact hosted.distinct first old second late equal
          · rw [List.mem_singleton.mp fresh] at equal
            exact absurd equal (unheld first old)
        · rcases List.mem_append.mp other with late | fresh
          · rw [List.mem_singleton.mp new] at equal
            exact absurd equal.symm (unheld second late)
          · rw [List.mem_singleton.mp new, List.mem_singleton.mp fresh]
    next => exact hosted

theorem recover (hosted : before.Hosted) (id : Uuid) (now : Nat) (alone : before.toWorld.recoversUnderWorker id now = false) :
    (before.onWorld (before.toWorld.recoverInterrupted id now)).Hosted := by
  unfold World.recoversUnderWorker at alone
  unfold World.recoverInterrupted
  split
  · exact hosted
  next command found =>
    split
    next stuck =>
      have present : command ∈ before.commands := Keyed.find_mem found
      have name := Keyed.find_key found
      have gone : ∀ job ∈ before.jobs, job.commandId = id → job.dead = true := by
        have recovers : before.toWorld.recovers id now = true := by
          unfold World.recovers
          rw [found]
          simpa using stuck
        rw [recovers, Bool.true_and, List.any_eq_false] at alone
        intro job member own
        simpa [own] using alone job member
      have still : ∀ other ∈ before.jobs.filter fun job => !(job.dead && job.commandId == id),
          other ∈ before.jobs ∧ other.commandId ≠ id := by
        intro other member
        obtain ⟨existing, kept⟩ := List.mem_filter.mp member
        refine ⟨existing, fun own => ?_⟩
        simp [gone other existing own, own] at kept
      constructor
      · exact hosted.numbered.modify _ fun command => command.toCommand.applyFailure_id _ _ _ _ _
      · exact hosted.unique.sublist (List.filter_sublist.map _)
      · exact fun other member => hosted.counted other (still other member).1
      · intro other member
        obtain ⟨existing, different⟩ := still other member
        obtain ⟨row, there, own, running⟩ := hosted.own other existing
        exact ⟨row, List.mem_map.mpr ⟨row, there, if_neg fun same => different (own.symm.trans same)⟩, own, running⟩
      · exact fun first one second other => hosted.distinct first (still first one).1 second (still second other).1
    next => exact hosted

theorem noteCycle (hosted : after.Hosted) : (before.noteCycle after).Hosted := by
  unfold Boost.noteCycle
  split
  · exact hosted
  · exact hosted.handled (fun _ => .refl _) rfl rfl

theorem noteConfirmation (hosted : after.Hosted) (id : Uuid) : (before.noteConfirmation id after).Hosted := by
  unfold Boost.noteConfirmation
  split
  · exact hosted.handled (fun _ => .refl _) rfl rfl
  · exact hosted

theorem step (hosted : before.Hosted) {event : Event} (hosts : before.hostsJobs event = true) : (before.step event).Hosted := by
  by_cases captures : event.captures = true
  · have captured := before.captured_step captures
    obtain ⟨desk, toggled, rows⟩ := captured.commands
    exact hosted.toggled toggled rows captured.jobs captured.jobCount
  unfold Boost.step
  apply Runs.settle_preserves hosted
  intro after executed
  cases event with
  | requestBoost terms requester now =>
    obtain ⟨desk, accepted, rfl⟩ := Runs.map_ok executed
    exact hosted.handled (fun _ => (Desk.requestAdsBoost_ok accepted).2.1) rfl rfl
  | moveGate newStatus resolverId now =>
    obtain ⟨desk, accepted, rfl⟩ := Runs.map_ok executed
    obtain ⟨_, snapshots, rfl⟩ := Desk.moveGate_ok accepted
    exact hosted.handled (fun _ => .refl _) rfl rfl
  | start requester now =>
    obtain ⟨desk, accepted, rfl⟩ := Runs.map_ok executed
    exact hosted.startRequested accepted
  | scheduledStart now =>
    change before.startDue now = .ok after at executed
    unfold Boost.startDue at executed
    split at executed
    · split at executed
      · obtain ⟨desk, accepted, rfl⟩ := Runs.map_ok executed
        exact hosted.startRequested accepted
      · cases executed
        exact hosted
    · cases executed
      exact hosted
  | pause requester preferred now =>
    obtain ⟨desk, accepted, rfl⟩ := Runs.map_ok executed
    exact hosted.toggled (Desk.requestToggle_ok accepted) rfl rfl rfl
  | resume requester preferred now =>
    obtain ⟨desk, accepted, rfl⟩ := Runs.map_ok executed
    exact hosted.toggled (Desk.requestToggle_ok accepted) rfl rfl rfl
  | cancel actor admin now =>
    obtain ⟨desk, accepted, rfl⟩ := Runs.map_ok executed
    exact noteCycle (hosted.handled (fun _ => (Desk.cancelAdsBoost_ok accepted).1) rfl rfl)
  | finishCancel now =>
    cases executed
    rcases before.toDesk.finishCancelIfStopped_cases now with same | ⟨run, cycles, _, _, same⟩
    · rw [same]
      exact noteCycle hosted
    · rw [same]
      exact noteCycle (hosted.handled (fun _ => .refl _) rfl rfl)
  | pauseLeft preferred now =>
    obtain ⟨desk, accepted, rfl⟩ := Runs.map_ok executed
    exact hosted.toggled (Desk.pauseLeftCampaign_ok accepted) rfl rfl rfl
  | captureAfterFailedPause id now =>
    obtain ⟨desk, accepted, rfl⟩ := Runs.map_ok executed
    obtain ⟨snapshots, rfl⟩ := Desk.captureAfterFailedCancelPause_ok accepted
    exact hosted.handled (fun _ => .refl _) rfl rfl
  | retry id confirmed =>
    obtain ⟨desk, accepted, rfl⟩ := Runs.map_ok executed
    obtain ⟨command, commands, _, rows, ⟨rfl, _⟩ | ⟨rfl, _⟩⟩ := Desk.retryCommand_ok accepted
    · have kept : (before.onTables { before.toDesk with commands }).Hosted := hosted.handled rows rfl rfl
      exact noteConfirmation kept id
    · have kept : (before.onTables { before.toDesk with commands, run := before.run.map Desk.cleared }).Hosted :=
        hosted.handled rows rfl rfl
      exact noteConfirmation kept id
  | adopt found budget answer =>
    obtain ⟨world, accepted, rfl⟩ := Runs.map_ok executed
    obtain ⟨seal_, run, commands, _, _, rows, _, _, rfl⟩ := World.adopt_ok accepted
    exact hosted.handled rows rfl rfl
  | setPublishPaused paused =>
    cases executed
    exact hosted.handled (fun _ => .refl _) rfl rfl
  | requeuePaused =>
    cases executed
    exact hosted.handled (fun _ => Desk.requeuePaused_handled) rfl rfl
  | claim id now =>
    cases executed
    exact hosted.claim id now
  | advance id answer =>
    cases executed
    exact Boost.onJob_preserves hosted id _ fun job found _ => hosted.worked (Keyed.find_mem found) (before.toWorld.advance_worked job answer)
  | escape id =>
    cases executed
    exact Boost.onJob_preserves hosted id _ fun job found _ => hosted.worked (Keyed.find_mem found) (before.toWorld.escape_worked job)
  | crash id =>
    cases executed
    exact Boost.onJob_preserves hosted id _ fun job found _ => hosted.crash (Keyed.find_mem found)
  | recover id now =>
    cases executed
    exact hosted.recover id now (by simpa [Boost.hostsJobs] using hosts)
  | _ => exact absurd rfl captures

theorem initial (gateId orgId : Uuid) (snapshots : List Snapshot) : (Boost.initial gateId orgId snapshots).Hosted where
  numbered := rfl
  unique := List.nodup_nil
  counted _ member := by cases member
  own _ member := by cases member
  distinct _ member := by cases member

end Boost.Hosted

end Sprintable.Boosts
