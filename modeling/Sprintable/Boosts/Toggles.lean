import Sprintable.Boosts.JobFrames

/-! Stopping a boost. The state a pause is judged by is the last toggle of the cycle,
not the status of the run; the two agree along every run in which an acknowledged
switch does not get ahead of the toggles. -/

namespace Sprintable.Boosts

namespace Desk
variable (desk : Desk)

def running : Bool := desk.run.any fun run => run.status == .running

/-- A last toggle of the cycle is a pause that is done. -/
def newestStopped : Bool :=
  (desk.latestToggles desk.cycle).any fun command => command.boost == .pause && command.status == .completed

/-- Stopping is possible: a pause request is accepted and leaves a pause of the cycle
that is not completed. -/
def StopAccepted : Prop :=
  desk.running = true → ∀ requester initiatedBy usable preferred now,
    ∃ after, desk.requestToggle .pause requester initiatedBy usable preferred now = .ok after ∧
      ∃ command ∈ after.commands,
        command.boost = .pause ∧ command.adsBoostCycle = desk.cycle ∧ command.status ≠ .completed

end Desk

/-- The acknowledgement of a switch agrees with the toggles: a boost becomes running
only in a cycle that was started and whose last toggle is not a completed pause, and a
last pause is completed only where that ends the running. -/
def Boost.followsToggles (boost : Boost) : Event → Bool
  | .advance id answer =>
    match boost.job? id with
    | none => true
    | some job =>
      job.dead || job.stage != .switchAnswer .acknowledged ||
        match job.operation with
        | .pause =>
          !boost.running || (World.switchedRun job answer).status != job.run.status ||
            !(boost.latestToggles boost.cycle).any fun command => command.id == job.commandId
        | _ => job.run.status == .running || (boost.startedIn boost.cycle && !boost.newestStopped)
  | _ => true

/-- A row after an event that adds no command. -/
structure BoostCommand.Alike (old new : BoostCommand) : Prop where
  id : new.id = old.id
  boost : new.boost = old.boost
  cycle : new.adsBoostCycle = old.adsBoostCycle
  seq : new.toggleSeq = old.toggleSeq

theorem BoostCommand.Alike.isToggle {old new : BoostCommand} (alike : old.Alike new) : new.isToggle = old.isToggle := by
  simp only [BoostCommand.isToggle, alike.boost]

/-- The commands after an event that adds none. -/
def Rewritten (old new : List BoostCommand) : Prop := List.Forall₂ BoostCommand.Alike old new

namespace Rewritten
variable {old new : List BoostCommand}

theorem back (rewritten : Rewritten old new) {command : BoostCommand} (member : command ∈ new) :
    ∃ earlier ∈ old, earlier.Alike command := by
  unfold Rewritten at rewritten
  induction rewritten with
  | nil => cases member
  | cons alike _ ih =>
    rcases List.mem_cons.mp member with rfl | later
    · exact ⟨_, List.mem_cons_self, alike⟩
    · obtain ⟨earlier, present, same⟩ := ih later
      exact ⟨earlier, List.mem_cons_of_mem _ present, same⟩

theorem forth (rewritten : Rewritten old new) {command : BoostCommand} (member : command ∈ old) :
    ∃ later ∈ new, command.Alike later := by
  unfold Rewritten at rewritten
  induction rewritten with
  | nil => cases member
  | cons alike _ ih =>
    rcases List.mem_cons.mp member with rfl | rest
    · exact ⟨_, List.mem_cons_self, alike⟩
    · obtain ⟨later, present, same⟩ := ih rest
      exact ⟨later, List.mem_cons_of_mem _ present, same⟩

theorem numbered (rewritten : Rewritten old new) (ordered : Numbered old) : Numbered new := by
  have ids : new.map (·.id) = old.map (·.id) := by
    clear ordered
    unfold Rewritten at rewritten
    induction rewritten with
    | nil => rfl
    | cons alike _ ih => rw [List.map_cons, List.map_cons, ih, alike.id]
  have length := rewritten.length_eq
  unfold Numbered at ordered ⊢
  rw [ids, ordered, length]

theorem startedIn {first second : Desk} (rewritten : Rewritten first.commands second.commands) {cycle : Nat}
    (started : first.startedIn cycle = true) : second.startedIn cycle = true := by
  simp only [Desk.startedIn, List.any_eq_true, Bool.and_eq_true, beq_iff_eq] at started ⊢
  obtain ⟨start, present, kind, own⟩ := started
  obtain ⟨later, existing, alike⟩ := rewritten.forth present
  exact ⟨later, existing, alike.boost.trans kind, alike.cycle.trans own⟩

theorem newest {first second : Desk} (rewritten : Rewritten first.commands second.commands) {cycle : Nat}
    {earlier later : BoostCommand} (alike : earlier.Alike later) (present : earlier ∈ first.commands)
    (last : later ∈ second.latestToggles cycle) : earlier ∈ first.latestToggles cycle := by
  obtain ⟨_, toggle, own, above⟩ := Desk.mem_latestToggles.mp last
  refine Desk.mem_latestToggles.mpr ⟨present, alike.isToggle.symm.trans toggle, alike.cycle.symm.trans own, ?_⟩
  intro other existing kind same
  obtain ⟨new, there, similar⟩ := rewritten.forth existing
  rw [← similar.seq, ← alike.seq]
  exact above new there (similar.isToggle.trans kind) (similar.cycle.trans same)

theorem of_handled (handled : Handled old new) : Rewritten old new := by
  unfold Handled at handled
  exact handled.imp fun _ _ kept => ⟨kept.id, kept.boost, kept.cycle, kept.seq⟩

theorem modify {id : Uuid} {change : BoostCommand → BoostCommand} (alike : ∀ command : BoostCommand, command.Alike (change command)) :
    Rewritten old (Keyed.modify (·.id) old id change) := by
  unfold Rewritten Keyed.modify
  rw [List.forall₂_map_right_iff]
  apply List.forall₂_same.mpr
  intro command _
  split
  · exact alike command
  · exact ⟨rfl, rfl, rfl, rfl⟩

end Rewritten

/-- Numbers grow along the cycles, and a running boost has a start and no completed
pause as a last toggle of its cycle. -/
structure Boost.Tracked (boost : Boost) : Prop where
  numbered : Numbered boost.commands
  cycles : ∀ command ∈ boost.commands, command.adsBoostCycle ≤ boost.cycle
  later : ∀ first ∈ boost.commands, ∀ second ∈ boost.commands, first.isToggle = true → second.isToggle = true →
    first.adsBoostCycle < second.adsBoostCycle → first.toggleSeq < second.toggleSeq
  sealedTerms : boost.commands ≠ [] → boost.gate.sealedAds ≠ none
  jobs : ∀ job ∈ boost.jobs, ∃ command ∈ boost.commands, command.id = job.commandId ∧ command.boost = job.operation
  started : boost.running = true → boost.startedIn boost.cycle = true
  unstopped : boost.running = true → boost.newestStopped = false

namespace Boost.Tracked
variable {before after : Boost}

theorem startedIn_iff {desk : Desk} {cycle : Nat} :
    desk.startedIn cycle = true ↔ ∃ command ∈ desk.commands, command.boost = .boostStart ∧ command.adsBoostCycle = cycle := by
  simp [Desk.startedIn]

theorem newestStopped_false {desk : Desk} :
    desk.newestStopped = false ↔
      ∀ command ∈ desk.latestToggles desk.cycle, command.boost = .pause → command.status ≠ .completed := by
  simp [Desk.newestStopped]

theorem stopAccepted (tracked : before.Tracked) : before.StopAccepted := by
  intro running requester initiatedBy usable preferred now
  have started := tracked.started running
  have unstopped := newestStopped_false.mp (tracked.unstopped running)
  obtain ⟨start, startRow, _, _⟩ := startedIn_iff.mp started
  obtain ⟨seal_, sealedTerms⟩ := Option.ne_none_iff_exists'.mp (tracked.sealedTerms (List.ne_nil_of_mem startRow))
  -- A new pause with a number above the last toggle's is not among the commands yet.
  have created : ∀ seq, (∀ command ∈ before.commands, command.isToggle = true → command.toggleSeq ≠ seq) →
      ∃ after, before.createOrGet .pause seq requester initiatedBy now = .ok after ∧
        ∃ command ∈ after.commands,
          command.boost = .pause ∧ command.adsBoostCycle = before.cycle ∧ command.status ≠ .completed := by
    intro seq fresh
    have unknown : ¬ before.commands.any (Desk.sameCommand seal_ .pause seq) = true := by
      intro known
      obtain ⟨command, member, same⟩ := List.any_eq_true.mp known
      simp only [Desk.sameCommand, Bool.and_eq_true, beq_iff_eq] at same
      exact fresh command member (by simp [BoostCommand.isToggle, same.1.2]) same.2
    refine ⟨_, by rw [Desk.createOrGet, sealedTerms]; dsimp only; rw [if_neg unknown], ?_⟩
    refine ⟨_, List.mem_append_right _ (List.mem_singleton_self _), rfl, rfl, ?_⟩
    simp [Desk.newCommand]
  unfold Desk.requestToggle
  rw [if_neg (by simp [moneyStoppingOps]), if_neg (by simp [started]), if_neg (by simp), if_neg (by simp)]
  cases found : before.latestToggle before.cycle preferred with
  | none =>
    dsimp only
    rw [if_neg (by simp)]
    apply created
    intro command member toggle same
    have := Desk.le_lastToggleSeq member toggle
    omega
  | some latest =>
    dsimp only
    have newest := Desk.latestToggle_mem found
    obtain ⟨member, toggle, own, last⟩ := Desk.mem_latestToggles.mp newest
    have above : ∀ command ∈ before.commands, command.isToggle = true → command.toggleSeq ≠ latest.toggleSeq + 1 := by
      intro command present kind
      by_cases same : command.adsBoostCycle = before.cycle
      · have := last command present kind same
        omega
      · have within := tracked.cycles command present
        have := tracked.later command present latest member kind toggle (by omega)
        omega
    by_cases other : latest.boost = .pause
    · rw [if_neg (by simp [other])]
      have waiting : latest.status ≠ .completed → ∃ command ∈ before.commands,
          command.boost = .pause ∧ command.adsBoostCycle = before.cycle ∧ command.status ≠ .completed :=
        fun unfinished => ⟨latest, member, other, own, unfinished⟩
      have kept : ∀ (status : latest.status = .pending ∨ latest.status = .inProgress),
          ∃ after, before.createOrGet .pause latest.toggleSeq requester initiatedBy now = .ok after ∧
            ∃ command ∈ after.commands,
              command.boost = .pause ∧ command.adsBoostCycle = before.cycle ∧ command.status ≠ .completed := by
        intro status
        have unfinished : latest.status ≠ .completed := by
          rcases status with queued | taken
          · simp [queued]
          · simp [taken]
        rw [Desk.createOrGet, sealedTerms]
        dsimp only
        split
        · exact ⟨_, rfl, waiting unfinished⟩
        · exact ⟨_, rfl, latest, List.mem_append_left _ member, other, own, unfinished⟩
      cases status : latest.status with
      | completed => exact absurd status (unstopped latest newest other)
      | pending => exact kept (.inl status)
      | inProgress => exact kept (.inr status)
      | blocked =>
        dsimp only
        split
        · exact ⟨_, rfl, waiting (by simp [status])⟩
        · refine ⟨_, rfl, ?_⟩
          unfold Desk.retryDeadLetter
          split
          · have requeued : latest.Kept { latest with toCommand := latest.requeue } :=
              .of_status rfl (by simp [status]) (by simp [Publications.Command.requeue]) (by simp [Publications.Command.requeue])
            obtain ⟨later, present, keeps⟩ := (Handled.put tracked.numbered member requeued).forth member
            refine ⟨later, present, keeps.boost.trans other, keeps.cycle.trans own, ?_⟩
            intro finished
            rw [keeps.completed finished] at status
            cases status
          · exact waiting (by simp [status])
      | deadLetter => exact created _ above
      | voided => exact created _ above
      | blockedUnapproved => exact created _ above
      | cancelled => exact created _ above
    · rw [if_pos other]
      exact created _ above

theorem rewritten (tracked : before.Tracked) (rows : Rewritten before.commands after.commands) (cycle : before.cycle ≤ after.cycle)
    (sealedTerms : before.gate.sealedAds ≠ none → after.gate.sealedAds ≠ none)
    (jobs : ∀ job ∈ after.jobs, ∃ command ∈ before.commands, command.id = job.commandId ∧ command.boost = job.operation)
    (run : after.running = true → after.startedIn after.cycle = true ∧ after.newestStopped = false) : after.Tracked := by
  constructor
  · exact rows.numbered tracked.numbered
  · intro command member
    obtain ⟨old, present, alike⟩ := rows.back member
    rw [alike.cycle]
    exact (tracked.cycles old present).trans cycle
  · intro first one second other kind sort below
    obtain ⟨early, present, alike⟩ := rows.back one
    obtain ⟨late, existing, similar⟩ := rows.back other
    rw [alike.seq, similar.seq]
    rw [alike.cycle, similar.cycle] at below
    exact tracked.later early present late existing (alike.isToggle ▸ kind) (similar.isToggle ▸ sort) below
  · intro some_row
    apply sealedTerms
    apply tracked.sealedTerms
    intro empty
    have none_left := rows.length_eq
    rw [empty, List.length_nil] at none_left
    exact some_row (List.eq_nil_of_length_eq_zero none_left.symm)
  · intro job member
    obtain ⟨command, present, name, operation⟩ := jobs job member
    obtain ⟨new, existing, alike⟩ := rows.forth present
    exact ⟨new, existing, alike.id.trans name, alike.boost.trans operation⟩
  · exact fun running => (run running).1
  · exact fun running => (run running).2

theorem stoppable (rows : Rewritten before.commands after.commands) (cycle : after.cycle = before.cycle)
    (could : before.startedIn before.cycle = true ∧ before.newestStopped = false)
    (unfinished : ∀ old ∈ before.latestToggles before.cycle, ∀ new ∈ after.commands, old.Alike new → old.boost = .pause →
      new.status = .completed → old.status = .completed) :
    after.startedIn after.cycle = true ∧ after.newestStopped = false := by
  rw [cycle]
  refine ⟨rows.startedIn could.1, ?_⟩
  rw [newestStopped_false, cycle]
  intro command newest pause finished
  obtain ⟨old, present, alike⟩ := rows.back (Desk.mem_latestToggles.mp newest).1
  have last := rows.newest alike present newest
  have was_pause := alike.boost.symm.trans pause
  exact newestStopped_false.mp could.2 old last was_pause
    (unfinished old last command (Desk.mem_latestToggles.mp newest).1 alike was_pause finished)

theorem added (tracked : before.Tracked) {command : BoostCommand} (rows : after.commands = before.commands ++ [command])
    (fresh : command.id = before.commands.length) (own : command.adsBoostCycle = before.cycle)
    (unfinished : command.status ≠ .completed) (next : command.isToggle = true → before.NextSeq command.toggleSeq)
    (sealedTerms : before.gate.sealedAds ≠ none) (gate : after.gate = before.gate) (run : after.run = before.run)
    (jobs : after.jobs = before.jobs) : after.Tracked := by
  have cycle : after.cycle = before.cycle := congrArg (fun run => (run.map BoostRun.cycleNo).getD 1) run
  have running : after.running = before.running :=
    congrArg (fun run => Option.any (fun (run : BoostRun) => run.status == .running) run) run
  have split : ∀ row ∈ after.commands, row ∈ before.commands ∨ row = command := by
    intro row member
    rw [rows] at member
    rcases List.mem_append.mp member with old | new
    · exact .inl old
    · exact .inr (List.mem_singleton.mp new)
  constructor
  · rw [rows]
    exact tracked.numbered.append fresh
  · intro row member
    rw [cycle]
    rcases split row member with old | rfl
    · exact tracked.cycles row old
    · exact Nat.le_of_eq own
  · intro first one second other kind sort below
    rcases split first one with early | rfl
    · rcases split second other with late | rfl
      · exact tracked.later first early second late kind sort below
      · -- The first one is of an earlier cycle, so it lies below some toggle of this one, or there is none.
        rcases (next sort).fresh with ⟨latest, present, toggle, current, bound⟩ | above
        · have := tracked.later first early latest present kind toggle (by omega)
          omega
        · exact above first early kind
    · rcases split second other with late | rfl
      · have := tracked.cycles second late
        omega
      · omega
  · intro _
    rw [gate]
    exact sealedTerms
  · intro job member
    rw [jobs] at member
    obtain ⟨row, present, same⟩ := tracked.jobs job member
    exact ⟨row, rows ▸ List.mem_append_left _ present, same⟩
  · intro ran
    rw [running] at ran
    rw [startedIn_iff, cycle]
    obtain ⟨start, present, kind⟩ := startedIn_iff.mp (tracked.started ran)
    exact ⟨start, rows ▸ List.mem_append_left _ present, kind⟩
  · intro ran
    rw [running] at ran
    rw [newestStopped_false, cycle]
    intro row newest pause finished
    obtain ⟨member, toggle, current, last⟩ := Desk.mem_latestToggles.mp newest
    rcases split row member with old | rfl
    · refine newestStopped_false.mp (tracked.unstopped ran) row ?_ pause finished
      refine Desk.mem_latestToggles.mpr ⟨old, toggle, current, ?_⟩
      intro other existing
      exact last other (rows ▸ List.mem_append_left _ existing)
    · exact unfinished finished

theorem running_core {first second : Desk} (core : first.core = second.core) :
    first.running = second.running ∧ first.cycle = second.cycle := by
  have running : ∀ desk : Desk, desk.running = desk.core.any fun run => run.status == .running := by
    intro desk
    unfold Desk.running Desk.core
    cases desk.run <;> rfl
  have cycle : ∀ desk : Desk, desk.cycle = (desk.core.map BoostRun.cycleNo).getD 1 := by
    intro desk
    unfold Desk.cycle Desk.core
    cases desk.run <;> rfl
  rw [running, running, cycle, cycle, core]
  exact ⟨rfl, rfl⟩

/-- Neither whether the campaign runs nor its cycle changes. -/
theorem steady (tracked : before.Tracked) (rows : Numbered before.commands → Handled before.commands after.commands)
    (phase : after.running = before.running ∧ after.cycle = before.cycle)
    (sealedTerms : before.gate.sealedAds ≠ none → after.gate.sealedAds ≠ none) (jobs : after.jobs = before.jobs) : after.Tracked := by
  obtain ⟨running, cycle⟩ := phase
  have handled := rows tracked.numbered
  have alike := Rewritten.of_handled handled
  refine tracked.rewritten alike (Nat.le_of_eq cycle.symm) sealedTerms (fun job member => tracked.jobs job (jobs ▸ member)) ?_
  intro ran
  have could := running ▸ ran
  refine stoppable alike cycle ⟨tracked.started could, tracked.unstopped could⟩ ?_
  intro old newest new member same pause finished
  obtain ⟨origin, present, kept⟩ := handled.back member
  have identical := tracked.numbered.same present (Desk.mem_latestToggles.mp newest).1 (kept.id.symm.trans same.id)
  exact identical ▸ kept.completed finished

theorem handled (tracked : before.Tracked) (rows : Numbered before.commands → Handled before.commands after.commands)
    (core : after.core = before.core) (sealedTerms : before.gate.sealedAds ≠ none → after.gate.sealedAds ≠ none)
    (jobs : after.jobs = before.jobs) : after.Tracked := tracked.steady rows (running_core core) sealedTerms jobs

theorem toggled (tracked : before.Tracked) {operation : Operation} {desk : Desk} (toggled : before.toDesk.Toggled operation desk)
    (rows : after.commands = desk.commands) (gate : after.gate = before.gate) (core : after.core = before.core)
    (jobs : after.jobs = before.jobs) : after.Tracked := by
  have sealedTerms : before.gate.sealedAds ≠ none → after.gate.sealedAds ≠ none := by
    rw [gate]
    exact id
  cases toggled with
  | known => exact tracked.handled (fun _ => rows ▸ .refl _) core sealedTerms jobs
  | retried latest commands member handled => exact tracked.handled (fun numbered => rows ▸ handled numbered) core sealedTerms jobs
  | added seal_ seq requester initiatedBy now present started next =>
    obtain ⟨running, cycle⟩ := running_core core
    -- The columns of the run that the capture wrote are not read here.
    have added : ({ before with commands := before.commands ++
        [before.newCommand seal_ operation seq requester initiatedBy now] } : Boost).Tracked :=
      tracked.added rfl rfl rfl (by simp [Desk.newCommand]) (fun _ => next) (by rw [present]; simp) rfl rfl rfl
    exact added.handled (fun _ => rows ▸ .refl _) core sealedTerms jobs

theorem running_phase {first second : Desk} (phase : Desk.phase first.run = Desk.phase second.run) :
    first.running = second.running ∧ first.cycle = second.cycle := by
  have running : ∀ desk : Desk, desk.running = ((Desk.phase desk.run).1 == .running) := by
    intro desk
    unfold Desk.running Desk.phase
    cases desk.run <;> rfl
  have cycle : ∀ desk : Desk, desk.cycle = (Desk.phase desk.run).2 := by
    intro desk
    unfold Desk.cycle Desk.phase
    cases desk.run <;> rfl
  rw [running, running, cycle, cycle, phase]
  exact ⟨rfl, rfl⟩

theorem mem_put_job {jobs : List Job} {next job : Job} (member : job ∈ Keyed.put Job.id jobs next) : job ∈ jobs ∨ job = next := by
  obtain ⟨old, present, rfl⟩ := List.mem_map.mp member
  split
  · exact .inr rfl
  · exact .inl present

theorem worked_rows (tracked : before.Tracked) {job : Job} {world : World} (member : job ∈ before.jobs)
    (worked : before.toWorld.Worked job world) :
    Rewritten before.commands world.commands ∧ world.gate = before.gate ∧
      ∀ other ∈ world.jobs, ∃ command ∈ before.commands, command.id = other.commandId ∧ command.boost = other.operation := by
  cases worked with
  | goesOn next same commands run provider history mark =>
    refine ⟨?_, rfl, ?_⟩
    · rcases mark with rfl | rfl
      · exact List.forall₂_same.mpr fun _ _ => ⟨rfl, rfl, rfl, rfl⟩
      · exact .modify fun _ => ⟨rfl, rfl, rfl, rfl⟩
    · intro other present
      rcases mem_put_job present with old | rfl
      · exact tracked.jobs other old
      · rw [same.commandId, same.operation]
        exact tracked.jobs job member
  | ends change concluding run snapshots history =>
    refine ⟨.modify fun command => ⟨concluding.id _, rfl, rfl, concluding.seq _⟩, rfl, ?_⟩
    intro other present
    exact tracked.jobs other (List.mem_filter.mp present).1

theorem worked_completed (tracked : before.Tracked) {job : Job} {world : World} (worked : before.toWorld.Worked job world)
    {old new : BoostCommand} (present : old ∈ before.commands) (member : new ∈ world.commands) (alike : old.Alike new)
    (finished : new.status = .completed) :
    old.status = .completed ∨ job.stage = .switchAnswer .acknowledged ∧ old.id = job.commandId := by
  have changed : ∀ change : BoostCommand → BoostCommand, (∀ command : BoostCommand, command.Alike (change command)) →
      new ∈ Keyed.modify (·.id) before.commands job.commandId change →
      new = old ∨ (old.id = job.commandId ∧ new = change old) := by
    intro change same modified
    obtain ⟨row, existing, rfl⟩ := List.mem_map.mp modified
    split at alike
    next own =>
      have identical := tracked.numbered.same existing present ((same row).id.symm.trans alike.id)
      rw [if_pos own, ← identical]
      exact .inr ⟨own, rfl⟩
    next other =>
      have identical := tracked.numbered.same existing present alike.id
      rw [if_neg other]
      exact .inl identical
  cases worked with
  | goesOn next same commands run provider history mark =>
    rcases mark with rfl | rfl
    · exact .inl (tracked.numbered.same member present alike.id ▸ finished)
    · have marked : ∀ command : BoostCommand, command.Alike { command with providerCallStartedAt := some job.now } :=
        fun _ => ⟨rfl, rfl, rfl, rfl⟩
      rcases changed _ marked member with rfl | ⟨_, rfl⟩
      · exact .inl finished
      · exact .inl finished
  | ends change concluding run snapshots history =>
    have ended : ∀ command : BoostCommand, command.Alike { command with toCommand := change command.toCommand } :=
      fun command => ⟨concluding.id command.toCommand, rfl, rfl, concluding.seq command.toCommand⟩
    rcases changed _ ended member with rfl | ⟨own, rfl⟩
    · exact .inl finished
    · exact (concluding.completed _ finished).imp id fun acknowledged => ⟨acknowledged, own⟩

theorem worked (tracked : before.Tracked) {job : Job} {world : World} (member : job ∈ before.jobs)
    (worked : before.toWorld.Worked job world) (same : after.toWorld = world)
    (phase : Desk.phase world.run = Desk.phase before.run) (other : job.stage ≠ .switchAnswer .acknowledged) : after.Tracked := by
  subst same
  obtain ⟨rows, gate, jobs⟩ := tracked.worked_rows member worked
  obtain ⟨running, cycle⟩ := running_phase phase
  refine tracked.rewritten rows (Nat.le_of_eq cycle.symm) (fun some_seal => gate ▸ some_seal) jobs ?_
  intro ran
  have could := running ▸ ran
  refine stoppable rows cycle ⟨tracked.started could, tracked.unstopped could⟩ ?_
  intro old newest new present alike _ finished
  rcases tracked.worked_completed worked (Desk.mem_latestToggles.mp newest).1 present alike finished with before | acknowledged
  · exact before
  · exact absurd acknowledged.1 other

theorem acknowledged (tracked : before.Tracked) {job : Job} {answer : Answer} (member : job ∈ before.jobs)
    (stage : job.stage = .switchAnswer .acknowledged) (same : after.toWorld = before.toWorld.recordSwitch job answer .acknowledged)
    (follows : match job.operation with
      | .pause => before.running = true → (World.switchedRun job answer).status = job.run.status →
          ∀ command ∈ before.latestToggles before.cycle, command.id ≠ job.commandId
      | _ => job.run.status ≠ .running → before.startedIn before.cycle = true ∧ before.newestStopped = false) :
    after.Tracked := by
  have worked := before.toWorld.recordSwitch_worked job answer .acknowledged stage
  obtain ⟨rows, gate, jobs⟩ := tracked.worked_rows member worked
  rw [← same] at worked rows gate jobs
  obtain ⟨snapshots, recorded⟩ := before.toWorld.recordSwitch_acknowledged job answer
  have run : after.run = before.run.map fun stored => job.run.flush (World.switchedRun job answer) stored :=
    (congrArg (·.run) (same.trans recorded))
  have cycle : after.cycle = before.cycle := by
    have number : (World.switchedRun job answer).cycleNo = job.run.cycleNo := by
      unfold World.switchedRun
      split
      · rfl
      · split <;> rfl
      · rfl
    unfold Desk.cycle
    rw [run]
    cases before.run with
    | none => rfl
    | some stored => simp only [Option.map_some, BoostRun.flush, number, flushed_same]
  -- The status afterwards is the old one, or the one that the job has assigned.
  have running : after.running = true →
      (before.running = true ∧ (World.switchedRun job answer).status = job.run.status) ∨
        ((World.switchedRun job answer).status = .running ∧ job.run.status ≠ .running) := by
    intro ran
    unfold Desk.running at ran ⊢
    rw [run] at ran
    cases present : before.run with
    | none =>
      rw [present] at ran
      cases ran
    | some stored =>
      rw [present] at ran
      simp only [Option.map_some, Option.any_some, BoostRun.flush, beq_iff_eq] at ran ⊢
      unfold flushed at ran
      split at ran
      next equal => exact .inl ⟨ran, equal⟩
      next different => exact .inr ⟨ran, fun already => different (ran.trans already.symm)⟩
  refine tracked.rewritten rows (Nat.le_of_eq cycle.symm) (fun some_seal => gate ▸ some_seal) jobs ?_
  intro ran
  have unfinished : job.operation ≠ .pause → ∀ old ∈ before.commands, ∀ new ∈ after.commands, old.Alike new → old.boost = .pause →
      new.status = .completed → old.status = .completed := by
    intro other old present new existing alike pause finished
    rcases tracked.worked_completed worked present existing alike finished with done | ⟨_, own⟩
    · exact done
    · obtain ⟨command, row, name, operation⟩ := tracked.jobs job member
      rw [tracked.numbered.same row present (name.trans own.symm)] at operation
      exact absurd (operation.symm.trans pause) other
  have switched_on : job.operation ≠ .pause →
      (job.run.status ≠ .running → before.startedIn before.cycle = true ∧ before.newestStopped = false) →
      after.startedIn after.cycle = true ∧ after.newestStopped = false := by
    intro other follows
    have could : before.startedIn before.cycle = true ∧ before.newestStopped = false := by
      rcases running ran with ⟨already, _⟩ | ⟨_, off⟩
      · exact ⟨tracked.started already, tracked.unstopped already⟩
      · exact follows off
    exact stoppable rows cycle could fun old newest =>
      unfinished other old (Desk.mem_latestToggles.mp newest).1
  cases operation : job.operation with
  | boostStart =>
    rw [operation] at follows
    exact switched_on (by simp [operation]) follows
  | resume =>
    rw [operation] at follows
    exact switched_on (by simp [operation]) follows
  | pause =>
    rw [operation] at follows
    dsimp only at follows
    have off : (World.switchedRun job answer).status ≠ .running := by
      unfold World.switchedRun
      rw [operation]
      dsimp only
      split <;> simp
    rcases running ran with ⟨already, equal⟩ | ⟨on, _⟩
    · refine stoppable rows cycle ⟨tracked.started already, tracked.unstopped already⟩ ?_
      intro old newest new present alike _ finished
      rcases tracked.worked_completed worked (Desk.mem_latestToggles.mp newest).1 present alike finished with done | ⟨_, own⟩
      · exact done
      · exact absurd own (follows already equal old newest)
    · exact absurd on off

theorem kept (tracked : before.Tracked) (desk : Desk) (rows : Numbered before.commands → Handled before.commands desk.commands)
    (core : desk.core = before.core) (sealedTerms : before.gate.sealedAds ≠ none → desk.gate.sealedAds ≠ none) :
    (before.onTables desk).Tracked := tracked.handled rows core sealedTerms rfl

theorem reset (tracked : before.Tracked) {run : BoostRun} (present : before.run = some run)
    (rows : Numbered before.commands → Handled before.commands after.commands) (cleared : after.run = some run.reset)
    (gate : after.gate.sealedAds = before.gate.sealedAds) (jobs : after.jobs = before.jobs) : after.Tracked := by
  have idle : after.running = false := by
    unfold Desk.running
    rw [cleared]
    rfl
  have cycle : before.cycle ≤ after.cycle := by
    unfold Desk.cycle
    rw [cleared, present]
    exact Nat.le_succ _
  refine tracked.rewritten (.of_handled (rows tracked.numbered)) cycle (fun some_seal => gate ▸ some_seal)
    (fun job member => tracked.jobs job (jobs ▸ member)) ?_
  intro ran
  rw [idle] at ran
  cases ran

theorem noteCycle (tracked : after.Tracked) : (before.noteCycle after).Tracked := by
  unfold Boost.noteCycle
  split
  · exact tracked
  · exact tracked.handled (fun _ => .refl _) rfl id rfl

theorem noteConfirmation (tracked : after.Tracked) (id : Uuid) : (before.noteConfirmation id after).Tracked := by
  unfold Boost.noteConfirmation
  split
  · exact tracked.handled (fun _ => .refl _) rfl (fun some_seal => some_seal) rfl
  · exact tracked

theorem requestStart (tracked : before.Tracked) {requester : Uuid} {initiatedBy : Initiator} {now : Nat} {desk : Desk}
    (executed : before.requestAdsBoostStart requester initiatedBy now = .ok desk) : (before.onTables desk).Tracked := by
  unfold Desk.requestAdsBoostStart at executed
  split at executed
  · cases executed
  split at executed
  · cases executed
  obtain ⟨seal_, sealedTerms, ⟨rfl, _⟩ | rfl⟩ := Desk.createOrGet_ok executed
  · exact tracked
  · refine tracked.added rfl rfl rfl (by simp [Desk.newCommand]) ?_ (by rw [sealedTerms]; simp) rfl rfl rfl
    intro toggle
    cases toggle

theorem completed_modify (tracked : before.Tracked) {id : Uuid} {change : BoostCommand → BoostCommand} {old new : BoostCommand}
    (present : old ∈ before.commands) (member : new ∈ Keyed.modify (·.id) before.commands id change) (name : new.id = old.id)
    (kept : ∀ row, (change row).id = row.id) (unfinished : ∀ row, (change row).status = .completed → row.status = .completed)
    (finished : new.status = .completed) : old.status = .completed := by
  obtain ⟨row, existing, rfl⟩ := List.mem_map.mp member
  split at name
  next own =>
    rw [if_pos own] at finished
    rw [← tracked.numbered.same existing present ((kept row).symm.trans name)]
    exact unfinished row finished
  next other =>
    rw [if_neg other] at finished
    rw [← tracked.numbered.same existing present name]
    exact finished

theorem claim (tracked : before.Tracked) (id : Uuid) (now : Nat) :
    (before.onWorld (before.toWorld.claimCommand id now)).Tracked := by
  unfold World.claimCommand
  split
  · exact tracked
  next command found =>
    split
    · have rows : Rewritten before.commands (Keyed.modify (fun row : BoostCommand => row.id) before.commands id fun row =>
          { row with status := .inProgress, claimedAt := some now, providerCallStartedAt := none }) :=
        .modify fun _ => ⟨rfl, rfl, rfl, rfl⟩
      refine tracked.rewritten rows (Nat.le_refl _) (fun some_seal => some_seal) ?_ ?_
      · intro job member
        rcases List.mem_append.mp member with old | new
        · exact tracked.jobs job old
        · rw [List.mem_singleton.mp new]
          have name := Keyed.find_key found
          exact ⟨command, Keyed.find_mem found, name, rfl⟩
      · intro ran
        refine stoppable rows rfl ⟨tracked.started ran, tracked.unstopped ran⟩ ?_
        intro old newest new member alike _ finished
        exact tracked.completed_modify (Desk.mem_latestToggles.mp newest).1 member alike.id (fun _ => rfl)
          (fun _ impossible => by cases impossible) finished
    · exact tracked

theorem concluded (tracked : before.Tracked) {id : Uuid} {change : Publications.Command → Publications.Command}
    (concluding : Concluding False change)
    (rows : after.commands = Keyed.modify (·.id) before.commands id fun row => { row with toCommand := change row.toCommand })
    (run : after.run = before.run) (gate : after.gate = before.gate) (jobs : ∀ job ∈ after.jobs, job ∈ before.jobs) :
    after.Tracked := by
  have alike : Rewritten before.commands after.commands := by
    rw [rows]
    exact .modify fun row => ⟨concluding.id row.toCommand, rfl, rfl, concluding.seq row.toCommand⟩
  obtain ⟨running, cycle⟩ := running_phase (congrArg Desk.phase run)
  refine tracked.rewritten alike (Nat.le_of_eq cycle.symm) (fun some_seal => gate ▸ some_seal)
    (fun job member => tracked.jobs job (jobs job member)) ?_
  intro ran
  have could := running ▸ ran
  refine stoppable alike cycle ⟨tracked.started could, tracked.unstopped could⟩ ?_
  intro old newest new member same _ finished
  exact tracked.completed_modify (Desk.mem_latestToggles.mp newest).1 (rows ▸ member) same.id
    (fun row => concluding.id row.toCommand)
    (fun row done => (concluding.completed row.toCommand done).resolve_right not_false) finished

theorem recover (tracked : before.Tracked) (id : Uuid) (now : Nat) :
    (before.onWorld (before.toWorld.recoverInterrupted id now)).Tracked := by
  unfold World.recoverInterrupted
  split
  · exact tracked
  · split
    · exact tracked.concluded (.failure _ _ _) rfl rfl rfl fun job member => (List.mem_filter.mp member).1
    · exact tracked

theorem crash (tracked : before.Tracked) {job : Job} (member : job ∈ before.jobs) :
    (before.onWorld (before.toWorld.crash job)).Tracked := by
  refine tracked.rewritten (List.forall₂_same.mpr fun _ _ => ⟨rfl, rfl, rfl, rfl⟩) (Nat.le_refl _) (fun some_seal => some_seal) ?_
    fun ran => ⟨tracked.started ran, tracked.unstopped ran⟩
  intro other present
  rcases mem_put_job present with old | rfl
  · exact tracked.jobs other old
  · exact tracked.jobs job member

theorem phased (tracked : before.Tracked) (rows : Numbered before.commands → Handled before.commands after.commands)
    (phase : Desk.phase after.run = Desk.phase before.run) (gate : after.gate = before.gate) (jobs : after.jobs = before.jobs) :
    after.Tracked := tracked.steady rows (running_phase phase) (fun some_seal => gate ▸ some_seal) jobs

theorem adopt (tracked : before.Tracked) {found : ObjectIds} {budget : Option Nat} {answer : Answer} {world : World}
    (executed : before.toWorld.adopt found budget answer = .ok world) : (before.onWorld world).Tracked := by
  obtain ⟨seal_, run, commands, _, present, rows, _, _, rfl⟩ := World.adopt_ok executed
  refine tracked.phased rows ?_ rfl rfl
  obtain ⟨status, cycle⟩ := World.adopted_phase run found budget seal_.versionId seal_.connectionId
  rw [present]
  exact Prod.ext status cycle

theorem retry (tracked : before.Tracked) {id : Uuid} {confirmed : Bool} {desk : Desk}
    (executed : before.retryCommand id confirmed = .ok desk) : (before.onTables desk).Tracked := by
  obtain ⟨command, commands, _, rows, ⟨rfl, _⟩ | ⟨rfl, _⟩⟩ := Desk.retryCommand_ok executed
  · exact tracked.kept _ rows rfl fun some_seal => some_seal
  · refine tracked.phased rows ?_ rfl rfl
    change Desk.phase (before.run.map Desk.cleared) = Desk.phase before.run
    cases before.run with
    | none => rfl
    | some run =>
      unfold Desk.cleared
      simp only [Option.map_some]
      split <;> rfl

theorem step (tracked : before.Tracked) {event : Event} (follows : before.followsToggles event = true) :
    (before.step event).Tracked := by
  by_cases captures : event.captures = true
  · have captured := before.captured_step captures
    obtain ⟨desk, toggled, rows⟩ := captured.commands
    exact tracked.toggled toggled rows captured.gate captured.core captured.jobs
  unfold Boost.step
  apply Runs.settle_preserves tracked
  intro after executed
  cases event with
  | requestBoost terms requester now =>
    obtain ⟨desk, accepted, rfl⟩ := Runs.map_ok executed
    obtain ⟨core, handled, _, sealedTerms, _⟩ := Desk.requestAdsBoost_ok accepted
    exact tracked.kept desk (fun _ => handled) core fun _ => by rw [sealedTerms]; simp
  | moveGate newStatus resolverId now =>
    obtain ⟨desk, accepted, rfl⟩ := Runs.map_ok executed
    obtain ⟨_, snapshots, rfl⟩ := Desk.moveGate_ok accepted
    exact tracked.kept _ (fun _ => .refl _) rfl fun some_seal => some_seal
  | start requester now =>
    obtain ⟨desk, accepted, rfl⟩ := Runs.map_ok executed
    exact tracked.requestStart accepted
  | scheduledStart now =>
    change before.startDue now = .ok after at executed
    unfold Boost.startDue at executed
    split at executed
    · split at executed
      · obtain ⟨desk, accepted, rfl⟩ := Runs.map_ok executed
        exact tracked.requestStart accepted
      · cases executed
        exact tracked
    · cases executed
      exact tracked
  | pause requester preferred now =>
    obtain ⟨desk, accepted, rfl⟩ := Runs.map_ok executed
    have toggled := Desk.requestToggle_ok accepted
    exact tracked.toggled toggled rfl (congrArg (·.gate) toggled.eq) (congrArg (·.core) toggled.eq) rfl
  | resume requester preferred now =>
    obtain ⟨desk, accepted, rfl⟩ := Runs.map_ok executed
    have toggled := Desk.requestToggle_ok accepted
    exact tracked.toggled toggled rfl (congrArg (·.gate) toggled.eq) (congrArg (·.core) toggled.eq) rfl
  | cancel actor admin now =>
    obtain ⟨desk, accepted, rfl⟩ := Runs.map_ok executed
    obtain ⟨handled, gate, _, core | ⟨run, present, cleared, _⟩⟩ := Desk.cancelAdsBoost_ok accepted
    · exact noteCycle (tracked.kept desk (fun _ => handled) core fun some_seal => gate ▸ some_seal)
    · exact noteCycle (tracked.reset present (fun _ => handled) cleared gate rfl)
  | finishCancel now =>
    cases executed
    rcases before.toDesk.finishCancelIfStopped_cases now with same | ⟨run, cycles, present, _, same⟩
    · rw [same]
      exact noteCycle tracked
    · rw [same]
      exact noteCycle (tracked.reset present (fun _ => .refl _) rfl rfl rfl)
  | pauseLeft preferred now =>
    obtain ⟨desk, accepted, rfl⟩ := Runs.map_ok executed
    have toggled := Desk.pauseLeftCampaign_ok accepted
    exact tracked.toggled toggled rfl (congrArg (·.gate) toggled.eq) (congrArg (·.core) toggled.eq) rfl
  | captureAfterFailedPause id now =>
    obtain ⟨desk, accepted, rfl⟩ := Runs.map_ok executed
    obtain ⟨snapshots, rfl⟩ := Desk.captureAfterFailedCancelPause_ok accepted
    exact tracked.kept _ (fun _ => .refl _) rfl fun some_seal => some_seal
  | retry id confirmed =>
    obtain ⟨desk, accepted, rfl⟩ := Runs.map_ok executed
    exact noteConfirmation (tracked.retry accepted) id
  | adopt found budget answer =>
    obtain ⟨world, accepted, rfl⟩ := Runs.map_ok executed
    exact tracked.adopt accepted
  | setPublishPaused paused =>
    cases executed
    exact tracked.kept _ (fun _ => .refl _) rfl fun some_seal => some_seal
  | requeuePaused =>
    cases executed
    exact tracked.kept _ (fun _ => Desk.requeuePaused_handled) (by unfold Desk.requeuePaused; split <;> rfl)
      (by unfold Desk.requeuePaused; split <;> exact id)
  | claim id now =>
    cases executed
    exact tracked.claim id now
  | advance id answer =>
    cases executed
    refine Boost.onJob_preserves tracked id _ fun job found alive => ?_
    have member : job ∈ before.jobs := Keyed.find_mem found
    by_cases stage : job.stage = .switchAnswer .acknowledged
    · have same : before.toWorld.advance job answer = before.toWorld.recordSwitch job answer .acknowledged := by
        unfold World.advance
        rw [stage]
      refine tracked.acknowledged member stage same ?_
      simp only [Boost.followsToggles, found, alive, stage, Bool.false_or, bne_self_eq_false] at follows
      cases operation : job.operation with
      | pause =>
        rw [operation] at follows
        simp only [Bool.or_eq_true, Bool.not_eq_true', bne_iff_ne, ne_eq] at follows
        intro running equal command newest own
        rcases follows with (idle | different) | absent
        · rw [running] at idle
          cases idle
        · exact different equal
        · have := List.any_eq_false.mp absent command newest
          simp [own] at this
      | boostStart =>
        rw [operation] at follows
        simpa [or_iff_not_imp_left] using follows
      | resume =>
        rw [operation] at follows
        simpa [or_iff_not_imp_left] using follows
    · exact tracked.worked member (before.toWorld.advance_worked job answer) rfl
        (before.toWorld.advance_phase job answer stage) stage
  | escape id =>
    cases executed
    refine Boost.onJob_preserves tracked id _ fun job _ _ => ?_
    exact tracked.concluded (.escaped _ _) rfl rfl rfl fun other member => (List.mem_filter.mp member).1
  | crash id =>
    cases executed
    exact Boost.onJob_preserves tracked id _ fun job found _ => tracked.crash (Keyed.find_mem found)
  | recover id now =>
    cases executed
    exact tracked.recover id now
  | _ => exact absurd rfl captures

theorem initial (gateId orgId : Uuid) (snapshots : List Snapshot) : (Boost.initial gateId orgId snapshots).Tracked where
  numbered := rfl
  cycles _ member := by cases member
  later _ member := by cases member
  sealedTerms some_row := absurd rfl some_row
  jobs _ member := by cases member
  started running := by cases running
  unstopped running := by cases running

end Boost.Tracked

/-- Stopping a boost is accepted in every state of a run whose acknowledged switches
agree with the toggles. -/
theorem running_boost_can_be_paused (gateId orgId : Uuid) (snapshots : List Snapshot) (events : List Event)
    (follows : Runs.Throughout Boost.step (fun boost event => boost.followsToggles event = true)
      (Boost.initial gateId orgId snapshots) events) :
    (Runs.final Boost.step (Boost.initial gateId orgId snapshots) events).StopAccepted := by
  have kept : ∀ (boost : Boost) event, boost.followsToggles event = true → boost.Tracked → (boost.step event).Tracked :=
    fun _ _ agrees tracked => tracked.step agrees
  have reached := follows.invariant kept (Boost.Tracked.initial gateId orgId snapshots)
  exact reached.stopAccepted

namespace Example

def terms : Terms :=
  { budgetMinor := 5000, currency := "KRW", startsAt := 0, endsAt := hours 240, objective := "OUTCOME_AWARENESS", connectionId := 7 }

/-- The answers of a provider that accepts everything. -/
def accepting : Answer := { currency := .read "KRW" }

/-- Approved terms, a start and its whole execution. -/
def started : List Event :=
  [.requestBoost terms 1 0, .moveGate .approved (some 2) 1, .start 1 2, .claim 0 3] ++ List.replicate 12 (.advance 0 accepting)

def paused : List Event := [.pause 1 0 4, .claim 1 5] ++ List.replicate 4 (.advance 1 accepting)

/-- The same terms sealed and approved again, and the start of the new seal. -/
def restarted : List Event :=
  [.requestBoost terms 1 6, .moveGate .approved (some 2) 7, .start 1 8, .claim 2 9] ++ List.replicate 7 (.advance 2 accepting)

end Example

open Example in
theorem started_boost_can_be_paused :
    Runs.Throughout Boost.step (fun boost event => boost.followsToggles event = true) (Boost.initial 0 0 []) started ∧
      (Runs.final Boost.step (Boost.initial 0 0 []) started).running = true ∧
      (Runs.final Boost.step (Boost.initial 0 0 []) started).StopAccepted := by
  have follows : Runs.Throughout Boost.step (fun boost event => boost.followsToggles event = true) (Boost.initial 0 0 []) started := by
    decide +kernel
  exact ⟨follows, by decide +kernel, running_boost_can_be_paused 0 0 [] started follows⟩

def refusal {α : Type} : Except BoostError α → Option BoostError
  | .error refused => some refused
  | .ok _ => none

open Example in
/-- A boost that was paused, approved again and started again runs, and its pause is
refused as already done. -/
theorem restarted_boost_refuses_pause :
    ¬ ∀ events, (Runs.final Boost.step (Boost.initial 0 0 []) events).StopAccepted := by
  intro accepted
  have running : (Runs.final Boost.step (Boost.initial 0 0 []) (started ++ paused ++ restarted)).running = true := by
    decide +kernel
  have refused : refusal ((Runs.final Boost.step (Boost.initial 0 0 []) (started ++ paused ++ restarted)).requestToggle
      .pause 1 none true 0 10) = some (.alreadyInState .pause) := by
    decide +kernel
  obtain ⟨after, executed, _⟩ := accepted (started ++ paused ++ restarted) running 1 none true 0 10
  rw [executed] at refused
  cases refused

end Sprintable.Boosts
