import Sprintable.Publications.CommandLaw

/-! Runs of the worker and of everybody else who writes commands. The law of the
rows is a discipline of its own beside the worker's one. -/

namespace Sprintable.Publications
open Interleave

def lawRules (deployment : Deployment) : Discipline Store where
  valid store := StoreValid deployment store ∧ Fits store
  rely index before after := Rely index before after ∧ Lawful before after
  allowed := (rules deployment).allowed
  refl index store := ⟨rely_refl index store, lawful_refl store⟩
  trans index _ _ _ early late := ⟨rely_trans index early.1 late.1, early.2.trans late.2⟩

section Operations
variable {deployment : Deployment} {store after : Store}

theorem harmless_law (harmless : Harmless (rules deployment) store after) (kept : Kept store after) :
    Harmless (lawRules deployment) store after :=
  ⟨⟨harmless.1, kept.1⟩, fun index => ⟨harmless.2 index, kept.2⟩⟩

theorem holder_law {worker : Worker} (holder : HolderStep (rules deployment) worker store after) (kept : Kept store after) :
    HolderStep (lawRules deployment) worker store after :=
  ⟨⟨holder.1, kept.1⟩, fun other different => ⟨holder.2 other different, kept.2⟩⟩

theorem held_running (valid : StoreValid deployment store) {id : Uuid} {command : Command} {worker : Worker}
    (found : store.find id = some command) (held : command.holder = some worker) : command.status = .inProgress := by
  by_contra stopped
  rw [(valid.rows id command found).free stopped] at held
  cases held

theorem law_contract (deployment : Deployment) : Contract deployment (lawRules deployment) where
  stored valid := valid.1
  relied relied := relied.1
  recordFailure _ _ _ valid found held _ :=
    holder_law (record_failure_keeps valid.1 found held _ _ _) (record_failure_kept valid.2 _ _ _ _)
  conclude _ _ _ valid found held _ :=
    holder_law (conclude_keeps valid.1 found held _ _) (conclude_kept valid.2 found (held_running valid.1 found held) _ _)
  mark valid found held status unmarked :=
    holder_law (mark_keeps valid.1 found held status unmarked) (mark_kept valid.2 found status)
  sweep stuck now valid := harmless_law (sweep_harmless valid.1 stuck now) (sweep_kept valid.2 stuck now)
  requeue ids valid := harmless_law (requeue_paused_harmless valid.1 ids) (requeue_paused_kept valid.2 ids)
  recover id _ answer past valid permitted :=
    harmless_law (recover_harmless valid.1 id past answer permitted) (recover_kept valid.2 id _ answer permitted)
  claim budget overBudget answer _ valid started :=
    harmless_law (claim_harmless valid.1 started budget overBudget answer) (claim_kept valid.1 valid.2 _ _ budget overBudget answer)

theorem row_spec {id : Uuid} {condition : Command → Bool} (sound : Operation.row store id condition = true)
    {command : Command} (found : store.find id = some command) : condition command = true := by
  unfold Operation.row at sound
  rw [found] at sound
  exact sound

theorem same_rows_kept (fits : Fits store) (rows : after.commands = store.commands) (history : after.history = store.history) :
    Kept store after := by
  have lookup : ∀ id, after.find id = store.find id := fun id => by rw [Store.find, Store.find, rows]
  refine ⟨fun id command found => fits id command (lookup id ▸ found), [], history, fun id old found => ?_⟩
  exact ⟨old, (lookup id).trans found, ⟨fun _ => rfl, .inl⟩⟩

theorem cancel_kept (fits : Fits store) (id : Uuid) : Kept store (store.cancelPending id) := by
  unfold Store.cancelPending
  cases found : store.find id with
  | none => exact kept_refl fits
  | some command =>
    have name := find_row_id found
    dsimp only
    split
    next pending =>
      apply going_write fits found
      · rw [pending]
        decide
      · exact name
      · exact CommandStatus.noConfusion
      · rfl
      · exact fun marked => marked
    · exact kept_refl fits

theorem publish_kept (fits : Fits store) {id : Uuid}
    (alive : Operation.row store id (fun command => command.status != .cancelled) = true) :
    Kept store (store.humanPublish id) := by
  apply human_publish_kept fits id
  intro command found
  have kept := row_spec alive found
  simpa using kept

theorem outside_kept {event : Outside} (fits : Fits store) (sound : (Operation.outside event).sound store = true) :
    Kept store (event.act store) := by
  cases event with
  | elapse duration => exact same_rows_kept fits rfl rfl
  | pause orgId => exact same_rows_kept fits rfl rfl
  | resume orgId =>
    have resumed : Kept store { store with pausedOrgs := store.pausedOrgs.filter (· ≠ orgId) } := same_rows_kept fits rfl rfl
    exact resumed.trans (requeue_paused_kept resumed.1 _)
  | create command => exact create_kept fits command
  | humanRetry id => exact retry_kept fits id false
  | humanPublish id => exact publish_kept fits sound
  | voidForGate gateId reasonCode => exact void_kept fits gateId reasonCode
  | cancel id => exact cancel_kept fits id

section Refusals
variable {command : Command} {refusal : Refusal}

theorem refuse_code {code : String} (coded : refusal.code? = some code) (message : String) (now : Nat) :
    command.refuse refusal message now = command.applyFailure (some code) (some message) now none refusal.resetAt := by
  cases refusal <;> simp_all [Refusal.code?, Command.refuse]

theorem refuse_uncoded (command : Command) (uncoded : refusal.code? = none) (message : String) (now : Nat) :
    let refused := command.refuse refusal message now
    refused.id = command.id ∧ refused.holder = command.holder ∧ refused.deadLetterAt = command.deadLetterAt ∧
      (refused.status = .blockedUnapproved ∨ refused.status = .blocked ∨ refused.status = .voided) ∧
      (refused.failureKind = some .needsCheck → command.failureKind = some .needsCheck) := by
  cases refusal <;> simp_all [Refusal.code?, Command.refuse, Command.markBlockedUnapproved]

theorem refuse_row (command : Command) (refusal : Refusal) (message : String) (now : Nat) :
    (command.refuse refusal message now).id = command.id ∧ (command.refuse refusal message now).holder = command.holder ∧
      (command.refuse refusal message now).status ≠ .inProgress := by
  cases coded : refusal.code? with
  | none =>
    obtain ⟨name, holder, -, status, -⟩ := refuse_uncoded command coded message now
    refine ⟨name, holder, fun running => ?_⟩
    simp [running] at status
  | some code =>
    rw [refuse_code coded]
    obtain ⟨name, holder, -, status⟩ := command.applyFailure_cases (some code) (some message) now none refusal.resetAt
    refine ⟨name, holder, fun running => ?_⟩
    simp [running] at status

theorem refusable_cases (refusable : Operation.refusable command refusal = true) :
    command.status ∈ goingStatuses ∨ command.status = .deadLetter ∧ refusal.givesUp = true := by
  simp only [Operation.refusable, Bool.or_eq_true, Bool.and_eq_true, beq_iff_eq] at refusable
  rcases refusable with ((pending | blocked) | unapproved) | given
  · exact .inl (by rw [pending]; decide)
  · exact .inl (by rw [blocked]; decide)
  · exact .inl (by rw [unapproved]; decide)
  · exact .inr given

theorem refuse_fit (fit : Fit command) (refusable : Operation.refusable command refusal = true) (message : String) (now : Nat) :
    Fit (command.refuse refusal message now) := by
  rcases refusable_cases refusable with going | ⟨given, givesUp⟩
  · have kept := (going_spec going).2
    cases coded : refusal.code? with
    | none =>
      obtain ⟨-, -, dated, status, kind⟩ := refuse_uncoded command coded message now
      refine .of_going (fun given => ?_) (dated.trans (fit.undated kept)) fun marked => fit.unmarked kept (kind marked)
      simp [given] at status
    | some code =>
      rw [refuse_code coded]
      exact apply_failure_fit (.inl (fit.undated kept))
  · unfold Refusal.givesUp at givesUp
    cases coded : refusal.code? with
    | none => simp [coded] at givesUp
    | some code =>
      rw [refuse_code coded]
      apply apply_failure_fit
      simp only [coded, Option.any_some, Bool.or_eq_true, beq_iff_eq] at givesUp
      exact .inr givesUp

end Refusals

theorem publish_now_law (valid : StoreValid deployment store) (fits : Fits store) {id : Uuid} {stands : Bool}
    {refusal : Option Refusal} {message : String}
    (sound : (Operation.publishNow id stands refusal message).sound store = true) :
    Harmless (lawRules deployment) store (store.publishNow id stands refusal message) := by
  unfold Store.publishNow
  cases found : store.find id with
  | none => exact harmless_refl ⟨valid, fits⟩
  | some command =>
    have allowed := row_spec sound found
    have name := find_row_id found
    dsimp only at allowed ⊢
    split
    · exact harmless_refl ⟨valid, fits⟩
    next answers =>
      simp only [not_or, not_and] at answers
      cases refusal with
      | none =>
        have alive : command.status ≠ .cancelled := by
          intro cancelled
          simp [answers.1, cancelled] at allowed
        apply harmless_law (human_publish_harmless valid id)
        apply human_publish_kept fits id
        intro other present
        rw [found] at present
        cases present
        exact alive
      | some reason =>
        have refusable : Operation.refusable command reason = true := by
          have ended : (command.status == .completed && stands) = false := by
            rw [Bool.and_eq_false_iff]
            by_cases completed : command.status = .completed
            · exact .inr (by simpa using answers.2.2 completed)
            · exact .inl (by simpa using completed)
          simpa [answers.1, answers.2.1, ended] using allowed
        obtain ⟨same, holder, rests⟩ := refuse_row command reason message store.now
        have stopped : command.status ≠ .inProgress := by
          rcases refusable_cases refusable with going | ⟨given, -⟩
          · intro running
            simp [Operation.refusable, running] at refusable
          · simp [given]
        have unfinished : command.status ∉ endedStatuses := by
          rcases refusable_cases refusable with going | ⟨given, -⟩
          · exact (going_spec going).1
          · rw [given]
            decide
        apply harmless_law
        · exact human_commit_harmless valid found stopped (same.trans name) rests (holder.trans ((valid.rows id command found).free stopped))
        · exact commit_kept fits found (same.trans name) (refuse_fit (fits id command found) refusable message store.now)
            (.human unfinished List.mem_cons_self)

theorem operation_law (valid : StoreValid deployment store) (fits : Fits store) {operation : Operation}
    (sound : operation.sound store = true) : Harmless (lawRules deployment) store (operation.act store) := by
  cases operation with
  | outside event => exact harmless_law (outside_harmless valid event) (outside_kept fits sound)
  | publishNow id stands refusal message => exact publish_now_law valid fits sound
  | autoPublish id =>
    simp only [Operation.act, Store.autoPublish]
    split
    · exact harmless_refl ⟨valid, fits⟩
    · split
      · exact harmless_refl ⟨valid, fits⟩
      · exact harmless_law (human_publish_harmless valid id) (publish_kept fits sound)
  | cancelScheduled id =>
    simp only [Operation.act, Store.cancelScheduled]
    cases found : store.find id with
    | none => exact harmless_refl ⟨valid, fits⟩
    | some command =>
      have name := find_row_id found
      have kept := row_spec sound found
      simp only [bne_iff_ne, ne_eq] at kept
      dsimp only
      split
      next cancellable =>
        simp only [Store.cancellableCommandStatuses, List.mem_cons, List.not_mem_nil, or_false, kept] at cancellable
        have going : command.status ∈ goingStatuses := by
          rcases cancellable with pending | blocked
          · rw [pending]
            decide
          · rw [blocked]
            decide
        have stopped : command.status ≠ .inProgress := by
          rcases cancellable with status | status <;> simp [status]
        apply harmless_law
        · apply stop_harmless valid found stopped
          · exact name
          · exact .inr (.inr rfl)
          · exact (valid.rows id command found).free stopped
        · apply going_write fits found going
          · exact name
          · exact CommandStatus.noConfusion
          · rfl
          · exact fun marked => marked
      · exact harmless_refl ⟨valid, fits⟩
  | cancelUnstarted id =>
    simp only [Operation.act, Store.cancelUnstarted]
    cases found : store.find id with
    | none => exact harmless_refl ⟨valid, fits⟩
    | some command =>
      have name := find_row_id found
      dsimp only
      split
      next unstarted =>
        have stopped : command.status ≠ .inProgress := by simp [unstarted.1]
        apply harmless_law
        · apply stop_harmless valid found stopped
          · exact name
          · exact .inr (.inr rfl)
          · exact (valid.rows id command found).free stopped
        · apply going_write fits found
          · rw [unstarted.1]
            decide
          · exact name
          · exact CommandStatus.noConfusion
          · rfl
          · exact fun marked => marked
      · exact harmless_refl ⟨valid, fits⟩

end Operations

theorem command_host_disciplined (deployment : Deployment) :
    DisciplinedUnder (commandHost deployment) (lawRules deployment) fun store operation => operation.sound store = true where
  launch index fuel state _ := tick_keeps (law_contract deployment) index fuel state
  outside _ _ sound valid _ := operation_law valid.1 valid.2 sound

/-- People act soundly, and no recovery reaches a command that was claimed again
after the recovery's scan. -/
def Orderly (deployment : Deployment) (system : System Answer Store) (event : Event Answer Nat Operation) : Prop :=
  event.meets (fun store operation => operation.sound store = true) system ∧
    Considered (commandHost deployment) (rules deployment) system event

/-- What every event does to the commands. -/
def RowsLawful (deployment : Deployment) (system : System Answer Store) (event : Event Answer Nat Operation) : Prop :=
  Fits (step (commandHost deployment) system event).shared ∧
    Lawful system.shared (step (commandHost deployment) system event).shared

/-- In an orderly run of overlapping ticks, crashes and people, every row is fit
after every event, and no event breaks the law of the rows. -/
theorem command_rows_lawful (deployment : Deployment) (now : Nat) (events : List (Event Answer Nat Operation))
    (orderly : Runs.Throughout (step (commandHost deployment)) (Orderly deployment) ⟨{ now := now }, []⟩ events) :
    Runs.Throughout (step (commandHost deployment)) (RowsLawful deployment) ⟨{ now := now }, []⟩ events := by
  have initial : (lawRules deployment).valid { now := now } :=
    ⟨empty_store_valid deployment now, fun id command found => by simp [Store.find, Keyed.find] at found⟩
  have kept := (command_host_disciplined deployment).throughout initial orderly
  refine kept.weaken fun system event known => ⟨known.1.2, ?_⟩
  exact (known.2 system.threads.length (Nat.le_refl _)).2

section Runs

instance (deployment : Deployment) (system : System Answer Store) (event : Event Answer Nat Operation) :
    Decidable (Orderly deployment system event) :=
  have : Decidable (event.meets (fun store operation => Operation.sound store operation = true) system) :=
    match event with
    | .outside operation => inferInstanceAs (Decidable (operation.sound system.shared = true))
    | .start _ | .run _ _ | .crash _ => .isTrue True.intro
  have : Decidable (Considered (commandHost deployment) (rules deployment) system event) :=
    inferInstanceAs (Decidable (∀ note ∈ _, _))
  inferInstanceAs (Decidable (_ ∧ _))

def tickBeside (thread : Nat) (answer : Answer) : List (Event Answer Nat Operation) :=
  .start 5 :: List.replicate 16 (.run thread answer)

/-- A text that is too long is given up, retried by a person, and published. -/
def retriedRun : List (Event Answer Nat Operation) :=
  .outside (.outside (.create queued)) :: tickBeside 0 { channelPost := .textTooLong } ++
    .outside (.outside (.humanRetry 0)) :: tickBeside 1 {}

theorem command_rows_lawful_retried :
    Runs.Throughout (step (commandHost production)) (RowsLawful production) ⟨{ now := 0 }, []⟩ retriedRun :=
  command_rows_lawful production 0 retriedRun (by decide +kernel)

/-- A command that was given up, and is then refused for its connection. -/
def refusedRun : List (Event Answer Nat Operation) :=
  .outside (.outside (.create queued)) :: tickBeside 0 { channelPost := .textTooLong }

/-- The refusal blocks the given up command and leaves its instant on the row. -/
theorem unsound_publications :
    ¬ Runs.Throughout (step (commandHost production)) (RowsLawful production) ⟨{ now := 0 }, []⟩
        (refusedRun ++ [.outside (.publishNow 0 false (some .connectionNotActive) "")]) := by
  intro lawful
  have last := (Runs.Throughout.append.mp lawful).2.1
  have blocked : ((step (commandHost production) (Runs.final (step (commandHost production)) ⟨{ now := 0 }, []⟩ refusedRun)
      (.outside (.publishNow 0 false (some .connectionNotActive) ""))).shared.find 0).map (fun row =>
        (row.status, row.deadLetterAt.isSome)) = some (.blocked, true) := by decide +kernel
  obtain ⟨row, found, fields⟩ := Option.map_eq_some_iff.mp blocked
  rw [Prod.mk.injEq] at fields
  have given := (last.1 0 row found).deadLetter.mpr fields.2
  rw [fields.1] at given
  cases given

end Runs

end Sprintable.Publications
