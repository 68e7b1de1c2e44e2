import Sprintable.Lines.WorkItems

/-! The resolution of a line's step run by the decision of its gate. Four kinds
of items follow one protocol of their own; a story is written directly. -/

namespace Sprintable.Lines

open Gates

def openStepRunStatuses : List StepRunStatus :=
  [.pending, .routingResolved, .dispatched, .waitingGate, .waitingParallel, .gatePending, .reminded, .escalated, .held]

def StepRun.isOpen (run : StepRun) : Bool := openStepRunStatuses.contains run.status

/-- The newest open run that the gate decides. -/
def findActiveStepRunForGate (runs : List StepRun) (orgId gateId : Uuid) : Option StepRun :=
  let linked := runs.filter fun run =>
    run.orgId == orgId && (run.gateId == some gateId || run.h1GateId == some gateId) && run.isOpen
  (linked.insertionSort fun left right =>
    right.startedAt < left.startedAt ∨ right.startedAt = left.startedAt ∧ right.id ≤ left.id).head?

/-- The config that the run's line has published, or an empty one. -/
def runConfig (versions : List LineVersion) (run : StepRun) : Json :=
  match run.lineDefinitionId with
  | none => .obj []
  | some definitionId =>
    let published := versions.filter fun version =>
      version.lineDefinitionId == some definitionId && version.status == .published
    match (published.insertionSort fun a b => b.version ≤ a.version).head? with
    | some version => version.config.asObj
    | none => .obj []

def stepConfig (versions : List LineVersion) (run : StepRun) : Except ItemError Json :=
  match matchStep (runConfig versions run) run.fromStatus run.toStatus with
  | .ok step => .ok (step.getD (.obj []))
  | .error failure => .error (.configUnreadable failure)

def appliesTransition (step : Json) : Bool := ((step.get "on_approve").asObj.get "apply_transition").truthy

def StepRun.resolve (run : StepRun) (status : StepRunStatus) (now : Nat) : StepRun :=
  { run with status, resolvedAt := some now }

def ItemDesk.putRun (desk : ItemDesk) (run : StepRun) : ItemDesk :=
  { desk with runs := Keyed.put StepRun.id desk.runs run }

/-- What the resolution learns from queries: the owner that the project relays
to, and whether the sprint declares a live hypothesis. -/
structure ResolutionLookups where
  relayOwner : Option Uuid := none
  aliveHypothesis : Bool := false

section Protocol
variable (desk : ItemDesk) (run : StepRun) (now : Nat)

/-- The protocol of one kind. An item that is gone or already there only closes
the run; one that has left the expected status, or that the approver may not
decide, is left alone. `caught` tells which refusals of the service are passed over. -/
def resolveItem (kind : ItemKind) (target : String) (expected : Option String) (excluded : WorkItem → Bool)
    (move : Except ItemError ItemDesk) (caught : ItemError → Bool) : Except ItemError ItemDesk :=
  match desk.item kind run.entityId with
  | none => .ok (desk.putRun (run.resolve .approved now))
  | some item =>
    if item.status = target then .ok (desk.putRun (run.resolve .applied now))
    else if expected.any (· ≠ item.status) then .ok (desk.putRun (run.resolve .skipped now))
    else if excluded item then .ok (desk.putRun (run.resolve .skipped now))
    else
      match move with
      | .ok moved => .ok (moved.putRun (run.resolve .applied now))
      | .error error => if caught error then .ok (desk.putRun (run.resolve .skipped now)) else .error error

def applyHypothesisActive (resolverId : Option Uuid) : Except ItemError ItemDesk :=
  resolveItem desk run now .hypothesis "active" (some "proposed")
    (fun hypothesis => resolverId == none || resolverId == hypothesis.ownerId)
    (transitionViaGate desk run.orgId .hypothesis run.entityId "active" false) fun _ => false

def applyDocConfirmed (resolverId : Option Uuid) : Except ItemError ItemDesk :=
  resolveItem desk run now .doc "confirmed" (some "draft")
    (fun doc => resolverId == none || doc.ownerId == none || resolverId == doc.ownerId)
    (transitionViaGate desk run.orgId .doc run.entityId "confirmed" false) fun _ => false

/-- Only the activation of an epic asks for a second person. -/
def applyEpicTransition (lookups : ResolutionLookups) (resolverId : Option Uuid) : Except ItemError ItemDesk :=
  resolveItem desk run now .epic run.toStatus run.fromStatus
    (fun _ => run.toStatus == "active" &&
      (resolverId == none || lookups.relayOwner == none || resolverId == lookups.relayOwner))
    (transitionViaGate desk run.orgId .epic run.entityId run.toStatus false) fun _ => false

/-- A `SprintTransitionError` or a `ValueError` of the service skips the run. -/
def sprintRefusal : ItemError → Bool
  | .itemNotFound _ | .invalidStatus _ | .invalidTransition .. | .hypothesisRequired | .sprintState _
  | .activeSprintExists => true
  | _ => false

def applySprintTransition (lookups : ResolutionLookups) : Except ItemError ItemDesk :=
  resolveItem desk run now .sprint run.toStatus run.fromStatus (fun _ => false)
    (transitionViaGate desk run.orgId .sprint run.entityId run.toStatus lookups.aliveHypothesis) sprintRefusal

def applyStoryStatus : Except ItemError ItemDesk :=
  resolveItem desk run now .story run.toStatus run.fromStatus (fun _ => false)
    (.ok (desk.setItemStatus .story run.entityId run.toStatus)) fun _ => false

def applyTransition (kind : ItemKind) (lookups : ResolutionLookups) (resolverId : Option Uuid) :
    Except ItemError ItemDesk :=
  match kind with
  | .hypothesis => applyHypothesisActive desk run now resolverId
  | .doc => applyDocConfirmed desk run now resolverId
  | .epic => applyEpicTransition desk run now lookups resolverId
  | .sprint => applySprintTransition desk run now lookups
  | .story => applyStoryStatus desk run now

def applyWorkflowLineResolution (lookups : ResolutionLookups) (newStatus : GateStatus) (resolverId : Option Uuid) :
    Except ItemError ItemDesk :=
  match ItemKind.readiness? run.entityType with
  | none => .ok desk
  | some kind =>
    match stepConfig desk.versions run with
    | .error error => .error error
    | .ok step =>
      if newStatus = .rejected then .ok (desk.putRun (run.resolve .rejected now))
      else if newStatus ≠ .approved then .ok desk
      else if !appliesTransition step then .ok (desk.putRun (run.resolve .approved now))
      else applyTransition desk run now kind lookups resolverId

end Protocol

section Spec
variable {desk after : ItemDesk} {run : StepRun} {now : Nat} {kind : ItemKind}

structure StepRun.Awaits (run : StepRun) (orgId gateId : Uuid) : Prop where
  org : run.orgId = orgId
  gate : run.gateId = some gateId ∨ run.h1GateId = some gateId
  waits : run.isOpen = true

/-- Of the open runs that name the gate, the one that started last. -/
structure StepRun.Newest (runs : List StepRun) (orgId gateId : Uuid) (run : StepRun) : Prop where
  present : run ∈ runs
  awaits : run.Awaits orgId gateId
  last : ∀ other ∈ runs, other.Awaits orgId gateId →
    other.startedAt < run.startedAt ∨ other.startedAt = run.startedAt ∧ other.id ≤ run.id

theorem awaits_iff {orgId gateId : Uuid} : run.Awaits orgId gateId ↔
    (run.orgId == orgId && (run.gateId == some gateId || run.h1GateId == some gateId) && run.isOpen) = true := by
  rw [Bool.and_eq_true, Bool.and_eq_true, Bool.or_eq_true, beq_iff_eq, beq_iff_eq, beq_iff_eq]
  constructor
  · intro ⟨org, gate, waits⟩
    exact ⟨⟨org, gate⟩, waits⟩
  · intro ⟨⟨org, gate⟩, waits⟩
    exact ⟨org, gate, waits⟩

theorem find_active_newest {orgId gateId : Uuid} (found : findActiveStepRunForGate desk.runs orgId gateId = some run) :
    run.Newest desk.runs orgId gateId := by
  unfold findActiveStepRunForGate at found
  obtain ⟨rest, sorted⟩ := List.head?_eq_some_iff.mp found
  have member : run ∈ List.insertionSort _ _ := sorted ▸ List.mem_cons_self
  rw [List.mem_insertionSort, List.mem_filter] at member
  refine ⟨member.1, awaits_iff.mpr member.2, ?_⟩
  intro other present awaits
  let after : StepRun → StepRun → Prop := fun left right =>
    right.startedAt < left.startedAt ∨ right.startedAt = left.startedAt ∧ right.id ≤ left.id
  have : Std.Total after := by
    constructor
    intro left right
    rcases Nat.lt_trichotomy right.startedAt left.startedAt with earlier | same | later
    · exact .inl (.inl earlier)
    · rcases Nat.le_total right.id left.id with below | above
      · exact .inl (.inr ⟨same, below⟩)
      · exact .inr (.inr ⟨same.symm, above⟩)
    · exact .inr (.inl later)
  have : IsTrans StepRun after := by
    constructor
    intro left middle right first second
    rcases first with earlier | ⟨same, below⟩
    · rcases second with sooner | ⟨equal, _⟩
      · exact .inl (Nat.lt_trans sooner earlier)
      · exact .inl (equal ▸ earlier)
    · rcases second with sooner | ⟨equal, under⟩
      · exact .inl (same ▸ sooner)
      · exact .inr ⟨equal.trans same, Nat.le_trans under below⟩
  have order := List.pairwise_insertionSort after (desk.runs.filter fun run =>
    run.orgId == orgId && (run.gateId == some gateId || run.h1GateId == some gateId) && run.isOpen)
  have inside : other ∈ run :: rest := by
    rw [← sorted, List.mem_insertionSort, List.mem_filter]
    exact ⟨present, awaits_iff.mp awaits⟩
  rw [sorted] at order
  rcases List.mem_cons.mp inside with rfl | behind
  · exact .inr ⟨rfl, Nat.le_refl _⟩
  · exact (List.pairwise_cons.mp order).1 other behind

theorem find_active_exists {orgId gateId : Uuid} (present : run ∈ desk.runs) (awaits : run.Awaits orgId gateId) :
    ∃ newest, findActiveStepRunForGate desk.runs orgId gateId = some newest := by
  apply Option.isSome_iff_exists.mp
  rw [findActiveStepRunForGate, List.isSome_head?]
  apply List.ne_nil_of_mem
  rw [List.mem_insertionSort, List.mem_filter]
  exact ⟨present, awaits_iff.mp awaits⟩

theorem find_active_spec {orgId gateId : Uuid} (found : findActiveStepRunForGate desk.runs orgId gateId = some run) :
    run ∈ desk.runs ∧ run.isOpen = true :=
  ⟨(find_active_newest found).present, (find_active_newest found).awaits.waits⟩

def resolvedStatuses : List StepRunStatus := [.approved, .rejected, .applied, .skipped]

/-- What a resolution writes: it closes its run, and moves at most the item of
the run, from the expected status to the target. -/
structure Resolves (desk : ItemDesk) (run : StepRun) (kind : ItemKind) (target : String) (expected : Option String)
    (now : Nat) (after : ItemDesk) : Prop where
  closes : ∃ status ∈ resolvedStatuses, after.runs = (desk.putRun (run.resolve status now)).runs
  moves : after.items = desk.items ∨
    ∃ item, desk.item kind run.entityId = some item ∧ (∀ status, expected = some status → item.status = status) ∧
      after.items = (desk.setItemStatus kind run.entityId target).items ∧
      after.runs = (desk.putRun (run.resolve .applied now)).runs

theorem resolves_closed {target : String} {expected : Option String} {status : StepRunStatus}
    (ending : status ∈ resolvedStatuses) :
    Resolves desk run kind target expected now (desk.putRun (run.resolve status now)) :=
  ⟨⟨status, ending, rfl⟩, .inl rfl⟩

theorem resolve_item_spec {target : String} {expected : Option String} {excluded : WorkItem → Bool}
    {move : Except ItemError ItemDesk} {caught : ItemError → Bool}
    (moves : ∀ moved, move = .ok moved → moved = desk.setItemStatus kind run.entityId target)
    (executed : resolveItem desk run now kind target expected excluded move caught = .ok after) :
    Resolves desk run kind target expected now after := by
  unfold resolveItem at executed
  split at executed
  · cases executed
    exact resolves_closed (by decide)
  next item found =>
    split at executed
    · cases executed
      exact resolves_closed (by decide)
    split at executed
    · cases executed
      exact resolves_closed (by decide)
    next fits =>
      split at executed
      · cases executed
        exact resolves_closed (by decide)
      split at executed
      next moved =>
        cases executed
        have target := moves moved rfl
        subst target
        refine ⟨⟨.applied, by decide, rfl⟩, .inr ⟨item, found, fun status same => ?_, rfl, rfl⟩⟩
        subst same
        have arrived : status = item.status := by simpa using fits
        exact arrived.symm
      · split at executed
        · cases executed
          exact resolves_closed (by decide)
        · cases executed

/-- The status that the protocol of the kind expects, and the one that it moves to. -/
def ItemKind.move (kind : ItemKind) (run : StepRun) : Option String × String :=
  match kind with
  | .hypothesis => (some "proposed", "active")
  | .doc => (some "draft", "confirmed")
  | _ => (run.fromStatus, run.toStatus)

theorem apply_transition_spec {lookups : ResolutionLookups} {resolverId : Option Uuid}
    (executed : applyTransition desk run now kind lookups resolverId = .ok after) :
    Resolves desk run kind (kind.move run).2 (kind.move run).1 now after := by
  cases kind with
  | hypothesis => exact resolve_item_spec (fun _ moved => via_gate_spec moved) executed
  | doc => exact resolve_item_spec (fun _ moved => via_gate_spec moved) executed
  | epic => exact resolve_item_spec (fun _ moved => via_gate_spec moved) executed
  | sprint => exact resolve_item_spec (fun _ moved => via_gate_spec moved) executed
  | story =>
    simp only [applyTransition, applyStoryStatus] at executed
    exact resolve_item_spec (fun _ moved => (Except.ok.inj moved).symm) executed

theorem resolution_spec {lookups : ResolutionLookups} {newStatus : GateStatus} {resolverId : Option Uuid}
    (ready : ItemKind.readiness? run.entityType = some kind)
    (executed : applyWorkflowLineResolution desk run now lookups newStatus resolverId = .ok after) :
    if newStatus = .approved ∨ newStatus = .rejected then Resolves desk run kind (kind.move run).2 (kind.move run).1 now after
    else after = desk := by
  unfold applyWorkflowLineResolution at executed
  simp only [ready] at executed
  split at executed
  · cases executed
  split at executed
  next rejected =>
    cases executed
    rw [if_pos (.inr rejected)]
    exact resolves_closed (by decide)
  next kept =>
    split at executed
    next other =>
      cases executed
      rw [if_neg (by simp [kept, other])]
    next approves =>
      rw [if_pos (.inl (not_not.mp approves))]
      split at executed
      · cases executed
        exact resolves_closed (by decide)
      · exact apply_transition_spec executed

theorem rejected_items {lookups : ResolutionLookups} {resolverId : Option Uuid}
    (executed : applyWorkflowLineResolution desk run now lookups .rejected resolverId = .ok after) : after.items = desk.items := by
  unfold applyWorkflowLineResolution at executed
  split at executed
  · cases executed
    rfl
  · split at executed
    · cases executed
    · rw [if_pos rfl] at executed
      cases executed
      rfl

theorem resolve_item_gates {target : String} {expected : Option String} {excluded : WorkItem → Bool}
    {move : Except ItemError ItemDesk} {caught : ItemError → Bool}
    (kept : ∀ moved, move = .ok moved → moved.gates = desk.gates)
    (executed : resolveItem desk run now kind target expected excluded move caught = .ok after) :
    after.gates = desk.gates := by
  unfold resolveItem at executed
  split at executed
  · cases executed
    rfl
  · split at executed
    · cases executed
      rfl
    split at executed
    · cases executed
      rfl
    split at executed
    · cases executed
      rfl
    split at executed
    next moved =>
      cases executed
      have same : moved.gates = desk.gates := kept moved rfl
      exact same
    · split at executed
      · cases executed
        rfl
      · cases executed

theorem via_gate_gates {orgId id : Uuid} {target : String} {alive : Bool} (moved : ItemDesk)
    (executed : transitionViaGate desk orgId kind id target alive = .ok moved) : moved.gates = desk.gates := by
  rw [via_gate_spec executed]
  rfl

theorem resolution_gates {lookups : ResolutionLookups} {newStatus : GateStatus} {resolverId : Option Uuid}
    (executed : applyWorkflowLineResolution desk run now lookups newStatus resolverId = .ok after) :
    after.gates = desk.gates := by
  unfold applyWorkflowLineResolution at executed
  split at executed
  · cases executed
    rfl
  next kind ready =>
    split at executed
    · cases executed
    split at executed
    · cases executed
      rfl
    split at executed
    · cases executed
      rfl
    split at executed
    · cases executed
      rfl
    cases kind with
    | story =>
      have kept (moved : ItemDesk) (same : Except.ok (desk.setItemStatus .story run.entityId run.toStatus) =
          (.ok moved : Except ItemError ItemDesk)) : moved.gates = desk.gates := by
        cases same
        rfl
      simp only [applyTransition, applyStoryStatus] at executed
      exact resolve_item_gates kept executed
    | _ => exact resolve_item_gates via_gate_gates executed

end Spec

end Sprintable.Lines
