import Sprintable.Lines.Engine
import Sprintable.Logic.Keyed

/-! The work items that a line can govern, and the services that move them from
one status to another. A service asks the line first, except where an approved
gate calls it. -/

namespace Sprintable.Lines

open Gates

inductive ItemKind where
  | story | hypothesis | doc | epic | sprint
  deriving DecidableEq, Repr

namespace ItemKind

def text : ItemKind → String
  | .story => "story"
  | .hypothesis => "hypothesis"
  | .doc => "doc"
  | .epic => "epic"
  | .sprint => "sprint"

def all : List ItemKind := [.story, .hypothesis, .doc, .epic, .sprint]

/-- The readiness matrix: all of its entity types may be gated. -/
def readiness? (entityType : String) : Option ItemKind := all.find? fun kind => kind.text == entityType

theorem readiness_text (kind : ItemKind) : readiness? kind.text = some kind := by
  cases kind <;> decide

theorem readiness_spec {entityType : String} {kind : ItemKind} (ready : readiness? entityType = some kind) :
    kind.text = entityType := by
  simpa using List.find?_some ready

/-- The statuses of a kind. Those of a story are not a closed list. -/
def statuses : ItemKind → Option (List String)
  | .story => none
  | .hypothesis => some ["proposed", "active", "measuring", "verified", "falsified", "killed", "archived"]
  | .doc => some ["draft", "pending", "confirmed", "denied", "superseded", "deprecated"]
  | .epic => some ["draft", "active", "done", "archived"]
  | .sprint => some ["planning", "active", "review", "closed", "archived"]

def validTransitions : ItemKind → List (String × String)
  | .story => []
  | .hypothesis =>
    [("proposed", "active"), ("active", "measuring"), ("measuring", "verified"), ("measuring", "falsified"),
      ("proposed", "killed"), ("active", "killed"), ("measuring", "killed"), ("verified", "archived"),
      ("falsified", "archived"), ("killed", "archived")]
  | .doc =>
    [("draft", "pending"), ("pending", "confirmed"), ("pending", "denied"), ("pending", "draft"), ("draft", "confirmed"),
      ("draft", "denied"), ("denied", "draft"), ("confirmed", "superseded"), ("confirmed", "deprecated")]
  | .epic =>
    [("draft", "active"), ("active", "done"), ("active", "archived"), ("done", "archived"), ("draft", "archived")]
  | .sprint =>
    [("planning", "active"), ("planning", "closed"), ("active", "review"), ("active", "closed"), ("review", "closed"),
      ("closed", "archived")]

/-- The transitions for which the service asks the line: all of a story's. -/
def asksLine (kind : ItemKind) (fromStatus toStatus : String) : Bool :=
  match kind with
  | .story => true
  | .hypothesis => fromStatus == "proposed" && toStatus == "active"
  | .doc => fromStatus == "draft" && toStatus == "confirmed"
  | .epic => [("draft", "active"), ("active", "done")].contains (fromStatus, toStatus)
  | .sprint => [("planning", "active"), ("active", "closed"), ("review", "closed")].contains (fromStatus, toStatus)

end ItemKind

/-- `ownerId` is the member that may not approve the item: the owner of a
hypothesis and the author of a doc. -/
structure WorkItem where
  kind : ItemKind
  id : Uuid
  orgId : Uuid
  projectId : Uuid
  status : String
  ownerId : Option Uuid := none
  deleted : Bool := false
  deriving DecidableEq, Repr

structure ItemDesk extends LineDesk where
  items : List WorkItem := []

inductive ItemError where
  | itemNotFound (kind : ItemKind)
  | invalidStatus (status : String)
  | invalidTransition (kind : ItemKind) (fromStatus toStatus : String)
  | gateRequired
  | humanConfirmRequired
  | evidenceRequired
  | hypothesisRequired
  | sprintState (status : String)
  | activeSprintExists
  | severalActiveSprints
  | configUnreadable (failure : Failure)
  | gate (error : GateError)

/-- Whom the service serves, and what its queries answer. -/
structure TransitionCall where
  human : Bool
  viaGate : Bool
  evidenced : Bool := false
  aliveHypothesis : Bool := false

namespace ItemDesk

def item (desk : ItemDesk) (kind : ItemKind) (id : Uuid) : Option WorkItem :=
  desk.items.find? fun item => item.kind == kind && item.id == id

def setItemStatus (desk : ItemDesk) (kind : ItemKind) (id : Uuid) (status : String) : ItemDesk :=
  { desk with items := desk.items.map fun item => if item.kind = kind ∧ item.id = id then { item with status } else item }

/-- The item in its own organisation; a deleted doc is not found. -/
def ownItem (desk : ItemDesk) (orgId : Uuid) (kind : ItemKind) (id : Uuid) : Except ItemError WorkItem :=
  match (desk.item kind id).filter fun item => item.orgId == orgId && !(kind == .doc && item.deleted) with
  | none => .error (.itemNotFound kind)
  | some item => .ok item

/-- The checks that every service makes before it asks the line. -/
def legal (kind : ItemKind) (item : WorkItem) (toStatus : String) (call : TransitionCall) : Except ItemError Unit :=
  if kind.statuses.any fun statuses => !statuses.contains toStatus then .error (.invalidStatus toStatus)
  else if kind ≠ .story ∧ (item.status, toStatus) ∉ kind.validTransitions then
    .error (.invalidTransition kind item.status toStatus)
  else if kind = .doc ∧ item.status = "pending" ∧ (toStatus = "confirmed" ∨ toStatus = "denied") ∧ !call.viaGate then
    .error .gateRequired
  else if kind = .sprint ∧ item.status = "planning" ∧ toStatus = "active" ∧ !call.aliveHypothesis then
    .error .hypothesisRequired
  else .ok ()

end ItemDesk

section Services
variable (desk : ItemDesk) (item : WorkItem) (toStatus : String) (call : TransitionCall)

def transitionHypothesis : Except ItemError ItemDesk :=
  if (toStatus = "active" ∨ toStatus = "verified" ∨ toStatus = "falsified") ∧ !call.human then
    .error .humanConfirmRequired
  else if (toStatus = "verified" ∨ toStatus = "falsified") ∧ !call.evidenced then .error .evidenceRequired
  else .ok (desk.setItemStatus .hypothesis item.id toStatus)

def transitionDoc : Except ItemError ItemDesk :=
  if toStatus = "confirmed" ∧ !call.human then .error .humanConfirmRequired
  else .ok (desk.setItemStatus .doc item.id toStatus)

def transitionGoal : Except ItemError ItemDesk :=
  if toStatus = "active" ∧ !call.human then .error .humanConfirmRequired
  else .ok (desk.setItemStatus .epic item.id toStatus)

/-- A project has one active sprint; a query that finds several raises. -/
def activateSprint : Except ItemError ItemDesk :=
  if item.status ≠ "planning" then .error (.sprintState item.status)
  else
    match desk.items.filter fun other => other.kind == .sprint && other.orgId == item.orgId &&
        other.projectId == item.projectId && other.status == "active" with
    | [] => .ok (desk.setItemStatus .sprint item.id "active")
    | [_] => .error .activeSprintExists
    | _ => .error .severalActiveSprints

def closeSprint : Except ItemError ItemDesk :=
  if item.status ≠ "active" ∧ item.status ≠ "review" then .error (.sprintState item.status)
  else .ok (desk.setItemStatus .sprint item.id "closed")

def transitionSprint : Except ItemError ItemDesk :=
  if toStatus = "active" then activateSprint desk item
  else if toStatus = "closed" ∧ item.status ≠ "planning" then closeSprint desk item
  else .ok (desk.setItemStatus .sprint item.id toStatus)

/-- The part of a service that follows the line's answer. -/
def transitionNative : Except ItemError ItemDesk :=
  match item.kind with
  | .story => .ok (desk.setItemStatus .story item.id toStatus)
  | .hypothesis => transitionHypothesis desk item toStatus call
  | .doc => transitionDoc desk item toStatus call
  | .epic => transitionGoal desk item toStatus call
  | .sprint => transitionSprint desk item toStatus

end Services

/-- A service called by the resolution of an approved gate: the line is not asked. -/
def transitionViaGate (desk : ItemDesk) (orgId : Uuid) (kind : ItemKind) (id : Uuid) (toStatus : String)
    (aliveHypothesis : Bool) : Except ItemError ItemDesk := do
  let call : TransitionCall := { human := true, viaGate := true, aliveHypothesis }
  let item ← desk.ownItem orgId kind id
  ItemDesk.legal kind item toStatus call
  transitionNative desk item toStatus call

section Spec
variable {desk after : ItemDesk} {item : WorkItem} {kind : ItemKind} {id orgId : Uuid} {toStatus : String}
  {call : TransitionCall} {aliveHypothesis : Bool}

theorem item_spec (found : desk.item kind id = some item) : item.kind = kind ∧ item.id = id := by
  simpa using List.find?_some found

theorem set_item_status_spec (found : desk.item kind id = some item) (other : ItemKind) (key : Uuid) :
    (desk.setItemStatus kind id toStatus).item other key =
      if other = kind ∧ key = id then some { item with status := toStatus } else desk.item other key := by
  have keyed : ∀ row : WorkItem,
      ((fun item : WorkItem => item.kind == other && item.id == key) ∘
        fun item => if item.kind = kind ∧ item.id = id then { item with status := toStatus } else item) row =
      (row.kind == other && row.id == key) := by
    intro row
    simp only [Function.comp_apply]
    split <;> rfl
  unfold ItemDesk.setItemStatus ItemDesk.item
  rw [List.find?_map, funext keyed]
  by_cases same : other = kind ∧ key = id
  · obtain ⟨rfl, rfl⟩ := same
    have shape := item_spec found
    unfold ItemDesk.item at found
    rw [found, if_pos ⟨rfl, rfl⟩, Option.map_some, if_pos shape]
  · rw [if_neg same]
    cases selected : desk.items.find? fun row => row.kind == other && row.id == key with
    | none => rfl
    | some row =>
      have shape : row.kind = other ∧ row.id = key := by simpa using List.find?_some selected
      have different : ¬(row.kind = kind ∧ row.id = id) := fun equal =>
        same ⟨shape.1.symm.trans equal.1, shape.2.symm.trans equal.2⟩
      rw [Option.map_some, if_neg different]

theorem native_spec (executed : transitionNative desk item toStatus call = .ok after) :
    after = desk.setItemStatus item.kind item.id toStatus := by
  unfold transitionNative at executed
  cases kind : item.kind with
  | story =>
    simp only [kind] at executed
    exact (Except.ok.inj executed).symm
  | hypothesis =>
    simp only [kind] at executed
    unfold transitionHypothesis at executed
    repeat' split at executed
    all_goals cases executed
    rfl
  | doc =>
    simp only [kind] at executed
    unfold transitionDoc at executed
    split at executed
    all_goals cases executed
    rfl
  | epic =>
    simp only [kind] at executed
    unfold transitionGoal at executed
    split at executed
    all_goals cases executed
    rfl
  | sprint =>
    simp only [kind] at executed
    unfold transitionSprint activateSprint closeSprint at executed
    repeat' split at executed
    all_goals cases executed
    next activated _ _ _ => rw [activated]
    next closed _ => rw [closed.1]
    rfl

theorem via_gate_spec (executed : transitionViaGate desk orgId kind id toStatus aliveHypothesis = .ok after) :
    after = desk.setItemStatus kind id toStatus := by
  unfold transitionViaGate at executed
  obtain ⟨item, own, executed⟩ := Runs.bind_ok executed
  obtain ⟨_, _, executed⟩ := Runs.bind_ok executed
  unfold ItemDesk.ownItem at own
  split at own
  · cases own
  next selected found =>
    cases own
    obtain ⟨same, key⟩ := item_spec (Option.filter_eq_some_iff.mp found).1
    rw [native_spec executed, same, key]

end Spec

end Sprintable.Lines
