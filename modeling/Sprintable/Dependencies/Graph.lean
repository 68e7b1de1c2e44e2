import Sprintable.Basic
import Sprintable.Logic.Runs
import Sprintable.Logic.Search

/-! Dependencies between items, and the check that keeps each graph of one
organisation and one item type without cycles. -/

namespace Sprintable.Dependencies

inductive ItemType where
  | epic | sprint | story
  deriving DecidableEq, Repr

inductive DepType where
  | blocks | dependsOn
  deriving DecidableEq, Repr

structure ItemDependency where
  orgId : Uuid
  fromId : Uuid
  toId : Uuid
  depType : DepType
  itemType : ItemType
  deriving DecidableEq, Repr

/-- The edges that the queries of one organisation and item type see. -/
def graph (rows : List ItemDependency) (orgId : Uuid) (itemType : ItemType) : List (Uuid × Uuid) :=
  (rows.filter fun row => row.orgId = orgId && row.itemType = itemType).map fun row => (row.fromId, row.toId)

def wouldCreateCycle (rows : List ItemDependency) (orgId fromId toId : Uuid) (itemType : ItemType) : Bool :=
  if fromId = toId then true
  else Search.search (graph rows orgId itemType) fromId [toId] ∅

structure DependencyCreate where
  orgId : Uuid
  fromId : Uuid
  toId : Uuid
  depType : DepType
  itemType : ItemType

def DependencyCreate.row (body : DependencyCreate) : ItemDependency where
  orgId := body.orgId
  fromId := body.fromId
  toId := body.toId
  depType := body.depType
  itemType := body.itemType

inductive DependencyError where
  | selfReference
  | itemNotFound (itemId : Uuid)
  | alreadyExists
  | cycle
  deriving DecidableEq, Repr

/-- The status and the code of a refusal. Only two of them carry a code. -/
def DependencyError.response : DependencyError → Nat × Option String
  | .selfReference => (422, some "DEPENDENCY_SELF_REFERENCE")
  | .itemNotFound _ => (404, none)
  | .alreadyExists => (409, none)
  | .cycle => (422, some "DEPENDENCY_CYCLE")

/-- `create_dependency`. `accessible` is the project access of the caller. -/
def createDependency (accessible : Uuid → ItemType → Bool) (rows : List ItemDependency) (body : DependencyCreate) :
    Except DependencyError (List ItemDependency) :=
  if body.fromId = body.toId then .error .selfReference
  else if !accessible body.fromId body.itemType then .error (.itemNotFound body.fromId)
  else if !accessible body.toId body.itemType then .error (.itemNotFound body.toId)
  else if rows.any fun row => row.orgId = body.orgId && row.fromId = body.fromId && row.toId = body.toId &&
      row.itemType = body.itemType then .error .alreadyExists
  else if wouldCreateCycle rows body.orgId body.fromId body.toId body.itemType then .error .cycle
  else .ok (rows ++ [body.row])

/-- The edge would lie on a directed cycle of the graph that has it. -/
def ClosesCycle (edges : List (Uuid × Uuid)) (fromId toId : Uuid) : Prop :=
  Search.Reaches (edges ++ [(fromId, toId)]) toId fromId

section Graph
variable {rows : List ItemDependency} {orgId : Uuid} {itemType : ItemType}

theorem would_create_cycle_iff (fromId toId : Uuid) :
    wouldCreateCycle rows orgId fromId toId itemType = true ↔ ClosesCycle (graph rows orgId itemType) fromId toId := by
  rw [ClosesCycle, Search.reaches_start]
  unfold wouldCreateCycle
  split
  next same =>
    subst same
    exact ⟨fun _ => .refl, fun _ => rfl⟩
  next => exact Search.search_from

theorem graph_append (body : DependencyCreate) :
    graph (rows ++ [body.row]) orgId itemType = graph rows orgId itemType ++
      if body.orgId = orgId ∧ body.itemType = itemType then [(body.fromId, body.toId)] else [] := by
  unfold graph
  rw [List.filter_append, List.map_append]
  congr 1
  by_cases own : body.orgId = orgId ∧ body.itemType = itemType
  · obtain ⟨rfl, rfl⟩ := own
    simp [DependencyCreate.row]
  · rw [if_neg own]
    simp only [not_and] at own
    by_cases org : body.orgId = orgId
    · simp [DependencyCreate.row, org, own org]
    · simp [DependencyCreate.row, org]

theorem create_dependency_acyclic {accessible : Uuid → ItemType → Bool} {body : DependencyCreate}
    {after : List ItemDependency} (acyclic : Search.Acyclic (graph rows orgId itemType))
    (created : createDependency accessible rows body = .ok after) : Search.Acyclic (graph after orgId itemType) := by
  unfold createDependency at created
  repeat' split at created
  all_goals try cases created
  next safe =>
    rw [graph_append]
    split
    next own =>
      obtain ⟨rfl, rfl⟩ := own
      refine Search.acyclic_append acyclic fun path => safe ?_
      rw [would_create_cycle_iff, ClosesCycle, Search.reaches_start]
      exact path
    next =>
      rw [List.append_nil]
      exact acyclic

end Graph

/-- A request, with what its caller may access at the time. -/
abbrev Insertion := (Uuid → ItemType → Bool) × DependencyCreate

def insertStep : List ItemDependency → Insertion → List ItemDependency :=
  Runs.settle fun rows insertion => createDependency insertion.1 rows insertion.2

/-- The check is exact on every graph, and a graph without cycles keeps none under
every sequence of guarded insertions. -/
theorem dependency_graph_acyclic (orgId : Uuid) (itemType : ItemType) :
    (∀ rows fromId toId, wouldCreateCycle rows orgId fromId toId itemType = true ↔
      ClosesCycle (graph rows orgId itemType) fromId toId) ∧
    ∀ rows, Search.Acyclic (graph rows orgId itemType) → ∀ insertions,
      Search.Acyclic (graph (Runs.final insertStep rows insertions) orgId itemType) := by
  refine ⟨fun rows => would_create_cycle_iff, fun rows acyclic insertions => ?_⟩
  have kept : ∀ rows insertion, Search.Acyclic (graph rows orgId itemType) →
      Search.Acyclic (graph (insertStep rows insertion) orgId itemType) := by
    intro rows insertion acyclic
    unfold insertStep Runs.settle
    split
    next after created => exact create_dependency_acyclic acyclic created
    next => exact acyclic
  exact Runs.final_invariant kept acyclic insertions

section Scenarios

def chain : List ItemDependency := [⟨1, 1, 2, .blocks, .story⟩]

/-- The edge back is refused, and the edge onward is taken. -/
def chainInsertions : List Insertion :=
  [(fun _ _ => true, ⟨1, 2, 1, .blocks, .story⟩), (fun _ _ => true, ⟨1, 2, 3, .blocks, .story⟩)]

theorem chain_acyclic : Search.Acyclic (graph chain 1 .story) := by
  intro node cycle
  have grows : ∀ {first last : Uuid}, Relation.TransGen (Search.Edge (graph chain 1 .story)) first last → first < last := by
    intro first last path
    induction path with
    | single edge =>
      cases List.mem_singleton.mp edge
      decide
    | tail _ edge ih =>
      cases List.mem_singleton.mp edge
      exact Nat.lt_trans ih (by decide)
  exact Nat.lt_irrefl node (grows cycle)

theorem dependency_graph_acyclic_chain :
    Search.Acyclic (graph (Runs.final insertStep chain chainInsertions) 1 .story) :=
  (dependency_graph_acyclic 1 .story).2 chain chain_acyclic chainInsertions

end Scenarios

end Sprintable.Dependencies
