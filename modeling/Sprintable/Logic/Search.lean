import Mathlib.Data.Finset.Basic

/-! Depth-first search in a finite list of edges, with a stack of nodes still to
visit and the nodes visited so far. -/

namespace Search

universe u
variable {α : Type u}

def Edge (edges : List (α × α)) (first last : α) : Prop := (first, last) ∈ edges

abbrev Reaches (edges : List (α × α)) : α → α → Prop := Relation.ReflTransGen (Edge edges)

def Acyclic (edges : List (α × α)) : Prop := ∀ node, ¬ Relation.TransGen (Edge edges) node node

section Append
variable {edges : List (α × α)} {first last start node : α}

/-- A path that may use the new edge gets to the end of an old path, or to the
start of the new edge by old ones. -/
theorem reaches_append (path : Reaches (edges ++ [(first, last)]) start node) :
    Reaches edges start node ∨ Reaches edges start first := by
  induction path with
  | refl => exact .inl .refl
  | tail _ edge ih =>
    rcases ih with old | arrived
    · rcases List.mem_append.mp edge with before | new
      · exact .inl (old.tail before)
      · cases List.mem_singleton.mp new
        exact .inr old
    · exact .inr arrived

theorem reaches_start : Reaches (edges ++ [(first, last)]) start first ↔ Reaches edges start first := by
  constructor
  · intro path
    exact (reaches_append path).elim id id
  · intro path
    exact Relation.ReflTransGen.mono (fun _ _ edge => List.mem_append_left _ edge) _ _ path

/-- A path with at least one edge is an old one, or takes the new edge. -/
theorem path_append (path : Relation.TransGen (Edge (edges ++ [(first, last)])) start node) :
    Relation.TransGen (Edge edges) start node ∨
      (Reaches edges start first ∧ Reaches (edges ++ [(first, last)]) last node) := by
  induction path with
  | single edge =>
    rcases List.mem_append.mp edge with old | new
    · exact .inl (.single old)
    · cases List.mem_singleton.mp new
      exact .inr ⟨.refl, .refl⟩
  | tail _ edge ih =>
    rcases ih with old | ⟨arrived, onward⟩
    · rcases List.mem_append.mp edge with before | new
      · exact .inl (old.tail before)
      · cases List.mem_singleton.mp new
        exact .inr ⟨old.to_reflTransGen, .refl⟩
    · exact .inr ⟨arrived, onward.tail edge⟩

theorem acyclic_append (acyclic : Acyclic edges) (apart : ¬ Reaches edges last first) :
    Acyclic (edges ++ [(first, last)]) := by
  intro node cycle
  rcases path_append cycle with old | ⟨arrived, onward⟩
  · exact acyclic node old
  · rcases reaches_append onward with back | back
    · exact apart (back.trans arrived)
    · exact apart back

end Append

section Traversal
variable [DecidableEq α]

def successors (edges : List (α × α)) (node : α) : List α :=
  (edges.filter fun edge => edge.1 = node).map Prod.snd

theorem mem_successors {edges : List (α × α)} {node next : α} : next ∈ successors edges node ↔ Edge edges node next := by
  simp only [successors, List.mem_map, List.mem_filter, decide_eq_true_eq]
  constructor
  · rintro ⟨⟨first, last⟩, ⟨member, rfl⟩, rfl⟩
    exact member
  · intro edge
    exact ⟨(node, next), ⟨edge, rfl⟩, rfl⟩

/-- The edges that leave a node that is not visited yet. -/
def open_ (edges : List (α × α)) (visited : Finset α) : List (α × α) := edges.filter fun edge => edge.1 ∉ visited

theorem open_insert (edges : List (α × α)) {visited : Finset α} {node : α} (fresh : node ∉ visited) :
    (open_ edges (insert node visited)).length + (successors edges node).length = (open_ edges visited).length := by
  induction edges with
  | nil => rfl
  | cons edge rest ih =>
    unfold open_ successors at ih ⊢
    by_cases own : edge.1 = node
    · have unseen : edge.1 ∉ visited := own ▸ fresh
      simp only [List.length_map, List.filter_cons, own, Finset.mem_insert, true_or, not_true_eq_false, decide_false,
        Bool.false_eq_true, if_false, decide_true, if_true, List.length_cons, fresh, not_false_eq_true] at ih ⊢
      omega
    · by_cases seen : edge.1 ∈ visited
      · simpa [own, seen] using ih
      · simp only [List.length_map, List.filter_cons, own, Finset.mem_insert, seen, or_self, not_false_eq_true, decide_true,
          if_true, decide_false, Bool.false_eq_true, if_false, List.length_cons] at ih ⊢
        omega

/-- `while queue: current = queue.pop(); ..`, with the top of the stack first. -/
def search (edges : List (α × α)) (target : α) (stack : List α) (visited : Finset α) : Bool :=
  match stack with
  | [] => false
  | current :: rest =>
    if current ∈ visited then search edges target rest visited
    else if current = target then true
    else
      search edges target (((successors edges current).filter (· ∉ insert current visited)).reverse ++ rest)
        (insert current visited)
  termination_by stack.length + (open_ edges visited).length
  decreasing_by
    · simp
    next fresh _ =>
      have closed := open_insert edges fresh
      have pushed := List.length_filter_le (fun next => decide (next ∉ insert current visited)) (successors edges current)
      simp only [List.length_append, List.length_reverse, List.length_cons]
      omega

variable {edges : List (α × α)} {target : α}

/-- What the loop keeps: a visited node is not the target, and its successors are
visited or wait on the stack. -/
structure Explored (edges : List (α × α)) (target : α) (stack : List α) (visited : Finset α) : Prop where
  missed : target ∉ visited
  followed : ∀ node ∈ visited, ∀ next, Edge edges node next → next ∈ visited ∨ next ∈ stack

omit [DecidableEq α] in
/-- A path from a visited node to the target leaves the visited nodes on the stack. -/
theorem Explored.exit {stack : List α} {visited : Finset α} (explored : Explored edges target stack visited) {node : α}
    (path : Reaches edges node target) (seen : node ∈ visited) : ∃ start ∈ stack, Reaches edges start target := by
  induction path using Relation.ReflTransGen.head_induction_on with
  | refl => exact absurd seen explored.missed
  | head edge rest ih =>
    rcases explored.followed _ seen _ edge with inside | waiting
    · exact ih inside
    · exact ⟨_, waiting, rest⟩

theorem search_iff {stack : List α} {visited : Finset α} (explored : Explored edges target stack visited) :
    search edges target stack visited = true ↔ ∃ start ∈ stack, Reaches edges start target := by
  induction stack, visited using search.induct edges target with
  | case1 visited => simp [search]
  | case2 visited current rest seen ih =>
    have popped : Explored edges target rest visited := by
      refine ⟨explored.missed, fun node member next edge => ?_⟩
      rcases explored.followed node member next edge with inside | waiting
      · exact .inl inside
      · rcases List.mem_cons.mp waiting with rfl | waiting
        · exact .inl seen
        · exact .inr waiting
    rw [search, if_pos seen, ih popped]
    constructor
    · rintro ⟨start, waiting, path⟩
      exact ⟨start, List.mem_cons_of_mem current waiting, path⟩
    · rintro ⟨start, waiting, path⟩
      rcases List.mem_cons.mp waiting with rfl | waiting
      · exact popped.exit path seen
      · exact ⟨start, waiting, path⟩
  | case3 visited rest fresh =>
    rw [search, if_neg fresh, if_pos rfl]
    exact ⟨fun _ => ⟨target, List.mem_cons_self, .refl⟩, fun _ => rfl⟩
  | case4 visited current rest fresh other ih =>
    have pushed : Explored edges target
        (((successors edges current).filter (· ∉ insert current visited)).reverse ++ rest) (insert current visited) := by
      refine ⟨?_, fun node member next edge => ?_⟩
      · intro member
        rcases Finset.mem_insert.mp member with same | seen
        · exact other same.symm
        · exact explored.missed seen
      · by_cases inside : next ∈ insert current visited
        · exact .inl inside
        refine .inr ?_
        rw [List.mem_append, List.mem_reverse, List.mem_filter, mem_successors]
        rcases Finset.mem_insert.mp member with rfl | seen
        · exact .inl ⟨edge, by simpa using inside⟩
        · rcases explored.followed node seen next edge with seen | waiting
          · exact absurd (Finset.mem_insert_of_mem seen) inside
          · rcases List.mem_cons.mp waiting with rfl | waiting
            · exact absurd (Finset.mem_insert_self next visited) inside
            · exact .inr waiting
    rw [search, if_neg fresh, if_neg other, ih pushed]
    constructor
    · rintro ⟨start, waiting, path⟩
      rcases List.mem_append.mp waiting with next | waiting
      · have edge := mem_successors.mp (List.mem_filter.mp (List.mem_reverse.mp next)).1
        exact ⟨current, List.mem_cons_self, .head edge path⟩
      · exact ⟨start, List.mem_cons_of_mem current waiting, path⟩
    · rintro ⟨start, waiting, path⟩
      rcases List.mem_cons.mp waiting with rfl | waiting
      · exact pushed.exit path (Finset.mem_insert_self start visited)
      · exact ⟨start, List.mem_append_right _ waiting, path⟩

theorem search_from {start : α} : search edges target [start] ∅ = true ↔ Reaches edges start target := by
  have nothing : Explored edges target [start] ∅ := ⟨Finset.notMem_empty target, by simp⟩
  rw [search_iff nothing]
  simp

end Traversal

end Search
