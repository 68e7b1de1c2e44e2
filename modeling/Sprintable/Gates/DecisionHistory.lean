import Mathlib.Data.List.Induction
import Mathlib.Data.List.Perm.Basic
import Sprintable.Gates.Resolution

/-! The decisions that re-openings leave behind. Each re-opening copies the facts of the gate, which hold
the earlier history, into its new entry. -/

namespace Sprintable.Gates

/-- A rejection: whose, when and why, as far as it has these. -/
structure Rejection where
  resolverId : Option Uuid := none
  resolvedAt : Option Nat := none
  note : Option String := none
  deriving DecidableEq, Repr

/-- One cycle of a slot: what others write into the facts, the rejection, and the submission that re-opens. -/
structure Round where
  observed : Facts := []
  rejection : Rejection
  request : CreateRequest
  disposition : Disposition := .ask
  now : Nat
  /-- Nothing but a re-opening writes the history. -/
  apart : ∀ entry ∈ observed, "decision_history" ≠ entry.1

namespace Gate
variable (gate : Gate) (round : Round)

def rejectedBy (rejection : Rejection) : Gate :=
  { gate with status := .rejected, resolverId := rejection.resolverId, resolvedAt := rejection.resolvedAt, resolutionNote := rejection.note }

def turnedDown : Gate := { gate with neutralFacts := some (gate.facts.merge round.observed) }.rejectedBy round.rejection

def cycle : Gate := (reopenRejectedGate [] (gate.turnedDown round) round.request round.disposition round.now).2

def history : List Value := gate.facts.list "decision_history"

end Gate

/-- What an entry of the history says of the decision itself. -/
def decisionOf : Value → List (String × Value)
  | .dict entry => entry.filter fun field => field.1 ≠ "neutral_facts"
  | _ => []

/-- The history inside the facts that an entry has copied. -/
def innerHistory : Value → List Value
  | .dict entry =>
    match Facts.get entry "neutral_facts" with
    | .dict facts => Facts.list facts "decision_history"
    | _ => []
  | _ => []

/-- Every decision that is written down in a history and in the histories inside its entries, to a depth. -/
def storedDecisions : Nat → List Value → List (List (String × Value))
  | 0, _ => []
  | depth + 1, history => history.flatMap fun entry => decisionOf entry :: storedDecisions depth (innerHistory entry)

def Round.decision (round : Round) : List (String × Value) :=
  [("status", .text "rejected"),
    ("resolver_id", .ofOption (fun id => .text (PyText.uuidText id)) round.rejection.resolverId),
    ("resolved_at", .ofOption .instant round.rejection.resolvedAt),
    ("resolution_note", .ofOption .text round.rejection.note)]

/-- The history has an entry for each re-opening, in their order, and each rejection is written down once in
the whole tree of the facts. -/
structure LinearHistory (gate : Gate) (rounds : List Round) : Prop where
  entries : gate.history.map decisionOf = rounds.map Round.decision
  once : ∀ depth, rounds.length ≤ depth → (storedDecisions depth gate.history).Perm (rounds.map Round.decision)

section Facts
variable {facts : Facts} {key : String}

theorem lookup_set (facts : Facts) (key : String) (value : Value) : (facts.set key value).get key = value := by
  have mapped : ∀ facts : Facts, facts.any (fun entry => entry.1 == key) = true →
      (facts.map fun entry => if entry.1 == key then (key, value) else entry).lookup key = some value := by
    intro facts
    induction facts with
    | nil => simp
    | cons entry rest ih =>
      obtain ⟨name, stored⟩ := entry
      intro present
      by_cases same : name = key
      · simp [same]
      · have later : rest.any (fun entry => entry.1 == key) = true := by simpa [same] using present
        have missed : (key == name) = false := by simpa using fun equal : key = name => same equal.symm
        simpa [List.lookup_cons, same, missed] using ih later
  have appended : ∀ facts : Facts, facts.any (fun entry => entry.1 == key) = false →
      (facts ++ [(key, value)]).lookup key = some value := by
    intro facts
    induction facts with
    | nil => simp
    | cons entry rest ih =>
      obtain ⟨name, stored⟩ := entry
      intro absent
      obtain ⟨other, later⟩ : ¬name = key ∧ rest.any (fun entry => entry.1 == key) = false := by
        simpa only [List.any_cons, Bool.or_eq_false_iff, beq_eq_false_iff_ne] using absent
      have missed : (key == name) = false := by simpa using fun equal : key = name => other equal.symm
      simpa only [List.cons_append, List.lookup_cons, missed, if_false, Bool.false_eq_true] using ih later
  unfold Facts.set Facts.get
  split
  next present => rw [mapped facts present, Option.getD_some]
  next absent => rw [appended facts (Bool.eq_false_iff.mpr absent), Option.getD_some]

theorem list_set (facts : Facts) (key : String) (items : List Value) : (facts.set key (.list items)).list key = items := by
  rw [Facts.list, lookup_set]

theorem list_merge_other {others : Facts} (absent : ∀ entry ∈ others, key ≠ entry.1) :
    (facts.merge others).list key = facts.list key := by
  rw [Facts.list, Facts.list, Facts.get_merge_other absent]

end Facts

section Cycles
variable (gate : Gate) (round : Round)

theorem turnedDown_history : (gate.turnedDown round).history = gate.history :=
  list_merge_other round.apart

/-- The entry that a re-opening appends: the decision, and the facts with the history before it. -/
def Round.entry : Value :=
  .dict (round.decision ++ [("neutral_facts", .ofOption .dict (gate.turnedDown round).neutralFacts)])

theorem cycle_history : (gate.cycle round).history = gate.history ++ [round.entry gate] := by
  have entry : (gate.turnedDown round).historyEntry = round.decision := rfl
  have facts : (gate.cycle round).facts = Facts.set (round.request.neutralFacts.getD []) "decision_history"
      (.list ((gate.turnedDown round).history ++ [round.entry gate])) := rfl
  rw [Gate.history, facts, list_set, turnedDown_history]

theorem entry_decision : decisionOf (round.entry gate) = round.decision := by
  simp [Round.entry, decisionOf, Round.decision]

theorem entry_inner : innerHistory (round.entry gate) = gate.history := by
  have inner : innerHistory (round.entry gate) = (gate.turnedDown round).history := rfl
  rw [inner, turnedDown_history]

theorem storedDecisions_append (depth : Nat) (first last : List Value) :
    storedDecisions depth (first ++ last) = storedDecisions depth first ++ storedDecisions depth last := by
  cases depth with
  | zero => rfl
  | succ depth => simp [storedDecisions]

theorem cycle_stored (depth : Nat) : storedDecisions (depth + 1) (gate.cycle round).history =
    storedDecisions (depth + 1) gate.history ++ round.decision :: storedDecisions depth gate.history := by
  rw [cycle_history, storedDecisions_append]
  simp [storedDecisions, entry_decision, entry_inner]

end Cycles

section Runs

def Gate.cycles (gate : Gate) (rounds : List Round) : Gate := rounds.foldl Gate.cycle gate

theorem cycles_entries (gate : Gate) (rounds : List Round) :
    (gate.cycles rounds).history.map decisionOf = gate.history.map decisionOf ++ rounds.map Round.decision := by
  induction rounds generalizing gate with
  | nil => simp [Gate.cycles]
  | cons round rest ih =>
    have next := ih (gate.cycle round)
    rw [cycle_history, List.map_append, List.append_assoc] at next
    simpa [Gate.cycles, entry_decision] using next

theorem storedDecisions_nil (depth : Nat) : storedDecisions depth [] = [] := by
  cases depth <;> rfl

theorem cycles_append (gate : Gate) (rounds : List Round) (round : Round) :
    gate.cycles (rounds ++ [round]) = (gate.cycles rounds).cycle round := by
  simp [Gate.cycles, List.foldl_append]

theorem cycles_stored {gate : Gate} (fresh : gate.history = []) (rounds : List Round) : ∀ depth, rounds.length ≤ depth →
    (storedDecisions depth (gate.cycles rounds).history).length + 1 = 2 ^ rounds.length := by
  induction rounds using List.reverseRecOn with
  | nil =>
    intro depth _
    have start : (gate.cycles []).history = [] := fresh
    rw [start, storedDecisions_nil]
    rfl
  | append_singleton rounds round ih =>
    intro depth deep
    rw [List.length_append, List.length_singleton] at deep ⊢
    obtain ⟨below, rfl⟩ : ∃ below, depth = below + 1 := ⟨depth - 1, by omega⟩
    have here := ih (below + 1) (by omega)
    have copied := ih below (by omega)
    rw [cycles_append, cycle_stored, List.length_append, List.length_cons, Nat.pow_succ]
    omega

theorem linear_none {gate : Gate} (fresh : gate.history = []) : LinearHistory (gate.cycles []) [] := by
  have start : (gate.cycles []).history = [] := fresh
  constructor
  · rw [start]
    rfl
  · intro depth _
    rw [start, storedDecisions_nil]
    exact List.Perm.refl _

theorem linear_one {gate : Gate} (fresh : gate.history = []) (round : Round) : LinearHistory (gate.cycles [round]) [round] := by
  constructor
  · rw [cycles_entries, fresh]
    rfl
  · intro depth deep
    obtain ⟨below, rfl⟩ : ∃ below, depth = below + 1 := ⟨depth - 1, by simp at deep; omega⟩
    have cycle : gate.cycles [round] = gate.cycle round := rfl
    rw [cycle, cycle_stored, fresh, storedDecisions_nil, storedDecisions_nil]
    exact List.Perm.refl _

end Runs

/-- The entries are always there in order, one for each cycle; but each rejection is written down only once
just as long as there is no second re-opening. -/
theorem linear_history_iff (gate : Gate) (rounds : List Round) :
    LinearHistory (gate.cycles rounds) rounds ↔ gate.history = [] ∧ rounds.length ≤ 1 := by
  constructor
  · intro linear
    have fresh : gate.history = [] := by
      have entries := congrArg List.length linear.entries
      rw [cycles_entries] at entries
      simpa using entries
    refine ⟨fresh, ?_⟩
    have stored := cycles_stored fresh rounds rounds.length (Nat.le_refl _)
    have count := (linear.once rounds.length (Nat.le_refl _)).length_eq
    rw [List.length_map] at count
    rw [count] at stored
    by_contra many
    have grows := @Nat.lt_pow_self (rounds.length - 1) 2 (by omega)
    have double : 2 ^ rounds.length = 2 * 2 ^ (rounds.length - 1) := by
      conv_lhs => rw [← Nat.sub_add_cancel (show 1 ≤ rounds.length by omega), Nat.pow_succ]
      omega
    omega
  · rintro ⟨fresh, few⟩
    cases rounds with
    | nil => exact linear_none fresh
    | cons round rest =>
      cases rest with
      | nil => exact linear_one fresh round
      | cons _ _ => simp at few

def sampleGate : Gate where
  id := 1
  orgId := 2
  workItemId := 3
  workItemType := "story"
  gateType := .conceptApproval

def sampleRound (resolvedAt : Nat) : Round where
  rejection := { resolverId := some 7, resolvedAt := some resolvedAt, note := some "unclear" }
  request :=
    { gateId := 1, orgId := 2, workItemId := 3, workItemType := "story", gateType := .conceptApproval
      neutralFacts := some [("doc_title", .text "idea")] }
  now := resolvedAt + 1
  apart := by simp

/-- After two rejections and re-openings three decisions are written down, not two. -/
theorem second_reopening_copies_the_first :
    (storedDecisions 2 (sampleGate.cycles [sampleRound 10, sampleRound 20]).history).length = 3 ∧
      ¬ LinearHistory (sampleGate.cycles [sampleRound 10, sampleRound 20]) [sampleRound 10, sampleRound 20] := by
  have three : (storedDecisions 2 (sampleGate.cycles [sampleRound 10, sampleRound 20]).history).length = 3 := by
    have stored := @cycles_stored sampleGate rfl [sampleRound 10, sampleRound 20] 2 (Nat.le_refl _)
    have size : 2 ^ [sampleRound 10, sampleRound 20].length = 4 := rfl
    omega
  refine ⟨three, fun linear => ?_⟩
  have two := (linear.once 2 (Nat.le_refl _)).length_eq
  rw [three] at two
  exact absurd two (by decide)

end Sprintable.Gates
