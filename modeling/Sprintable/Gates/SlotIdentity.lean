import Sprintable.Gates.StatusClock

/-! A slot keeps its identity: what a lookup or a submission answers fits the
pull request and the repository it was asked for, a binding only adds what was
unknown, and the same question gets the same gate. -/

namespace Sprintable.Gates

/-- The rows that a question accepts as they are. -/
def slotKey (slot : Slot) (prNumber : Option Int) (repoFullName : Option String) : Gate → Bool :=
  match prNumber with
  | some number => fun gate =>
    slot.holds gate && gate.prNumber == some number && gate.repoFullName == repoKey repoFullName
  | none => fun gate => slot.holds gate && gate.prNumber == none

/-- The binding adds to what is known of the pull request and loses nothing. -/
structure Extends (old row : Gate) : Prop where
  pr : old.prNumber = none ∨ row.prNumber = old.prNumber
  repo : old.repoFullName = none ∨ row.repoFullName = old.repoFullName

/-- The gate belongs to the slot and carries no other pull request or repository
than the ones asked for, as far as both are known. -/
structure Fits (slot : Slot) (prNumber : Option Int) (repoFullName : Option String) (gate : Gate) : Prop where
  slot : slot.holds gate = true
  pr : gate.prNumber = none ∨ prNumber = none ∨ gate.prNumber = prNumber
  repo : gate.repoFullName = none ∨ repoKey repoFullName = none ∨ gate.repoFullName = repoKey repoFullName

inductive SlotCall where
  | find (slot : Slot) (prNumber : Option Int) (repoFullName : Option String)
  | create (request : CreateRequest) (disposition : Disposition) (now : Nat)

namespace SlotCall

/-- The gate that a call answers, and the table it leaves; a refused submission
answers none and is rolled back. -/
def answer (table : Table) : SlotCall → Option Gate × Table
  | .find slot prNumber repoFullName => findGateSlotWithPrFallback table slot prNumber repoFullName
  | .create request disposition now =>
    match createGate table request disposition now with
    | .ok (after, gate) => (some gate, after)
    | .error _ => (none, table)

def step (table : Table) (call : SlotCall) : Table := (call.answer table).2

def slot : SlotCall → Slot
  | .find slot _ _ => slot
  | .create request _ _ => request.toSlot

def prNumber : SlotCall → Option Int
  | .find _ prNumber _ => prNumber
  | .create request _ _ => request.prNumber

def repoFullName : SlotCall → Option String
  | .find _ _ repoFullName => repoFullName
  | .create request _ _ => request.repoFullName

/-- The identity law for one call. -/
structure Identified (table : Table) (call : SlotCall) : Prop where
  fits : ∀ gate, (call.answer table).1 = some gate → Fits call.slot call.prNumber call.repoFullName gate
  extends_ : ∀ row ∈ call.step table, ∀ old ∈ table, old.id = row.id → Extends old row
  kept : ∀ old ∈ table, ∃ row ∈ call.step table, row.id = old.id
  again : ∀ gate, (call.answer table).1 = some gate →
    ∃ same, (call.answer (call.step table)).1 = some same ∧ same.id = gate.id

/-- The row without a pull request that the call comes to, if it comes to one. -/
def unbound (table : Table) (call : SlotCall) : Option Gate :=
  match call.prNumber with
  | none => table.find? (slotKey call.slot none none)
  | some number =>
    if (table.find? (slotKey call.slot (some number) call.repoFullName)).isSome ||
        (repoKey call.repoFullName).isSome && (table.find? (slotKey call.slot (some number) none)).isSome then none
    else table.find? (slotKey call.slot none none)

/-- A row without a pull request whose repository is known is asked for under that
repository, or without a pull request under none. -/
def compatible (table : Table) (call : SlotCall) : Bool :=
  (call.unbound table).all fun row =>
    row.repoFullName.isNone || row.repoFullName == repoKey call.repoFullName ||
      call.prNumber.isNone && (repoKey call.repoFullName).isNone

end SlotCall

section Lookup
variable {table after : Table} {slot : Slot} {prNumber : Option Int} {repoFullName : Option String} {gate : Gate}

theorem key_fits (selected : slotKey slot prNumber repoFullName gate = true) :
    slot.holds gate = true ∧ gate.prNumber = prNumber ∧
      (prNumber ≠ none → gate.repoFullName = repoKey repoFullName) := by
  cases prNumber with
  | none =>
    simp only [slotKey, Bool.and_eq_true, beq_iff_eq] at selected
    exact ⟨selected.1, selected.2, fun known => absurd rfl known⟩
  | some number =>
    simp only [slotKey, Bool.and_eq_true, beq_iff_eq] at selected
    exact ⟨selected.1.1, selected.1.2, fun _ => selected.2⟩

theorem find_exact (found : table.find? (slotKey slot prNumber repoFullName) = some gate) :
    findGateSlotWithPrFallback table slot prNumber repoFullName = (some gate, table) := by
  unfold findGateSlotWithPrFallback
  cases prNumber with
  | none => exact Prod.ext found rfl
  | some number =>
    dsimp only
    split
    next exact_ selected =>
      have same := found.symm.trans selected
      rw [same]
    next absent => exact absurd (found.symm.trans absent) (by simp)

/-- What a lookup does, with the reason why: the accepted row, nothing, or a row
whose pull request or repository was unknown and is bound to the question. -/
theorem find_slot_spec {found : Option Gate}
    (lookup : findGateSlotWithPrFallback table slot prNumber repoFullName = (found, after)) :
    (∃ gate, found = some gate ∧ after = table ∧ table.find? (slotKey slot prNumber repoFullName) = some gate) ∨
    (found = none ∧ after = table ∧ table.find? (slotKey slot prNumber repoFullName) = none ∧
      table.find? (slotKey slot none none) = none) ∨
    ∃ number old, prNumber = some number ∧ old ∈ table ∧ slot.holds old = true ∧
      table.find? (slotKey slot prNumber repoFullName) = none ∧
      found = some { old with prNumber := some number, repoFullName := repoKey repoFullName } ∧
      after = table.put { old with prNumber := some number, repoFullName := repoKey repoFullName } ∧
      ((old.prNumber = some number ∧ old.repoFullName = none ∧
          ((repoKey repoFullName).isSome && (table.find? (slotKey slot (some number) none)).isSome) = true) ∨
        (old.prNumber = none ∧ table.find? (slotKey slot none none) = some old ∧
          ((repoKey repoFullName).isSome && (table.find? (slotKey slot (some number) none)).isSome) = false)) := by
  cases prNumber with
  | none =>
    cases lookup
    cases selected : table.find? (slotKey slot none repoFullName) with
    | none => exact .inr (.inl ⟨selected, rfl, rfl, selected⟩)
    | some gate => exact .inl ⟨gate, selected, rfl, rfl⟩
  | some number =>
    unfold findGateSlotWithPrFallback at lookup
    dsimp only at lookup
    split at lookup
    next exact_ selected =>
      cases lookup
      exact .inl ⟨exact_, rfl, rfl, selected⟩
    next absent =>
      split at lookup
      next unknown selected =>
        cases lookup
        split at selected
        next asked =>
          have matched := List.find?_some selected
          simp only [Bool.and_eq_true, beq_iff_eq] at matched
          obtain ⟨⟨holds, pr⟩, repo⟩ := matched
          have bound : { unknown with repoFullName := repoKey repoFullName } =
              { unknown with prNumber := some number, repoFullName := repoKey repoFullName } := by
            rw [← pr]
          rw [bound]
          have present : (table.find? (slotKey slot (some number) none)).isSome = true := by
            rw [show table.find? (slotKey slot (some number) none) = some unknown from selected]
            rfl
          refine .inr (.inr ⟨number, unknown, rfl, List.mem_of_find?_eq_some selected, holds, absent, rfl, rfl, ?_⟩)
          exact .inl ⟨pr, repo, by rw [asked, present]; rfl⟩
        · cases selected
      next unknown =>
        split at lookup
        next unbound selected =>
          cases lookup
          have matched := List.find?_some selected
          simp only [Bool.and_eq_true, beq_iff_eq] at matched
          refine .inr (.inr ⟨number, unbound, rfl, List.mem_of_find?_eq_some selected, matched.1, absent, rfl, rfl, ?_⟩)
          refine .inr ⟨matched.2, selected, ?_⟩
          split at unknown
          next asked =>
            rw [show table.find? (slotKey slot (some number) none) = none from unknown]
            simp
          next asked => simp [asked]
        next missing =>
          cases lookup
          exact .inr (.inl ⟨rfl, rfl, absent, missing⟩)

theorem find_slot_exact (lookup : findGateSlotWithPrFallback table slot prNumber repoFullName = (some gate, after)) :
    after.find? (slotKey slot prNumber repoFullName) = some gate := by
  rcases find_slot_spec lookup with ⟨_, found, rfl, selected⟩ | ⟨found, _⟩ |
    ⟨number, old, rfl, member, holds, absent, found, rfl, _⟩
  · rw [selected, found]
  · cases found
  · obtain rfl := Option.some.inj found
    refine find_promoted table old _ _ _ absent member ?_
    simp only [slotKey, beq_self_eq_true, Bool.and_true]
    exact holds

theorem find_key_put (unique : table.Unique) {row : Gate} (found : table.find? (slotKey slot prNumber repoFullName) = some gate)
    (key : row.id = gate.id)
    (same : slotKey slot prNumber repoFullName row = slotKey slot prNumber repoFullName gate) :
    (table.put row).find? (slotKey slot prNumber repoFullName) = some row := by
  unfold Table.put
  rw [List.find?_map]
  have accepts : ∀ other ∈ table,
      (slotKey slot prNumber repoFullName ∘ fun other => if other.id = row.id then row else other) other =
        slotKey slot prNumber repoFullName other := by
    intro other member
    simp only [Function.comp_apply]
    split
    next renamed =>
      rw [same, row_of_id unique member (List.mem_of_find?_eq_some found) (renamed.trans key)]
    · rfl
  rw [Keyed.find_agree accepts, found]
  simp [key]

end Lookup

theorem reopened_key (promoted : Table) (existing : Gate) (request : CreateRequest) (disposition : Disposition)
    (now : Nat) (selects : Slot) (prNumber : Option Int) (repoFullName : Option String) :
    slotKey selects prNumber repoFullName (reopenRejectedGate promoted existing request disposition now).2 =
      slotKey selects prNumber repoFullName existing := by
  unfold reopenRejectedGate Gate.setStatus
  dsimp only
  split <;> cases prNumber <;> rfl

theorem reopened_binding (promoted : Table) (existing : Gate) (request : CreateRequest) (disposition : Disposition)
    (now : Nat) :
    (reopenRejectedGate promoted existing request disposition now).2.id = existing.id ∧
    (reopenRejectedGate promoted existing request disposition now).2.prNumber = existing.prNumber ∧
    (reopenRejectedGate promoted existing request disposition now).2.repoFullName = existing.repoFullName := by
  unfold reopenRejectedGate Gate.setStatus
  dsimp only
  split <;> exact ⟨rfl, rfl, rfl⟩

namespace SlotCall
variable {table looked : Table} {call : SlotCall} {gate : Gate}

/-- A call looks its slot up and answers the gate found there, re-opened at most;
only a submission to an empty slot answers a new gate. -/
theorem answer_cases (found : Option Gate)
    (lookup : findGateSlotWithPrFallback table call.slot call.prNumber call.repoFullName = (found, looked)) :
    (∃ gate, found = some gate ∧ call.answer table = (some gate, looked)) ∨
    (∃ existing gate, found = some existing ∧ call.answer table = (some gate, looked.put gate) ∧
      gate.id = existing.id ∧ gate.prNumber = existing.prNumber ∧ gate.repoFullName = existing.repoFullName ∧
      slotKey call.slot call.prNumber call.repoFullName gate =
        slotKey call.slot call.prNumber call.repoFullName existing) ∨
    (found = none ∧ call.answer table = (none, table)) ∨
    ∃ gate, found = none ∧ call.answer table = (some gate, table ++ [gate]) ∧ (∀ row ∈ table, row.id ≠ gate.id) ∧
      gate.repoFullName = repoKey call.repoFullName ∧
      slotKey call.slot call.prNumber call.repoFullName gate = true := by
  cases call with
  | find slot prNumber repoFullName =>
    cases found with
    | none =>
      refine .inr (.inr (.inl ⟨rfl, ?_⟩))
      rcases find_slot_cases lookup with ⟨_, rfl⟩ | ⟨_, _, absurd_, _⟩ | ⟨_, _, _, _, absurd_, _⟩
      · exact lookup
      · cases absurd_
      · cases absurd_
    | some gate => exact .inl ⟨gate, rfl, lookup⟩
  | create request disposition now =>
    cases created : createGate table request disposition now with
    | error failure =>
      refine .inr (.inr (.inl ⟨?_, by simp only [answer, created]⟩))
      unfold createGate at created
      rw [show findGateSlotWithPrFallback table request.toSlot request.prNumber request.repoFullName = (found, looked)
        from lookup] at created
      cases found with
      | none => rfl
      | some existing =>
        dsimp only at created
        split at created <;> cases created
    | ok result =>
      obtain ⟨after, gate⟩ := result
      have answered : (create request disposition now).answer table = (some gate, after) := by
        simp only [answer, created]
      rw [answered]
      rcases create_cases created with ⟨same, _⟩ | ⟨existing, promoted, same, _, rfl, rfl⟩ | ⟨same, fresh, rfl, rfl⟩
      · obtain ⟨rfl, rfl⟩ := Prod.mk.inj (lookup.symm.trans same)
        exact .inl ⟨gate, rfl, rfl⟩
      · obtain ⟨rfl, rfl⟩ := Prod.mk.inj (lookup.symm.trans same)
        obtain ⟨id, pr, repo⟩ := reopened_binding looked existing request disposition now
        exact .inr (.inl ⟨existing, _, rfl, rfl, id, pr, repo, reopened_key _ _ _ _ _ _ _ _⟩)
      · obtain ⟨rfl, rfl⟩ := Prod.mk.inj (lookup.symm.trans same)
        refine .inr (.inr (.inr ⟨newGate request disposition now, rfl, rfl, fresh, rfl, ?_⟩))
        cases pr : request.prNumber <;> simp [slotKey, slot, prNumber, repoFullName, Slot.holds, newGate, pr]

theorem lookup_unique (unique : table.Unique) {found : Option Gate}
    (lookup : findGateSlotWithPrFallback table call.slot call.prNumber call.repoFullName = (found, looked)) :
    Table.Unique looked := by
  unfold Table.Unique
  rw [find_slot_ids lookup]
  exact unique

theorem step_unique (table : Table) (call : SlotCall) (unique : table.Unique) : (call.step table).Unique := by
  unfold step
  cases lookup : findGateSlotWithPrFallback table call.slot call.prNumber call.repoFullName with
  | mk found looked =>
    have kept : Table.Unique looked := lookup_unique unique lookup
    rcases answer_cases found lookup with ⟨_, _, same⟩ | ⟨_, _, _, same, _⟩ | ⟨_, same⟩ | ⟨gate, _, same, fresh, _⟩
    · rw [same]
      exact kept
    · rw [same]
      exact unique_put kept _
    · rw [same]
      exact unique
    · rw [same]
      exact Keyed.nodup_append unique fresh

theorem answer_exact (unique : table.Unique) (answered : (call.answer table).1 = some gate) :
    (call.step table).find? (slotKey call.slot call.prNumber call.repoFullName) = some gate := by
  unfold step
  cases lookup : findGateSlotWithPrFallback table call.slot call.prNumber call.repoFullName with
  | mk found looked =>
    rcases answer_cases found lookup with ⟨_, rfl, same⟩ | ⟨existing, _, rfl, same, id, _, _, key⟩ | ⟨_, same⟩ |
      ⟨_, rfl, same, _, accepts⟩
    · rw [same] at answered ⊢
      obtain rfl := Option.some.inj answered
      exact find_slot_exact lookup
    · rw [same] at answered ⊢
      obtain rfl := Option.some.inj answered
      exact find_key_put (lookup_unique unique lookup) (find_slot_exact lookup) id key
    · rw [same] at answered
      cases answered
    · rw [same] at answered ⊢
      obtain rfl := Option.some.inj answered
      have absent : table.find? (slotKey call.slot call.prNumber call.repoFullName) = none := by
        rcases find_slot_spec lookup with ⟨_, wrong, _⟩ | ⟨_, _, absent, _⟩ | ⟨_, _, _, _, _, _, wrong, _⟩
        · cases wrong
        · exact absent
        · cases wrong
      dsimp only
      rw [List.find?_append, absent]
      simp [accepts]

theorem answered_again (unique : table.Unique) (answered : (call.answer table).1 = some gate) :
    ∃ same, (call.answer (call.step table)).1 = some same ∧ same.id = gate.id := by
  have lookup := find_exact (answer_exact unique answered)
  rcases answer_cases (some gate) lookup with ⟨_, found, same⟩ | ⟨_, _, found, same, id, _⟩ | ⟨wrong, _⟩ | ⟨_, wrong, _⟩
  · obtain rfl := Option.some.inj found
    exact ⟨_, congrArg Prod.fst same, rfl⟩
  · obtain rfl := Option.some.inj found
    exact ⟨_, congrArg Prod.fst same, id⟩
  · cases wrong
  · cases wrong

theorem step_rows (lookup : findGateSlotWithPrFallback table call.slot call.prNumber call.repoFullName = (found, looked))
    {row : Gate} (member : row ∈ call.step table) :
    (∃ like ∈ looked, row.id = like.id ∧ row.prNumber = like.prNumber ∧ row.repoFullName = like.repoFullName) ∨
      ∀ old ∈ table, old.id ≠ row.id := by
  unfold step at member
  have start : looked = table ∨ found ≠ none := by
    rcases find_slot_cases lookup with ⟨_, rfl⟩ | ⟨_, _, rfl, _⟩ | ⟨_, _, _, _, rfl, _⟩
    · exact .inl rfl
    · exact .inr (by simp)
    · exact .inr (by simp)
  rcases answer_cases found lookup with ⟨_, _, same⟩ | ⟨existing, gate, rfl, same, id, pr, repo, _⟩ | ⟨empty, same⟩ |
    ⟨gate, empty, same, fresh, _⟩
  · rw [same] at member
    exact .inl ⟨row, member, rfl, rfl, rfl⟩
  · rw [same] at member
    rcases Table.mem_put member with rfl | old
    · exact .inl ⟨existing, List.mem_of_find?_eq_some (find_slot_exact lookup), id, pr, repo⟩
    · exact .inl ⟨row, old, rfl, rfl, rfl⟩
  · rw [same] at member
    obtain rfl := start.resolve_right (not_not.mpr empty)
    exact .inl ⟨row, member, rfl, rfl, rfl⟩
  · rw [same] at member
    obtain rfl := start.resolve_right (not_not.mpr empty)
    rcases List.mem_append.mp member with old | new
    · exact .inl ⟨row, old, rfl, rfl, rfl⟩
    · rw [List.mem_singleton.mp new]
      exact .inr fresh

theorem step_keeps (table : Table) (call : SlotCall) {old : Gate} (member : old ∈ table) :
    ∃ row ∈ call.step table, row.id = old.id := by
  have keys : old.id ∈ (call.step table).map Gate.id := by
    unfold step
    cases lookup : findGateSlotWithPrFallback table call.slot call.prNumber call.repoFullName with
    | mk found looked =>
      have present : old.id ∈ looked.map Gate.id := by
        rw [find_slot_ids lookup]
        exact List.mem_map_of_mem member
      rcases answer_cases found lookup with ⟨_, _, same⟩ | ⟨_, _, _, same, _⟩ | ⟨_, same⟩ | ⟨_, _, same, _⟩
      · rw [same]
        exact present
      · rw [same, ids_put]
        exact present
      · rw [same]
        exact List.mem_map_of_mem member
      · rw [same, List.map_append]
        exact List.mem_append_left _ (List.mem_map_of_mem member)
  obtain ⟨row, present, same⟩ := List.mem_map.mp keys
  exact ⟨row, present, same⟩

theorem lookup_extends (unique : table.Unique) {found : Option Gate}
    (lookup : findGateSlotWithPrFallback table call.slot call.prNumber call.repoFullName = (found, looked))
    (fitting : call.compatible table = true) {old row : Gate} (present : old ∈ table) (member : row ∈ looked)
    (key : old.id = row.id) : Extends old row := by
  have still : row ∈ table → Extends old row := by
    intro same
    rw [row_of_id unique present same key]
    exact ⟨.inr rfl, .inr rfl⟩
  rcases find_slot_spec lookup with ⟨_, _, rfl, _⟩ | ⟨_, rfl, _⟩ | ⟨number, bound, asked, inside, _, absent, _, rfl, why⟩
  · exact still member
  · exact still member
  · rcases Table.mem_put member with rfl | same
    · obtain rfl := row_of_id unique present inside key
      rcases why with ⟨pr, repo, _⟩ | ⟨pr, first, unknown⟩
      · exact ⟨.inr pr.symm, .inl repo⟩
      · refine ⟨.inl pr, ?_⟩
        have reached : call.unbound table = some old := by
          unfold SlotCall.unbound
          rw [asked] at absent ⊢
          dsimp only
          rw [absent, unknown]
          exact first
        simp only [compatible, reached, Option.all_some, asked, Option.isNone_some, Bool.false_and, Bool.or_false,
          Bool.or_eq_true, Option.isNone_iff_eq_none, beq_iff_eq] at fitting
        exact fitting.imp id Eq.symm
    · exact still same

theorem identified_of_compatible (unique : table.Unique) (fitting : call.compatible table = true) :
    Identified table call := by
  cases lookup : findGateSlotWithPrFallback table call.slot call.prNumber call.repoFullName with
  | mk found looked =>
    refine ⟨?_, ?_, fun old member => step_keeps table call member, fun gate => answered_again unique⟩
    · intro gate answered
      have accepted := answer_exact unique answered
      obtain ⟨holds, pr, repo⟩ := key_fits (List.find?_some accepted)
      refine ⟨holds, .inr (.inr pr), ?_⟩
      by_cases unasked : call.prNumber = none
      · -- Without a pull request the answer is the first unbound row of the slot.
        have first : ∀ row, found = some row → call.unbound table = some row := by
          rintro row rfl
          have plain := find_slot_exact lookup
          rcases find_slot_spec lookup with ⟨_, same, rfl, _⟩ | ⟨wrong, _⟩ | ⟨_, _, asked, _⟩
          · unfold SlotCall.unbound
            rw [unasked] at plain ⊢
            exact plain
          · cases wrong
          · exact absurd (asked.symm.trans unasked) (by simp)
        have repoOf : ∀ row, found = some row → gate.repoFullName = row.repoFullName →
            gate.repoFullName = none ∨ repoKey call.repoFullName = none ∨
              gate.repoFullName = repoKey call.repoFullName := by
          intro row reached same
          rw [same]
          simp only [compatible, first row reached, Option.all_some, unasked, Bool.or_eq_true, Option.isNone_iff_eq_none,
            beq_iff_eq, Bool.and_eq_true] at fitting
          rcases fitting with (unknown | equal) | ⟨_, open_⟩
          · exact .inl unknown
          · exact .inr (.inr equal)
          · exact .inr (.inl open_)
        rcases answer_cases found lookup with ⟨row, reached, same⟩ | ⟨row, other, reached, same, _, _, kept, _⟩ | ⟨_, same⟩ |
          ⟨row, _, same, _, named, _⟩
        · rw [same] at answered
          obtain rfl := Option.some.inj answered
          exact repoOf _ reached rfl
        · rw [same] at answered
          obtain rfl := Option.some.inj answered
          exact repoOf _ reached kept
        · rw [same] at answered
          cases answered
        · rw [same] at answered
          obtain rfl := Option.some.inj answered
          exact .inr (.inr named)
      · exact .inr (.inr (repo unasked))
    · intro row member old present key
      rcases step_rows lookup member with ⟨like, inside, id, pr, repo⟩ | fresh
      · have extended := lookup_extends unique lookup fitting present inside (key.trans id)
        exact ⟨pr ▸ extended.pr, repo ▸ extended.repo⟩
      · exact absurd key (fresh old present)

/-- The law fails as soon as a call comes to an unbound row of another repository:
the answer names that repository, or its row loses it. -/
theorem compatible_of_identified (law : Identified table call) : call.compatible table = true := by
  unfold compatible
  cases reached : call.unbound table with
  | none => rfl
  | some row =>
    simp only [Option.all_some, Bool.or_eq_true, Bool.and_eq_true, Option.isNone_iff_eq_none, beq_iff_eq]
    cases lookup : findGateSlotWithPrFallback table call.slot call.prNumber call.repoFullName with
    | mk found looked =>
      cases asked : call.prNumber with
      | none =>
        -- The unbound row itself is the answer, as it is or re-opened.
        have plain : table.find? (slotKey call.slot call.prNumber call.repoFullName) = some row := by
          unfold SlotCall.unbound at reached
          rw [asked] at reached ⊢
          exact reached
        have answered : ∃ gate, (call.answer table).1 = some gate ∧ gate.repoFullName = row.repoFullName := by
          rcases answer_cases (some row) (find_exact plain) with ⟨_, same, answer⟩ | ⟨_, gate, same, answer, _, _, repo, _⟩ |
            ⟨wrong, _⟩ | ⟨_, wrong, _⟩
          · obtain rfl := Option.some.inj same
            exact ⟨row, congrArg Prod.fst answer, rfl⟩
          · obtain rfl := Option.some.inj same
            exact ⟨gate, congrArg Prod.fst answer, repo⟩
          · cases wrong
          · cases wrong
        obtain ⟨gate, answer, same⟩ := answered
        have fits := (law.fits gate answer).repo
        rw [same] at fits
        rcases fits with unknown | open_ | equal
        · exact .inl (.inl unknown)
        · exact .inr ⟨rfl, open_⟩
        · exact .inl (.inr equal)
      | some number =>
        -- The unbound row is promoted: what it knew must survive in its row.
        unfold SlotCall.unbound at reached
        rw [asked] at reached
        dsimp only at reached
        split at reached
        · cases reached
        next passed =>
          simp only [Bool.or_eq_true, not_or, Bool.not_eq_true, Option.isSome_eq_false_iff,
            Option.isNone_iff_eq_none] at passed
          rcases find_slot_spec lookup with ⟨_, _, _, exact_⟩ | ⟨_, _, _, missing⟩ |
            ⟨_, bound, same, inside, _, _, _, rfl, why⟩
          · rw [asked] at exact_
            rw [passed.1] at exact_
            cases exact_
          · rw [reached] at missing
            cases missing
          · obtain rfl := Option.some.inj (asked.symm.trans same)
            rcases why with ⟨_, _, wrong⟩ | ⟨_, first, _⟩
            · rw [passed.2] at wrong
              cases wrong
            · obtain rfl := Option.some.inj (reached.symm.trans first)
              obtain ⟨after, member, key⟩ := law.kept row inside
              have kept := (law.extends_ after member row inside key.symm).repo
              rcases step_rows lookup member with ⟨like, present, id, _, repo⟩ | fresh
              · have promoted : like.repoFullName = repoKey call.repoFullName := by
                  rcases Table.mem_put present with rfl | old
                  · rfl
                  · -- A row of the old table with this key would have been replaced.
                    obtain ⟨first, _, same⟩ := List.mem_map.mp present
                    split at same
                    · rw [← same]
                    next different =>
                      exact absurd ((same ▸ rfl : first.id = like.id).trans (id.symm.trans key)) different
                rcases kept with unknown | equal
                · exact .inl (.inl unknown)
                · exact .inl (.inr (equal.symm.trans (repo.trans promoted)))
              · exact absurd key.symm (fresh row inside)

end SlotCall

/-- A run of slot calls keeps the identity law exactly if no call comes to an
unbound row whose repository is known and is not the one asked for. -/
theorem slot_identity_kept (calls : List SlotCall) :
    Runs.Throughout SlotCall.step SlotCall.Identified [] calls ↔
      Runs.Throughout SlotCall.step (fun table call => call.compatible table = true) [] calls :=
  Runs.Throughout.congr SlotCall.step_unique
    (fun _ _ unique => ⟨SlotCall.compatible_of_identified, SlotCall.identified_of_compatible unique⟩)
    (show Table.Unique [] from List.nodup_nil) calls

def mergeSlot : Slot where
  orgId := 1
  workItemId := 2
  workItemType := "story"
  gateType := .merge

/-- A gate created for a repository but no pull request is given to a pull request
of another repository. -/
theorem unbound_slot_changes_repository :
    ¬ Runs.Throughout SlotCall.step SlotCall.Identified []
      [.create { mergeSlot with gateId := 3, repoFullName := some "Acme/One" } .ask 100,
        .find mergeSlot (some 5) (some "Acme/Two")] := by
  rintro ⟨-, law, -⟩
  have fitting := SlotCall.compatible_of_identified law
  have misfit : SlotCall.compatible
      (SlotCall.step [] (.create { mergeSlot with gateId := 3, repoFullName := some "Acme/One" } .ask 100))
      (.find mergeSlot (some 5) (some "Acme/Two")) = false := by decide +kernel
  exact absurd fitting (by simp [misfit])

end Sprintable.Gates
