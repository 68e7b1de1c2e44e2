import Mathlib.Algebra.Order.BigOperators.Group.List
import Mathlib.Algebra.Order.Ring.Nat
import Mathlib.Data.List.Nodup
import Sprintable.Usage.Metering
import Sprintable.Logic.Runs

/-! The cap holds in every month, and what the provider has accepted is charged once, in every run whose
checks leave room for what earlier checks have let through and in which nothing accepted is lost. -/

namespace Sprintable.Usage
open Runs

section Lists
variable {α : Type} {xs : List α} {index : Nat} {old new : α}

theorem sum_map_set (value : α → Nat) (found : xs[index]? = some old) :
    ((xs.set index new).map value).sum + value old = (xs.map value).sum + value new := by
  induction xs generalizing index with
  | nil => cases found
  | cons head rest ih =>
    cases index with
    | zero =>
      cases found
      simp only [List.set_cons_zero, List.map_cons, List.sum_cons]
      omega
    | succ index =>
      have found : rest[index]? = some old := by simpa using found
      have later := ih found
      simp only [List.set_cons_succ, List.map_cons, List.sum_cons]
      omega

end Lists

section Phases
variable {phase : Phase} {answer : Answer} {usage : PaidUsage}

@[simp] theorem segments_zero (post next : Nat) : segments post next 0 = [] := rfl

theorem segments_nodup (post next count : Nat) : (segments post next count).Nodup := by
  apply List.Nodup.map _ List.nodup_range
  intro first second same
  injection same with _ offsets
  exact Nat.add_left_cancel offsets

theorem segments_succ (post next left : Nat) : segments post next (left + 1) = .segment post next :: segments post (next + 1) left := by
  unfold segments
  rw [List.range_succ_eq_map, List.map_cons, List.map_map]
  refine congrArg (PaidUsage.segment post next :: ·) (List.map_congr_left fun offset _ => ?_)
  have shifted : next + (offset + 1) = next + 1 + offset := by omega
  exact congrArg (PaidUsage.segment post) shifted

namespace Phase

theorem accepts_nodup (phase : Phase) (answer : Answer) : (phase.accepts answer).Nodup := by
  unfold accepts
  split
  · exact segments_nodup _ _ _
  · exact segments_nodup _ _ _
  · split <;> simp
  · split <;> simp
  all_goals simp

theorem next_reserved (budget : Budget) : (phase.next answer).reserved budget ≤ phase.reserved budget := by
  unfold next
  split
  · exact Nat.mul_le_mul_left _ (Nat.min_le_right _ _)
  · simp [reserved]
  · split <;> simp [reserved]
  all_goals simp [reserved]

theorem next_held (holds : usage ∈ (phase.next answer).held) : usage ∈ phase.held ∨ usage ∈ phase.accepts answer := by
  unfold next at holds
  split at holds
  case h_3 => split at holds <;> simp_all [held, accepts]
  all_goals simp_all [held, accepts]

theorem next_keeps (had : usage ∈ phase.held ∨ usage ∈ phase.accepts answer) :
    usage ∈ (phase.next answer).held ∨ ∃ count, answer = .unheard count ∧ usage ∈ phase.accepts answer := by
  cases answer with
  | unheard count => cases phase <;> simp_all [next, held, accepts]
  | accepted count => cases phase <;> simp_all [next, held, accepts]
  | _ => cases phase <;> simp_all [next, held, accepts]

end Phase

end Phases

namespace World
variable {world after : World}

def charged (world : World) : List PaidUsage := world.evidence.map Evidence.usage

def charges (world : World) (usage : PaidUsage) : Nat := world.charged.count usage

def inHand (world : World) : List PaidUsage := world.attempts.flatMap Phase.held

def inOtherHands (world : World) (attempt : Nat) : List PaidUsage := (world.attempts.eraseIdx attempt).flatMap Phase.held

def reservedMinor (world : World) : Nat := (world.attempts.map (Phase.reserved world.budget)).sum

/-- The phase that a check of this event lets an attempt into. -/
def admitted (world : World) : Event → Option Phase
  | .publish post claimExpired => world.opening post claimExpired
  | .proceed attempt _ =>
    match world.phaseOf attempt with
    | .claimed index post kind =>
      if world.passes world.budget.getXInsightsReadUnitCostMinor then some (.reading index post kind) else none
    | _ => none
  | _ => none

/-- What the provider accepts in this event. -/
def accepts (world : World) : Event → List PaidUsage
  | .answer attempt answer => (world.phaseOf attempt).accepts answer
  | _ => []

/-- What the attempt of this event has in hand, or just missed, when the event ends it unrecorded. -/
def drops (world : World) : Event → List PaidUsage
  | .answer attempt (.unheard count) => (world.phaseOf attempt).accepts (.unheard count)
  | .proceed attempt _ =>
    match world.phaseOf attempt with
    | .recording post next (left + 1) resume _ _ =>
      if resume ≠ some next ∧ (world.publication? post next).isSome then segments post next (left + 1) else []
    | .fetched index post kind => if (world.snapshots[index]?).any (·.status == .inProgress) then [] else [.read post kind]
    | _ => []
  | .crash attempt => (world.phaseOf attempt).held
  | _ => []

def attemptOf : Event → Nat
  | .answer attempt _ | .proceed attempt _ | .crash attempt => attempt
  | _ => 0

/-- A check that passes leaves room also for what the attempts past their checks may still record, the
provider accepts nothing that it has accepted before, and no attempt ends with something in hand that is
not charged and that no other attempt has in hand. -/
structure Orderly (world : World) (event : Event) : Prop where
  room : ∀ phase ∈ world.admitted event,
    world.spentMinor + world.reservedMinor + phase.reserved world.budget ≤ world.budget.limitMinor
  once : ∀ usage ∈ world.accepts event, usage ∉ world.calls
  kept : ∀ usage ∈ world.drops event, usage ∈ world.charged ∨ usage ∈ world.inOtherHands (attemptOf event)

instance (world : World) (event : Event) : Decidable (Orderly world event) :=
  decidable_of_iff ((∀ phase ∈ world.admitted event,
      world.spentMinor + world.reservedMinor + phase.reserved world.budget ≤ world.budget.limitMinor) ∧
    (∀ usage ∈ world.accepts event, usage ∉ world.calls) ∧
    ∀ usage ∈ world.drops event, usage ∈ world.charged ∨ usage ∈ world.inOtherHands (attemptOf event))
    ⟨fun ⟨room, once, kept⟩ => ⟨room, once, kept⟩, fun orderly => ⟨orderly.room, orderly.once, orderly.kept⟩⟩

/-- The cap holds, and each usage is charged as often as the provider has accepted it, but for the one that
an attempt still has in hand. -/
structure WithinCap (world : World) : Prop where
  cap : world.spentMinor ≤ world.budget.limitMinor
  once : ∀ usage, world.charges usage = world.calls.count usage ∨
    usage ∈ world.inHand ∧ world.charges usage + 1 = world.calls.count usage

/-- What holds of the evidence, of the calls and of what is in hand. -/
structure Sound (world : World) : Prop where
  room : world.spentMinor + world.reservedMinor ≤ world.budget.limitMinor
  months : ∀ row ∈ world.evidence, row.month ≤ world.month
  calls : world.calls.Nodup
  charged : world.charged.Nodup
  called : ∀ usage ∈ world.charged, usage ∈ world.calls
  held : ∀ usage ∈ world.inHand, usage ∈ world.calls
  posted : ∀ row ∈ world.publications, row.container = some .posted → .segment row.post 1 ∈ world.calls
  owed : ∀ usage ∈ world.calls, usage ∈ world.charged ∨ usage ∈ world.inHand

theorem Sound.withinCap (sound : Sound world) : WithinCap world := by
  constructor
  · have room := sound.room
    omega
  · intro usage
    unfold charges
    by_cases called : usage ∈ world.calls
    · rw [List.count_eq_one_of_mem sound.calls called]
      by_cases charged : usage ∈ world.charged
      · exact .inl (List.count_eq_one_of_mem sound.charged charged)
      · refine .inr ⟨(sound.owed usage called).resolve_left charged, ?_⟩
        rw [List.count_eq_zero_of_not_mem charged]
    · have uncharged : usage ∉ world.charged := fun charged => called (sound.called usage charged)
      rw [List.count_eq_zero_of_not_mem called, List.count_eq_zero_of_not_mem uncharged]
      exact .inl rfl

theorem fresh_sound (budget : Budget) (posts : List Post) : Sound (fresh budget posts) where
  room := Nat.zero_le _
  months _ member := absurd member List.not_mem_nil
  calls := List.nodup_nil
  charged := List.nodup_nil
  called _ member := absurd member List.not_mem_nil
  held _ member := absurd member List.not_mem_nil
  posted _ member := absurd member List.not_mem_nil
  owed _ member := absurd member List.not_mem_nil

theorem mem_inHand {usage : PaidUsage} : usage ∈ world.inHand ↔ ∃ (index : Nat) (phase : Phase), world.attempts[index]? = some phase ∧ usage ∈ phase.held := by
  unfold inHand
  rw [List.mem_flatMap]
  constructor
  · rintro ⟨phase, member, held⟩
    obtain ⟨index, found⟩ := List.mem_iff_getElem?.mp member
    exact ⟨index, phase, found, held⟩
  · rintro ⟨index, phase, found, held⟩
    exact ⟨phase, List.mem_iff_getElem?.mpr ⟨index, found⟩, held⟩

theorem mem_inOtherHands {usage : PaidUsage} {attempt : Nat} :
    usage ∈ world.inOtherHands attempt ↔
      ∃ (index : Nat) (phase : Phase), index ≠ attempt ∧ world.attempts[index]? = some phase ∧ usage ∈ phase.held := by
  unfold inOtherHands
  rw [List.mem_flatMap]
  constructor
  · rintro ⟨phase, member, held⟩
    obtain ⟨index, different, found⟩ := List.mem_eraseIdx_iff_getElem?.mp member
    exact ⟨index, phase, different, found, held⟩
  · rintro ⟨index, phase, different, found, held⟩
    exact ⟨phase, List.mem_eraseIdx_iff_getElem?.mpr ⟨index, different, found⟩, held⟩

/-- One attempt goes from one phase to another. The provider may accept something in it, and something that
it has in hand may be charged. -/
structure Moves (world after : World) (attempt : Nat) (old new : Phase) (accepted : List PaidUsage) (charge : List Evidence) : Prop where
  at_ : world.attempts[attempt]? = some old
  attempts : after.attempts = world.attempts.set attempt new
  budget : after.budget = world.budget
  month : after.month = world.month
  calls : after.calls = world.calls ++ accepted
  evidence : after.evidence = world.evidence ++ charge

section Moves
variable {attempt : Nat} {old new : Phase} {accepted : List PaidUsage} {charge : List Evidence}

theorem Moves.reserved (moves : Moves world after attempt old new accepted charge) :
    after.reservedMinor + old.reserved world.budget = world.reservedMinor + new.reserved world.budget := by
  unfold reservedMinor
  rw [moves.attempts, moves.budget]
  exact sum_map_set _ moves.at_

theorem Moves.spent (moves : Moves world after attempt old new accepted charge) :
    after.spentMinor ≤ world.spentMinor + (charge.map Evidence.costMinor).sum := by
  unfold spentMinor
  rw [moves.evidence, moves.month, List.filter_append, List.map_append, List.sum_append]
  have part : ((charge.filter (·.month == world.month)).map Evidence.costMinor).sum ≤ (charge.map Evidence.costMinor).sum :=
    List.Sublist.sum_le_sum (List.filter_sublist.map _) fun _ _ => Nat.zero_le _
  omega

theorem Moves.mem_inHand (moves : Moves world after attempt old new accepted charge) {usage : PaidUsage} :
    usage ∈ after.inHand ↔ usage ∈ new.held ∨ usage ∈ world.inOtherHands attempt := by
  rw [World.mem_inHand, mem_inOtherHands, moves.attempts]
  have valid : attempt < world.attempts.length := (List.getElem?_eq_some_iff.mp moves.at_).1
  constructor
  · rintro ⟨index, phase, found, held⟩
    rw [List.getElem?_set] at found
    by_cases same : attempt = index
    · rw [if_pos same, if_pos valid] at found
      cases found
      exact .inl held
    · rw [if_neg same] at found
      exact .inr ⟨index, phase, fun equal => same equal.symm, found, held⟩
  · rintro (held | ⟨index, phase, different, found, held⟩)
    · exact ⟨attempt, new, by simp [valid], held⟩
    · exact ⟨index, phase, by simp [different.symm, found], held⟩

theorem Moves.other_hands (moves : Moves world after attempt old new accepted charge) {usage : PaidUsage} :
    usage ∈ world.inHand ↔ usage ∈ old.held ∨ usage ∈ world.inOtherHands attempt := by
  rw [World.mem_inHand, mem_inOtherHands]
  constructor
  · rintro ⟨index, phase, found, held⟩
    by_cases same : index = attempt
    · subst same
      cases moves.at_.symm.trans found
      exact .inl held
    · exact .inr ⟨index, phase, same, found, held⟩
  · rintro (held | ⟨index, phase, _, found, held⟩)
    · exact ⟨attempt, old, moves.at_, held⟩
    · exact ⟨index, phase, found, held⟩

/-- A move keeps what holds when it stays within the reserve, accepts what is new, charges once what the
attempt has in hand, and leaves nothing uncharged behind. -/
theorem Sound.move (sound : Sound world) (moves : Moves world after attempt old new accepted charge)
    (room : (charge.map Evidence.costMinor).sum + new.reserved world.budget ≤ old.reserved world.budget ∨
      charge = [] ∧ world.spentMinor + world.reservedMinor + new.reserved world.budget ≤ world.budget.limitMinor)
    (once : ∀ usage ∈ accepted, usage ∉ world.calls) (distinct : accepted.Nodup)
    (months : ∀ row ∈ charge, row.month = world.month) (single : (charge.map Evidence.usage).Nodup)
    (charges : ∀ row ∈ charge, row.usage ∈ old.held ∧ row.usage ∉ world.charged)
    (holds : ∀ usage ∈ new.held, usage ∈ old.held ∨ usage ∈ accepted)
    (posted : ∀ row ∈ after.publications, row.container = some .posted → .segment row.post 1 ∈ after.calls)
    (kept : ∀ usage, usage ∈ old.held ∨ usage ∈ accepted →
      usage ∈ new.held ∨ usage ∈ charge.map Evidence.usage ∨ usage ∈ world.charged ∨ usage ∈ world.inOtherHands attempt) :
    Sound after := by
  have has : ∀ usage ∈ old.held, usage ∈ world.calls := fun usage held =>
    sound.held usage (moves.other_hands.mpr (.inl held))
  have chargedAfter : after.charged = world.charged ++ charge.map Evidence.usage := by
    unfold World.charged
    rw [moves.evidence, List.map_append]
  constructor
  · have total := moves.reserved
    have spent := moves.spent
    have before := sound.room
    rw [moves.budget]
    rcases room with within | ⟨free, within⟩
    · omega
    · rw [free] at spent
      simp only [List.map_nil, List.sum_nil, Nat.add_zero] at spent
      omega
  · intro row member
    rw [moves.evidence] at member
    rw [moves.month]
    rcases List.mem_append.mp member with earlier | later
    · exact sound.months row earlier
    · exact (months row later).le
  · rw [moves.calls]
    exact List.nodup_append.mpr ⟨sound.calls, distinct, fun first old second new same => once second new (same ▸ old)⟩
  · rw [chargedAfter]
    refine List.nodup_append.mpr ⟨sound.charged, single, ?_⟩
    intro first old second new same
    obtain ⟨row, member, rfl⟩ := List.mem_map.mp new
    exact (charges row member).2 (same ▸ old)
  · intro usage charged
    rw [moves.calls]
    rw [chargedAfter] at charged
    apply List.mem_append_left
    rcases List.mem_append.mp charged with earlier | later
    · exact sound.called usage earlier
    · obtain ⟨row, member, rfl⟩ := List.mem_map.mp later
      exact has _ (charges row member).1
  · intro usage held
    rw [moves.calls]
    rcases moves.mem_inHand.mp held with own | other
    · rcases holds usage own with earlier | newly
      · exact List.mem_append_left _ (has usage earlier)
      · exact List.mem_append_right _ newly
    · exact List.mem_append_left _ (sound.held usage (moves.other_hands.mpr (.inr other)))
  · exact posted
  · intro usage called
    rw [moves.calls] at called
    rw [chargedAfter, List.mem_append, moves.mem_inHand]
    have open_ : usage ∈ world.charged ∨ usage ∈ world.inOtherHands attempt ∨ usage ∈ old.held ∨ usage ∈ accepted := by
      rcases List.mem_append.mp called with earlier | newly
      · rcases sound.owed usage earlier with charged | held
        · exact .inl charged
        · rcases moves.other_hands.mp held with own | other
          · exact .inr (.inr (.inl own))
          · exact .inr (.inl other)
      · exact .inr (.inr (.inr newly))
    rcases open_ with charged | other | rest
    · exact .inl (.inl charged)
    · exact .inr (.inr other)
    · rcases kept usage rest with own | newly | charged | other
      · exact .inr (.inl own)
      · exact .inl (.inr newly)
      · exact .inl (.inl charged)
      · exact .inr (.inr other)

end Moves

/-- Rows have changed, and nothing that is counted. No row has come to stand for a tweet. -/
structure RowsOnly (world after : World) : Prop where
  budget : after.budget = world.budget
  month : after.month = world.month
  evidence : after.evidence = world.evidence
  attempts : after.attempts = world.attempts
  calls : after.calls = world.calls
  posted : ∀ row ∈ after.publications, row.container = some .posted →
    ∃ old ∈ world.publications, old.container = some .posted ∧ old.post = row.post

section Rows
variable (world)

theorem RowsOnly.refl : RowsOnly world world :=
  ⟨rfl, rfl, rfl, rfl, rfl, fun row member out => ⟨row, member, out, rfl⟩⟩

theorem updateRow_rows (post sequence : Nat) (change : Publication → Publication)
    (kept : ∀ row, (change row).post = row.post ∧ ((change row).container = some .posted → row.container = some .posted)) :
    RowsOnly world (world.updateRow post sequence change) := by
  refine ⟨rfl, rfl, rfl, rfl, rfl, ?_⟩
  intro row member out
  obtain ⟨old, present, written⟩ := List.mem_map.mp member
  split at written <;> subst written
  · exact ⟨old, present, (kept old).2 out, (kept old).1.symm⟩
  · exact ⟨old, present, out, rfl⟩

theorem insertRow_rows (row : Publication) (bare : row.container = none) : RowsOnly world (world.insertRow row) := by
  refine ⟨rfl, rfl, rfl, rfl, rfl, ?_⟩
  intro other member out
  rcases List.mem_append.mp member with old | new
  · exact ⟨other, old, out, rfl⟩
  · cases List.mem_singleton.mp new
    cases bare.symm.trans out

theorem setSnapshot_rows (index : Nat) (status : SnapshotStatus) : RowsOnly world (world.setSnapshot index status) :=
  { RowsOnly.refl world with }

theorem finalizeSnapshot_rows (index : Nat) (status : SnapshotStatus) : RowsOnly world (world.finalizeSnapshot index status) := by
  unfold finalizeSnapshot
  split
  · exact setSnapshot_rows world index status
  · exact .refl world

theorem schedule_rows (post : Nat) : RowsOnly world (world.schedule post) := by
  unfold schedule
  split
  · exact .refl world
  · exact { RowsOnly.refl world with }

theorem claimRow_rows (phase : Phase) : RowsOnly world (world.claimRow phase) := by
  unfold claimRow
  split
  · split
    · exact updateRow_rows world _ _ _ fun row => ⟨rfl, id⟩
    · exact insertRow_rows world _ rfl
  · exact .refl world

end Rows

theorem RowsOnly.posted_called (rows : RowsOnly world after) (sound : Sound world) {row : Publication}
    (member : row ∈ after.publications) (out : row.container = some .posted) : .segment row.post 1 ∈ world.calls := by
  obtain ⟨old, present, before, same⟩ := rows.posted row member out
  exact same ▸ sound.posted old present before

section Steps
variable {attempt now : Nat} {phase : Phase}

theorem getElem_phaseOf (valid : attempt < world.attempts.length) : world.attempts[attempt]? = some (world.phaseOf attempt) := by
  simp [phaseOf, valid]

theorem phaseOf_over (invalid : ¬ attempt < world.attempts.length) : world.phaseOf attempt = .over := by
  simp [phaseOf, Nat.le_of_not_lt invalid]

theorem setPhase_none (invalid : ¬ attempt < world.attempts.length) (phase : Phase) : world.setPhase attempt phase = world := by
  simp [setPhase, List.set_eq_of_length_le (Nat.le_of_not_lt invalid)]

theorem Sound.starts {mid : World} (sound : Sound world) (rows : RowsOnly world mid)
    (room : world.spentMinor + world.reservedMinor + phase.reserved world.budget ≤ world.budget.limitMinor)
    (called : ∀ usage ∈ phase.held, usage ∈ world.calls) : Sound (mid.startAttempt phase) := by
  have hands : ∀ usage, usage ∈ (mid.startAttempt phase).inHand ↔ usage ∈ world.inHand ∨ usage ∈ phase.held := by
    intro usage
    simp [World.inHand, startAttempt, rows.attempts]
  have spent : (mid.startAttempt phase).spentMinor = world.spentMinor := by
    simp [spentMinor, startAttempt, rows.evidence, rows.month]
  have reserved : (mid.startAttempt phase).reservedMinor = world.reservedMinor + phase.reserved world.budget := by
    simp [reservedMinor, startAttempt, rows.attempts, rows.budget]
  have evidence : (mid.startAttempt phase).charged = world.charged := congrArg (List.map Evidence.usage) rows.evidence
  have calls : (mid.startAttempt phase).calls = world.calls := rows.calls
  constructor
  · rw [spent, reserved, ← Nat.add_assoc]
    exact (congrArg Budget.limitMinor rows.budget) ▸ room
  · intro row member
    exact rows.month ▸ sound.months row (rows.evidence ▸ member)
  · exact calls ▸ sound.calls
  · exact evidence ▸ sound.charged
  · rw [evidence, calls]
    exact sound.called
  · intro usage held
    rw [calls]
    exact ((hands usage).mp held).elim (sound.held usage) (called usage)
  · intro row member out
    rw [calls]
    exact rows.posted_called sound member out
  · intro usage call
    rw [calls] at call
    rw [evidence, hands]
    exact (sound.owed usage call).imp id Or.inl

theorem opening_called (sound : Sound world) {post : Nat} {claimExpired : Bool}
    (opened : world.opening post claimExpired = some phase) : ∀ usage ∈ phase.held, usage ∈ world.calls := by
  intro usage held
  unfold opening at opened
  split at opened
  · cases opened
  · dsimp only at opened
    split_ifs at opened
    · split at opened
      · cases opened
        exact absurd held List.not_mem_nil
      · rename_i row found
        split at opened
        · cases opened
        · split at opened
          · rename_i out
            cases opened
            cases List.mem_singleton.mp held
            have matched := List.find?_some found
            simp only [Bool.and_eq_true, beq_iff_eq] at matched
            exact matched.1 ▸ sound.posted row (List.mem_of_find?_eq_some found) out
          · cases opened
            exact absurd held List.not_mem_nil
          · split at opened
            · cases opened
            · cases opened
              exact absurd held List.not_mem_nil
    · cases opened
      exact absurd held List.not_mem_nil

theorem Sound.publishes (sound : Sound world) {post : Nat} {claimExpired : Bool}
    (orderly : Orderly world (.publish post claimExpired)) : Sound (world.publish post claimExpired) := by
  unfold publish
  cases opened : world.opening post claimExpired with
  | none => exact sound
  | some phase =>
    exact sound.starts (claimRow_rows world phase) (orderly.room phase opened) (opening_called sound opened)

theorem Sound.claims (sound : Sound world) (index : Nat) : Sound (world.claim index) := by
  unfold claim
  split
  · exact sound
  · split
    · apply sound.starts (setSnapshot_rows world index .inProgress)
      · exact sound.room
      · exact fun usage held => absurd held List.not_mem_nil
    · exact sound

theorem RowsOnly.moves {mid : World} (rows : RowsOnly world mid) (valid : attempt < world.attempts.length) :
    Moves world (mid.setPhase attempt phase) attempt (world.phaseOf attempt) phase [] [] where
  at_ := getElem_phaseOf valid
  attempts := congrArg (List.set · attempt phase) rows.attempts
  budget := rows.budget
  month := rows.month
  calls := rows.calls.trans (List.append_nil _).symm
  evidence := rows.evidence.trans (List.append_nil _).symm

/-- A step of an attempt that charges nothing. What it has in hand it keeps, or others have it or it is charged. -/
theorem Sound.goesOn {mid : World} (sound : Sound world) (rows : RowsOnly world mid)
    (room : phase.reserved world.budget ≤ (world.phaseOf attempt).reserved world.budget ∨
      world.spentMinor + world.reservedMinor + phase.reserved world.budget ≤ world.budget.limitMinor)
    (holds : ∀ usage ∈ phase.held, usage ∈ (world.phaseOf attempt).held)
    (kept : ∀ usage ∈ (world.phaseOf attempt).held,
      usage ∈ phase.held ∨ usage ∈ world.charged ∨ usage ∈ world.inOtherHands attempt)
    (valid : attempt < world.attempts.length) : Sound (mid.setPhase attempt phase) := by
  apply sound.move (rows.moves valid)
  · exact room.imp (fun within => by simpa using within) (fun within => ⟨rfl, within⟩)
  · exact fun usage member => absurd member List.not_mem_nil
  · exact List.nodup_nil
  · exact fun row member => absurd member List.not_mem_nil
  · exact List.nodup_nil
  · exact fun row member => absurd member List.not_mem_nil
  · exact fun usage held => .inl (holds usage held)
  · intro row member out
    exact rows.calls ▸ rows.posted_called sound member out
  · rintro usage (held | accepted)
    · exact (kept usage held).imp id Or.inr
    · exact absurd accepted List.not_mem_nil

theorem Sound.ends {mid : World} (sound : Sound world) (rows : RowsOnly world mid)
    (kept : ∀ usage ∈ (world.phaseOf attempt).held, usage ∈ world.charged ∨ usage ∈ world.inOtherHands attempt)
    (valid : attempt < world.attempts.length) : Sound (mid.setPhase attempt .over) := by
  apply sound.goesOn rows _ _ _ valid
  · exact .inl (Nat.zero_le _)
  · exact fun usage held => absurd held List.not_mem_nil
  · exact fun usage held => .inr (kept usage held)

theorem answered_cases (world : World) (phase : Phase) (answer : Answer) :
    RowsOnly world (world.answered phase answer) ∨
      ∃ post media count, phase = .creating post media ∧ answer = .accepted count := by
  unfold answered
  split
  · exact .inr ⟨_, _, _, rfl, rfl⟩
  · exact .inl (updateRow_rows world _ _ _ fun row => ⟨rfl, id⟩)
  · exact .inl (updateRow_rows world _ _ _ fun row => ⟨rfl, id⟩)
  · exact .inl (updateRow_rows world _ _ _ fun row => ⟨rfl, fun out => absurd out (by simp)⟩)
  · exact .inl (finalizeSnapshot_rows world _ _)
  · exact .inl (finalizeSnapshot_rows world _ _)
  · exact .inl (.refl world)

theorem answer_moves (valid : attempt < world.attempts.length) (answer : Answer) :
    Moves world (world.answer attempt (world.phaseOf attempt) answer) attempt (world.phaseOf attempt)
      ((world.phaseOf attempt).next answer) ((world.phaseOf attempt).accepts answer) [] := by
  have same : (world.answered (world.phaseOf attempt) answer).attempts = world.attempts ∧
      (world.answered (world.phaseOf attempt) answer).budget = world.budget ∧
      (world.answered (world.phaseOf attempt) answer).month = world.month ∧
      (world.answered (world.phaseOf attempt) answer).evidence = world.evidence := by
    rcases answered_cases world (world.phaseOf attempt) answer with rows | ⟨post, media, count, made, rfl⟩
    · exact ⟨rows.attempts, rows.budget, rows.month, rows.evidence⟩
    · rw [made]
      exact ⟨rfl, rfl, rfl, rfl⟩
  exact ⟨getElem_phaseOf valid, congrArg (List.set · attempt _) same.1, same.2.1, same.2.2.1, rfl,
    same.2.2.2.trans (List.append_nil _).symm⟩

/-- A row that stands for a tweet stands for one that was accepted, also when it has just come to. -/
theorem answer_posted (sound : Sound world) (answer : Answer) :
    ∀ row ∈ (world.answered phase answer).publications, row.container = some .posted →
      .segment row.post 1 ∈ world.calls ++ phase.accepts answer := by
  intro row member out
  rcases answered_cases world phase answer with rows | ⟨post, media, count, rfl, rfl⟩
  · exact List.mem_append_left _ (rows.posted_called sound member out)
  · obtain ⟨old, present, written⟩ := List.mem_map.mp member
    split at written <;> subst written
    · rename_i own
      cases media with
      | true => cases out
      | false => exact List.mem_append_right _ (by simp [Phase.accepts, own.1])
    · exact List.mem_append_left _ (sound.posted old present out)

theorem answer_none (invalid : ¬ attempt < world.attempts.length) (answer : Answer) : world.answer attempt .over answer = world := by
  have kept : world.answered .over answer = world := by cases answer <;> rfl
  have none_ : Phase.over.accepts answer = [] := by cases answer <;> rfl
  unfold World.answer
  rw [kept, none_, List.append_nil]
  exact setPhase_none invalid _

theorem Sound.answers (sound : Sound world) {answer : Answer} (orderly : Orderly world (.answer attempt answer)) :
    Sound (world.answer attempt (world.phaseOf attempt) answer) := by
  by_cases valid : attempt < world.attempts.length
  · apply sound.move (answer_moves valid answer)
    · exact .inl (by simpa using Phase.next_reserved world.budget)
    · exact orderly.once
    · exact Phase.accepts_nodup _ _
    · exact fun row member => absurd member List.not_mem_nil
    · exact List.nodup_nil
    · exact fun row member => absurd member List.not_mem_nil
    · exact fun usage holds => Phase.next_held holds
    · exact answer_posted sound answer
    · intro usage had
      rcases Phase.next_keeps had with kept | ⟨count, rfl, missed⟩
      · exact .inl kept
      · exact .inr (.inr (orderly.kept usage missed))
  · rw [phaseOf_over valid, answer_none valid]
    exact sound

theorem Sound.charges {mid : World} {usage : PaidUsage} {cost : Nat} (sound : Sound world) (rows : RowsOnly world mid)
    (valid : attempt < world.attempts.length) (first : (world.phaseOf attempt).held = usage :: phase.held)
    (room : cost + phase.reserved world.budget ≤ (world.phaseOf attempt).reserved world.budget) :
    Sound ((mid.record usage cost).setPhase attempt phase) := by
  have own : ∀ other ∈ phase.held, other ∈ (world.phaseOf attempt).held := by
    intro other held
    rw [first]
    exact List.mem_cons_of_mem usage held
  unfold record
  by_cases before : usage ∈ world.charged
  · have found : mid.evidence.any (·.usage == usage) = true := by
      obtain ⟨row, member, same⟩ := List.mem_map.mp before
      exact List.any_eq_true.mpr ⟨row, rows.evidence ▸ member, by simpa using same⟩
    rw [if_pos found]
    apply sound.goesOn rows _ own _ valid
    · exact .inl (by omega)
    · intro other held
      rw [first] at held
      rcases List.mem_cons.mp held with rfl | rest
      · exact .inr (.inl before)
      · exact .inl rest
  · have absent : mid.evidence.any (·.usage == usage) = false := by
      rw [List.any_eq_false]
      intro row member same
      exact before (List.mem_map.mpr ⟨row, rows.evidence ▸ member, by simpa using same⟩)
    rw [if_neg (by simp [absent])]
    let charge : Evidence := { usage, costMinor := cost, month := mid.month }
    have moves : Moves world (World.setPhase { mid with evidence := mid.evidence ++ [charge] } attempt phase)
        attempt (world.phaseOf attempt) phase [] [charge] :=
      ⟨getElem_phaseOf valid, congrArg (List.set · attempt phase) rows.attempts, rows.budget, rows.month,
        rows.calls.trans (List.append_nil _).symm, congrArg (· ++ _) rows.evidence⟩
    apply sound.move moves
    · exact .inl (by simpa using room)
    · exact fun other member => absurd member List.not_mem_nil
    · exact List.nodup_nil
    · intro row member
      cases List.mem_singleton.mp member
      exact rows.month
    · exact List.nodup_singleton _
    · intro row member
      cases List.mem_singleton.mp member
      exact ⟨first ▸ List.mem_cons_self, before⟩
    · exact fun other held => .inl (own other held)
    · intro row member out
      exact rows.calls ▸ rows.posted_called sound member out
    · rintro other (held | accepted)
      · rw [first] at held
        rcases List.mem_cons.mp held with rfl | rest
        · exact .inr (.inl List.mem_cons_self)
        · exact .inl rest
      · exact absurd accepted List.not_mem_nil

theorem Sound.savesSegment (sound : Sound world) {post next left : Nat} {resume : Option Nat} {failed first : Bool}
    (here : world.phaseOf attempt = .recording post next (left + 1) resume failed first)
    (orderly : Orderly world (.proceed attempt now)) (valid : attempt < world.attempts.length) :
    Sound (world.saveSegment attempt post next left now resume failed first) := by
  have more : (world.phaseOf attempt).held = .segment post next :: segments post (next + 1) left := by
    rw [here]
    exact segments_succ post next left
  have room : world.budget.getApiUsageUnitCostMinor + world.budget.getApiUsageUnitCostMinor * left ≤
      (world.phaseOf attempt).reserved world.budget := by
    rw [here, Phase.reserved, Nat.mul_succ, Nat.add_comm]
  unfold saveSegment
  dsimp only
  split
  · exact sound.charges
      (updateRow_rows world _ _ _ fun row => ⟨rfl, id⟩) valid more room
  · rename_i fresh
    split
    · rename_i taken
      apply sound.ends (.refl world) _ valid
      intro usage held
      apply orderly.kept usage
      unfold drops
      dsimp only
      rw [here]
      dsimp only
      rw [if_pos ⟨fresh, taken⟩]
      rw [here] at held
      exact held
    · exact sound.charges
        (insertRow_rows world _ rfl) valid more room

theorem Sound.endsThread (sound : Sound world) {post next : Nat} {resume : Option Nat} {failed first : Bool}
    (here : world.phaseOf attempt = .recording post next 0 resume failed first) (valid : attempt < world.attempts.length) :
    Sound (world.endThread attempt post next resume failed first) := by
  have nothing : ∀ usage ∈ (world.phaseOf attempt).held, usage ∈ world.charged ∨ usage ∈ world.inOtherHands attempt := by
    rw [here]
    exact fun usage held => absurd held List.not_mem_nil
  unfold endThread
  split_ifs
  · exact sound.ends (updateRow_rows world _ _ _ fun row => ⟨rfl, id⟩) nothing valid
  · exact sound.ends (.refl world) nothing valid
  · exact sound.ends (insertRow_rows world _ rfl) nothing valid
  · exact sound.ends (schedule_rows world post) nothing valid
  · exact sound.ends (.refl world) nothing valid

theorem Sound.checksRead (sound : Sound world) {index post : Nat} {kind : SnapshotKind}
    (here : world.phaseOf attempt = .claimed index post kind) (orderly : Orderly world (.proceed attempt now))
    (valid : attempt < world.attempts.length) : Sound (world.checkRead attempt index post kind) := by
  unfold checkRead
  split
  · rename_i passed
    apply sound.goesOn (.refl world) _ _ _ valid
    · refine .inr (orderly.room (.reading index post kind) ?_)
      unfold admitted
      dsimp only
      rw [here]
      dsimp only
      rw [if_pos passed]
      rfl
    · exact fun usage held => absurd held List.not_mem_nil
    · rw [here]
      exact fun usage held => absurd held List.not_mem_nil
  · apply sound.ends (finalizeSnapshot_rows world index .skipped) _ valid
    rw [here]
    exact fun usage held => absurd held List.not_mem_nil

theorem record_setSnapshot (usage : PaidUsage) (cost index : Nat) (status : SnapshotStatus) :
    (world.record usage cost).setSnapshot index status = (world.setSnapshot index status).record usage cost := by
  unfold record
  by_cases before : world.evidence.any (·.usage == usage) = true
  · rw [if_pos before, if_pos (show (world.setSnapshot index status).evidence.any (·.usage == usage) = true from before)]
  · rw [if_neg before, if_neg (show ¬ (world.setSnapshot index status).evidence.any (·.usage == usage) = true from before)]
    rfl

theorem Sound.savesRead (sound : Sound world) {index post : Nat} {kind : SnapshotKind}
    (here : world.phaseOf attempt = .fetched index post kind) (orderly : Orderly world (.proceed attempt now))
    (valid : attempt < world.attempts.length) : Sound (world.saveRead attempt index post kind) := by
  unfold saveRead
  split
  · rw [record_setSnapshot]
    apply sound.charges (setSnapshot_rows world index .captured) valid
    · rw [here]
      rfl
    · rw [here]
      exact Nat.le_refl _
  · rename_i superseded
    apply sound.ends (.refl world) _ valid
    intro usage held
    apply orderly.kept usage
    unfold drops
    dsimp only
    rw [here]
    dsimp only
    rw [if_neg superseded]
    rw [here] at held
    exact held

theorem Sound.proceeds (sound : Sound world) (orderly : Orderly world (.proceed attempt now)) :
    Sound (world.proceed attempt now (world.phaseOf attempt)) := by
  by_cases valid : attempt < world.attempts.length
  · cases here : world.phaseOf attempt with
    | recording post next left resume failed first =>
      cases left with
      | zero => exact sound.endsThread here valid
      | succ left => exact sound.savesSegment here orderly valid
    | posted post =>
      have rows : RowsOnly world (world.updateRow post 1 fun row => { row with status := .published, publishedAt := now }) :=
        updateRow_rows world post 1 _ fun row => ⟨rfl, id⟩
      apply sound.goesOn rows _ _ _ valid
      · rw [here]
        exact .inl (Nat.le_refl _)
      · rw [here]
        exact fun usage held => held
      · rw [here]
        exact fun usage held => .inl held
    | saved post =>
      apply sound.goesOn (schedule_rows world post) _ _ _ valid
      · rw [here]
        exact .inl (Nat.le_refl _)
      · rw [here]
        exact fun usage held => held
      · rw [here]
        exact fun usage held => .inl held
    | charging post =>
      apply sound.charges (.refl world) valid
      · rw [here]
        rfl
      · rw [here]
        exact Nat.le_refl _
    | claimed index post kind => exact sound.checksRead here orderly valid
    | fetched index post kind => exact sound.savesRead here orderly valid
    | _ => exact sound
  · rw [phaseOf_over valid]
    exact sound

theorem Sound.crashes (sound : Sound world) (orderly : Orderly world (.crash attempt)) :
    Sound (world.setPhase attempt .over) := by
  by_cases valid : attempt < world.attempts.length
  · exact sound.ends (.refl world) orderly.kept valid
  · rw [setPhase_none valid]
    exact sound

/-- In the new month nothing is spent yet. What attempts still may record was checked for already. -/
theorem Sound.turns (sound : Sound world) : Sound { world with month := world.month + 1 } := by
  have nothing : world.evidence.filter (·.month == world.month + 1) = [] := by
    rw [List.filter_eq_nil_iff]
    intro row member same
    have before := sound.months row member
    have after : row.month = world.month + 1 := by simpa using same
    omega
  have spent : World.spentMinor { world with month := world.month + 1 } = 0 := by
    unfold spentMinor
    rw [nothing]
    rfl
  refine { sound with room := ?_, months := fun row member => Nat.le_succ_of_le (sound.months row member) }
  rw [spent, Nat.zero_add]
  exact (Nat.le_add_left _ _).trans sound.room

theorem Sound.step (sound : Sound world) {event : Event} (orderly : Orderly world event) : Sound (world.step event) := by
  cases event with
  | publish post claimExpired => exact sound.publishes orderly
  | claim snapshot => exact sound.claims snapshot
  | answer attempt answer => exact sound.answers orderly
  | proceed attempt now => exact sound.proceeds orderly
  | crash attempt => exact sound.crashes orderly
  | turn => exact sound.turns

end Steps

/-- In every state of a run whose events are orderly, the cap of the month holds, and every segment and
every read that the provider has accepted is charged once, or is in the hands of an attempt. -/
theorem monthly_cap (budget : Budget) (posts : List Post) (events : List Event)
    (orderly : Throughout World.step Orderly (fresh budget posts) events) :
    WithinCap (final World.step (fresh budget posts) events) :=
  (orderly.invariant (fun _ _ orderly sound => sound.step orderly) (fresh_sound budget posts)).withinCap

/-- A thread of two whose second segment is refused at first, another post beside it, and a read. -/
theorem monthly_cap_sample :
    WithinCap (final World.step (fresh { limitMinor := 65 } [{ thread := 1 }, {}])
      [.publish 0 false, .publish 1 false, .answer 1 (.accepted 1), .answer 0 (.accepted 1), .proceed 0 1, .proceed 1 2, .proceed 0 2,
        .proceed 1 2, .proceed 1 2, .publish 0 false, .answer 2 (.accepted 1), .proceed 2 3, .proceed 2 4,
        .claim 0, .proceed 3 5, .answer 3 (.accepted 1), .proceed 3 5, .proceed 3 5]) := by
  apply monthly_cap
  decide

/-! Two posts in overlapping ticks: both checks find the whole of the cap. -/

theorem overlapping_posts_overspend :
    ¬ WithinCap (final World.step (fresh { limitMinor := 20 } [{}, {}])
      [.publish 0 false, .publish 1 false, .answer 0 (.accepted 1), .answer 1 (.accepted 1), .proceed 0 1, .proceed 0 1,
        .proceed 0 1, .proceed 1 2, .proceed 1 2, .proceed 1 2]) := by
  intro within
  exact absurd within.cap (by decide)

end World

end Sprintable.Usage
