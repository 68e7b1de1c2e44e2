import Mathlib.Data.Int.Order.Basic
import Sprintable.Logic.Runs

/-! The cursor of an agent: the seq up to which it has acknowledged its events. A request
that acknowledges a seq reads the row, compares, writes and commits in separate statements,
and those of other requests may come in between. -/

namespace Sprintable.Streams

/-- How far a request has come. It remembers what it found of the row, and then what its
commit leaves there, if it writes the row at all. -/
inductive Phase where
  | arrived
  | compared (existing : Option Int)
  | written (ackedSeq : Option Int)
  | committed
  | failed
  deriving DecidableEq, Repr

structure Ack where
  seq : Int
  phase : Phase := .arrived
  deriving DecidableEq, Repr

/-- The committed row of `agent_event_cursors`, none before the first acknowledgement, and
the requests of the agent, which are known by their position. -/
structure Acks where
  ackedSeq : Option Int := none
  requests : List Ack := []
  deriving DecidableEq, Repr

inductive AckEvent where
  | arrive (seq : Int)
  | read (id : Nat)
  | write (id : Nat)
  | commit (id : Nat)
  | abort (id : Nat)
  deriving DecidableEq, Repr

namespace Acks
variable (acks : Acks)

def move (id : Nat) (phase : Phase) : Acks :=
  { acks with requests := acks.requests.modify id fun request => { request with phase } }

/-- A request that wrote the row holds its lock until it commits or is rolled back. -/
def Locked : Prop := ∃ request ∈ acks.requests, ∃ seq, request.phase = .written (some seq)

instance : Decidable acks.Locked :=
  decidable_of_iff (acks.requests.any fun request => match request.phase with | .written (some _) => true | _ => false)
    (by
      simp only [Locked, List.any_eq_true]
      refine exists_congr fun request => and_congr_right fun _ => ?_
      cases request.phase with
      | written acked => cases acked <;> simp
      | _ => simp)

/-- The statement after the comparison: an insert where no row was found, which waits for the
lock and fails on a row that is there by now; an update where the seq is the larger one. -/
def write (id : Nat) (seq : Int) : Option Int → Acks
  | none => if acks.Locked then acks else if acks.ackedSeq.isSome then acks.move id .failed else acks.move id (.written (some seq))
  | some found =>
    if seq > found then if acks.Locked then acks else acks.move id (.written (some seq))
    else acks.move id (.written none)

/-- `ack_event`, one statement at a time. A statement that is not the next one changes nothing. -/
def step (acks : Acks) : AckEvent → Acks
  | .arrive seq => { acks with requests := acks.requests ++ [{ seq }] }
  | .read id =>
    match acks.requests[id]? with
    | some { phase := .arrived, .. } => acks.move id (.compared acks.ackedSeq)
    | _ => acks
  | .write id =>
    match acks.requests[id]? with
    | some { seq, phase := .compared existing } => acks.write id seq existing
    | _ => acks
  | .commit id =>
    match acks.requests[id]? with
    | some { phase := .written ackedSeq, .. } => { acks.move id .committed with ackedSeq := ackedSeq.or acks.ackedSeq }
    | _ => acks
  | .abort id =>
    match acks.requests[id]? with
    | some { phase := .committed, .. } => acks
    | some _ => acks.move id .failed
    | none => acks

def acknowledged : List Int := (acks.requests.filter fun request => request.phase = .committed).map Ack.seq

def Settled : Prop := ∀ request ∈ acks.requests, request.phase = .committed ∨ request.phase = .failed

instance : Decidable acks.Settled := inferInstanceAs (Decidable (∀ _ ∈ _, _))

/-- The cursor does not move back here, and is the largest acknowledged seq once no request is under way. -/
def Advances (event : AckEvent) : Prop :=
  (∀ top ∈ acks.ackedSeq, ∃ later ∈ (acks.step event).ackedSeq, top ≤ later) ∧
  ((acks.step event).Settled → (acks.step event).ackedSeq = (acks.step event).acknowledged.max?)

instance (event : AckEvent) : Decidable (acks.Advances event) := inferInstanceAs (Decidable (_ ∧ (_ → _)))

/-- The request that commits wrote its seq to the row, and a larger seq was acknowledged before. -/
def Overtaken : AckEvent → Prop
  | .commit id => ∃ request ∈ acks.requests[id]?, ∃ seq, request.phase = .written (some seq) ∧
      ∃ other ∈ acks.acknowledged, seq < other
  | _ => False

variable {acks} {id : Nat} {request : Ack}

theorem mem_acknowledged {seq : Int} :
    seq ∈ acks.acknowledged ↔ ∃ request ∈ acks.requests, request.phase = .committed ∧ request.seq = seq := by
  simp [acknowledged, and_assoc]

theorem mem_move {phase : Phase} {other : Ack} (present : acks.requests[id]? = some request)
    (member : other ∈ (acks.move id phase).requests) : other ∈ acks.requests ∨ other = { request with phase } := by
  obtain ⟨position, found⟩ := List.mem_iff_getElem?.mp member
  simp only [move, List.getElem?_modify] at found
  by_cases same : id = position
  · subst position
    simp only [present, ite_true] at found
    exact .inr (Option.some.inj found).symm
  · simp only [same, ite_false, id_map'] at found
    exact .inl (List.mem_of_getElem? found)

theorem mem_moved {phase : Phase} {other : Ack} (present : acks.requests[id]? = some request)
    (member : other ∈ acks.requests) (apart : other ≠ request) : other ∈ (acks.move id phase).requests := by
  obtain ⟨position, found⟩ := List.mem_iff_getElem?.mp member
  refine List.mem_iff_getElem?.mpr ⟨position, ?_⟩
  have different : id ≠ position := by
    rintro rfl
    exact apart (Option.some.inj (found.symm.trans present))
  simpa [move, List.getElem?_modify, different] using found

theorem moved_mem {phase : Phase} (present : acks.requests[id]? = some request) :
    { request with phase } ∈ (acks.move id phase).requests :=
  List.mem_iff_getElem?.mpr ⟨id, by simp [move, present]⟩

theorem move_acknowledged {phase : Phase} {seq : Int} (present : acks.requests[id]? = some request)
    (going : request.phase ≠ .committed) :
    seq ∈ (acks.move id phase).acknowledged ↔ seq ∈ acks.acknowledged ∨ phase = .committed ∧ seq = request.seq := by
  simp only [mem_acknowledged]
  constructor
  · rintro ⟨other, member, committed, rfl⟩
    rcases mem_move present member with old | rfl
    · exact .inl ⟨other, old, committed, rfl⟩
    · exact .inr ⟨committed, rfl⟩
  · rintro (⟨other, member, committed, rfl⟩ | ⟨rfl, rfl⟩)
    · have apart : other ≠ request := by
        rintro rfl
        exact going committed
      exact ⟨other, mem_moved present member apart, committed, rfl⟩
    · exact ⟨_, moved_mem present, rfl, rfl⟩

/-- What holds of the requests in every run: they write the seq that they ask for, and the
cursor is a seq that was acknowledged. -/
structure Honest (acks : Acks) : Prop where
  wrote : ∀ request ∈ acks.requests, ∀ seq, request.phase = .written (some seq) → seq = request.seq
  source : ∀ top ∈ acks.ackedSeq, top ∈ acks.acknowledged

/-- What the cursor and the requests say about each other while no acknowledgement was overtaken. -/
structure Sound (acks : Acks) : Prop where
  bound : ∀ seq ∈ acks.acknowledged, ∃ top ∈ acks.ackedSeq, seq ≤ top
  source : ∀ top ∈ acks.ackedSeq, top ∈ acks.acknowledged
  found : ∀ request ∈ acks.requests, ∀ seen, request.phase = .compared (some seen) → ∃ top ∈ acks.ackedSeq, seen ≤ top
  wrote : ∀ request ∈ acks.requests, ∀ seq, request.phase = .written (some seq) → seq = request.seq
  passed : ∀ request ∈ acks.requests, request.phase = .written none → ∃ top ∈ acks.ackedSeq, request.seq ≤ top

theorem Sound.initial : Sound {} :=
  ⟨by simp [acknowledged], by simp, by simp, by simp, by simp⟩

theorem Sound.rewritten (sound : acks.Sound) {phase : Phase} {row : Option Int} (present : acks.requests[id]? = some request)
    (going : request.phase ≠ .committed) (grows : ∀ top ∈ acks.ackedSeq, ∃ higher ∈ row, top ≤ higher)
    (source : ∀ top ∈ row, top ∈ acks.acknowledged ∨ phase = .committed ∧ top = request.seq)
    (committed : phase = .committed → ∃ top ∈ row, request.seq ≤ top)
    (found : ∀ seen, phase = .compared (some seen) → ∃ top ∈ row, seen ≤ top)
    (wrote : ∀ seq, phase = .written (some seq) → seq = request.seq)
    (passed : phase = .written none → ∃ top ∈ row, request.seq ≤ top) :
    Sound { acks.move id phase with ackedSeq := row } := by
  have raised : ∀ {seq : Int}, (∃ top ∈ acks.ackedSeq, seq ≤ top) → ∃ top ∈ row, seq ≤ top := by
    rintro seq ⟨top, here, below⟩
    obtain ⟨higher, there, above⟩ := grows top here
    exact ⟨higher, there, by omega⟩
  refine ⟨?_, ?_, ?_, ?_, ?_⟩
  · intro seq member
    rcases (move_acknowledged present going).mp member with old | ⟨done, rfl⟩
    · exact raised (sound.bound seq old)
    · exact committed done
  · exact fun top here => (move_acknowledged present going).mpr (source top here)
  · intro other member seen compared
    rcases mem_move present member with old | rfl
    · exact raised (sound.found other old seen compared)
    · exact found seen compared
  · intro other member seq written
    rcases mem_move present member with old | rfl
    · exact sound.wrote other old seq written
    · exact wrote seq written
  · intro other member skipped
    rcases mem_move present member with old | rfl
    · exact raised (sound.passed other old skipped)
    · exact passed skipped

theorem Sound.moved (sound : acks.Sound) {phase : Phase} (present : acks.requests[id]? = some request)
    (going : request.phase ≠ .committed) (open_ : phase ≠ .committed)
    (found : ∀ seen, phase = .compared (some seen) → ∃ top ∈ acks.ackedSeq, seen ≤ top)
    (wrote : ∀ seq, phase = .written (some seq) → seq = request.seq)
    (passed : phase = .written none → ∃ top ∈ acks.ackedSeq, request.seq ≤ top) : (acks.move id phase).Sound :=
  sound.rewritten present going (fun top here => ⟨top, here, le_refl top⟩) (fun top here => .inl (sound.source top here))
    (fun committed => absurd committed open_) found wrote passed

theorem Sound.commit (sound : acks.Sound) {ackedSeq : Option Int} (present : acks.requests[id]? = some request)
    (written : request.phase = .written ackedSeq) (first : ∀ seq ∈ ackedSeq, ∀ other ∈ acks.acknowledged, other ≤ seq) :
    Sound { acks.move id .committed with ackedSeq := ackedSeq.or acks.ackedSeq } := by
  have member := List.mem_of_getElem? present
  have going : request.phase ≠ .committed := by simp [written]
  cases ackedSeq with
  | none =>
    have below := sound.passed request member written
    exact sound.rewritten present going (fun top here => ⟨top, here, le_refl top⟩)
      (fun top here => .inl (sound.source top here)) (fun _ => below) (by simp) (by simp) (by simp)
  | some seq =>
    have same : seq = request.seq := sound.wrote request member seq written
    refine sound.rewritten present going ?_ ?_ ?_ (by simp) (by simp) (by simp)
    · intro top here
      exact ⟨seq, rfl, first seq rfl top (sound.source top here)⟩
    · intro top here
      obtain rfl : seq = top := Option.some.inj here
      exact .inr ⟨rfl, same⟩
    · exact fun _ => ⟨seq, rfl, by omega⟩

theorem Sound.write (sound : acks.Sound) {seq : Int} {existing : Option Int}
    (present : acks.requests[id]? = some { seq, phase := .compared existing }) : (acks.write id seq existing).Sound := by
  have going : ({ seq, phase := .compared existing } : Ack).phase ≠ .committed := by simp
  have writes : (acks.move id (.written (some seq))).Sound :=
    sound.moved present going (by simp) (by simp) (by simp) (by simp)
  cases existing with
  | none =>
    simp only [Acks.write]
    by_cases locked : acks.Locked
    · simpa only [locked, ite_true] using sound
    · by_cases there : acks.ackedSeq.isSome
      · simp only [locked, there, ite_true, ite_false]
        exact sound.moved present going (by simp) (by simp) (by simp) (by simp)
      · simpa [locked, there] using writes
  | some seen =>
    simp only [Acks.write]
    by_cases larger : seq > seen
    · by_cases locked : acks.Locked
      · simpa only [larger, locked, ite_true] using sound
      · simpa only [larger, locked, ite_true, ite_false] using writes
    · simp only [larger, ite_false]
      apply sound.moved present going (by simp) (by simp) (by simp)
      intro _
      obtain ⟨top, here, below⟩ := sound.found _ (List.mem_of_getElem? present) seen rfl
      exact ⟨top, here, by dsimp only; omega⟩

theorem Sound.arrive (sound : acks.Sound) (seq : Int) : (acks.step (.arrive seq)).Sound := by
  have same : (acks.step (.arrive seq)).acknowledged = acks.acknowledged := by simp [step, acknowledged]
  have old : ∀ request ∈ (acks.step (.arrive seq)).requests, request.phase ≠ .arrived → request ∈ acks.requests := by
    intro request member begun
    rcases List.mem_append.mp member with old | new
    · exact old
    · exact absurd (congrArg Ack.phase (List.mem_singleton.mp new)) begun
  refine ⟨?_, ?_, ?_, ?_, ?_⟩
  · exact fun other member => sound.bound other (same ▸ member)
  · exact fun top here => same ▸ sound.source top here
  · exact fun request member seen compared => sound.found request (old request member (by simp [compared])) seen compared
  · exact fun request member wrote written => sound.wrote request (old request member (by simp [written])) wrote written
  · exact fun request member skipped => sound.passed request (old request member (by simp [skipped])) skipped

theorem Sound.step (sound : acks.Sound) (event : AckEvent) (first : ¬ acks.Overtaken event) : (acks.step event).Sound := by
  cases event with
  | arrive seq => exact sound.arrive seq
  | read id =>
    simp only [Acks.step]
    split
    · next present =>
      apply sound.moved present (by simp) (by simp) _ (by simp) (by simp)
      intro seen here
      exact ⟨seen, by simpa using here, le_refl seen⟩
    · exact sound
  | write id =>
    simp only [Acks.step]
    split
    · next present => exact sound.write present
    · exact sound
  | commit id =>
    simp only [Acks.step]
    split
    · next seq ackedSeq present =>
      apply sound.commit present rfl
      intro written here other member
      by_contra larger
      exact first ⟨_, present, written, by simpa using here, other, member, by omega⟩
    · exact sound
  | abort id =>
    simp only [Acks.step]
    split
    · exact sound
    · next request open_ present =>
      apply sound.moved present _ (by simp) (by simp) (by simp) (by simp)
      intro committed
      exact open_ request.seq (by cases request; exact congrArg _ committed)
    · exact sound

/-- While no acknowledgement was overtaken, the cursor is the largest acknowledged seq at all times. -/
theorem Sound.largest (sound : acks.Sound) : acks.ackedSeq = acks.acknowledged.max? := by
  cases row : acks.ackedSeq with
  | none =>
    have nothing : acks.acknowledged = [] := by
      apply List.eq_nil_iff_forall_not_mem.mpr
      intro seq member
      obtain ⟨top, here, -⟩ := sound.bound seq member
      simp [row] at here
    simp [nothing]
  | some top =>
    symm
    refine List.max?_eq_some_iff.mpr ⟨sound.source top row, ?_⟩
    intro seq member
    obtain ⟨other, here, below⟩ := sound.bound seq member
    obtain rfl : other = top := Option.some.inj (here.symm.trans row)
    exact below

theorem step_ackedSeq (event : AckEvent) : (acks.step event).ackedSeq = acks.ackedSeq ∨
    ∃ id, event = .commit id ∧ ∃ request ∈ acks.requests[id]?, ∃ seq, request.phase = .written (some seq) ∧
      (acks.step event).ackedSeq = some seq := by
  cases event with
  | arrive seq => exact .inl rfl
  | read id =>
    left
    simp only [step]
    split <;> rfl
  | write id =>
    left
    simp only [step]
    split
    · next seq existing _ =>
      cases existing <;> simp only [write] <;> split <;> (try split) <;> rfl
    · rfl
  | abort id =>
    left
    simp only [step]
    split <;> rfl
  | commit id =>
    simp only [step]
    split
    · next seq ackedSeq present =>
      cases ackedSeq with
      | none => exact .inl rfl
      | some written => exact .inr ⟨id, rfl, _, present, written, rfl, rfl⟩
    · exact .inl rfl

theorem step_cases (acks : Acks) (event : AckEvent) :
    (acks.step event).requests = acks.requests ∨
    (∃ seq, event = .arrive seq ∧ (acks.step event).requests = acks.requests ++ [{ seq := seq }]) ∨
    ∃ id request phase, acks.requests[id]? = some request ∧ request.phase ≠ .committed ∧
      (acks.step event).requests = (acks.move id phase).requests ∧ ∀ seq, phase = .written (some seq) → seq = request.seq := by
  cases event with
  | arrive seq => exact .inr (.inl ⟨seq, rfl, rfl⟩)
  | read id =>
    simp only [step]
    split
    · next present => exact .inr (.inr ⟨id, _, _, present, by simp, rfl, by simp⟩)
    · exact .inl rfl
  | commit id =>
    simp only [step]
    split
    · next present => exact .inr (.inr ⟨id, _, _, present, by simp, rfl, by simp⟩)
    · exact .inl rfl
  | abort id =>
    simp only [step]
    split
    · exact .inl rfl
    · next request open_ present =>
      refine .inr (.inr ⟨id, request, _, present, ?_, rfl, by simp⟩)
      intro committed
      exact open_ request.seq (by cases request; exact congrArg _ committed)
    · exact .inl rfl
  | write id =>
    simp only [step]
    split
    · next seq existing present =>
      have moved : ∀ phase, (∀ wrote, phase = .written (some wrote) → wrote = seq) →
          ∃ id request next, acks.requests[id]? = some request ∧ request.phase ≠ .committed ∧
            (acks.move _ phase).requests = (acks.move id next).requests ∧ ∀ wrote, next = .written (some wrote) → wrote = request.seq :=
        fun phase same => ⟨id, _, phase, present, by simp, rfl, same⟩
      cases existing with
      | none =>
        simp only [write]
        split
        · exact .inl rfl
        · split <;> exact .inr (.inr (moved _ (by simp)))
      | some found =>
        simp only [write]
        split
        · split
          · exact .inl rfl
          · exact .inr (.inr (moved _ (by simp)))
        · exact .inr (.inr (moved _ (by simp)))
    · exact .inl rfl

theorem Honest.initial : Honest {} := ⟨by simp, by simp⟩

theorem step_acknowledged (event : AckEvent) {seq : Int} (member : seq ∈ acks.acknowledged) : seq ∈ (acks.step event).acknowledged := by
  rcases step_cases acks event with same | ⟨arrived, -, added⟩ | ⟨id, moving, phase, present, going, moved, -⟩
  · rwa [acknowledged, same]
  · obtain ⟨request, inside, committed, rfl⟩ := mem_acknowledged.mp member
    exact mem_acknowledged.mpr ⟨request, added ▸ List.mem_append_left _ inside, committed, rfl⟩
  · rw [acknowledged, moved]
    exact (move_acknowledged present going).mpr (.inl member)

theorem step_origin (event : AckEvent) {request : Ack} (member : request ∈ (acks.step event).requests) :
    (∃ old ∈ acks.requests, old.seq = request.seq) ∨ event = .arrive request.seq := by
  rcases step_cases acks event with same | ⟨seq, rfl, added⟩ | ⟨id, moving, phase, present, -, moved, -⟩
  · exact .inl ⟨request, same ▸ member, rfl⟩
  · rcases List.mem_append.mp (added ▸ member) with old | new
    · exact .inl ⟨request, old, rfl⟩
    · rw [List.mem_singleton.mp new]
      exact .inr rfl
  · rcases mem_move present (moved ▸ member) with old | rfl
    · exact .inl ⟨request, old, rfl⟩
    · exact .inl ⟨moving, List.mem_of_getElem? present, rfl⟩

theorem Honest.step (honest : acks.Honest) (event : AckEvent) : (acks.step event).Honest := by
  refine ⟨?_, ?_⟩
  · intro request member seq written
    rcases step_cases acks event with same | ⟨arrived, -, added⟩ | ⟨id, moving, phase, present, -, moved, wrote⟩
    · exact honest.wrote request (same ▸ member) seq written
    · rcases List.mem_append.mp (added ▸ member) with old | new
      · exact honest.wrote request old seq written
      · rw [List.mem_singleton.mp new] at written
        cases written
    · rcases mem_move present (moved ▸ member) with old | rfl
      · exact honest.wrote request old seq written
      · exact wrote seq written
  · intro top here
    rcases @step_ackedSeq acks event with same | ⟨id, rfl, request, present, seq, written, after⟩
    · exact step_acknowledged event (honest.source top (same ▸ here))
    · obtain rfl : seq = top := Option.some.inj (after.symm.trans here)
      obtain ⟨asked, phase⟩ := request
      obtain rfl : phase = .written (some seq) := written
      obtain rfl : seq = asked := honest.wrote _ (List.mem_of_getElem? present) seq rfl
      have found : acks.requests[id]? = some { seq := seq, phase := .written (some seq) } := present
      have moved : (acks.step (.commit id)).requests = (acks.move id .committed).requests := by simp [Acks.step, found]
      rw [acknowledged, moved]
      exact (move_acknowledged found (by simp)).mpr (.inr ⟨rfl, rfl⟩)

theorem Sound.advances_iff (sound : acks.Sound) (event : AckEvent) : ¬ acks.Overtaken event ↔ acks.Advances event := by
  constructor
  · intro first
    refine ⟨?_, fun _ => (sound.step event first).largest⟩
    intro top here
    rcases @step_ackedSeq acks event with same | ⟨id, rfl, request, present, seq, written, after⟩
    · exact ⟨top, same ▸ here, le_refl top⟩
    · refine ⟨seq, after, ?_⟩
      by_contra larger
      exact first ⟨request, present, seq, written, top, sound.source top here, by omega⟩
  · intro advances overtaken
    cases event with
    | commit id =>
      obtain ⟨request, present, seq, written, other, member, larger⟩ := overtaken
      obtain ⟨top, here, below⟩ := sound.bound other member
      obtain ⟨_, phase⟩ := request
      obtain rfl : phase = .written (some seq) := written
      have after : (acks.step (.commit id)).ackedSeq = some seq := by
        have found : acks.requests[id]? = some _ := present
        simp [Acks.step, found]
      obtain ⟨later, there, forward⟩ := advances.1 top here
      obtain rfl : seq = later := Option.some.inj (after.symm.trans there)
      omega
    | _ => exact overtaken

end Acks

open Acks

/-- The cursor only moves forward, and ends as the largest acknowledged seq, in exactly the
runs where no request writes a seq to the row and commits it after a larger one was acknowledged. -/
theorem cursor_advances_unless_overtaken (events : List AckEvent) :
    Runs.Throughout step (fun acks event => ¬ acks.Overtaken event) {} events ↔ Runs.Throughout step Advances {} events := by
  have same : ∀ acks event, (fun _ => True) event → Sound acks → (¬ acks.Overtaken event ↔ acks.Advances event) :=
    fun acks event _ sound => sound.advances_iff event
  have kept : ∀ acks event, (fun _ => True) event → Sound acks → acks.Advances event → (acks.step event).Sound :=
    fun acks event _ sound advances => sound.step event ((sound.advances_iff event).mpr advances)
  exact Runs.Throughout.exactly same kept Sound.initial fun _ _ => True.intro

/-- Two requests read the cursor at 5: one writes 10, the other comes after it with 7. -/
theorem cursor_moves_back : ¬ Runs.Throughout step Advances {}
    [.arrive 5, .read 0, .write 0, .commit 0, .arrive 10, .arrive 7, .read 1, .read 2,
      .write 1, .commit 1, .write 2, .commit 2] := by
  decide

end Sprintable.Streams
