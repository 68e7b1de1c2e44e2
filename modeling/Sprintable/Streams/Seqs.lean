import Sprintable.Streams.Events
import Sprintable.Logic.Runs

/-! The counter of a recipient and the transactions that create events for it. A
transaction that raised the counter keeps the lock of its row until it ends, or until it
goes back to a savepoint from before. -/

namespace Sprintable.Streams

/-- What a transaction wrote and has not committed: the counter, if it raised it, and the events. -/
structure Written where
  lastSeq : Option Int := none
  events : List Event := []
  deriving DecidableEq, Repr

structure Txn where
  written : Written := {}
  savepoints : List Written := []
  ended : Bool := false
  deriving DecidableEq, Repr

/-- The committed row of `agent_event_seqs` and the committed events, in the order of their
commits. Transactions are known by their position. -/
structure Writers where
  lastSeq : Option Int := none
  events : List Event := []
  txns : List Txn := []
  deriving DecidableEq, Repr

structure NewEvent where
  id : Nat
  orgId : Nat
  eventType : String
  createdAt : Int
  deriving DecidableEq, Repr

inductive TxnEvent where
  | begin_
  | create (txn : Nat) (event : NewEvent)
  | savepoint (txn : Nat)
  | release (txn : Nat)
  | rollbackTo (txn : Nat)
  | commit (txn : Nat)
  | rollback (txn : Nat)
  deriving DecidableEq, Repr

namespace Txn
variable (txn : Txn)

/-- `INSERT .. VALUES (1) ON CONFLICT DO UPDATE SET last_seq = last_seq + 1 RETURNING last_seq`. -/
def nextSeq (lastSeq : Option Int) : Int :=
  match txn.written.lastSeq.or lastSeq with
  | none => 1
  | some last => last + 1

/-- `assign_recipient_seq`, for an event that was just flushed. -/
def create (lastSeq : Option Int) (event : NewEvent) : Txn :=
  let seq := txn.nextSeq lastSeq
  let row : Event := { id := event.id, orgId := event.orgId, eventType := event.eventType, recipientSeq := seq, createdAt := event.createdAt }
  { txn with written := { lastSeq := some seq, events := txn.written.events ++ [row] } }

def savepoint : Txn := { txn with savepoints := txn.written :: txn.savepoints }

def release : Txn := { txn with savepoints := txn.savepoints.tail }

def rollbackTo : Txn :=
  match txn.savepoints with
  | [] => txn
  | before :: savepoints => { txn with written := before, savepoints }

/-- It holds the lock of the counter's row. -/
def Holds : Prop := txn.ended = false ∧ txn.written.lastSeq.isSome = true

instance : Decidable txn.Holds := inferInstanceAs (Decidable (_ ∧ _))

end Txn

namespace Writers
variable (writers : Writers)

/-- Another transaction holds the lock that this one asks for. -/
def Locked (txn : Nat) : Prop := ∃ other ∈ writers.txns.zipIdx, other.2 ≠ txn ∧ other.1.Holds

instance (txn : Nat) : Decidable (writers.Locked txn) := inferInstanceAs (Decidable (∃ _ ∈ _, _))

def put (id : Nat) (txn : Txn) : Writers := { writers with txns := writers.txns.set id txn }

/-- One statement of a transaction that is open. An upsert that finds the lock taken waits. -/
def onTxn (id : Nat) (change : Txn → Writers) : Writers :=
  match writers.txns[id]? with
  | some txn => if txn.ended then writers else change txn
  | none => writers

def step : TxnEvent → Writers
  | .begin_ => { writers with txns := writers.txns ++ [{}] }
  | .create id event => writers.onTxn id fun txn =>
      if writers.Locked id then writers else writers.put id (txn.create writers.lastSeq event)
  | .savepoint id => writers.onTxn id fun txn => writers.put id txn.savepoint
  | .release id => writers.onTxn id fun txn => writers.put id txn.release
  | .rollbackTo id => writers.onTxn id fun txn => writers.put id txn.rollbackTo
  | .commit id => writers.onTxn id fun txn =>
      { writers.put id { txn with ended := true } with
        lastSeq := txn.written.lastSeq.or writers.lastSeq, events := writers.events ++ txn.written.events }
  | .rollback id => writers.onTxn id fun txn => writers.put id { txn with ended := true }

end Writers

/-- The rows carry the seqs from `next` on, one after the other. -/
def Numbered : Int → List Event → Prop
  | _, [] => True
  | next, event :: events => event.recipientSeq = next ∧ Numbered (next + 1) events

instance Numbered.decidable (next : Int) (events : List Event) : Decidable (Numbered next events) :=
  match events with
  | [] => .isTrue True.intro
  | event :: rest =>
    have : Decidable (Numbered (next + 1) rest) := Numbered.decidable (next + 1) rest
    inferInstanceAs (Decidable (event.recipientSeq = next ∧ Numbered (next + 1) rest))

theorem numbered_append {next : Int} {first last : List Event} :
    Numbered next (first ++ last) ↔ Numbered next first ∧ Numbered (next + first.length) last := by
  induction first generalizing next with
  | nil => simp [Numbered]
  | cons event rest ih =>
    simp only [List.cons_append, Numbered, ih, and_assoc, List.length_cons]
    have shift : next + 1 + (rest.length : Int) = next + ((rest.length + 1 : Nat) : Int) := by omega
    rw [shift]

theorem Numbered.bounds {next : Int} {events : List Event} (numbered : Numbered next events) {event : Event}
    (member : event ∈ events) : next ≤ event.recipientSeq ∧ event.recipientSeq < next + events.length := by
  induction events generalizing next with
  | nil => cases member
  | cons head rest ih =>
    rw [List.length_cons]
    rcases List.mem_cons.mp member with rfl | later
    · have first := numbered.1
      omega
    · have bounds := ih numbered.2 later
      omega

theorem Numbered.increasing {next : Int} {events : List Event} (numbered : Numbered next events) :
    events.Pairwise fun first second => first.recipientSeq < second.recipientSeq := by
  induction events generalizing next with
  | nil => exact List.Pairwise.nil
  | cons head rest ih =>
    refine List.pairwise_cons.mpr ⟨fun later member => ?_, ih numbered.2⟩
    have first := numbered.1
    have bounds := numbered.2.bounds member
    omega

/-- What a transaction wrote on top of `count` committed events: nothing, or their successors, which are pending. -/
def Written.Follows (count : Nat) (written : Written) : Prop :=
  written = {} ∨ written.lastSeq = some (count + written.events.length) ∧ Numbered (count + 1) written.events ∧
    ∀ event ∈ written.events, event.status = .pending

/-- What an open transaction wrote, now and at its savepoints, fits the committed rows, and
a savepoint of nothing has only such savepoints behind it. -/
structure Txn.Fits (count : Nat) (txn : Txn) : Prop where
  follows : ∀ written ∈ txn.written :: txn.savepoints, written.Follows count
  idle : (txn.written :: txn.savepoints).Pairwise fun later before => later = {} → before = {}

theorem Txn.Fits.written {count : Nat} {txn : Txn} (fits : txn.Fits count) : txn.written.Follows count :=
  fits.follows txn.written List.mem_cons_self

theorem Txn.Fits.savepoint {count : Nat} {txn : Txn} (fits : txn.Fits count) : txn.savepoint.Fits count := by
  refine ⟨?_, ?_⟩
  · intro written member
    rcases List.mem_cons.mp member with rfl | before
    · exact fits.written
    · exact fits.follows written before
  · refine List.pairwise_cons.mpr ⟨?_, fits.idle⟩
    intro before member nothing
    rcases List.mem_cons.mp member with rfl | earlier
    · exact nothing
    · exact List.rel_of_pairwise_cons fits.idle earlier nothing

theorem Txn.Fits.release {count : Nat} {txn : Txn} (fits : txn.Fits count) : txn.release.Fits count := by
  have fewer : (txn.written :: txn.savepoints.tail).Sublist (txn.written :: txn.savepoints) :=
    (List.tail_sublist txn.savepoints).cons_cons txn.written
  exact ⟨fun written member => fits.follows written (fewer.subset member), fits.idle.sublist fewer⟩

theorem Txn.Fits.rollbackTo {count : Nat} {txn : Txn} (fits : txn.Fits count) :
    txn.rollbackTo.Fits count ∧ (txn.rollbackTo.Holds → txn.Holds) := by
  unfold Txn.rollbackTo
  cases saved : txn.savepoints with
  | nil => exact ⟨fits, fun holds => holds⟩
  | cons before savepoints =>
    obtain ⟨follows, idle⟩ := fits
    rw [saved] at follows idle
    refine ⟨⟨fun written member => follows written (List.mem_cons_of_mem _ member), idle.of_cons⟩, ?_⟩
    rintro ⟨open_, holds⟩
    refine ⟨open_, ?_⟩
    rcases follows txn.written List.mem_cons_self with nothing | ⟨last, -⟩
    · rw [List.rel_of_pairwise_cons idle List.mem_cons_self nothing] at holds
      simp at holds
    · simp [last]

namespace Writers
variable {writers : Writers} {id : Nat} {txn : Txn}

theorem put_get {next : Txn} {position : Nat} {other : Txn}
    (found : (writers.put id next).txns[position]? = some other) :
    position = id ∧ other = next ∨ position ≠ id ∧ writers.txns[position]? = some other := by
  by_cases same : id = position
  · subst position
    have value := List.getElem?_set_self' (l := writers.txns) (i := id) (a := next)
    simp only [put] at found
    rw [value] at found
    obtain ⟨_, -, rfl⟩ := Option.map_eq_some_iff.mp found
    exact .inl ⟨rfl, rfl⟩
  · exact .inr ⟨Ne.symm same, by simpa [put, List.getElem?_set_ne same] using found⟩

/-- What the counter, the committed events and the open transactions say about each other. -/
structure Sound (writers : Writers) : Prop where
  dense : Numbered 1 writers.events
  counter : writers.lastSeq.getD 0 = writers.events.length
  fits : ∀ (id : Nat) (txn : Txn), writers.txns[id]? = some txn → txn.ended = false → txn.Fits writers.events.length
  holder : ∀ (first second : Nat) (one other : Txn), writers.txns[first]? = some one → writers.txns[second]? = some other →
    one.Holds → other.Holds → first = second

theorem Sound.initial : Sound {} := ⟨True.intro, rfl, by simp, by simp⟩

theorem not_locked (free : ¬ writers.Locked id) {position : Nat} {other : Txn} (found : writers.txns[position]? = some other)
    (holds : other.Holds) : position = id := by
  by_contra apart
  exact free ⟨(other, position), List.mk_mem_zipIdx_iff_getElem?.mpr found, apart, holds⟩

theorem Sound.put (sound : writers.Sound) (next : Txn)
    (fits : next.ended = false → next.Fits writers.events.length)
    (holds : next.Holds → ∀ position other, writers.txns[position]? = some other → other.Holds → position = id) :
    (writers.put id next).Sound := by
  refine ⟨sound.dense, sound.counter, ?_, ?_⟩
  · intro position other found open_
    rcases put_get found with ⟨-, rfl⟩ | ⟨-, old⟩
    · exact fits open_
    · exact sound.fits position other old open_
  · intro first second one other foundOne foundOther holdsOne holdsOther
    rcases put_get foundOne with ⟨rfl, rfl⟩ | ⟨apart, oldOne⟩
    · rcases put_get foundOther with ⟨rfl, -⟩ | ⟨-, oldOther⟩
      · rfl
      · exact (holds holdsOne second other oldOther holdsOther).symm
    · rcases put_get foundOther with ⟨rfl, rfl⟩ | ⟨-, oldOther⟩
      · exact holds holdsOther first one oldOne holdsOne
      · exact sound.holder first second one other oldOne oldOther holdsOne holdsOther

theorem Sound.goesOn (sound : writers.Sound) (present : writers.txns[id]? = some txn) (next : Txn)
    (fits : next.ended = false → next.Fits writers.events.length) (kept : next.Holds → txn.Holds) : (writers.put id next).Sound := by
  apply sound.put next fits
  intro holds position other found holdsOther
  exact sound.holder position id other txn found present holdsOther (kept holds)

theorem Sound.create (sound : writers.Sound) (present : writers.txns[id]? = some txn) (open_ : txn.ended = false)
    (free : ¬ writers.Locked id) (event : NewEvent) : (writers.put id (txn.create writers.lastSeq event)).Sound := by
  have fits := sound.fits id txn present open_
  have counter := sound.counter
  apply sound.put
  · intro _
    have follows : ((txn.create writers.lastSeq event).written).Follows writers.events.length := by
      right
      rcases fits.written with nothing | ⟨last, numbered, pending⟩
      · have seq : txn.nextSeq writers.lastSeq = writers.events.length + 1 := by
          unfold Txn.nextSeq
          rw [nothing]
          cases row : writers.lastSeq with
          | none =>
            have zero : (0 : Int) = writers.events.length := by simpa [row] using counter
            change (1 : Int) = _
            omega
          | some last =>
            have same : last = writers.events.length := by simpa [row] using counter
            change last + 1 = _
            omega
        simp [Txn.create, nothing, seq, Numbered]
      · have seq : txn.nextSeq writers.lastSeq = writers.events.length + txn.written.events.length + 1 := by
          simp [Txn.nextSeq, last]
        refine ⟨?_, ?_, ?_⟩
        · simp only [Txn.create, seq, List.length_append, List.length_singleton]
          congr 1
        · refine numbered_append.mpr ⟨numbered, ?_⟩
          simp only [Numbered, seq]
          exact ⟨by omega, True.intro⟩
        · intro row member
          rcases List.mem_append.mp member with old | new
          · exact pending row old
          · rw [List.mem_singleton.mp new]
    refine ⟨?_, ?_⟩
    · intro written member
      rcases List.mem_cons.mp member with rfl | before
      · exact follows
      · exact fits.follows written (List.mem_cons_of_mem _ before)
    · refine List.pairwise_cons.mpr ⟨?_, fits.idle.of_cons⟩
      exact fun _ _ nothing => by simp [Txn.create] at nothing
  · exact fun _ position other found holds => not_locked free found holds

theorem Sound.commit (sound : writers.Sound) (present : writers.txns[id]? = some txn) (open_ : txn.ended = false) :
    Sound { writers.put id { txn with ended := true } with
      lastSeq := txn.written.lastSeq.or writers.lastSeq, events := writers.events ++ txn.written.events } := by
  have fits := sound.fits id txn present open_
  have closed := sound.goesOn present { txn with ended := true } (fun open_ => by simp at open_) (fun holds => by simp [Txn.Holds] at holds)
  rcases fits.written with nothing | ⟨last, numbered, -⟩
  · rw [nothing, List.append_nil]
    rw [nothing] at closed
    exact closed
  · have holds : txn.Holds := ⟨open_, by simp [last]⟩
    refine ⟨?_, ?_, ?_, closed.holder⟩
    · refine numbered_append.mpr ⟨sound.dense, ?_⟩
      rwa [Int.add_comm]
    · simp [last]
    · intro position other found going
      -- the other open transactions wrote nothing, so they fit any rows
      rcases put_get found with ⟨-, rfl⟩ | ⟨apart, old⟩
      · simp at going
      · have waiting : other.written = {} := by
          rcases (sound.fits position other old going).written with nothing | ⟨lastOther, -⟩
          · exact nothing
          · exact absurd (sound.holder position id other txn old present ⟨going, by simp [lastOther]⟩ holds) apart
        have idle := (sound.fits position other old going).idle
        refine ⟨?_, idle⟩
        intro written member
        rcases List.mem_cons.mp member with rfl | before
        · exact .inl waiting
        · exact .inl (List.rel_of_pairwise_cons idle before waiting)

theorem Sound.onTxn (sound : writers.Sound) {change : Txn → Writers}
    (kept : ∀ txn, writers.txns[id]? = some txn → txn.ended = false → (change txn).Sound) : (writers.onTxn id change).Sound := by
  unfold Writers.onTxn
  split
  · next txn present =>
    by_cases ended : txn.ended = true
    · simpa only [ended, ite_true] using sound
    · simpa [ended] using kept txn present (by simpa using ended)
  · exact sound

theorem Sound.begins (sound : writers.Sound) : (writers.step .begin_).Sound := by
  have old : ∀ (position : Nat) (other : Txn), (writers.txns ++ [({} : Txn)])[position]? = some other →
      writers.txns[position]? = some other ∨ other = {} := by
    intro position other found
    rw [List.getElem?_append] at found
    split at found
    · exact .inl found
    · exact .inr (List.mem_singleton.mp (List.mem_of_getElem? found))
  refine ⟨sound.dense, sound.counter, ?_, ?_⟩
  · intro position other found open_
    rcases old position other found with before | rfl
    · exact sound.fits position other before open_
    · exact ⟨fun written member => .inl (List.mem_singleton.mp member), List.pairwise_singleton _ _⟩
  · intro first second one other foundOne foundOther holdsOne holdsOther
    have before : ∀ (position : Nat) (txn : Txn), (writers.txns ++ [({} : Txn)])[position]? = some txn → txn.Holds →
        writers.txns[position]? = some txn := by
      intro position txn found holds
      rcases old position txn found with before | rfl
      · exact before
      · simp [Txn.Holds] at holds
    exact sound.holder first second one other (before first one foundOne holdsOne)
      (before second other foundOther holdsOther) holdsOne holdsOther

theorem Sound.step (sound : writers.Sound) (event : TxnEvent) : (writers.step event).Sound := by
  cases event with
  | begin_ => exact sound.begins
  | create id event =>
    apply sound.onTxn
    intro txn present open_
    by_cases locked : writers.Locked id
    · simpa only [locked, ite_true] using sound
    · simpa only [locked, ite_false] using sound.create present open_ locked event
  | savepoint id =>
    apply sound.onTxn
    intro txn present open_
    apply sound.goesOn present txn.savepoint _ fun holds => holds
    intro _
    exact (sound.fits id txn present open_).savepoint
  | release id =>
    apply sound.onTxn
    intro txn present open_
    apply sound.goesOn present txn.release _ fun holds => holds
    intro _
    exact (sound.fits id txn present open_).release
  | rollbackTo id =>
    apply sound.onTxn
    intro txn present open_
    have fits := sound.fits id txn present open_
    exact sound.goesOn present txn.rollbackTo (fun _ => fits.rollbackTo.1) fits.rollbackTo.2
  | commit id => exact sound.onTxn fun txn present open_ => sound.commit present open_
  | rollback id =>
    apply sound.onTxn
    intro txn present open_
    exact sound.goesOn present _ (fun going => by simp at going) (fun holds => by simp [Txn.Holds] at holds)

end Writers
end Sprintable.Streams
