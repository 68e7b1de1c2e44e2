import Mathlib.Data.List.Sort

/-! The events of one recipient that carry a seq, and the query that a stream reads them
with. Rows without a seq are in none of its answers. -/

namespace Sprintable.Streams

inductive EventStatus where
  | pending
  | delivered
  | expired
  | failed
  deriving DecidableEq, Repr

structure Event where
  id : Nat
  orgId : Nat
  eventType : String
  recipientSeq : Int
  status : EventStatus := .pending
  createdAt : Int
  deriving DecidableEq, Repr

/-- The event types that a connection declared, none where it declared nothing. -/
abbrev AcceptTypes := Option (List String)

/-- The type filter of the query, which is left out where no type is given. -/
def AcceptTypes.Accepts (types : AcceptTypes) (event : Event) : Prop :=
  match types with
  | none => True
  | some [] => True
  | some (type :: types) => event.eventType ∈ type :: types

instance (types : AcceptTypes) (event : Event) : Decidable (types.Accepts event) :=
  match types with
  | none => .isTrue True.intro
  | some [] => .isTrue True.intro
  | some (type :: types) => inferInstanceAs (Decidable (event.eventType ∈ type :: types))

/-- What a stream of the organisation may send of the rows. -/
def Event.Wanted (orgId : Nat) (types : AcceptTypes) (event : Event) : Prop := event.orgId = orgId ∧ types.Accepts event

instance (orgId : Nat) (types : AcceptTypes) (event : Event) : Decidable (event.Wanted orgId types) :=
  inferInstanceAs (Decidable (_ ∧ _))

/-- The join gives a row for each project of the sender. A pass sends no repeat, and a batch that repeats fill up
is followed by the next, so each event is one row here. -/
def fetchEvents (events : List Event) (afterSeq : Int) (limit orgId : Nat) (types : AcceptTypes) : List Event :=
  ((events.filter fun event => event.Wanted orgId types ∧ afterSeq < event.recipientSeq).insertionSort
    fun first second => first.recipientSeq ≤ second.recipientSeq).take limit

variable {events : List Event} {afterSeq : Int} {limit orgId : Nat} {types : AcceptTypes}

theorem mem_fetchEvents {event : Event} (member : event ∈ fetchEvents events afterSeq limit orgId types) :
    event ∈ events ∧ event.Wanted orgId types ∧ afterSeq < event.recipientSeq := by
  have kept := (List.perm_insertionSort _ _).mem_iff.mp (List.mem_of_mem_take member)
  simpa using List.mem_filter.mp kept

/-- Two wanted rows above the seq: one that the answer holds does not come before one that it leaves out. -/
theorem fetchEvents_first {event : Event} (member : event ∈ events) (wanted : event.Wanted orgId types)
    (above : afterSeq < event.recipientSeq) :
    event ∈ fetchEvents events afterSeq limit orgId types ∨
      (fetchEvents events afterSeq limit orgId types).length = limit ∧
      ∀ sent ∈ fetchEvents events afterSeq limit orgId types, sent.recipientSeq ≤ event.recipientSeq := by
  unfold fetchEvents
  generalize rowsSame : (events.filter fun event => event.Wanted orgId types ∧ afterSeq < event.recipientSeq) = rows
  have found : event ∈ rows := by
    rw [← rowsSame]
    exact List.mem_filter.mpr ⟨member, by simpa using And.intro wanted above⟩
  have ordered := List.pairwise_insertionSort (fun first second : Event => first.recipientSeq ≤ second.recipientSeq) rows
  have inside := (List.mem_insertionSort (fun first second : Event => first.recipientSeq ≤ second.recipientSeq)).mpr found
  generalize rows.insertionSort (fun first second => first.recipientSeq ≤ second.recipientSeq) = sorted at ordered inside
  rw [← List.take_append_drop limit sorted] at ordered inside
  rcases List.mem_append.mp inside with sent | left
  · exact .inl sent
  · right
    refine ⟨?_, fun sent early => (List.pairwise_append.mp ordered).2.2 sent early event left⟩
    have longer := List.length_pos_of_mem left
    rw [List.length_drop] at longer
    rw [List.length_take]
    omega

end Sprintable.Streams
