import Sprintable.Streams.Delivery

/-! Connections that accept different types of events. The cursor and the marking are the
agent's, and an acknowledgement covers every seq below it, of whatever type. -/

namespace Sprintable.Streams

namespace World
variable {settings : Settings} {world : World}

/-- No connection that accepts the event's type was sent it. -/
def Unsent (settings : Settings) (world : World) (event : Event) : Prop :=
  event.orgId = settings.orgId ∧
  ∀ connection ∈ world.connections, connection.acceptTypes.Accepts event → event.recipientSeq ∉ connection.frames

instance (event : Event) : Decidable (world.Unsent settings event) := inferInstanceAs (Decidable (_ ∧ ∀ _ ∈ _, _))

/-- Such an event is pending, and a connection that comes now, without a header and without a
replay floor, starts below it. -/
def LosesNothing (settings : Settings) (world : World) : Prop :=
  ∀ event ∈ world.events, world.Unsent settings event →
    event.status = .pending ∧ max (world.acks.ackedSeq.getD 0) 0 < event.recipientSeq

instance : Decidable (world.LosesNothing settings) := inferInstanceAs (Decidable (∀ _ ∈ _, _))

/-- An acknowledgement that commits covers only events that were sent to a connection that accepts them. -/
def Covered (settings : Settings) (world : World) : Input → Prop
  | .ack (.commit id) => ∀ request ∈ world.acks.requests[id]?, (∃ ackedSeq, request.phase = .written ackedSeq) →
      ∀ event ∈ world.events, event.recipientSeq ≤ request.seq → ¬ world.Unsent settings event
  | _ => True

theorem unsent_before {input : Input} {event later : Event} (same : later.Same event)
    (unsent : (world.step settings input).Unsent settings later) : world.Unsent settings event := by
  obtain ⟨org, never⟩ := unsent
  refine ⟨same.2.1 ▸ org, ?_⟩
  intro connection member accepts sent
  obtain ⟨position, found⟩ := List.mem_iff_getElem?.mp member
  obtain ⟨after, there, kept⟩ := @keeps_step settings world input position connection found
  refine never after (List.mem_of_getElem? there) ?_ (same.1 ▸ kept.frames sent)
  rw [kept.types]
  exact (Event.Same.wanted ⟨same.1.symm, same.2.1.symm, same.2.2.symm⟩ ⟨rfl, accepts⟩).2

theorem Sound.cursor_known (sound : world.Sound settings) :
    max (world.acks.ackedSeq.getD 0) 0 = 0 ∨ ∃ event ∈ world.events, event.recipientSeq = max (world.acks.ackedSeq.getD 0) 0 := by
  cases row : world.acks.ackedSeq with
  | none => exact .inl rfl
  | some top =>
    right
    obtain ⟨request, member, -, same⟩ := Acks.mem_acknowledged.mp (sound.honest.source top row)
    obtain ⟨event, inside, seq⟩ := sound.requests request member
    have positive := sound.cursor top row
    refine ⟨event, inside, ?_⟩
    change _ = max top 0
    omega

theorem LosesNothing.write (sound : world.Sound settings) (kept : world.LosesNothing settings) (event : TxnEvent) :
    (world.step settings (.write event)).LosesNothing settings := by
  obtain ⟨new, rows, added⟩ := sound.writers.appended event
  intro row member unsent
  change row ∈ (world.writers.step event).events at member
  rw [rows] at member
  rcases List.mem_append.mp member with old | fresh
  · exact kept row old unsent
  · obtain ⟨pending, positive, above⟩ := added row fresh
    refine ⟨pending, ?_⟩
    change max (world.acks.ackedSeq.getD 0) 0 < row.recipientSeq
    rcases sound.cursor_known with zero | ⟨last, there, same⟩
    · omega
    · have := above last there
      omega

theorem acknowledge_rows (event : AckEvent) (other : ∀ id, event ≠ .commit id) :
    (world.acknowledge settings event).events = world.events ∧
      (world.acknowledge settings event).acks.ackedSeq = world.acks.ackedSeq := by
  have cursor : (world.acks.step event).ackedSeq = world.acks.ackedSeq := by
    rcases @Acks.step_ackedSeq world.acks event with same | ⟨id, rfl, -⟩
    · exact same
    · exact absurd rfl (other id)
  cases event with
  | commit id => exact absurd rfl (other id)
  | arrive seq =>
    simp only [World.acknowledge]
    split <;> exact ⟨rfl, rfl⟩
  | read id | write id | abort id => exact ⟨rfl, cursor⟩

/-- The commit of a request: the rows are marked up to its seq, and the cursor is its seq or stays. -/
theorem acknowledge_commit (honest : world.acks.Honest) (id : Nat) : world.acknowledge settings (.commit id) = world ∨
    ∃ request ∈ world.acks.requests[id]?, (∃ ackedSeq, request.phase = .written ackedSeq) ∧
      (world.acknowledge settings (.commit id)).events = world.events.map (Event.acked settings.orgId request.seq) ∧
      ((world.acknowledge settings (.commit id)).acks.ackedSeq = world.acks.ackedSeq ∨
        (world.acknowledge settings (.commit id)).acks.ackedSeq = some request.seq) := by
  simp only [World.acknowledge]
  split
  · next seq ackedSeq present =>
    right
    refine ⟨_, present, ⟨ackedSeq, rfl⟩, rfl, ?_⟩
    simp only [Acks.step, present]
    cases ackedSeq with
    | none => exact .inl rfl
    | some wrote => exact .inr (congrArg some (honest.wrote _ (List.mem_of_getElem? present) wrote rfl))
  · exact .inl rfl

theorem LosesNothing.commit (sound : world.Sound settings) (kept : world.LosesNothing settings) {id : Nat}
    (covered : world.Covered settings (.ack (.commit id))) : (world.step settings (.ack (.commit id))).LosesNothing settings := by
  rcases @acknowledge_commit settings world sound.honest id with same | ⟨request, present, written, rows, cursor⟩
  · change LosesNothing settings (world.acknowledge settings (.commit id))
    rw [same]
    exact kept
  · intro event member unsent
    change event ∈ (world.acknowledge settings (.commit id)).events at member
    rw [rows] at member
    obtain ⟨old, there, rfl⟩ := List.mem_map.mp member
    have same := Event.acked_same settings.orgId request.seq old
    have before := unsent_before same unsent
    have above : request.seq < old.recipientSeq := by
      by_contra below
      exact covered request present written old there (by omega) before
    obtain ⟨pending, ahead⟩ := kept old there before
    have unmarked : old.acked settings.orgId request.seq = old := by
      unfold Event.acked
      rw [if_neg fun marks => by omega]
    rw [unmarked]
    refine ⟨pending, ?_⟩
    change max ((world.acknowledge settings (.commit id)).acks.ackedSeq.getD 0) 0 < old.recipientSeq
    rcases cursor with same | moved
    · rw [same]
      exact ahead
    · rw [moved]
      have positive : 0 < old.recipientSeq := by omega
      change max request.seq 0 < old.recipientSeq
      omega

theorem LosesNothing.step (sound : world.Sound settings) (kept : world.LosesNothing settings) (input : Input)
    (covered : world.Covered settings input) : (world.step settings input).LosesNothing settings := by
  have unchanged : (world.step settings input).events = world.events →
      (world.step settings input).acks.ackedSeq = world.acks.ackedSeq → (world.step settings input).LosesNothing settings := by
    intro rows cursor event member unsent
    rw [cursor]
    exact kept event (rows ▸ member) (unsent_before ⟨rfl, rfl, rfl⟩ unsent)
  cases input with
  | write event => exact kept.write sound event
  | connect key types header | start id store | fetch id | send id | wake id | close id | forget store key types | wait seconds =>
    exact unchanged rfl rfl
  | record id store =>
    apply unchanged
    · simp only [World.step, World.record]
      split
      · split <;> rfl
      · rfl
    · simp only [World.step, World.record]
      split
      · split <;> rfl
      · rfl
  | ack event =>
    by_cases commits : ∃ id, event = .commit id
    · obtain ⟨id, rfl⟩ := commits
      exact kept.commit sound covered
    · obtain ⟨rows, cursor⟩ := @acknowledge_rows settings world event fun id same => commits ⟨id, same⟩
      exact unchanged rows cursor

theorem covered_of_losesNothing (kept : world.LosesNothing settings) (input : Input)
    (after : (world.step settings input).LosesNothing settings) : world.Covered settings input := by
  cases input with
  | ack event =>
    cases event with
    | commit id =>
      rintro ⟨seq, phase⟩ present ⟨ackedSeq, rfl⟩ event member below unsent
      have found : world.acks.requests[id]? = some { seq, phase := .written ackedSeq } := present
      have rows : (world.step settings (.ack (.commit id))).events = world.events.map (Event.acked settings.orgId seq) := by
        simp only [World.step, World.acknowledge, found]
        rfl
      have still : (world.step settings (.ack (.commit id))).Unsent settings (event.acked settings.orgId seq) := by
        have same := Event.acked_same settings.orgId seq event
        refine ⟨same.2.1.trans unsent.1, ?_⟩
        change ∀ connection ∈ (world.acknowledge settings (.commit id)).connections, _
        rw [(acknowledge_acks (.commit id)).1]
        intro connection there accepts sent
        exact unsent.2 connection there (same.wanted ⟨rfl, accepts⟩).2 (same.1 ▸ sent)
      have pending := (kept event member unsent).1
      have stays := (after _ (rows ▸ List.mem_map_of_mem member) still).1
      unfold Event.acked at stays
      rw [if_pos ⟨below, pending, unsent.1⟩] at stays
      cases stays
    | arrive seq | read id | write id | abort id => exact True.intro
  | _ => exact True.intro

end World

open World

/-- No event is lost by the agent before a connection that accepts it was sent it, in exactly
the runs where every acknowledgement covers only events that were sent to one that accepts them. -/
theorem typed_connections_lose_nothing (settings : Settings) (inputs : List Input) :
    Runs.Throughout (step settings) (Covered settings) ({} : World) inputs ↔
      Runs.Throughout (step settings) (fun world input => (world.step settings input).LosesNothing settings) ({} : World) inputs := by
  have same : ∀ world input, (fun _ : Input => True) input → (Sound settings world ∧ world.LosesNothing settings) →
      (world.Covered settings input ↔ (world.step settings input).LosesNothing settings) :=
    fun world input _ valid => ⟨valid.2.step valid.1 input, covered_of_losesNothing valid.2 input⟩
  have kept : ∀ world input, (fun _ : Input => True) input → (Sound settings world ∧ world.LosesNothing settings) →
      (world.step settings input).LosesNothing settings →
      (Sound settings (world.step settings input) ∧ (world.step settings input).LosesNothing settings) :=
    fun world input _ valid after => ⟨valid.1.step input, after⟩
  have nothing : World.LosesNothing settings ({} : World) := fun event member => by cases member
  exact Runs.Throughout.exactly same kept ⟨Sound.initial, nothing⟩ fun _ _ => True.intro

/-- The first connection accepts commands and has not fetched yet when the second one, which
accepts messages, acknowledges the message that comes after the command. -/
theorem typed_acknowledgement_loses : ¬ Runs.Throughout (step { orgId := 1 })
    (fun world input => (world.step { orgId := 1 } input).LosesNothing { orgId := 1 }) ({} : World)
    [.connect 7 (some ["command"]) 0, .connect 7 (some ["message"]) 0, .start 0 none, .start 1 none,
      .write .begin_, .write (.create 0 ⟨11, 1, "command", 0⟩), .write (.create 0 ⟨12, 1, "message", 0⟩), .write (.commit 0),
      .fetch 1, .send 1, .ack (.arrive 2), .ack (.read 0), .ack (.write 0), .ack (.commit 0)] := by
  decide

end Sprintable.Streams
