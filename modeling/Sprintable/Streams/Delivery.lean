import Sprintable.Streams.Stream

/-! What the connections of an agent were sent. A pass that ends normally leaves out no row
that its last fetch could see, in every run; a connection is sent no seq twice while the
cursor does not move back. -/

namespace Sprintable.Streams

def Event.Same (first second : Event) : Prop :=
  first.recipientSeq = second.recipientSeq ∧ first.orgId = second.orgId ∧ first.eventType = second.eventType

theorem Event.Same.wanted {first second : Event} (same : first.Same second) {orgId : Nat} {types : AcceptTypes}
    (wanted : first.Wanted orgId types) : second.Wanted orgId types := by
  obtain ⟨org, accepts⟩ := wanted
  refine ⟨same.2.1 ▸ org, ?_⟩
  match types with
  | none => exact True.intro
  | some [] => exact True.intro
  | some (type :: types) => exact (same.2.2 ▸ accepts : second.eventType ∈ type :: types)

theorem Event.acked_same (orgId : Nat) (seq : Int) (event : Event) : (event.acked orgId seq).Same event := by
  unfold Event.acked
  split <;> exact ⟨rfl, rfl, rfl⟩

/-- Rows stay, and new ones come after all that are there. -/
structure Grown (before after : List Event) : Prop where
  kept : ∀ event ∈ before, ∃ later ∈ after, later.Same event
  added : ∀ event ∈ after, (∃ old ∈ before, event.Same old) ∨ 0 < event.recipientSeq ∧ ∀ old ∈ before, old.recipientSeq < event.recipientSeq

theorem Grown.refl (events : List Event) : Grown events events :=
  ⟨fun event member => ⟨event, member, rfl, rfl, rfl⟩, fun event member => .inl ⟨event, member, rfl, rfl, rfl⟩⟩

theorem Grown.marked (events : List Event) (orgId : Nat) (seq : Int) : Grown events (events.map (Event.acked orgId seq)) := by
  refine ⟨?_, ?_⟩
  · intro event member
    exact ⟨_, List.mem_map_of_mem member, Event.acked_same orgId seq event⟩
  · intro event member
    obtain ⟨old, there, rfl⟩ := List.mem_map.mp member
    exact .inl ⟨old, there, Event.acked_same orgId seq old⟩

theorem Grown.seq {before after : List Event} (grown : Grown before after) {seq : Int}
    (known : ∃ event ∈ before, event.recipientSeq = seq) : ∃ event ∈ after, event.recipientSeq = seq := by
  obtain ⟨event, member, rfl⟩ := known
  obtain ⟨later, there, same⟩ := grown.kept event member
  exact ⟨later, there, same.1⟩

theorem Grown.old {before after : List Event} (grown : Grown before after) {event : Event} (member : event ∈ after) {bound : Int}
    (known : bound = 0 ∨ ∃ old ∈ before, old.recipientSeq = bound) (below : event.recipientSeq ≤ bound) :
    ∃ old ∈ before, event.Same old := by
  rcases grown.added event member with old | ⟨positive, above⟩
  · exact old
  · rcases known with rfl | ⟨old, there, rfl⟩
    · omega
    · have := above old there
      omega

namespace Writers
variable {writers : Writers}

/-- A statement of a transaction leaves the rows alone, or it commits new ones that come after all. -/
theorem Sound.appended (sound : writers.Sound) (event : TxnEvent) : ∃ new, (writers.step event).events = writers.events ++ new ∧
    ∀ row ∈ new, row.status = .pending ∧ 0 < row.recipientSeq ∧ ∀ old ∈ writers.events, old.recipientSeq < row.recipientSeq := by
  have unchanged : ∃ new, writers.events = writers.events ++ new ∧
      ∀ row ∈ new, row.status = .pending ∧ 0 < row.recipientSeq ∧ ∀ old ∈ writers.events, old.recipientSeq < row.recipientSeq :=
    ⟨[], by simp, by simp⟩
  cases event with
  | begin_ => exact unchanged
  | commit id =>
    simp only [Writers.step, Writers.onTxn]
    split
    · next txn present =>
      split
      · exact unchanged
      · next going =>
        refine ⟨txn.written.events, rfl, ?_⟩
        intro row member
        rcases (sound.fits id txn present (by simpa using going)).written with nothing | ⟨-, numbered, pending⟩
        · rw [nothing] at member
          cases member
        · have bounds := numbered.bounds member
          refine ⟨pending row member, by omega, fun old there => ?_⟩
          have := sound.dense.bounds there
          omega
    · exact unchanged
  | create id event =>
    simp only [Writers.step, Writers.onTxn]
    split
    · split
      · exact unchanged
      · split <;> exact unchanged
    · exact unchanged
  | savepoint id | release id | rollbackTo id | rollback id =>
    simp only [Writers.step, Writers.onTxn]
    split
    · split <;> exact unchanged
    · exact unchanged

theorem Sound.grown (sound : writers.Sound) (event : TxnEvent) : Grown writers.events (writers.step event).events := by
  obtain ⟨new, same, later⟩ := sound.appended event
  rw [same]
  refine ⟨fun row member => ⟨row, List.mem_append_left _ member, rfl, rfl, rfl⟩, ?_⟩
  intro row member
  rcases List.mem_append.mp member with old | added
  · exact .inl ⟨row, old, rfl, rfl, rfl⟩
  · exact .inr (later row added).2

theorem numbered_map {next : Int} {events : List Event} {change : Event → Event}
    (same : ∀ event, (change event).recipientSeq = event.recipientSeq) (numbered : Numbered next events) :
    Numbered next (events.map change) := by
  induction events generalizing next with
  | nil => exact True.intro
  | cons event rest ih => exact ⟨(same event).trans numbered.1, ih numbered.2⟩

theorem Sound.marked (sound : writers.Sound) (orgId : Nat) (seq : Int) :
    Sound { writers with events := writers.events.map (Event.acked orgId seq) } := by
  refine ⟨numbered_map (fun event => (Event.acked_same orgId seq event).1) sound.dense, ?_, ?_, sound.holder⟩
  · simpa using sound.counter
  · simpa using sound.fits

end Writers

/-- What is left of a pass, and what it has done. -/
structure Pass.Sound (orgId : Nat) (events : List Event) (connection : Connection) (pass : Pass) : Prop where
  reached : pass.floor = pass.scanFrom ∨ ∃ event ∈ events, event.recipientSeq = pass.floor
  sent : ∀ event ∈ events, event.Wanted orgId connection.acceptTypes → pass.scanFrom < event.recipientSeq →
    event.recipientSeq ≤ pass.floor → event.recipientSeq ∈ connection.frames
  known : ∀ row ∈ pass.rows, ∃ event ∈ events, event.recipientSeq = row.recipientSeq
  above : ∀ row ∈ pass.rows, pass.floor < row.recipientSeq
  ordered : pass.rows.Pairwise fun first second => first.recipientSeq < second.recipientSeq
  next : ∀ event ∈ events, event.Wanted orgId connection.acceptTypes → pass.floor < event.recipientSeq →
    (∃ row ∈ pass.rows, row.recipientSeq = event.recipientSeq) ∨ ∀ row ∈ pass.rows, row.recipientSeq < event.recipientSeq
  last : pass.full = false → ∀ event ∈ events, event.Wanted orgId connection.acceptTypes → pass.floor < event.recipientSeq →
    event.recipientSeq ≤ pass.visible → ∃ row ∈ pass.rows, row.recipientSeq = event.recipientSeq
  seen : pass.visible = 0 ∨ ∃ event ∈ events, event.recipientSeq = pass.visible
  increasing : pass.frames.Pairwise (· < ·)
  behind : ∀ seq ∈ pass.frames, seq ≤ pass.floor

/-- A pass that ended normally: it sent in order, and the connection was sent every wanted row
after its start up to the last one that its last fetch could see. -/
structure Pass.Complete (orgId : Nat) (events : List Event) (connection : Connection) (pass : Pass) : Prop where
  increasing : pass.frames.Pairwise (· < ·)
  all : ∀ event ∈ events, event.Wanted orgId connection.acceptTypes → pass.scanFrom < event.recipientSeq →
    event.recipientSeq ≤ pass.visible → event.recipientSeq ∈ connection.frames

structure Connection.Sound (orgId : Nat) (events : List Event) (connection : Connection) : Prop where
  known : ∀ seq ∈ connection.frames, ∃ event ∈ events, event.recipientSeq = seq
  unacked : ∀ seq ∈ connection.sentUnacked, seq ∈ connection.frames
  running : ∀ pass ∈ connection.pass, pass.Sound orgId events connection
  ended : ∀ pass ∈ connection.passes, pass.Complete orgId events connection ∧
    (pass.visible = 0 ∨ ∃ event ∈ events, event.recipientSeq = pass.visible)

section Rows
variable {orgId : Nat} {before after : List Event} {connection : Connection} {pass : Pass}

theorem Pass.Sound.later (grown : Grown before after) (sound : pass.Sound orgId before connection) : pass.Sound orgId after connection := by
  refine ⟨sound.reached.imp_right grown.seq, ?_, fun row member => grown.seq (sound.known row member), sound.above, sound.ordered,
    ?_, ?_, sound.seen.imp_right grown.seq, sound.increasing, sound.behind⟩
  · intro event member wanted above below
    rcases sound.reached with start | known
    · omega
    · obtain ⟨old, there, same⟩ := grown.old member (.inr known) below
      rw [same.1] at above below ⊢
      exact sound.sent old there (same.wanted wanted) above below
  · intro event member wanted above
    rcases grown.added event member with ⟨old, there, same⟩ | ⟨-, later⟩
    · rw [same.1] at above ⊢
      exact sound.next old there (same.wanted wanted) above
    · right
      intro row inside
      obtain ⟨old, there, seq⟩ := sound.known row inside
      have := later old there
      omega
  · intro short event member wanted above below
    obtain ⟨old, there, same⟩ := grown.old member sound.seen below
    rw [same.1] at above below ⊢
    exact sound.last short old there (same.wanted wanted) above below

theorem Connection.Sound.later (grown : Grown before after) (sound : connection.Sound orgId before) : connection.Sound orgId after := by
  refine ⟨fun seq member => grown.seq (sound.known seq member), sound.unacked, fun pass here => (sound.running pass here).later grown, ?_⟩
  intro pass member
  obtain ⟨complete, seen⟩ := sound.ended pass member
  refine ⟨⟨complete.increasing, ?_⟩, seen.imp_right grown.seq⟩
  intro event inside wanted above below
  obtain ⟨old, there, same⟩ := grown.old inside seen below
  rw [same.1] at above below ⊢
  exact complete.all old there (same.wanted wanted) above below

variable {events : List Event} {other : Connection}

theorem Pass.Sound.mono (sound : pass.Sound orgId events connection) (types : other.acceptTypes = connection.acceptTypes)
    (frames : ∀ seq ∈ connection.frames, seq ∈ other.frames) : pass.Sound orgId events other := by
  refine ⟨sound.reached, ?_, sound.known, sound.above, sound.ordered, ?_, ?_, sound.seen, sound.increasing, sound.behind⟩
  · exact fun event member wanted above below => frames _ (sound.sent event member (types ▸ wanted) above below)
  · exact fun event member wanted above => sound.next event member (types ▸ wanted) above
  · exact fun short event member wanted above below => sound.last short event member (types ▸ wanted) above below

theorem Pass.Complete.mono (complete : pass.Complete orgId events connection) (types : other.acceptTypes = connection.acceptTypes)
    (frames : ∀ seq ∈ connection.frames, seq ∈ other.frames) : pass.Complete orgId events other :=
  ⟨complete.increasing, fun event member wanted above below => frames _ (complete.all event member (types ▸ wanted) above below)⟩

theorem Connection.Sound.rewritten (sound : connection.Sound orgId events) (types : other.acceptTypes = connection.acceptTypes)
    (frames : ∀ seq ∈ connection.frames, seq ∈ other.frames)
    (known : ∀ seq ∈ other.frames, seq ∈ connection.frames ∨ ∃ event ∈ events, event.recipientSeq = seq)
    (unacked : ∀ seq ∈ other.sentUnacked, seq ∈ connection.sentUnacked ∨ seq ∈ other.frames)
    (passes : other.passes = connection.passes) (running : ∀ pass ∈ other.pass, pass.Sound orgId events other) :
    other.Sound orgId events := by
  refine ⟨fun seq member => (known seq member).elim (sound.known seq) id, ?_, running, ?_⟩
  · exact fun seq member => (unacked seq member).elim (fun old => frames seq (sound.unacked seq old)) id
  · intro pass member
    obtain ⟨complete, seen⟩ := sound.ended pass (passes ▸ member)
    exact ⟨complete.mono types frames, seen⟩

theorem Connection.Sound.endPass (sound : connection.Sound orgId events) {now : Int} (done : pass.Complete orgId events connection)
    (seen : pass.visible = 0 ∨ ∃ event ∈ events, event.recipientSeq = pass.visible) :
    (connection.endPass pass now).Sound orgId events := by
  refine ⟨sound.known, sound.unacked, fun pass none => by simp [Connection.endPass] at none, ?_⟩
  intro ended member
  rcases List.mem_append.mp member with old | new
  · obtain ⟨complete, known⟩ := sound.ended ended old
    exact ⟨complete.mono rfl fun _ member => member, known⟩
  · rw [List.mem_singleton.mp new]
    exact ⟨done.mono rfl fun _ member => member, seen⟩

theorem Connection.Sound.goOn (sound : connection.Sound orgId events) {now : Int} (left : pass.Sound orgId events connection) :
    (connection.goOn pass now).Sound orgId events := by
  unfold Connection.goOn
  by_cases beyond : pass.rows = [] ∧ pass.full = false
  · rw [if_pos beyond]
    refine sound.endPass ⟨left.increasing, ?_⟩ left.seen
    intro event member wanted above below
    rcases le_or_gt event.recipientSeq pass.floor with passed | ahead
    · exact left.sent event member wanted above passed
    · obtain ⟨row, inside, -⟩ := left.last beyond.2 event member wanted ahead below
      rw [beyond.1] at inside
      cases inside
  · rw [if_neg beyond]
    refine sound.rewritten rfl (fun _ member => member) (fun _ member => .inl member) (fun _ member => .inl member) rfl ?_
    intro running here
    obtain rfl : pass = running := Option.some.inj here
    exact left.mono rfl fun _ member => member

theorem Pass.Sound.passed {row : Event} {rest : List Event} (sound : pass.Sound orgId events connection)
    (rows : pass.rows = row :: rest) (types : other.acceptTypes = connection.acceptTypes)
    (frames : ∀ seq ∈ connection.frames, seq ∈ other.frames) (gone : row.recipientSeq ∈ other.frames) {sent : List Int}
    (inOrder : sent.Pairwise (· < ·)) (behind : ∀ seq ∈ sent, seq ≤ row.recipientSeq) :
    { pass with rows := rest, floor := row.recipientSeq, frames := sent }.Sound orgId events other := by
  have inside : row ∈ pass.rows := rows ▸ List.mem_cons_self
  have later : ∀ other ∈ rest, other ∈ pass.rows := fun other member => rows ▸ List.mem_cons_of_mem row member
  have ordered := sound.ordered
  have next := sound.next
  have last := sound.last
  rw [rows] at ordered next last
  have first : ∀ later ∈ rest, row.recipientSeq < later.recipientSeq := fun later member => List.rel_of_pairwise_cons ordered member
  have above := sound.above row inside
  refine ⟨.inr (sound.known row inside), ?_, fun other member => sound.known other (later other member), first,
    ordered.of_cons, ?_, ?_, sound.seen, inOrder, behind⟩
  · intro event member wanted start below
    rcases le_or_gt event.recipientSeq pass.floor with passed | ahead
    · exact frames _ (sound.sent event member (types ▸ wanted) start passed)
    · rcases next event member (types ▸ wanted) ahead with ⟨found, here, same⟩ | behind
      · rcases List.mem_cons.mp here with rfl | after
        · exact same ▸ gone
        · have := first found after
          simp only at below
          omega
      · have := behind row List.mem_cons_self
        simp only at below
        omega
  · intro event member wanted ahead
    simp only at ahead
    rcases next event member (types ▸ wanted) (by omega) with ⟨found, here, same⟩ | behind
    · rcases List.mem_cons.mp here with rfl | after
      · omega
      · exact .inl ⟨found, after, same⟩
    · exact .inr fun other member => behind other (List.mem_cons_of_mem row member)
  · intro short event member wanted ahead below
    simp only at ahead
    obtain ⟨found, here, same⟩ := last short event member (types ▸ wanted) (by omega) below
    rcases List.mem_cons.mp here with rfl | after
    · omega
    · exact ⟨found, after, same⟩

theorem Connection.Sound.sendRow (sound : connection.Sound orgId events) (running : connection.pass = some pass) {row : Event}
    {rest : List Event} (rows : pass.rows = row :: rest) (now : Int) : (connection.sendRow pass row rest now).Sound orgId events := by
  have left := sound.running pass running
  have inside : row ∈ pass.rows := rows ▸ List.mem_cons_self
  have above := left.above row inside
  unfold Connection.sendRow
  rw [if_neg (by omega : ¬ row.recipientSeq ≤ pass.floor)]
  by_cases already : row.recipientSeq ∈ connection.sentUnacked
  · rw [if_pos already]
    have behind : ∀ seq ∈ pass.frames, seq ≤ row.recipientSeq := fun seq member => by
      have := left.behind seq member
      omega
    exact sound.goOn (left.passed rows rfl (fun _ member => member) (sound.unacked _ already) left.increasing behind)
  · rw [if_neg already]
    obtain ⟨settledMax, fresh, same, -⟩ := @Connection.transmit_eq connection row pass.isBackfill
    rw [same]
    have grows : ∀ seq ∈ connection.frames, seq ∈ connection.frames ++ [row.recipientSeq] :=
      fun seq member => List.mem_append_left _ member
    have gone : row.recipientSeq ∈ connection.frames ++ [row.recipientSeq] := by simp
    apply Connection.Sound.goOn
    · refine sound.rewritten rfl grows ?_ ?_ rfl ?_
      · intro seq member
        rcases List.mem_append.mp member with old | new
        · exact .inl old
        · rw [List.mem_singleton.mp new]
          exact .inr (left.known row inside)
      · intro seq member
        rcases List.mem_append.mp member with old | new
        · exact .inl old
        · exact .inr (List.mem_singleton.mp new ▸ gone)
      · exact fun pass here => (sound.running pass here).mono rfl grows
    apply left.passed rows
    · rfl
    · exact grows
    · exact gone
    · refine List.pairwise_append.mpr ⟨left.increasing, List.pairwise_singleton _ _, ?_⟩
      intro seq member last new
      have := left.behind seq member
      rw [List.mem_singleton.mp new]
      omega
    · intro seq member
      rcases List.mem_append.mp member with old | new
      · have := left.behind seq old
        omega
      · exact le_of_eq (List.mem_singleton.mp new)

theorem fetchEvents_increasing (increasing : events.Pairwise fun first second => first.recipientSeq < second.recipientSeq)
    (afterSeq : Int) (limit : Nat) (types : AcceptTypes) : (fetchEvents events afterSeq limit orgId types).Pairwise
      fun first second => first.recipientSeq < second.recipientSeq := by
  have kept := increasing.filter fun event => decide (event.Wanted orgId types ∧ afterSeq < event.recipientSeq)
  unfold fetchEvents
  rw [List.Pairwise.insertionSort_eq (kept.imp fun below => le_of_lt below)]
  exact kept.sublist (List.take_sublist _ _)

theorem last_seq (events : List Event) :
    (∀ event ∈ events, event.recipientSeq ≤ events.foldr (fun event last => max event.recipientSeq last) 0) ∧
    (events.foldr (fun event last => max event.recipientSeq last) 0 = 0 ∨
      ∃ event ∈ events, event.recipientSeq = events.foldr (fun event last => max event.recipientSeq last) 0) := by
  induction events with
  | nil => exact ⟨by simp, .inl rfl⟩
  | cons head rest ih =>
    obtain ⟨bound, source⟩ := ih
    simp only [List.foldr_cons]
    generalize rest.foldr (fun event last => max event.recipientSeq last) 0 = last at bound source
    refine ⟨?_, ?_⟩
    · intro event member
      rcases List.mem_cons.mp member with rfl | later
      · omega
      · have := bound event later
        omega
    · by_cases higher : last ≤ head.recipientSeq
      · exact .inr ⟨head, List.mem_cons_self, by omega⟩
      · rw [max_eq_right (by omega)]
        exact source.imp_right fun ⟨event, member, same⟩ => ⟨event, List.mem_cons_of_mem head member, same⟩

theorem Connection.Sound.fetch (settings : Settings) (sound : connection.Sound settings.orgId events)
    (increasing : events.Pairwise fun first second => first.recipientSeq < second.recipientSeq)
    (running : connection.pass = some pass) (now : Int) :
    (connection.fetch settings events pass now).Sound settings.orgId events := by
  have left := sound.running pass running
  have positive := settings.backfillLimit_pos
  obtain ⟨bound, source⟩ := last_seq events
  have first := fun (event : Event) member wanted above =>
    @fetchEvents_first events pass.floor settings.backfillLimit settings.orgId connection.acceptTypes event member wanted above
  have inOrder := @fetchEvents_increasing settings.orgId events increasing pass.floor settings.backfillLimit connection.acceptTypes
  have chosen := fun (event : Event) member =>
    @mem_fetchEvents events pass.floor settings.backfillLimit settings.orgId connection.acceptTypes event member
  unfold Connection.fetch
  generalize fetchEvents events pass.floor settings.backfillLimit settings.orgId connection.acceptTypes = rows at first inOrder chosen
  by_cases none : rows = []
  · rw [if_pos none]
    refine sound.endPass ⟨left.increasing, ?_⟩ source
    intro event member wanted above _
    rcases le_or_gt event.recipientSeq pass.floor with passed | ahead
    · exact left.sent event member wanted above passed
    · rcases first event member wanted ahead with found | ⟨full, -⟩
      · rw [none] at found
        cases found
      · rw [none, List.length_nil] at full
        omega
  · rw [if_neg none]
    refine sound.rewritten rfl (fun _ member => member) (fun _ member => .inl member) (fun _ member => .inl member) rfl ?_
    intro fetched here
    obtain rfl := Option.some.inj here
    refine ⟨left.reached, left.sent, fun row member => ⟨row, (chosen row member).1, rfl⟩, fun row member => (chosen row member).2.2,
      inOrder, ?_, ?_, source, left.increasing, left.behind⟩
    · intro event member wanted above
      by_cases found : ∃ row ∈ rows, row.recipientSeq = event.recipientSeq
      · exact .inl found
      · right
        intro row inside
        rcases first event member wanted above with chosen | ⟨-, behind⟩
        · exact absurd ⟨event, chosen, rfl⟩ found
        · exact lt_of_le_of_ne (behind row inside) fun same => found ⟨row, inside, same⟩
    · intro short event member wanted above _
      rcases first event member wanted above with chosen | ⟨full, -⟩
      · exact ⟨event, chosen, rfl⟩
      · simp [full] at short

theorem Pass.Sound.begins (isBackfill : Bool) (scanFrom : Int) :
    ({ isBackfill, scanFrom, floor := scanFrom } : Pass).Sound orgId events connection := by
  refine ⟨.inl rfl, ?_, by simp, by simp, List.Pairwise.nil, fun _ _ _ _ => .inr (by simp), by simp, .inl rfl, List.Pairwise.nil, by simp⟩
  intro event member wanted above below
  simp only at above below
  omega

theorem Connection.Sound.wake (sound : connection.Sound orgId events) (ackedSeq : Option Int) :
    (connection.wake ackedSeq).Sound orgId events := by
  refine sound.rewritten rfl (fun _ member => member) (fun _ member => .inl member) ?_ rfl ?_
  · exact fun seq member => .inl (List.mem_of_mem_filter member)
  · intro pass here
    obtain rfl := Option.some.inj here
    exact Pass.Sound.begins false _

theorem Connection.Sound.start (sound : connection.Sound orgId events) (replaySkip now : Int) (settings : Settings) :
    (connection.start replaySkip now settings).Sound orgId events := by
  refine sound.rewritten rfl (fun _ member => member) (fun _ member => .inl member) (fun _ member => .inl member) rfl ?_
  intro pass here
  obtain rfl := Option.some.inj here
  exact Pass.Sound.begins true _

theorem Connection.Sound.retired (sound : connection.Sound orgId events) (stage : Stage) (closedAt : Option Int) (recording : Bool) :
    ({ connection with stage, closedAt, recording } : Connection).Sound orgId events := by
  refine sound.rewritten rfl (fun _ member => member) (fun _ member => .inl member) (fun _ member => .inl member) rfl ?_
  exact fun pass here => (sound.running pass here).mono rfl fun _ member => member

end Rows

namespace World
variable {settings : Settings} {world : World}

/-- What holds between two steps of every run: every seq that was sent or acknowledged is one of a row. -/
structure Sound (settings : Settings) (world : World) : Prop where
  writers : world.writers.Sound
  honest : world.acks.Honest
  requests : ∀ request ∈ world.acks.requests, ∃ event ∈ world.events, event.recipientSeq = request.seq
  connections : ∀ connection ∈ world.connections, connection.Sound settings.orgId world.events

theorem Sound.initial : Sound settings {} :=
  ⟨Writers.Sound.initial, Acks.Honest.initial, by simp, by simp⟩

theorem mem_onConnection {id : Nat} {stage : Stage} {change : Connection → Connection} {connection : Connection}
    (member : connection ∈ (world.onConnection id stage change).connections) :
    connection ∈ world.connections ∨ ∃ old, world.connections[id]? = some old ∧ old.stage = stage ∧ connection = change old := by
  obtain ⟨position, found⟩ := List.mem_iff_getElem?.mp member
  simp only [onConnection, List.getElem?_modify] at found
  by_cases same : id = position
  · subst position
    cases present : world.connections[id]? with
    | none => simp [present] at found
    | some old =>
      simp only [present, ite_true] at found
      by_cases there : old.stage = stage
      · right
        refine ⟨old, rfl, there, ?_⟩
        simpa [there] using (Option.some.inj found).symm
      · left
        have unchanged : old = connection := by simpa [there] using Option.some.inj found
        exact unchanged ▸ List.mem_of_getElem? present
  · simp only [same, ite_false, id_map'] at found
    exact .inl (List.mem_of_getElem? found)

theorem Sound.onConnection (sound : world.Sound settings) {id : Nat} {stage : Stage} {change : Connection → Connection}
    (kept : ∀ connection, connection.Sound settings.orgId world.events → (change connection).Sound settings.orgId world.events) :
    (world.onConnection id stage change).Sound settings := by
  refine ⟨sound.writers, sound.honest, sound.requests, ?_⟩
  intro connection member
  rcases mem_onConnection member with old | ⟨old, present, -, rfl⟩
  · exact sound.connections connection old
  · exact kept old (sound.connections old (List.mem_of_getElem? present))

theorem Sound.later (sound : world.Sound settings) {writers : Writers} {acks : Acks} (kept : writers.Sound) (honest : acks.Honest)
    (grown : Grown world.events writers.events)
    (requests : ∀ request ∈ acks.requests, ∃ event ∈ world.events, event.recipientSeq = request.seq) :
    ({ world with writers, acks } : World).Sound settings :=
  ⟨kept, honest, fun request member => grown.seq (requests request member),
    fun connection member => (sound.connections connection member).later grown⟩

theorem Sound.acknowledge (sound : world.Sound settings) (event : AckEvent) : (world.acknowledge settings event).Sound settings := by
  have honest := sound.honest.step event
  have requests : (∀ seq, event = .arrive seq → world.Received seq) → ∀ request ∈ (world.acks.step event).requests,
      ∃ row ∈ world.events, row.recipientSeq = request.seq := by
    intro received request member
    rcases Acks.step_origin event member with ⟨old, there, same⟩ | arrives
    · exact same ▸ sound.requests old there
    · obtain ⟨connection, present, sent⟩ := received _ arrives
      exact (sound.connections connection present).known _ sent
  have plain := fun received => sound.later sound.writers honest (Grown.refl _) (requests received)
  cases event with
  | arrive seq =>
    simp only [World.acknowledge]
    split
    · next received => exact plain fun other same => AckEvent.arrive.inj same ▸ received
    · exact sound
  | commit id =>
    simp only [World.acknowledge]
    split
    · next seq _ _ =>
      exact sound.later (sound.writers.marked settings.orgId seq) honest (Grown.marked _ _ _) (requests fun _ same => by cases same)
    · exact sound
  | read id | write id | abort id => exact plain fun _ same => by cases same

theorem Sound.step (sound : world.Sound settings) (input : Input) : (world.step settings input).Sound settings := by
  have increasing := sound.writers.dense.increasing
  cases input with
  | write event => exact sound.later (sound.writers.step event) sound.honest (sound.writers.grown event) sound.requests
  | connect key types header =>
    refine ⟨sound.writers, sound.honest, sound.requests, ?_⟩
    intro connection member
    rcases List.mem_append.mp member with old | new
    · exact sound.connections connection old
    · rw [List.mem_singleton.mp new]
      exact ⟨by simp, by simp, by simp, by simp⟩
  | start id store => exact sound.onConnection fun connection kept => kept.start _ _ _
  | fetch id =>
    apply sound.onConnection
    intro connection kept
    unfold World.fetched
    split
    · next pass running =>
      split
      · exact kept.fetch settings increasing running _
      · exact kept
    · exact kept
  | send id =>
    apply sound.onConnection
    intro connection kept
    unfold World.sent
    split
    · next pass running =>
      split
      · next row rest rows => exact kept.sendRow running rows _
      · exact kept
    · exact kept
  | wake id =>
    apply sound.onConnection
    intro connection kept
    unfold World.woken
    split
    · exact kept
    · exact kept.wake _
  | close id => exact sound.onConnection fun connection kept => kept.retired _ _ _
  | record id store =>
    simp only [World.step, World.record]
    split
    · next connection present =>
      split
      · refine ⟨sound.writers, sound.honest, sound.requests, ?_⟩
        intro other member
        rcases List.mem_or_eq_of_mem_set member with old | rfl
        · exact sound.connections other old
        · exact (sound.connections connection (List.mem_of_getElem? present)).retired _ _ _
      · exact sound
    · exact sound
  | ack event => exact sound.acknowledge event
  | forget store key types => exact ⟨sound.writers, sound.honest, sound.requests, sound.connections⟩
  | wait seconds => exact ⟨sound.writers, sound.honest, sound.requests, sound.connections⟩

end World

/-- What keeps a connection from sending a seq twice: each that it sent is remembered, or lies
before everything that it will send while the cursor does not move back. -/
structure Connection.Once (ackedSeq : Option Int) (connection : Connection) : Prop where
  nodup : connection.frames.Nodup
  waiting : connection.stage = .arrived → connection.frames = []
  running : ∀ pass ∈ connection.pass, pass.scanFrom ≤ pass.floor ∧ pass.scanFrom ≤ max connection.startSeq (ackedSeq.getD 0) ∧
    ∀ seq ∈ connection.frames, seq ∈ connection.sentUnacked ∨ seq ≤ pass.scanFrom
  covered : ∀ seq ∈ connection.frames, seq ∈ connection.sentUnacked ∨ seq ≤ max connection.startSeq (ackedSeq.getD 0)

section Once
variable {connection : Connection} {ackedSeq : Option Int} {pass : Pass} {orgId : Nat} {events : List Event}

theorem Connection.Once.later (once : connection.Once ackedSeq) {later : Option Int} (forward : ackedSeq.getD 0 ≤ later.getD 0) :
    connection.Once later := by
  have higher : max connection.startSeq (ackedSeq.getD 0) ≤ max connection.startSeq (later.getD 0) := by omega
  refine ⟨once.nodup, once.waiting, ?_, ?_⟩
  · intro pass here
    obtain ⟨floor, bound, sent⟩ := once.running pass here
    exact ⟨floor, le_trans bound higher, sent⟩
  · intro seq member
    exact (once.covered seq member).imp_right fun below => le_trans below higher

theorem Connection.Once.endPass (once : connection.Once ackedSeq) (now : Int) : (connection.endPass pass now).Once ackedSeq :=
  ⟨once.nodup, once.waiting, by simp [Connection.endPass], once.covered⟩

theorem Connection.Once.goOn (once : connection.Once ackedSeq) (running : connection.pass = some pass) {next : Pass} {now : Int}
    (from_ : next.scanFrom = pass.scanFrom) (floor : pass.floor ≤ next.floor) : (connection.goOn next now).Once ackedSeq := by
  obtain ⟨start, bound, sent⟩ := once.running pass running
  unfold Connection.goOn
  split
  · exact once.endPass now
  · refine ⟨once.nodup, once.waiting, ?_, once.covered⟩
    intro current here
    obtain rfl := Option.some.inj here
    rw [from_]
    exact ⟨by omega, bound, sent⟩

theorem Connection.Once.sendRow (once : connection.Once ackedSeq) (sound : connection.Sound orgId events)
    (running : connection.pass = some pass) (streaming : connection.stage = .streaming) {row : Event} {rest : List Event}
    (rows : pass.rows = row :: rest) (now : Int) : (connection.sendRow pass row rest now).Once ackedSeq := by
  have above := (sound.running pass running).above row (rows ▸ List.mem_cons_self)
  obtain ⟨start, bound, sent⟩ := once.running pass running
  unfold Connection.sendRow
  rw [if_neg (by omega : ¬ row.recipientSeq ≤ pass.floor)]
  by_cases already : row.recipientSeq ∈ connection.sentUnacked
  · rw [if_pos already]
    exact once.goOn running rfl (le_of_lt above)
  · rw [if_neg already]
    obtain ⟨settledMax, fresh, same, -⟩ := @Connection.transmit_eq connection row pass.isBackfill
    rw [same]
    have unsent : row.recipientSeq ∉ connection.frames := by
      intro before
      rcases sent _ before with remembered | passed
      · exact already remembered
      · omega
    have remembers : ∀ {limit : Int}, (∀ seq ∈ connection.frames, seq ∈ connection.sentUnacked ∨ seq ≤ limit) →
        ∀ seq ∈ connection.frames ++ [row.recipientSeq], seq ∈ connection.sentUnacked ++ [row.recipientSeq] ∨ seq ≤ limit := by
      intro limit held seq member
      rcases List.mem_append.mp member with old | new
      · exact (held seq old).imp_left (List.mem_append_left _)
      · exact .inl (List.mem_append_right _ new)
    apply Connection.Once.goOn
    · refine ⟨?_, ?_, ?_, remembers once.covered⟩
      · exact List.nodup_append.mpr ⟨once.nodup, List.nodup_singleton _, fun seq member last new same =>
          unsent (List.mem_singleton.mp new ▸ same ▸ member)⟩
      · intro waiting
        rw [show connection.stage = .arrived from waiting] at streaming
        cases streaming
      · intro current here
        obtain ⟨start, bound, sent⟩ := once.running current here
        exact ⟨start, bound, remembers sent⟩
    · exact running
    · rfl
    · exact le_of_lt above

theorem Connection.Once.fetch (once : connection.Once ackedSeq) (running : connection.pass = some pass) (settings : Settings) (now : Int) :
    (connection.fetch settings events pass now).Once ackedSeq := by
  obtain ⟨start, bound, sent⟩ := once.running pass running
  simp only [Connection.fetch]
  split
  · exact once.endPass now
  · refine ⟨once.nodup, once.waiting, ?_, once.covered⟩
    intro current here
    obtain rfl := Option.some.inj here
    exact ⟨start, bound, sent⟩

theorem Connection.Once.wake (once : connection.Once ackedSeq) : (connection.wake ackedSeq).Once ackedSeq := by
  have trimmed : ∀ seq ∈ connection.frames, seq ∈ (connection.wake ackedSeq).sentUnacked ∨ seq ≤ max connection.startSeq (ackedSeq.getD 0) := by
    intro seq member
    by_cases passed : seq ≤ max connection.startSeq (ackedSeq.getD 0)
    · exact .inr passed
    · rcases once.covered seq member with remembered | below
      · exact .inl (List.mem_filter.mpr ⟨remembered, by simpa using passed⟩)
      · exact absurd below passed
  refine ⟨once.nodup, once.waiting, ?_, trimmed⟩
  intro current here
  obtain rfl := Option.some.inj here
  exact ⟨le_refl _, le_refl _, trimmed⟩

theorem Connection.Once.start (once : connection.Once ackedSeq) (arrived : connection.stage = .arrived) (replaySkip now : Int)
    (settings : Settings) : (connection.start replaySkip now settings).Once ackedSeq := by
  have nothing : connection.frames = [] := once.waiting arrived
  refine ⟨once.nodup, fun _ => nothing, ?_, ?_⟩
  · intro current here
    obtain rfl := Option.some.inj here
    refine ⟨le_refl _, le_max_left _ _, ?_⟩
    intro seq member
    rw [show (connection.start replaySkip now settings).frames = [] from nothing] at member
    cases member
  · intro seq member
    rw [show (connection.start replaySkip now settings).frames = [] from nothing] at member
    cases member

end Once

namespace World
variable {settings : Settings} {world : World}

/-- The input is the commit of an acknowledgement that a larger one overtook. -/
def Overtaken (world : World) : Input → Prop
  | .ack event => world.acks.Overtaken event
  | _ => False

/-- What a run keeps in which no acknowledgement is overtaken. -/
structure Forward (settings : Settings) (world : World) : Prop where
  sound : world.Sound settings
  acks : world.acks.Sound
  once : ∀ connection ∈ world.connections, connection.Once world.acks.ackedSeq

theorem Forward.onConnection (forward : world.Forward settings) {id : Nat} {stage : Stage} {change : Connection → Connection}
    (sound : (world.onConnection id stage change).Sound settings)
    (once : ∀ connection ∈ world.connections, connection.stage = stage → (change connection).Once world.acks.ackedSeq) :
    (world.onConnection id stage change).Forward settings := by
  refine ⟨sound, forward.acks, ?_⟩
  intro connection member
  rcases mem_onConnection member with old | ⟨old, present, there, rfl⟩
  · exact forward.once connection old
  · exact once old (List.mem_of_getElem? present) there

theorem Sound.cursor (sound : world.Sound settings) : ∀ top ∈ world.acks.ackedSeq, 1 ≤ top := by
  intro top here
  obtain ⟨request, member, -, rfl⟩ := Acks.mem_acknowledged.mp (sound.honest.source top here)
  obtain ⟨event, inside, same⟩ := sound.requests request member
  have bounds := sound.writers.dense.bounds inside
  omega

theorem Forward.acknowledge (forward : world.Forward settings) (event : AckEvent) (first : ¬ world.acks.Overtaken event) :
    (world.acknowledge settings event).Forward settings := by
  have sound := forward.sound.acknowledge event
  obtain ⟨connections, unchanged | stepped⟩ := @acknowledge_acks settings world event
  · refine ⟨sound, unchanged ▸ forward.acks, ?_⟩
    rw [connections, unchanged]
    exact forward.once
  · have advances := ((forward.acks.advances_iff event).mp first).1
    rw [← stepped] at advances
    refine ⟨sound, stepped ▸ forward.acks.step event first, ?_⟩
    rw [connections]
    intro connection member
    apply (forward.once connection member).later
    cases before : world.acks.ackedSeq with
    | none =>
      cases after : (world.acknowledge settings event).acks.ackedSeq with
      | none => exact le_refl _
      | some top =>
        have positive := sound.cursor top after
        change 0 ≤ top
        omega
    | some top =>
      obtain ⟨later, there, above⟩ := advances top before
      rw [show (world.acknowledge settings event).acks.ackedSeq = some later from there]
      exact above

theorem Forward.step (forward : world.Forward settings) (input : Input) (first : ¬ world.Overtaken input) :
    (world.step settings input).Forward settings := by
  have sound := forward.sound.step input
  cases input with
  | write event | forget store key types | wait seconds => exact ⟨sound, forward.acks, forward.once⟩
  | connect key types header =>
    refine ⟨sound, forward.acks, ?_⟩
    intro connection member
    rcases List.mem_append.mp member with old | new
    · exact forward.once connection old
    · rw [List.mem_singleton.mp new]
      exact ⟨List.nodup_nil, fun _ => rfl, by simp, by simp⟩
  | start id store => exact forward.onConnection sound fun connection member arrived => (forward.once connection member).start arrived _ _ _
  | fetch id =>
    apply forward.onConnection sound
    intro connection member _
    unfold World.fetched
    split
    · next pass running =>
      split
      · exact (forward.once connection member).fetch running settings _
      · exact forward.once connection member
    · exact forward.once connection member
  | send id =>
    apply forward.onConnection sound
    intro connection member streaming
    unfold World.sent
    split
    · next pass running =>
      split
      · next row rest rows =>
        exact (forward.once connection member).sendRow (forward.sound.connections connection member) running streaming rows _
      · exact forward.once connection member
    · exact forward.once connection member
  | wake id =>
    apply forward.onConnection sound
    intro connection member _
    unfold World.woken
    split
    · exact forward.once connection member
    · exact (forward.once connection member).wake
  | close id =>
    apply forward.onConnection sound
    intro connection member _
    have once := forward.once connection member
    exact ⟨once.nodup, nofun, once.running, once.covered⟩
  | record id store =>
    refine ⟨sound, ?_, ?_⟩
    · simp only [World.step, World.record]
      split
      · split <;> exact forward.acks
      · exact forward.acks
    · simp only [World.step, World.record]
      split
      · next connection present =>
        split
        · intro other member
          rcases List.mem_or_eq_of_mem_set member with old | rfl
          · exact forward.once other old
          · have once := forward.once connection (List.mem_of_getElem? present)
            exact ⟨once.nodup, once.waiting, once.running, once.covered⟩
        · exact forward.once
      · exact forward.once
  | ack event => exact forward.acknowledge event first

theorem sound_throughout (settings : Settings) (inputs : List Input) :
    Sound settings (Runs.final (step settings) ({} : World) inputs) :=
  Runs.final_invariant (fun _ input sound => sound.step input) Sound.initial inputs

/-- The committed events carry the seqs from 1 on, in commit order; every pass that ended
sent in order and left out no wanted row up to the last one that its last fetch could see. A
connection sends no seq twice as long as no acknowledgement is overtaken by a larger one. -/
theorem stream_delivers (settings : Settings) (inputs : List Input) :
    (Numbered 1 (Runs.final (step settings) ({} : World) inputs).events ∧
      ∀ connection ∈ (Runs.final (step settings) ({} : World) inputs).connections, ∀ pass ∈ connection.passes,
        pass.Complete settings.orgId (Runs.final (step settings) ({} : World) inputs).events connection) ∧
    (Runs.Throughout (step settings) (fun world input => ¬ world.Overtaken input) ({} : World) inputs →
      ∀ connection ∈ (Runs.final (step settings) ({} : World) inputs).connections, connection.frames.Nodup) := by
  have sound := sound_throughout settings inputs
  refine ⟨⟨sound.writers.dense, ?_⟩, ?_⟩
  · exact fun connection member pass ended => ((sound.connections connection member).ended pass ended).1
  · intro every
    have forward : Forward settings (Runs.final (step settings) ({} : World) inputs) := by
      apply every.invariant
      · exact fun _ input first forward => forward.step input first
      · exact ⟨Sound.initial, Acks.Sound.initial, by simp⟩
    exact fun connection member => (forward.once connection member).nodup

/-- A connection was sent 1, 2 and 3, and 1 is acknowledged. The requests for 3 and for 2 read
the cursor at 1; that for 2 commits last, and what was trimmed as acknowledged goes out again. -/
theorem stream_sends_twice : ∃ connection ∈ (Runs.final (step { orgId := 1 }) ({} : World)
    [.write .begin_, .write (.create 0 ⟨11, 1, "dispatched", 0⟩), .write (.create 0 ⟨12, 1, "dispatched", 0⟩),
      .write (.create 0 ⟨13, 1, "dispatched", 0⟩), .write (.commit 0),
      .connect 7 none 0, .start 0 none, .fetch 0, .send 0, .send 0, .send 0,
      .ack (.arrive 1), .ack (.read 0), .ack (.write 0), .ack (.commit 0),
      .ack (.arrive 3), .ack (.arrive 2), .ack (.read 1), .ack (.read 2), .ack (.write 1), .ack (.commit 1),
      .wake 0, .fetch 0, .ack (.write 2), .ack (.commit 2), .wake 0, .fetch 0, .send 0]).connections,
    ¬ connection.frames.Nodup := by
  decide

end World
end Sprintable.Streams
