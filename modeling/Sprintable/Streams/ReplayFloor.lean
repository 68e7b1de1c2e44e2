import Sprintable.Streams.Delivery

/-! What the replay floor leaves out. A connection whose replay ended and that stayed open
for a while records the highest settled seq that it sent; the floor is the lowest of the last
records of its kind, and it says nothing of where the replays began. -/

namespace Sprintable.Streams

/-- The connection was still open `minAliveSec` after its replay. -/
def Connection.Stayed (settings : Settings) (connection : Connection) : Prop :=
  connection.stage = .closed ∧
  ∃ doneAt ∈ connection.replayDoneAt, ∃ endAt ∈ connection.closedAt, settings.minAliveSec ≤ endAt - doneAt

/-- The replay of a connection sent all that is wanted from its start up to the highest settled seq. -/
structure Connection.Settled (orgId : Nat) (events : List Event) (connection : Connection) : Prop where
  covered : ∀ event ∈ events, event.Wanted orgId connection.acceptTypes → connection.startSeq < event.recipientSeq →
    event.recipientSeq ≤ connection.settledMax → event.recipientSeq ∈ connection.frames
  known : connection.settledMax = 0 ∨ ∃ event ∈ events, event.recipientSeq = connection.settledMax
  skip : connection.replaySkip = 0 ∨ ∃ event ∈ events, event.recipientSeq = connection.replaySkip
  backfill : ∀ pass ∈ connection.pass, pass.isBackfill = true → pass.scanFrom = connection.startSeq

section Settled
variable {orgId : Nat} {before after events : List Event} {connection : Connection} {pass : Pass}

theorem Connection.Settled.later (grown : Grown before after) (settled : connection.Settled orgId before) :
    connection.Settled orgId after := by
  refine ⟨?_, settled.known.imp_right grown.seq, settled.skip.imp_right grown.seq, settled.backfill⟩
  intro event member wanted above below
  obtain ⟨old, there, same⟩ := grown.old member settled.known below
  rw [same.1] at above below ⊢
  exact settled.covered old there (same.wanted wanted) above below

theorem Connection.Settled.goOn (settled : connection.Settled orgId events) (now : Int)
    (begins : pass.isBackfill = true → pass.scanFrom = connection.startSeq) : (connection.goOn pass now).Settled orgId events := by
  unfold Connection.goOn
  split
  · exact ⟨settled.covered, settled.known, settled.skip, nofun⟩
  · refine ⟨settled.covered, settled.known, settled.skip, ?_⟩
    intro current here
    obtain rfl := Option.some.inj here
    exact begins

theorem Connection.Settled.sendRow (settled : connection.Settled orgId events) (sound : connection.Sound orgId events)
    (running : connection.pass = some pass) {row : Event} {rest : List Event} (rows : pass.rows = row :: rest) (now : Int) :
    (connection.sendRow pass row rest now).Settled orgId events := by
  have left := sound.running pass running
  have begins := settled.backfill pass running
  simp only [Connection.sendRow]
  split
  · exact settled.goOn now begins
  · split
    · exact settled.goOn now begins
    · obtain ⟨settledMax, fresh, same, reached⟩ := @Connection.transmit_eq connection row pass.isBackfill
      rw [same]
      have grows : ∀ seq ∈ connection.frames, seq ∈ connection.frames ++ [row.recipientSeq] :=
        fun seq member => List.mem_append_left _ member
      have moved : ({ pass with rows := rest, floor := row.recipientSeq, frames := [] } : Pass).Sound orgId events
          { connection with frames := connection.frames ++ [row.recipientSeq] } := by
        apply left.passed rows
        · rfl
        · exact grows
        · simp
        · exact List.Pairwise.nil
        · simp
      apply Connection.Settled.goOn
      · refine ⟨?_, ?_, settled.skip, settled.backfill⟩
        · intro event member wanted above below
          rcases reached with unmoved | ⟨replay, raised⟩
          · exact grows _ (settled.covered event member wanted above (unmoved ▸ below))
          · have start : pass.scanFrom < event.recipientSeq := by
              rw [begins replay]
              exact above
            exact moved.sent event member wanted start (raised ▸ below)
        · rcases reached with unmoved | ⟨-, raised⟩
          · exact unmoved ▸ settled.known
          · obtain ⟨event, member, seq⟩ := left.known row (rows ▸ List.mem_cons_self)
            exact .inr ⟨event, member, seq.trans raised.symm⟩
      · exact begins

theorem Connection.Settled.fetch (settled : connection.Settled orgId events) (running : connection.pass = some pass)
    (settings : Settings) (now : Int) : (connection.fetch settings events pass now).Settled orgId events := by
  simp only [Connection.fetch]
  split
  · refine ⟨settled.covered, settled.known, settled.skip, ?_⟩
    intro current here
    cases here
  · refine ⟨settled.covered, settled.known, settled.skip, ?_⟩
    intro current here
    obtain rfl := Option.some.inj here
    exact settled.backfill pass running

theorem Connection.Settled.wake (settled : connection.Settled orgId events) (ackedSeq : Option Int) :
    (connection.wake ackedSeq).Settled orgId events := by
  refine ⟨settled.covered, settled.known, settled.skip, ?_⟩
  intro current here replay
  obtain rfl := Option.some.inj here
  cases replay

theorem Connection.Settled.start (settled : connection.Settled orgId events) {replaySkip : Int}
    (skip : replaySkip = 0 ∨ ∃ event ∈ events, event.recipientSeq = replaySkip) (now : Int) (settings : Settings) :
    (connection.start replaySkip now settings).Settled orgId events := by
  refine ⟨?_, settled.known, skip, ?_⟩
  · intro event member wanted above below
    exact settled.covered event member wanted (lt_of_le_of_lt (le_max_left _ _) above) below
  · intro current here _
    obtain rfl := Option.some.inj here
    rfl

end Settled

namespace World
variable {settings : Settings} {world : World}

/-- No acknowledgement covers the event. -/
def Unacknowledged (world : World) (event : Event) : Prop := ∀ seq ∈ world.acks.acknowledged, seq < event.recipientSeq

/-- The connection is of this kind, was sent the seq, and stayed open after its replay. -/
def SentBy (settings : Settings) (world : World) (key : Nat) (types : AcceptTypes) (seq : Int) (id : Nat) : Prop :=
  ∃ connection, world.connections[id]? = some connection ∧ connection.key = key ∧ connection.acceptTypes = types ∧
    connection.Stayed settings ∧ seq ∈ connection.frames

/-- As many connections of the kind were sent it as a replay must be attempted. -/
def SentOften (settings : Settings) (world : World) (key : Nat) (types : AcceptTypes) (seq : Int) : Prop :=
  ∃ ids : List Nat, ids.Nodup ∧ settings.attempts ≤ ids.length ∧ ∀ id ∈ ids, world.SentBy settings key types seq id

/-- A connect leaves an unacknowledged event out because of the floor only if it was sent often enough before. -/
def SkipsOnlySent (settings : Settings) (world : World) : Input → Prop
  | .start id store => ∀ connection ∈ world.connections[id]?, connection.stage = .arrived →
      ∀ event ∈ world.events, event.Wanted settings.orgId connection.acceptTypes → world.Unacknowledged event →
        connection.startSeq < event.recipientSeq →
        event.recipientSeq ≤ (connection.start (world.floorOf settings store connection) world.now settings).startSeq →
        world.SentOften settings connection.key connection.acceptTypes event.recipientSeq
  | _ => True

/-- A replay that is recorded began below every unacknowledged event that the floor it read
does not cover: its header did not put its start above one. -/
def BeganBelow (settings : Settings) (world : World) : Input → Prop
  | .record id _ => ∀ connection ∈ world.connections[id]?, connection.recording = true →
      ∀ event ∈ world.events, event.Wanted settings.orgId connection.acceptTypes → world.Unacknowledged event →
        event.recipientSeq ≤ connection.startSeq → event.recipientSeq ≤ connection.replaySkip
  | _ => True

instance (event : Event) : Decidable (world.Unacknowledged event) := inferInstanceAs (Decidable (∀ _ ∈ _, _))

instance BeganBelow.decidable (world : World) (input : Input) : Decidable (world.BeganBelow settings input) :=
  match input with
  | .record id _ => inferInstanceAs (Decidable (∀ connection ∈ world.connections[id]?, connection.recording = true →
      ∀ event ∈ world.events, event.Wanted settings.orgId connection.acceptTypes → world.Unacknowledged event →
        event.recipientSeq ≤ connection.startSeq → event.recipientSeq ≤ connection.replaySkip))
  | .write _ | .connect .. | .start .. | .fetch _ | .send _ | .wake _ | .close _ | .ack _ | .forget .. | .wait _ => .isTrue True.intro

/-- What a run keeps of one connection. -/
structure Ready (settings : Settings) (world : World) (connection : Connection) : Prop where
  settled : connection.Settled settings.orgId world.events
  recording : connection.recording = true → connection.Stayed settings ∧ 0 < connection.settledMax
  skipped : ∀ event ∈ world.events, event.Wanted settings.orgId connection.acceptTypes → world.Unacknowledged event →
    event.recipientSeq ≤ connection.replaySkip → world.SentOften settings connection.key connection.acceptTypes event.recipientSeq

/-- What a run keeps in which every recorded replay began below what it should have sent: a
record is that of a connection of its kind, and covers events that it sent or that were sent often. -/
structure Floored (settings : Settings) (world : World) : Prop where
  sound : world.Sound settings
  ready : ∀ connection ∈ world.connections, world.Ready settings connection
  distinct : (world.records.map Record.connection).Nodup
  from_ : ∀ record ∈ world.records, ∃ connection, world.connections[record.connection]? = some connection ∧
    connection.stage = .closed ∧ connection.recording = false
  known : ∀ record ∈ world.records, ∃ event ∈ world.events, event.recipientSeq = record.sentMax
  covers : ∀ record ∈ world.records, ∀ event ∈ world.events, event.Wanted settings.orgId record.acceptTypes →
    world.Unacknowledged event → event.recipientSeq ≤ record.sentMax →
    world.SentBy settings record.key record.acceptTypes event.recipientSeq record.connection ∨
      world.SentOften settings record.key record.acceptTypes event.recipientSeq

/-- The connections go on, the rows grow, and what was acknowledged stays so. -/
structure Later (settings : Settings) (before after : World) : Prop where
  grown : Grown before.events after.events
  acknowledged : ∀ seq ∈ before.acks.acknowledged, seq ∈ after.acks.acknowledged
  keeps : ∀ (position : Nat) (connection : Connection), before.connections[position]? = some connection →
    ∃ later, after.connections[position]? = some later ∧ connection.Keeps later

section Later
variable {after : World} {key : Nat} {types : AcceptTypes} {seq : Int}

theorem Later.sentBy (later : Later settings world after) {id : Nat} (sent : world.SentBy settings key types seq id) :
    after.SentBy settings key types seq id := by
  obtain ⟨connection, found, rfl, rfl, stayed, member⟩ := sent
  obtain ⟨next, there, kept⟩ := later.keeps id connection found
  refine ⟨next, there, kept.key, kept.types, ?_, kept.frames member⟩
  rcases kept.ended stayed.1 with rfl | rfl
  · exact stayed
  · exact stayed

theorem Later.sentOften (later : Later settings world after) (sent : world.SentOften settings key types seq) :
    after.SentOften settings key types seq := by
  obtain ⟨ids, distinct, enough, all⟩ := sent
  exact ⟨ids, distinct, enough, fun id member => later.sentBy (all id member)⟩

theorem Later.unacknowledged (later : Later settings world after) {event old : Event} (same : event.Same old)
    (open_ : after.Unacknowledged event) : world.Unacknowledged old := by
  intro seq member
  have := open_ seq (later.acknowledged seq member)
  rwa [same.1] at this

theorem Later.ready (later : Later settings world after) {connection : Connection} (ready : world.Ready settings connection) :
    after.Ready settings connection := by
  refine ⟨ready.settled.later later.grown, ready.recording, ?_⟩
  intro event member wanted open_ below
  obtain ⟨old, there, same⟩ := later.grown.old member ready.settled.skip below
  rw [same.1] at below ⊢
  exact later.sentOften (ready.skipped old there (same.wanted wanted) (later.unacknowledged same open_) below)

theorem Floored.next (floored : world.Floored settings) (later : Later settings world after) (sound : after.Sound settings)
    (ready : ∀ connection ∈ after.connections, after.Ready settings connection) (records : after.records.Sublist world.records) :
    after.Floored settings := by
  refine ⟨sound, ready, floored.distinct.sublist (records.map _), ?_, ?_, ?_⟩
  · intro record member
    obtain ⟨connection, found, closed, written⟩ := floored.from_ record (records.subset member)
    obtain ⟨next, there, kept⟩ := later.keeps record.connection connection found
    refine ⟨next, there, ?_⟩
    rcases kept.ended closed with rfl | rfl
    · exact ⟨closed, written⟩
    · exact ⟨closed, rfl⟩
  · exact fun record member => later.grown.seq (floored.known record (records.subset member))
  · intro record member event inside wanted open_ below
    have there := records.subset member
    obtain ⟨old, was, same⟩ := later.grown.old inside (.inr (floored.known record there)) below
    rw [same.1] at below ⊢
    exact (floored.covers record there old was (same.wanted wanted) (later.unacknowledged same open_) below).imp
      later.sentBy later.sentOften

end Later

theorem Floored.floorOf (floored : world.Floored settings) (store : Option Nat) (connection : Connection) :
    (world.floorOf settings store connection = 0 ∨
      ∃ event ∈ world.events, event.recipientSeq = world.floorOf settings store connection) ∧
    ∀ event ∈ world.events, event.Wanted settings.orgId connection.acceptTypes → world.Unacknowledged event →
      event.recipientSeq ≤ world.floorOf settings store connection →
      world.SentOften settings connection.key connection.acceptTypes event.recipientSeq := by
  have nothing : ∀ event ∈ world.events, ¬ event.recipientSeq ≤ 0 := fun event member below => by
    have := floored.sound.writers.dense.bounds member
    omega
  unfold World.floorOf
  cases store with
  | none => exact ⟨.inl rfl, fun event member _ _ below => absurd below (nothing event member)⟩
  | some store =>
    simp only [replayFloor, ← List.map_take]
    have kind : ∀ record ∈ (world.recorded store connection.key connection.acceptTypes).take settings.attempts,
        record ∈ world.records ∧ record.key = connection.key ∧ record.acceptTypes = connection.acceptTypes := by
      intro record member
      obtain ⟨there, same⟩ := List.mem_filter.mp (List.mem_of_mem_take member)
      exact ⟨there, (of_decide_eq_true same).2⟩
    have distinct : (((world.recorded store connection.key connection.acceptTypes).take settings.attempts).map Record.connection).Nodup :=
      floored.distinct.sublist (((List.take_sublist _ _).trans List.filter_sublist).map _)
    generalize (world.recorded store connection.key connection.acceptTypes).take settings.attempts = kept at kind distinct
    by_cases few : settings.attempts = 0 ∨ (kept.map Record.sentMax).length < settings.attempts
    · rw [if_pos few]
      exact ⟨.inl rfl, fun event member _ _ below => absurd below (nothing event member)⟩
    · rw [if_neg few]
      cases lowest : (kept.map Record.sentMax).min? with
      | none =>
        rw [List.min?_eq_none_iff] at lowest
        simp [lowest] at few
      | some least =>
        obtain ⟨member, bound⟩ := List.min?_eq_some_iff.mp lowest
        refine ⟨?_, ?_⟩
        · obtain ⟨record, there, rfl⟩ := List.mem_map.mp member
          exact .inr (floored.known record (kind record there).1)
        · intro event inside wanted open_ below
          change event.recipientSeq ≤ least at below
          have each : ∀ record ∈ kept, world.SentBy settings connection.key connection.acceptTypes event.recipientSeq record.connection ∨
              world.SentOften settings connection.key connection.acceptTypes event.recipientSeq := by
            intro record there
            obtain ⟨recorded, key, types⟩ := kind record there
            have covers := floored.covers record recorded event inside (types ▸ wanted) open_
              (le_trans below (bound _ (List.mem_map_of_mem there)))
            rwa [key, types] at covers
          by_cases often : world.SentOften settings connection.key connection.acceptTypes event.recipientSeq
          · exact often
          · refine ⟨kept.map Record.connection, distinct, ?_, ?_⟩
            · simp only [List.length_map] at few ⊢
              omega
            · intro id listed
              obtain ⟨record, there, rfl⟩ := List.mem_map.mp listed
              exact (each record there).resolve_right often

theorem Floored.skips (floored : world.Floored settings) (input : Input) : world.SkipsOnlySent settings input := by
  cases input with
  | start id store =>
    intro connection found arrived event member wanted open_ above below
    apply (floored.floorOf store connection).2 event member wanted open_
    change event.recipientSeq ≤ max connection.startSeq _ at below
    omega
  | _ => exact True.intro

theorem acknowledge_rest (event : AckEvent) : (world.acknowledge settings event).connections = world.connections ∧
    (world.acknowledge settings event).records = world.records := by
  refine ⟨(acknowledge_acks event).1, ?_⟩
  unfold World.acknowledge
  cases event with
  | arrive seq => dsimp only; split <;> rfl
  | commit id => dsimp only; split <;> rfl
  | read id | write id | abort id => rfl

theorem later_step (sound : world.Sound settings) (input : Input) : Later settings world (world.step settings input) := by
  refine ⟨?_, ?_, fun position connection found => keeps_step input found⟩
  · cases input with
    | write event => exact sound.writers.grown event
    | ack event =>
      change Grown world.events (world.acknowledge settings event).events
      cases event with
      | commit id =>
        simp only [World.acknowledge]
        split
        · exact Grown.marked _ _ _
        · exact Grown.refl _
      | arrive seq =>
        simp only [World.acknowledge]
        split <;> exact Grown.refl _
      | read id | write id | abort id => exact Grown.refl _
    | record id store =>
      simp only [World.step, World.record]
      split
      · split <;> exact Grown.refl _
      · exact Grown.refl _
    | connect key types header | start id store | fetch id | send id | wake id | close id | forget store key types | wait seconds =>
      exact Grown.refl _
  · intro seq member
    cases input with
    | ack event =>
      change seq ∈ (world.acknowledge settings event).acks.acknowledged
      rcases (@acknowledge_acks settings world event).2 with same | stepped
      · exact same ▸ member
      · exact stepped ▸ Acks.step_acknowledged event member
    | record id store =>
      simp only [World.step, World.record]
      split
      · split <;> exact member
      · exact member
    | write event | connect key types header | start id store | fetch id | send id | wake id | close id | forget store key types
    | wait seconds => exact member

theorem Ready.streams {connection other : Connection} (ready : world.Ready settings connection) (open_ : connection.stage ≠ .closed)
    (settled : other.Settled settings.orgId world.events) (key : other.key = connection.key)
    (types : other.acceptTypes = connection.acceptTypes) (skip : other.replaySkip = connection.replaySkip)
    (recording : other.recording = connection.recording) : world.Ready settings other := by
  refine ⟨settled, fun records => ?_, ?_⟩
  · exact absurd (ready.recording (recording ▸ records)).1.1 open_
  · rw [key, types, skip]
    exact ready.skipped

theorem Floored.onConnection (floored : world.Floored settings) {id : Nat} {stage : Stage} {change : Connection → Connection}
    (later : Later settings world (world.onConnection id stage change)) (sound : (world.onConnection id stage change).Sound settings)
    (ready : ∀ connection ∈ world.connections, connection.stage = stage → world.Ready settings connection →
      world.Ready settings (change connection)) : (world.onConnection id stage change).Floored settings := by
  apply floored.next later sound
  · intro connection member
    apply later.ready
    rcases mem_onConnection member with old | ⟨old, present, there, rfl⟩
    · exact floored.ready connection old
    · have inside := List.mem_of_getElem? present
      exact ready old inside there (floored.ready old inside)
  · exact List.Sublist.refl _

theorem goOn_columns (connection : Connection) (pass : Pass) (now : Int) : (connection.goOn pass now).key = connection.key ∧
    (connection.goOn pass now).acceptTypes = connection.acceptTypes ∧ (connection.goOn pass now).replaySkip = connection.replaySkip ∧
    (connection.goOn pass now).recording = connection.recording := by
  unfold Connection.goOn
  split <;> exact ⟨rfl, rfl, rfl, rfl⟩

theorem sendRow_columns (connection : Connection) (pass : Pass) (row : Event) (rest : List Event) (now : Int) :
    (connection.sendRow pass row rest now).key = connection.key ∧
    (connection.sendRow pass row rest now).acceptTypes = connection.acceptTypes ∧
    (connection.sendRow pass row rest now).replaySkip = connection.replaySkip ∧
    (connection.sendRow pass row rest now).recording = connection.recording := by
  simp only [Connection.sendRow]
  split
  · exact goOn_columns _ _ _
  · split
    · exact goOn_columns _ _ _
    · obtain ⟨settledMax, fresh, same, -⟩ := @Connection.transmit_eq connection row pass.isBackfill
      rw [same]
      exact goOn_columns _ _ _

theorem Floored.record (floored : world.Floored settings) (id store : Nat) (began : world.BeganBelow settings (.record id store)) :
    (world.step settings (.record id store)).Floored settings := by
  have later := later_step floored.sound (.record id store)
  have sound := floored.sound.step (.record id store)
  have same : world.connections[id]? = none ∨ (∃ connection, world.connections[id]? = some connection ∧ connection.recording = false) →
      world.step settings (.record id store) = world := by
    rintro (none | ⟨connection, found, written⟩)
    · simp [World.step, World.record, none]
    · simp [World.step, World.record, found, written]
  cases found : world.connections[id]? with
  | none => exact (same (.inl found)).symm ▸ floored
  | some connection =>
    cases recording : connection.recording with
    | false => exact (same (.inr ⟨connection, found, recording⟩)).symm ▸ floored
    | true =>
      have stepped : world.step settings (.record id store) =
          { world with
            connections := world.connections.set id { connection with recording := false }
            records :=
              { store, key := connection.key, acceptTypes := connection.acceptTypes, sentMax := connection.settledMax, connection := id } ::
                world.records } := by
        simp [World.step, World.record, found, recording]
      have inside := List.mem_of_getElem? found
      have ready := floored.ready connection inside
      obtain ⟨stayed, positive⟩ := ready.recording recording
      rw [stepped] at later sound ⊢
      -- first the connection is marked, then its record is written
      have marked : Later settings world { world with connections := world.connections.set id { connection with recording := false } } :=
        ⟨Grown.refl _, fun _ member => member, later.keeps⟩
      have middle : Floored settings { world with connections := world.connections.set id { connection with recording := false } } := by
        apply floored.next marked ⟨sound.writers, sound.honest, sound.requests, sound.connections⟩
        · intro other member
          apply marked.ready
          rcases List.mem_or_eq_of_mem_set member with old | rfl
          · exact floored.ready other old
          · exact ⟨⟨ready.settled.covered, ready.settled.known, ready.settled.skip, ready.settled.backfill⟩,
            fun written => absurd written Bool.false_ne_true, ready.skipped⟩
        · exact List.Sublist.refl _
      have there : (world.connections.set id { connection with recording := false })[id]? = some { connection with recording := false } :=
        List.getElem?_set_self (List.getElem?_eq_some_iff.mp found).1
      refine ⟨sound, fun other member => ?_, ?_, ?_, ?_, ?_⟩
      · have kept := middle.ready other member
        exact ⟨kept.settled, kept.recording, kept.skipped⟩
      · refine List.nodup_cons.mpr ⟨?_, middle.distinct⟩
        intro again
        obtain ⟨record, member, same⟩ := List.mem_map.mp again
        obtain ⟨other, present, -, written⟩ := floored.from_ record member
        rw [same, found] at present
        obtain rfl : connection = other := Option.some.inj present
        simp [recording] at written
      · intro record member
        rcases List.mem_cons.mp member with rfl | old
        · exact ⟨_, there, stayed.1, rfl⟩
        · exact middle.from_ record old
      · intro record member
        rcases List.mem_cons.mp member with rfl | old
        · rcases ready.settled.known with zero | known
          · omega
          · exact known
        · exact middle.known record old
      · intro record member event listed wanted open_ below
        rcases List.mem_cons.mp member with rfl | old
        · rcases le_or_gt event.recipientSeq connection.startSeq with behind | ahead
          · right
            have floor := began connection found recording event listed wanted open_ behind
            exact marked.sentOften (ready.skipped event listed wanted open_ floor)
          · left
            exact ⟨_, there, rfl, rfl, stayed, ready.settled.covered event listed wanted ahead below⟩
        · exact middle.covers record old event listed wanted open_ below

theorem Floored.step (floored : world.Floored settings) (input : Input) (began : world.BeganBelow settings input) :
    (world.step settings input).Floored settings := by
  have later := later_step floored.sound input
  have sound := floored.sound.step input
  cases input with
  | write event => exact floored.next later sound (fun connection member => later.ready (floored.ready connection member)) (List.Sublist.refl _)
  | wait seconds => exact floored.next later sound (fun connection member => later.ready (floored.ready connection member)) (List.Sublist.refl _)
  | forget store key types =>
    exact floored.next later sound (fun connection member => later.ready (floored.ready connection member)) List.filter_sublist
  | ack event =>
    obtain ⟨connections, records⟩ := @acknowledge_rest settings world event
    apply floored.next later sound
    · intro connection member
      exact later.ready (floored.ready connection (connections ▸ member))
    · exact records ▸ List.Sublist.refl _
  | connect key types header =>
    apply floored.next later sound
    · intro connection member
      apply later.ready
      rcases List.mem_append.mp member with old | new
      · exact floored.ready connection old
      · rw [List.mem_singleton.mp new]
        have nothing : ∀ event ∈ world.events, ¬ event.recipientSeq ≤ 0 := fun event there below => by
          have := floored.sound.writers.dense.bounds there
          omega
        refine ⟨⟨?_, .inl rfl, .inl rfl, ?_⟩, ?_, ?_⟩
        · exact fun event there _ _ below => absurd below (nothing event there)
        · intro current here
          cases here
        · intro records
          cases records
        · exact fun event there _ _ below => absurd below (nothing event there)
    · exact List.Sublist.refl _
  | start id store =>
    apply floored.onConnection later sound
    intro connection member arrived ready
    obtain ⟨known, often⟩ := floored.floorOf store connection
    exact ⟨ready.settled.start known _ _, fun records => absurd (ready.recording records).1.1 (by simp [arrived]), often⟩
  | fetch id =>
    apply floored.onConnection later sound
    intro connection member streaming ready
    have open_ : connection.stage ≠ .closed := by simp [streaming]
    unfold World.fetched
    split
    · next pass running =>
      split
      · apply ready.streams open_ (ready.settled.fetch running _ _)
        all_goals
          simp only [Connection.fetch]
          split <;> rfl
      · exact ready
    · exact ready
  | send id =>
    apply floored.onConnection later sound
    intro connection member streaming ready
    have open_ : connection.stage ≠ .closed := by simp [streaming]
    unfold World.sent
    split
    · next pass running =>
      split
      · next row rest rows =>
        obtain ⟨key, types, skip, recording⟩ := sendRow_columns connection pass row rest world.now
        have settled := ready.settled.sendRow (floored.sound.connections connection member) running rows world.now
        exact ready.streams open_ settled key types skip recording
      · exact ready
    · exact ready
  | wake id =>
    apply floored.onConnection later sound
    intro connection member streaming ready
    have open_ : connection.stage ≠ .closed := by simp [streaming]
    unfold World.woken
    split
    · exact ready
    · exact ready.streams open_ (ready.settled.wake _) rfl rfl rfl rfl
  | close id =>
    apply floored.onConnection later sound
    intro connection member streaming ready
    refine ⟨⟨ready.settled.covered, ready.settled.known, ready.settled.skip, ready.settled.backfill⟩, ?_, ready.skipped⟩
    intro records
    obtain ⟨⟨doneAt, done, stayed⟩, -, positive⟩ := of_decide_eq_true records
    exact ⟨⟨rfl, doneAt, done, world.now, rfl, stayed⟩, positive⟩
  | record id store => exact floored.record id store began

end World

open World

/-- Where every recorded replay began below the unacknowledged events that its floor does not
cover, a connect leaves an unacknowledged event out because of the floor only if as many
earlier connections of the kind as are asked for were sent it and stayed open after it. -/
theorem floor_skips_only_sent (settings : Settings) (inputs : List Input)
    (began : Runs.Throughout (step settings) (BeganBelow settings) ({} : World) inputs) :
    Runs.Throughout (step settings) (SkipsOnlySent settings) ({} : World) inputs := by
  have kept : ∀ world input, BeganBelow settings world input → Floored settings world → Floored settings (world.step settings input) :=
    fun world input began floored => floored.step input began
  have initial : Floored settings ({} : World) := ⟨Sound.initial, by simp, List.nodup_nil, by simp, by simp, by simp⟩
  exact Runs.Throughout.carry kept initial began fun world input _ floored => floored.skips input

/-- Two events, settled by now, and connections of one kind that come with these headers, are
sent what is left in so many rows, stay for a minute and are recorded. -/
def replays (headers : List (Int × Nat)) : List Input :=
  [.write .begin_, .write (.create 0 ⟨11, 1, "dispatched", 0⟩), .write (.create 0 ⟨12, 1, "dispatched", 0⟩), .write (.commit 0),
    .wait 200] ++
  headers.zipIdx.flatMap fun ((header, rows), id) =>
    [.connect 7 none header, .start id (some 0), .fetch id] ++ List.replicate rows (.send id) ++ [.wait 60, .close id, .record id 0]

/-- Three replays of both events, and then a connect that leaves both out. -/
theorem floor_skips_only_sent_thrice : Runs.Throughout (step { orgId := 1 }) (SkipsOnlySent { orgId := 1 }) ({} : World)
    (replays [(0, 2), (0, 2), (0, 2)] ++ [.connect 7 none 0, .start 3 (some 0)]) :=
  floor_skips_only_sent { orgId := 1 } _ (by decide)

/-- Three replays of the second event only, by connections whose header was the first one; the
floor then leaves out both, and no connection was ever sent the first. -/
theorem header_hides_unsent : ¬ Runs.Throughout (step { orgId := 1 }) (SkipsOnlySent { orgId := 1 }) ({} : World)
    (replays [(1, 1), (1, 1), (1, 1)] ++ [.connect 7 none 0, .start 3 (some 0)]) := by
  intro skips
  rw [show replays [(1, 1), (1, 1), (1, 1)] ++ [.connect 7 none 0, .start 3 (some 0)] =
    (replays [(1, 1), (1, 1), (1, 1)] ++ [.connect 7 none 0]) ++ [.start 3 (some 0)] from rfl, Runs.Throughout.append] at skips
  have last := skips.2.1
  have never : ∀ connection ∈ (Runs.final (step { orgId := 1 }) ({} : World)
      (replays [(1, 1), (1, 1), (1, 1)] ++ [.connect 7 none 0])).connections, 1 ∉ connection.frames := by decide
  obtain ⟨ids, -, enough, all⟩ := last { key := 7, acceptTypes := none, startSeq := 0 } (by decide) (by decide)
    ⟨11, 1, "dispatched", 1, .pending, 0⟩ (by decide) (by decide) (by decide) (by decide) (by decide)
  obtain ⟨id, member⟩ := List.exists_mem_of_length_pos (Nat.lt_of_lt_of_le (by decide : 0 < 3) enough)
  obtain ⟨connection, found, -, -, -, sent⟩ := all id member
  exact never connection (List.mem_of_getElem? found) sent

end Sprintable.Streams
