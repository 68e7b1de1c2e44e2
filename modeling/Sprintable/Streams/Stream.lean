import Sprintable.Streams.Cursor
import Sprintable.Streams.Seqs

/-! The event streams of one agent. A connection starts after a seq, sends the rows after it
batch by batch, and sends again from the cursor when it is woken. What its replay covered is
recorded for the next connections of its kind. -/

namespace Sprintable.Streams

/-- What the server is configured with. `orgId` is the organisation of the agent and of its keys. -/
structure Settings where
  orgId : Nat
  backfillLimit : Nat := 100
  backfillLimit_pos : 0 < backfillLimit := by decide
  attempts : Nat := 3
  minAliveSec : Int := 60
  settleSec : Int := 120

/-- One run of `_send_batches`: the floor, the rows of the batch that it has not come to, and
whether that batch was full. The last two fields are a record: the last seq that the last
fetch could see, and what was sent. -/
structure Pass where
  isBackfill : Bool
  scanFrom : Int
  floor : Int
  rows : List Event := []
  full : Bool := true
  visible : Int := 0
  frames : List Int := []
  deriving DecidableEq, Repr

inductive Stage where
  | arrived
  | streaming
  | closed
  deriving DecidableEq, Repr

/-- One connection to `agent_stream`. `recording` is the write that `record_soon` leaves to a
task of its own. The last three fields are a record: when the connection ended, every seq
that it sent, and its passes that ended normally. -/
structure Connection where
  key : Nat
  acceptTypes : AcceptTypes
  startSeq : Int
  stage : Stage := .arrived
  replaySkip : Int := 0
  settleCutoff : Int := 0
  sentUnacked : List Int := []
  settledMax : Int := 0
  fresh : Bool := false
  pass : Option Pass := none
  replayDoneAt : Option Int := none
  recording : Bool := false
  closedAt : Option Int := none
  frames : List Int := []
  passes : List Pass := []
  deriving DecidableEq, Repr

/-- A value that the replay floor remembers, in the shared store or in the memory of a
process, and the connection it is from. -/
structure Record where
  store : Nat
  key : Nat
  acceptTypes : AcceptTypes
  sentMax : Int
  connection : Nat
  deriving DecidableEq, Repr

/-- The record is of this store and of this kind of connection. -/
def Record.Of (store key : Nat) (types : AcceptTypes) (entry : Record) : Prop :=
  entry.store = store ∧ entry.key = key ∧ entry.acceptTypes = types

instance (store key : Nat) (types : AcceptTypes) (entry : Record) : Decidable (entry.Of store key types) :=
  inferInstanceAs (Decidable (_ ∧ _ ∧ _))

namespace Connection
variable (connection : Connection)

/-- A pass is over: the rows ran out before a batch was full. -/
def endPass (pass : Pass) (now : Int) : Connection :=
  { connection with
    pass := none
    passes := connection.passes ++ [pass]
    replayDoneAt := if pass.isBackfill then some now else connection.replayDoneAt }

/-- After a row: the next one, the next batch, or the end of the pass. -/
def goOn (pass : Pass) (now : Int) : Connection :=
  if pass.rows = [] ∧ pass.full = false then connection.endPass pass now else { connection with pass := some pass }

/-- The highest seq of the unbroken run of settled events that the replay sent. -/
def settle (row : Event) : Connection :=
  if connection.fresh then connection
  else if row.createdAt ≤ connection.settleCutoff then { connection with settledMax := row.recipientSeq }
  else { connection with fresh := true }

def transmit (row : Event) (isBackfill : Bool) : Connection :=
  let sent := { connection with
    sentUnacked := connection.sentUnacked ++ [row.recipientSeq], frames := connection.frames ++ [row.recipientSeq] }
  if isBackfill then sent.settle row else sent

/-- `_send_batches`, at the head of its loop. -/
def fetch (settings : Settings) (events : List Event) (pass : Pass) (now : Int) : Connection :=
  let rows := fetchEvents events pass.floor settings.backfillLimit settings.orgId connection.acceptTypes
  let visible := events.foldr (fun event last => max event.recipientSeq last) 0
  if rows = [] then connection.endPass { pass with visible } now
  else { connection with pass := some { pass with rows, full := !decide (rows.length < settings.backfillLimit), visible } }

/-- `_send_batches`, for one row of a batch. -/
def sendRow (pass : Pass) (row : Event) (rest : List Event) (now : Int) : Connection :=
  let seq := row.recipientSeq
  if seq ≤ pass.floor then connection.goOn { pass with rows := rest } now
  else if seq ∈ connection.sentUnacked then connection.goOn { pass with rows := rest, floor := seq } now
  else (connection.transmit row pass.isBackfill).goOn { pass with rows := rest, floor := seq, frames := pass.frames ++ [seq] } now

/-- The wake branch, with the cursor that it reads: `_SentUnacked.trim`, then a pass from there. -/
def wake (ackedSeq : Option Int) : Connection :=
  let scanFrom := max connection.startSeq (ackedSeq.getD 0)
  { connection with
    sentUnacked := connection.sentUnacked.filter fun seq => !decide (seq ≤ scanFrom)
    pass := some { isBackfill := false, scanFrom, floor := scanFrom } }

/-- The replay floor is read, and the connect backfill begins. -/
def start (replaySkip now : Int) (settings : Settings) : Connection :=
  let startSeq := max connection.startSeq replaySkip
  { connection with
    stage := .streaming, replaySkip, startSeq, settleCutoff := now - settings.settleSec
    pass := some { isBackfill := true, scanFrom := startSeq, floor := startSeq } }

/-- Its replay ended, and it was still there long enough after that. -/
def Counts (settings : Settings) (now : Int) : Prop :=
  ∃ doneAt ∈ connection.replayDoneAt, settings.minAliveSec ≤ now - doneAt

instance (settings : Settings) (now : Int) : Decidable (connection.Counts settings now) :=
  inferInstanceAs (Decidable (∃ _ ∈ _, _))

/-- The connection ends: the client is gone, its access is, or its lifespan is over. -/
def close (settings : Settings) (now : Int) : Connection :=
  { connection with
    stage := .closed
    closedAt := some now
    recording := decide (connection.Counts settings now ∧ settings.attempts ≠ 0 ∧ 0 < connection.settledMax) }

end Connection

/-- Everything that the agent's streams share: the event rows and their writers, the cursor,
the connections, which are known by their position, and what the replay floor remembers,
newest first. -/
structure World where
  writers : Writers := {}
  acks : Acks := {}
  connections : List Connection := []
  records : List Record := []
  now : Int := 0
  deriving DecidableEq, Repr

inductive Input where
  | write (event : TxnEvent)
  | connect (key : Nat) (types : AcceptTypes) (header : Int)
  | start (id : Nat) (store : Option Nat)
  | fetch (id : Nat)
  | send (id : Nat)
  | wake (id : Nat)
  | close (id : Nat)
  | record (id store : Nat)
  | ack (event : AckEvent)
  | forget (store key : Nat) (types : AcceptTypes)
  | wait (seconds : Nat)
  deriving DecidableEq, Repr

/-- The marking in `ack_event`. -/
def Event.acked (orgId : Nat) (seq : Int) (event : Event) : Event :=
  if event.recipientSeq ≤ seq ∧ event.status = .pending ∧ event.orgId = orgId then { event with status := .delivered } else event

/-- `agent_stream_replay_floor.floor`, from the values of one kind of connection. -/
def replayFloor (attempts : Nat) (values : List Int) : Int :=
  let kept := values.take attempts
  if attempts = 0 ∨ kept.length < attempts then 0 else kept.min?.getD 0

namespace World
variable (settings : Settings) (world : World)

def events : List Event := world.writers.events

def recorded (store key : Nat) (types : AcceptTypes) : List Record :=
  world.records.filter (Record.Of store key types)

/-- A read that takes too long skips nothing. -/
def floorOf (store : Option Nat) (connection : Connection) : Int :=
  match store with
  | none => 0
  | some store => replayFloor settings.attempts ((world.recorded store connection.key connection.acceptTypes).map Record.sentMax)

/-- A connection at a stage of its life does something. -/
def onConnection (id : Nat) (stage : Stage) (change : Connection → Connection) : World :=
  { world with connections := world.connections.modify id fun connection =>
      if connection.stage = stage then change connection else connection }

def fetched (connection : Connection) : Connection :=
  match connection.pass with
  | some pass => if pass.rows = [] then connection.fetch settings world.events pass world.now else connection
  | none => connection

def sent (connection : Connection) : Connection :=
  match connection.pass with
  | some pass =>
    match pass.rows with
    | row :: rest => connection.sendRow pass row rest world.now
    | [] => connection
  | none => connection

def woken (connection : Connection) : Connection :=
  match connection.pass with
  | some _ => connection
  | none => connection.wake world.acks.ackedSeq

/-- `agent_stream_replay_floor.record`, some time after the connection ended. -/
def record (id store : Nat) : World :=
  match world.connections[id]? with
  | some connection =>
    if connection.recording then
      { world with
        connections := world.connections.set id { connection with recording := false }
        records :=
          { store, key := connection.key, acceptTypes := connection.acceptTypes, sentMax := connection.settledMax, connection := id } ::
            world.records }
    else world
  | none => world

def Received (seq : Int) : Prop := ∃ connection ∈ world.connections, seq ∈ connection.frames

instance (seq : Int) : Decidable (world.Received seq) := inferInstanceAs (Decidable (∃ _ ∈ _, _))

/-- An acknowledgement of a seq that was received, or one statement of its request. The
events are marked with the commit: those up to a seq that was sent are all there before. -/
def acknowledge (event : AckEvent) : World :=
  let after := { world with acks := world.acks.step event }
  match event with
  | .arrive seq => if world.Received seq then after else world
  | .commit id =>
    match world.acks.requests[id]? with
    | some { seq, phase := .written _ } =>
      { after with writers := { world.writers with events := world.events.map (Event.acked settings.orgId seq) } }
    | _ => world
  | _ => after

def step : Input → World
  | .write event => { world with writers := world.writers.step event }
  | .connect key types header =>
    { world with connections := world.connections ++
        [{ key, acceptTypes := types, startSeq := max (world.acks.ackedSeq.getD 0) header }] }
  | .start id store => world.onConnection id .arrived fun connection =>
      connection.start (world.floorOf settings store connection) world.now settings
  | .fetch id => world.onConnection id .streaming (world.fetched settings)
  | .send id => world.onConnection id .streaming world.sent
  | .wake id => world.onConnection id .streaming world.woken
  | .close id => world.onConnection id .streaming fun connection => connection.close settings world.now
  | .record id store => world.record id store
  | .ack event => world.acknowledge settings event
  | .forget store key types =>
    { world with records := world.records.filter fun entry => ¬ entry.Of store key types }
  | .wait seconds => { world with now := world.now + seconds }

end World

namespace Connection
variable {connection : Connection}

theorem transmit_eq (row : Event) (isBackfill : Bool) : ∃ settledMax fresh,
    connection.transmit row isBackfill = { connection with
      sentUnacked := connection.sentUnacked ++ [row.recipientSeq], frames := connection.frames ++ [row.recipientSeq], settledMax, fresh } ∧
    (settledMax = connection.settledMax ∨ isBackfill = true ∧ settledMax = row.recipientSeq) := by
  cases isBackfill with
  | false => exact ⟨connection.settledMax, connection.fresh, rfl, .inl rfl⟩
  | true =>
    simp only [transmit, settle, ite_true]
    split
    · exact ⟨connection.settledMax, connection.fresh, rfl, .inl rfl⟩
    · split
      · exact ⟨row.recipientSeq, connection.fresh, rfl, .inr ⟨True.intro, rfl⟩⟩
      · exact ⟨connection.settledMax, true, rfl, .inl rfl⟩

/-- The connection goes on as the same kind, and what it was sent it was sent. Once it has
ended, at most its record is written. -/
structure Keeps (before after : Connection) : Prop where
  key : after.key = before.key
  types : after.acceptTypes = before.acceptTypes
  frames : before.frames ⊆ after.frames
  ended : before.stage = .closed → after = before ∨ after = { before with recording := false }

theorem Keeps.refl (connection : Connection) : connection.Keeps connection := ⟨rfl, rfl, fun _ member => member, fun _ => .inl rfl⟩

theorem keeps_goOn (pass : Pass) (now : Int) (open_ : connection.stage ≠ .closed) : connection.Keeps (connection.goOn pass now) := by
  unfold goOn
  split <;> exact ⟨rfl, rfl, fun _ member => member, fun closed => absurd closed open_⟩

theorem keeps_sendRow (pass : Pass) (row : Event) (rest : List Event) (now : Int) (open_ : connection.stage ≠ .closed) :
    connection.Keeps (connection.sendRow pass row rest now) := by
  simp only [sendRow]
  split
  · exact keeps_goOn _ now open_
  · split
    · exact keeps_goOn _ now open_
    · obtain ⟨settledMax, fresh, same, -⟩ := @transmit_eq connection row pass.isBackfill
      rw [same]
      unfold goOn
      split <;> exact ⟨rfl, rfl, fun _ member => List.mem_append_left _ member, fun closed => absurd closed open_⟩

theorem keeps_fetch (settings : Settings) (events : List Event) (pass : Pass) (now : Int) (open_ : connection.stage ≠ .closed) :
    connection.Keeps (connection.fetch settings events pass now) := by
  simp only [fetch]
  split <;> exact ⟨rfl, rfl, fun _ member => member, fun closed => absurd closed open_⟩

end Connection

namespace World
variable {settings : Settings} {world : World}

theorem onConnection_get {id : Nat} {stage : Stage} {change : Connection → Connection} {position : Nat} {connection : Connection}
    (found : world.connections[position]? = some connection) :
    (world.onConnection id stage change).connections[position]? =
      some (if id = position ∧ connection.stage = stage then change connection else connection) := by
  simp only [onConnection, List.getElem?_modify, found]
  by_cases same : id = position
  · by_cases there : connection.stage = stage <;> simp [same, there]
  · simp [same]

theorem keeps_onConnection {id : Nat} {stage : Stage} {change : Connection → Connection}
    (kept : ∀ connection : Connection, connection.stage = stage → connection.Keeps (change connection)) {position : Nat}
    {connection : Connection} (found : world.connections[position]? = some connection) :
    ∃ later, (world.onConnection id stage change).connections[position]? = some later ∧ connection.Keeps later := by
  refine ⟨_, onConnection_get found, ?_⟩
  split
  · next here => exact kept connection here.2
  · exact Connection.Keeps.refl connection

theorem acknowledge_acks (event : AckEvent) : (world.acknowledge settings event).connections = world.connections ∧
    ((world.acknowledge settings event).acks = world.acks ∨ (world.acknowledge settings event).acks = world.acks.step event) := by
  cases event with
  | arrive seq =>
    simp only [World.acknowledge]
    split
    · exact ⟨rfl, .inr rfl⟩
    · exact ⟨rfl, .inl rfl⟩
  | commit id =>
    simp only [World.acknowledge]
    split
    · exact ⟨rfl, .inr rfl⟩
    · exact ⟨rfl, .inl rfl⟩
  | read id | write id | abort id => exact ⟨rfl, .inr rfl⟩

theorem keeps_step (input : Input) {position : Nat} {connection : Connection}
    (found : world.connections[position]? = some connection) :
    ∃ later, (world.step settings input).connections[position]? = some later ∧ connection.Keeps later := by
  have same : ∃ later, world.connections[position]? = some later ∧ connection.Keeps later :=
    ⟨connection, found, Connection.Keeps.refl connection⟩
  cases input with
  | write event | forget store key types | wait seconds => exact same
  | connect key types header =>
    refine ⟨connection, ?_, Connection.Keeps.refl connection⟩
    change (world.connections ++ _)[position]? = _
    rw [List.getElem?_append_left (List.getElem?_eq_some_iff.mp found).1]
    exact found
  | start id store =>
    apply keeps_onConnection _ found
    intro connection arrived
    exact ⟨rfl, rfl, fun _ member => member, fun closed => by simp [arrived] at closed⟩
  | fetch id =>
    apply keeps_onConnection _ found
    intro connection streaming
    unfold World.fetched
    split
    · split
      · exact Connection.keeps_fetch _ _ _ _ (by simp [streaming])
      · exact Connection.Keeps.refl connection
    · exact Connection.Keeps.refl connection
  | send id =>
    apply keeps_onConnection _ found
    intro connection streaming
    unfold World.sent
    split
    · split
      · exact Connection.keeps_sendRow _ _ _ _ (by simp [streaming])
      · exact Connection.Keeps.refl connection
    · exact Connection.Keeps.refl connection
  | wake id =>
    apply keeps_onConnection _ found
    intro connection streaming
    unfold World.woken
    split
    · exact Connection.Keeps.refl connection
    · exact ⟨rfl, rfl, fun _ member => member, fun closed => by simp [streaming] at closed⟩
  | close id =>
    apply keeps_onConnection _ found
    intro connection streaming
    exact ⟨rfl, rfl, fun _ member => member, fun closed => by simp [streaming] at closed⟩
  | record id store =>
    simp only [World.step, World.record]
    split
    · next old present =>
      split
      · by_cases chosen : id = position
        · subst position
          obtain rfl : old = connection := Option.some.inj (present.symm.trans found)
          refine ⟨{ old with recording := false }, ?_, rfl, rfl, fun _ member => member, fun _ => .inr rfl⟩
          rw [List.getElem?_set_self (List.getElem?_eq_some_iff.mp present).1]
        · refine ⟨connection, ?_, Connection.Keeps.refl connection⟩
          rw [List.getElem?_set_ne chosen]
          exact found
      · exact same
    · exact same
  | ack event =>
    change ∃ later, (world.acknowledge settings event).connections[position]? = some later ∧ connection.Keeps later
    rw [(acknowledge_acks event).1]
    exact same

end World
end Sprintable.Streams
