import Sprintable.Leases.Store

/-! The streams of one agent that are reached with setup keys, over several processes that
share the lease store. A step is what a request does between two awaits, with the call to the
store that it makes; of an acquire it is one statement. -/

namespace Sprintable.Leases

universe u
variable {μ : Type u} [DecidableEq μ]

/-- How far `agent_stream`, and then its connection, has come. -/
inductive Phase (μ : Type u) where
  | arrived
  | counted (others : List μ)
  | displacing (others : List μ)
  | acquiring
  | acquired
  | rollingBack
  | refused
  | streaming
  | refreshing
  | ending
  | clearing
  | leaving
  | ended
  deriving DecidableEq, Repr

/-- Whether a take-over has displaced the stream, and if its heartbeat has come since. -/
inductive Displaced where
  | no
  | waiting
  | beaten
  deriving DecidableEq, Repr

/-- A request to `agent_stream`. `listed` is its queue in `_agent_connections`, `slot` its
queue in `_receiver_streams`, and `replaces` is `_superseded_queue`. A receiver is known by
the name of its member. The last field is a record. -/
structure Stream (μ : Type u) where
  process : Nat
  receiver : Option μ
  connection : μ
  takeover : Bool
  replaces : Option Nat
  phase : Phase μ := .arrived
  tookOver : Bool := false
  listed : Bool := false
  slot : Bool := false
  superseded : Bool := false
  displaced : Displaced := .no
  deriving DecidableEq, Repr

namespace Stream
variable (stream : Stream μ)

/-- `_pk_member`. -/
def member : μ := stream.receiver.getD stream.connection

def ownsReceiverSlot : Bool := stream.receiver.isNone || stream.slot

/-- A take-over on the same process ends the stream at once. -/
def displaceHere : Stream μ := { stream with listed := false, slot := false, superseded := true, displaced := .waiting }

/-- What a new stream of the process leaves of this one: the stream that it replaces ends, and
the slot of its receiver is its own. -/
def handOver (position : Nat) (admitted : Stream μ) : Stream μ :=
  { stream with
    listed := stream.listed && some position != admitted.replaces
    superseded := stream.superseded || some position == admitted.replaces
    slot := stream.slot && !(admitted.receiver.isSome && stream.process == admitted.process && stream.receiver == admitted.receiver) }

def beat : Stream μ := { stream with displaced := if stream.displaced = .no then .no else .beaten }

/-- The stream's member takes the place, or takes it back. -/
def reclaim (member : μ) : Stream μ := if stream.member = member then { stream with displaced := .no } else stream

end Stream

/-- An acquire that is not answered yet, with the stream that asks. -/
structure Acquire (store : LeaseStore μ) where
  index : Nat
  member : μ
  stage : store.Stage

/-- What a statement leaves open of the acquire. -/
def Acquire.left {store : LeaseStore μ} (acquire : Acquire store) : Progress store.Stage → Option (Acquire store)
  | .goesOn stage => some { acquire with stage }
  | .answered _ => none

/-- The advisory lock of the scope is that of the acquire. -/
structure World (store : LeaseStore μ) where
  state : store.State
  now : Nat := 0
  streams : List (Stream μ) := []
  acquiring : Option (Acquire store) := none

/-- The stream of an event is known by its position. -/
inductive StreamEvent (μ : Type u) where
  | connect (process : Nat) (receiver : Option μ) (connection : μ) (takeover : Bool)
  | members (index : Nat)
  | judge (index : Nat)
  | release (index : Nat)
  | markTaken (index : Nat)
  | acquire (index : Nat) (sweeps : Bool)
  | register (index : Nat) (globalPlace : Bool)
  | rollBack (index : Nat)
  | heartbeat (index : Nat)
  | refresh (index : Nat)
  | finish (index : Nat)
  | releaseOwn (index : Nat)
  | clearTaken (index : Nat)
  | leave (index : Nat)
  | wait (elapsed : Nat)
  deriving DecidableEq, Repr

namespace World
variable {store : LeaseStore μ} (world : World store)

def initial (store : LeaseStore μ) : World store := { state := store.empty }

def answer (asked : Call μ) : Answer μ := (store.call world.state world.now asked).2

def ask (asked : Call μ) : World store := { world with state := (store.call world.state world.now asked).1 }

def live : List μ := store.live world.state world.now

/-- `_receiver_streams` of a process. -/
def receiverStream (process : Nat) (receiver : μ) : Option Nat :=
  world.streams.findIdx? fun stream => stream.slot && stream.process == process && stream.receiver == some receiver

def rewrite (change : Nat → Stream μ → Stream μ) : World store := { world with streams := world.streams.mapIdx change }

def change (index : Nat) (next : Stream μ → Stream μ) : World store :=
  world.rewrite fun position stream => if position = index then next stream else stream

def enter (index : Nat) (phase : Phase μ) : World store := world.change index fun stream => { stream with phase }

/-- The setup-key rule, with the members that were read. -/
def judge (index : Nat) (stream : Stream μ) (others : List μ) : World store :=
  match others with
  | [] => world.enter index .acquiring
  | _ :: _ =>
    if stream.takeover then
      (world.rewrite fun position other =>
        if other.listed ∧ other.process = stream.process ∧ some position ≠ stream.replaces then other.displaceHere
        else other).enter index (.displacing others)
    else world.enter index .refused

/-- The take-over releases a member: its streams are displaced. -/
def displace (index : Nat) (member : μ) (rest : List μ) : World store :=
  ((world.ask (.release member)).rewrite fun _ other =>
    if other.member = member then { other with displaced := .waiting } else other).enter index (.displacing rest)

def markTaken (index : Nat) (stream : Stream μ) : World store :=
  ((world.ask (.markTaken stream.member)).rewrite fun _ other => other.reclaim stream.member).change index
    fun taker => { taker with tookOver := true, phase := .acquiring }

/-- The acquire that is at its next statement when the stream is: it waits for another's. -/
def turn (index : Nat) (stream : Stream μ) : Option (Acquire store) :=
  match world.acquiring with
  | none => some ⟨index, stream.member, store.first⟩
  | some acquire => if acquire.index = index then some acquire else none

/-- What the acquire of the one place comes to at its next statement. -/
def progress (acquire : Acquire store) (sweeps : Bool) : Progress store.Stage :=
  (store.advance world.state world.now 1 acquire.member sweeps acquire.stage).2

def proceed (acquire : Acquire store) (sweeps : Bool) : World store :=
  { world with
    state := (store.advance world.state world.now 1 acquire.member sweeps acquire.stage).1
    acquiring := acquire.left (world.progress acquire sweeps) }

/-- The statement, and the stream's member reclaims the place that the acquire has found. -/
def claim (acquire : Acquire store) (sweeps : Bool) : World store :=
  if (world.progress acquire sweeps).assures store.assured = true ∧ store.assured acquire.stage = false then
    (world.proceed acquire sweeps).rewrite fun _ other => other.reclaim acquire.member
  else world.proceed acquire sweeps

def acquire (acquire : Acquire store) (sweeps : Bool) : World store :=
  match world.progress acquire sweeps with
  | .goesOn _ => world.claim acquire sweeps
  | .answered granted => (world.claim acquire sweeps).enter acquire.index (if granted then .acquired else .refused)

/-- A row that an acquire has deleted is not inserted again before it commits. -/
def waits (member : μ) : Bool := world.acquiring.any fun acquire => store.waits acquire.stage member

/-- The connection takes its place on this process, and what it replaces is handed over. -/
def register (index : Nat) (stream : Stream μ) : World store :=
  (world.rewrite fun position other => other.handOver position stream).change index fun admitted =>
    { admitted with listed := true, slot := stream.receiver.isSome, phase := .streaming }

def takenByOther (member : μ) : Bool :=
  match world.answer .takenBy with
  | .takenBy (some other) => other != member
  | _ => false

/-- `_presence_tick_if_due`, up to its refresh. -/
def heartbeat (index : Nat) (stream : Stream μ) : World store :=
  if stream.ownsReceiverSlot = false then world.change index Stream.beat
  else if world.takenByOther stream.member then
    (world.ask .takenBy).change index fun displaced => { displaced.beat with superseded := true }
  else (world.ask .takenBy).change index fun kept => { kept.beat with phase := .refreshing }

def onStream (index : Nat) (body : Stream μ → World store) : World store :=
  match world.streams[index]? with
  | some stream => body stream
  | none => world

def step (world : World store) : StreamEvent μ → World store
  | .connect process receiver connection takeover =>
    { world with
      streams := world.streams ++
        [{ process, receiver, connection, takeover, replaces := receiver.bind (world.receiverStream process) }] }
  | .members index => world.onStream index fun stream =>
    match stream.phase, world.answer .members with
    | .arrived, .members names => (world.ask .members).enter index (.counted (names.filter (· ≠ stream.member)))
    | _, _ => world
  | .judge index => world.onStream index fun stream =>
    match stream.phase with
    | .counted others => world.judge index stream others
    | _ => world
  | .release index => world.onStream index fun stream =>
    match stream.phase with
    | .displacing (member :: rest) => world.displace index member rest
    | _ => world
  | .markTaken index => world.onStream index fun stream =>
    if stream.phase = .displacing [] then world.markTaken index stream else world
  | .acquire index sweeps => world.onStream index fun stream =>
    match stream.phase, world.turn index stream with
    | .acquiring, some acquire => world.acquire acquire sweeps
    | _, _ => world
  | .register index globalPlace => world.onStream index fun stream =>
    if stream.phase = .acquired then
      if globalPlace then world.register index stream
      else world.enter index (if stream.receiver.isSome then .refused else .rollingBack)
    else world
  | .rollBack index => world.onStream index fun stream =>
    if stream.phase = .rollingBack then (world.ask (.release stream.connection)).enter index .refused else world
  | .heartbeat index => world.onStream index fun stream =>
    if stream.phase = .streaming then world.heartbeat index stream else world
  | .refresh index => world.onStream index fun stream =>
    if stream.phase = .refreshing ∧ world.waits stream.member = false then (world.ask (.refresh stream.member)).enter index .streaming else world
  | .finish index => world.onStream index fun stream =>
    if stream.phase = .streaming then world.enter index .ending else world
  | .releaseOwn index => world.onStream index fun stream =>
    if stream.phase = .ending then
      (if stream.ownsReceiverSlot then world.ask (.release stream.member) else world).enter index .clearing
    else world
  | .clearTaken index => world.onStream index fun stream =>
    if stream.phase = .clearing then
      (if stream.tookOver then world.ask (.clearTaken stream.member) else world).change index
        fun left => { left with slot := false, phase := .leaving }
    else world
  | .leave index => world.onStream index fun stream =>
    if stream.phase = .leaving then world.change index fun left => { left with listed := false, phase := .ended } else world
  | .wait elapsed => { world with now := world.now + elapsed }

end World

end Sprintable.Leases
