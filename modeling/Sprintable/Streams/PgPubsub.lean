import Sprintable.Logic.JsonLoads
import Sprintable.Logic.Runs

/-! Events between the instances of the server over NOTIFY and LISTEN. An event goes out as a text of JSON,
without its content when it would be too large, and every other instance hands it to the queues of its member. -/

namespace Sprintable.PubSub

open CodePoints JsonDump JsonLoads

abbrev Payload := Value Number

abbrev Fields := List (Text × Payload)

abbrev Name := { text : Text // IsJson (.text text) }

abbrev Data := { fields : Fields // IsJson (.dict fields) }

def maxPayloadBytes : Nat := 7500

def notifyLimit : Nat := 8000

inductive Target where
  | org | agent

def Target.value : Target → Text
  | .org => lit "org"
  | .agent => lit "agent"

def payloadFields (instanceId : Text) (target : Target) (targetId eventType : Text) (data : Fields) : Fields :=
  [(lit "instance_id", .text instanceId), (lit "target", .text target.value), (lit "target_id", .text targetId),
    (lit "event_type", .text eventType), (lit "data", .dict data)]

def payload (instanceId : Text) (target : Target) (targetId eventType : Text) (data : Fields) : Payload :=
  .dict (payloadFields instanceId target targetId eventType data)

def withoutContent (data : Fields) : Fields := data.filter fun entry => entry.1 ≠ lit "content"

def pgNotify (instanceId : Text) (target : Target) (targetId eventType : Text) (data : Fields) : Text :=
  let text := dumps Number.write true (payload instanceId target targetId eventType data)
  if maxPayloadBytes < size text then dumps Number.write true (payload instanceId target targetId eventType (withoutContent data))
  else text

/-- `str(value)`, by which a string stays what it is. -/
structure Str where
  of : Payload → Text
  text : ∀ value, of (.text value) = value

def isText (value : Option Payload) (text : Text) : Bool :=
  match value with
  | some (.text value) => value = text
  | _ => false

def isZero : Number → Bool
  | .finite n => (n.lead :: n.digits ++ n.fraction).all (· = 0)
  | _ => false

def truthy : Payload → Bool
  | .null => false
  | .bool value => value
  | .number value => !isZero value
  | .text value => !value.isEmpty
  | .list items => !items.isEmpty
  | .dict entries => !entries.isEmpty

/-- `value or {}`, on which a method of dictionaries is called. -/
def fieldsOf : Option Payload → Option Fields
  | some (.dict entries) => some entries
  | some value => if truthy value then none else some []
  | none => some []

/-- The call of `_push_to_agent` for a text that was received: the member and the data. Nothing is handed of a
text that cannot be read, of one that this instance sent, or to a target other than a member. -/
def dispatchReceived (str : Str) (instanceId received : Text) : Option (Text × Fields) :=
  match loads received with
  | some (.dict payload) =>
    if isText (payload.lookup (lit "instance_id")) instanceId then none
    else
      let targetId := ((payload.lookup (lit "target_id")).map str.of).getD []
      (fieldsOf (payload.lookup (lit "data"))).bind fun data =>
        if isText (payload.lookup (lit "target")) Target.agent.value then some (targetId, data) else none
  | _ => none

structure Instance where
  id : Name
  inbox : List Text := []
  handed : List (Text × Fields) := []

structure Publication where
  publisher : Name
  memberId : Name
  eventType : Name
  data : Data

def Publication.text (event : Publication) : Text :=
  pgNotify event.publisher .agent event.memberId event.eventType event.data.val

def Instance.receive (text : Text) (place : Instance) : Instance := { place with inbox := place.inbox ++ [text] }

def Instance.dispatch (str : Str) (place : Instance) : Instance :=
  match place.inbox with
  | [] => place
  | text :: rest => { place with inbox := rest, handed := place.handed ++ (dispatchReceived str place.id text).toList }

/-- The instance after it has dispatched all that it received. -/
def Instance.drain (str : Str) (place : Instance) : Instance := (Instance.dispatch str)^[place.inbox.length] place

structure Cluster where
  instances : List Instance
  published : List Publication := []

inductive Act where
  | publish (event : Publication)
  | dispatch (id : Name)

/-- The listening instances at the start. -/
def Cluster.start (ids : List Name) : Cluster where
  instances := ids.map fun id => { id }

def Cluster.step (str : Str) (cluster : Cluster) : Act → Cluster
  | .publish event => {
      instances := if size event.text < notifyLimit then cluster.instances.map (Instance.receive event.text) else cluster.instances
      published := cluster.published ++ [event] }
  | .dispatch id =>
    { cluster with instances := cluster.instances.map fun place => if place.id = id then place.dispatch str else place }

/-- The bytes of an event with these data. -/
def Publication.bytes (event : Publication) (data : Fields) : Nat :=
  size (dumps Number.write true (payload event.publisher .agent event.memberId event.eventType data))

/-- The data that the others are owed: the content is left out of an event that is too large. -/
def Publication.delivered (event : Publication) : Fields :=
  if maxPayloadBytes < event.bytes event.data.val then withoutContent event.data.val else event.data.val

/-- What an instance has to hand on, in order: the events of the others. -/
def owed (id : Name) (published : List Publication) : List (Text × Fields) :=
  (published.filter fun event => event.publisher ≠ id).map fun event => (event.memberId, event.delivered)

/-- Every instance has handed on, or will once it has dispatched what it received, each event of the others exactly once. -/
def Kept (str : Str) (cluster : Cluster) : Prop :=
  ∀ place ∈ cluster.instances, (place.drain str).handed = owed place.id cluster.published

def Survives (str : Str) (cluster : Cluster) (act : Act) : Prop := Kept str (cluster.step str act)

/-- The event is not too large, or it is small enough without its content, or nobody else listens. -/
def Fits (cluster : Cluster) : Act → Prop
  | .publish event =>
    event.bytes event.data.val ≤ maxPayloadBytes ∨ event.bytes (withoutContent event.data.val) < notifyLimit ∨
      ∀ place ∈ cluster.instances, place.id = event.publisher
  | .dispatch _ => True

section Wire
variable {str : Str}

theorem ascii_unsplit {text : Text} (ascii : AsciiOnly text) : Unsplit text := by
  apply List.Pairwise.isChain
  apply List.pairwise_of_forall_mem_list
  intro c member d _ both
  have low := ascii c member
  simp only [isHigh, Bool.and_eq_true, decide_eq_true_eq] at both
  omega

theorem filter_sound {data : Fields} (keep : Text × Payload → Bool) (sound : Sound (.dict data)) : Sound (.dict (data.filter keep)) := by
  cases sound with
  | dict keys apart each =>
    refine .dict (keys.sublist (List.filter_sublist.map Prod.fst)) ?_ ?_
    · exact fun entry member => apart entry (List.mem_of_mem_filter member)
    · exact fun entry member => each entry (List.mem_of_mem_filter member)

theorem payload_sound (target : Target) {instanceId targetId eventType : Text} {data : Fields} (first : Sound (.text instanceId))
    (second : Sound (.text targetId)) (third : Sound (.text eventType)) (fields : Sound (.dict data)) :
    Sound (payload instanceId target targetId eventType data) := by
  have names : [lit "instance_id", lit "target", lit "target_id", lit "event_type", lit "data"].all fun name =>
      name.all fun c => c.val < 0x80 := by decide
  have value : Sound (.text target.value) := by
    cases target
    · exact .text (ascii_unsplit (ascii_of_all (by decide)))
    · exact .text (ascii_unsplit (ascii_of_all (by decide)))
  have distinct : [lit "instance_id", lit "target", lit "target_id", lit "event_type", lit "data"].Nodup := by decide
  refine .dict distinct ?_ ?_
  · intro entry member
    apply ascii_unsplit
    apply ascii_of_all
    exact List.all_eq_true.mp names entry.1 (List.mem_map_of_mem member)
  · intro entry member
    simp only [payloadFields, List.mem_cons, List.not_mem_nil, or_false] at member
    rcases member with rfl | rfl | rfl | rfl | rfl
    · exact first
    · exact value
    · exact second
    · exact third
    · exact fields

theorem dispatch_payload (id : Text) {instanceId targetId eventType : Text} {data : Fields}
    (sound : Sound (payload instanceId .agent targetId eventType data)) :
    dispatchReceived str id (dumps Number.write true (payload instanceId .agent targetId eventType data)) =
      if instanceId = id then none else some (targetId, data) := by
  have sender : (payloadFields instanceId .agent targetId eventType data).lookup (lit "instance_id") = some (.text instanceId) := rfl
  have member : (payloadFields instanceId .agent targetId eventType data).lookup (lit "target_id") = some (.text targetId) := rfl
  have fields : (payloadFields instanceId .agent targetId eventType data).lookup (lit "data") = some (.dict data) := rfl
  have target : (payloadFields instanceId .agent targetId eventType data).lookup (lit "target") = some (.text Target.agent.value) := rfl
  rw [dispatchReceived, loads_dumps sound, payload]
  simp only [sender, member, fields, target, isText, fieldsOf, Option.map_some, Option.getD_some, Option.bind_some, str.text, decide_true,
    if_true, decide_eq_true_eq]

theorem event_sound (event : Publication) (keep : Text × Payload → Bool) :
    Sound (payload event.publisher .agent event.memberId event.eventType (event.data.val.filter keep)) :=
  payload_sound .agent (isJson_iff.mp event.publisher.property) (isJson_iff.mp event.memberId.property)
    (isJson_iff.mp event.eventType.property) (filter_sound keep (isJson_iff.mp event.data.property))

theorem text_eq (event : Publication) :
    event.text = dumps Number.write true (payload event.publisher .agent event.memberId event.eventType event.delivered) := by
  unfold Publication.text pgNotify Publication.delivered Publication.bytes
  dsimp only
  split
  · rfl
  · rfl

theorem delivered_filter (event : Publication) : ∃ keep, event.delivered = event.data.val.filter keep := by
  unfold Publication.delivered
  split
  · exact ⟨_, rfl⟩
  · exact ⟨fun _ => true, (List.filter_true _).symm⟩

theorem dispatch_event (str : Str) (id : Name) (event : Publication) :
    dispatchReceived str id event.text = if event.publisher = id then none else some (event.memberId.val, event.delivered) := by
  obtain ⟨keep, kept⟩ := delivered_filter event
  have sound := event_sound event keep
  rw [← kept] at sound
  rw [text_eq, dispatch_payload id.val sound]
  simp only [Subtype.ext_iff]

theorem text_fits (event : Publication) : size event.text < notifyLimit ↔
    event.bytes event.data.val ≤ maxPayloadBytes ∨ event.bytes (withoutContent event.data.val) < notifyLimit := by
  have small : maxPayloadBytes < notifyLimit := by decide
  have sizes : size event.text = event.bytes event.delivered := congrArg size (text_eq event)
  rw [sizes]
  unfold Publication.delivered
  by_cases large : maxPayloadBytes < event.bytes event.data.val
  · rw [if_pos large]
    exact ⟨.inr, fun fits => fits.resolve_left (Nat.not_le.mpr large)⟩
  · rw [if_neg large]
    exact iff_of_true (by omega) (.inl (Nat.not_lt.mp large))

end Wire

section Instances
variable {str : Str} {place : Instance}

theorem dispatch_id : (place.dispatch str).id = place.id := by
  unfold Instance.dispatch
  split
  · rfl
  · rfl

theorem drain_handed (str : Str) (place : Instance) :
    (place.drain str).handed = place.handed ++ place.inbox.filterMap (dispatchReceived str place.id) := by
  obtain ⟨id, inbox, handed⟩ := place
  unfold Instance.drain
  induction inbox generalizing handed with
  | nil => exact (List.append_nil handed).symm
  | cons text rest ih =>
    have one : Instance.dispatch str ⟨id, text :: rest, handed⟩ = ⟨id, rest, handed ++ (dispatchReceived str id text).toList⟩ := rfl
    rw [List.length_cons, Function.iterate_succ_apply, one, ih, List.append_assoc, List.filterMap_cons]
    cases dispatchReceived str id text with
    | none => rfl
    | some handing => rfl

theorem receive_handed (str : Str) (place : Instance) (text : Text) :
    ((place.receive text).drain str).handed = (place.drain str).handed ++ (dispatchReceived str place.id text).toList := by
  have inbox : (place.receive text).inbox = place.inbox ++ [text] := rfl
  have singleton : [text].filterMap (dispatchReceived str place.id) = (dispatchReceived str place.id text).toList := by
    cases found : dispatchReceived str place.id text with
    | none => exact List.filterMap_cons_none found
    | some handing => exact List.filterMap_cons_some found
  rw [drain_handed, drain_handed, inbox, List.append_assoc, ← singleton, ← List.filterMap_append]
  rfl

theorem dispatch_handed (str : Str) (place : Instance) : ((place.dispatch str).drain str).handed = (place.drain str).handed := by
  obtain ⟨id, inbox, handed⟩ := place
  cases inbox with
  | nil => rfl
  | cons text rest => rfl

theorem owed_snoc (id : Name) (published : List Publication) (event : Publication) : owed id (published ++ [event]) =
    owed id published ++ if event.publisher = id then [] else [(event.memberId.val, event.delivered)] := by
  unfold owed
  rw [List.filter_append, List.map_append]
  by_cases own : event.publisher = id
  · rw [if_pos own, List.filter_cons_of_neg (by simpa using own)]
    rfl
  · rw [if_neg own, List.filter_cons_of_pos (by simpa using own)]
    rfl

end Instances

section Runs
variable {str : Str} {cluster : Cluster}

theorem start_kept (str : Str) (ids : List Name) : Kept str (Cluster.start ids) := by
  intro place member
  obtain ⟨id, -, rfl⟩ := List.mem_map.mp member
  rfl

/-- An event that is sent reaches every other instance, and an event that is refused reaches none. -/
theorem publish_kept (kept : Kept str cluster) (event : Publication) :
    Fits cluster (.publish event) ↔ Kept str (cluster.step str (.publish event)) := by
  by_cases sent : size event.text < notifyLimit
  · refine iff_of_true ?_ ?_
    · rcases (text_fits event).mp sent with whole | slim
      · exact .inl whole
      · exact .inr (.inl slim)
    · intro place member
      simp only [Cluster.step, if_pos sent] at member
      obtain ⟨before, there, rfl⟩ := List.mem_map.mp member
      have published : (cluster.step str (.publish event)).published = cluster.published ++ [event] := rfl
      have same : (before.receive event.text).id = before.id := rfl
      rw [receive_handed, kept before there, published, same, owed_snoc, dispatch_event]
      by_cases own : event.publisher = before.id
      · rw [if_pos own, if_pos own]
        rfl
      · rw [if_neg own, if_neg own]
        rfl
  · have refused : (cluster.step str (.publish event)).instances = cluster.instances := by
      simp only [Cluster.step, if_neg sent]
    have large := (text_fits event).not.mp sent
    have fits : Fits cluster (.publish event) ↔ ∀ place ∈ cluster.instances, place.id = event.publisher := by
      constructor
      · intro fits
        rcases fits with whole | slim | alone
        · exact absurd (.inl whole) large
        · exact absurd (.inr slim) large
        · exact alone
      · exact fun alone => .inr (.inr alone)
    rw [fits]
    have published : (cluster.step str (.publish event)).published = cluster.published ++ [event] := rfl
    constructor
    · intro alone place member
      rw [refused] at member
      rw [kept place member, published, owed_snoc, if_pos (alone place member).symm, List.append_nil]
    · intro survives place member
      have there : place ∈ (cluster.step str (.publish event)).instances := by rwa [refused]
      have handed := survives place there
      rw [kept place member, published, owed_snoc] at handed
      by_contra other
      rw [if_neg fun own => other own.symm] at handed
      have length := congrArg List.length handed
      rw [List.length_append, List.length_singleton] at length
      omega

theorem dispatch_kept (kept : Kept str cluster) (id : Name) : Kept str (cluster.step str (.dispatch id)) := by
  intro place member
  obtain ⟨before, there, rfl⟩ := List.mem_map.mp member
  have published : (cluster.step str (.dispatch id)).published = cluster.published := rfl
  rw [published]
  split
  · rw [dispatch_handed, dispatch_id]
    exact kept before there
  · exact kept before there

end Runs

/-- In every run of publications and dispatches, each instance hands on the events of the others exactly once
and in order, and none of its own, exactly as long as every event fits. -/
theorem events_survive_iff (str : Str) (ids : List Name) (acts : List Act) :
    Runs.Throughout (Cluster.step str) Fits (Cluster.start ids) acts ↔
      Runs.Throughout (Cluster.step str) (Survives str) (Cluster.start ids) acts := by
  apply Runs.Throughout.exactly
  · intro cluster act _ kept
    cases act with
    | publish event => exact publish_kept kept event
    | dispatch id => exact iff_of_true trivial (dispatch_kept kept id)
  · exact fun _ _ _ _ survives => survives
  · exact start_kept str ids
  · exact fun _ _ => trivial

section Sizes

theorem separated_length {α : Type} (write : α → Text) {words : List α} {word : α} (member : word ∈ words) :
    (write word).length ≤ (separated write words).length := by
  cases words with
  | nil => cases member
  | cons first rest =>
    rw [separated, List.length_append]
    rcases List.mem_cons.mp member with rfl | later
    · exact Nat.le_add_right _ _
    · have behind : (write word).length ≤ (rest.flatMap fun later => comma :: blank :: write later).length := by
        obtain ⟨before, after, rfl⟩ := List.append_of_mem later
        rw [List.flatMap_append, List.flatMap_cons, List.length_append, List.length_append, List.length_cons, List.length_cons]
        omega
      omega

theorem entry_length {fields : Fields} {entry : Text × Payload} (member : entry ∈ fields) :
    (dumps Number.write true entry.2).length ≤ (dumps Number.write true (.dict fields)).length := by
  have part := separated_length (dumpEntry Number.write true) member
  rw [dumps, dump_entries, List.length_cons, List.length_append]
  simp only [dumpEntry, List.length_append, List.length_cons] at part
  omega

theorem string_bytes (event : Publication) {fields : Fields} {key value : Text} (member : (key, .text value) ∈ fields) :
    value.length ≤ event.bytes fields := by
  have whole : (lit "data", .dict fields) ∈ payloadFields event.publisher .agent event.memberId event.eventType fields :=
    .tail _ (.tail _ (.tail _ (.tail _ (.head _))))
  have first := entry_length member
  have second := entry_length whole
  have string : value.length ≤ (dumps Number.write true (.text value)).length := by
    have escapes := escapes_length true value
    rw [dumps, writeText, List.length_cons, List.length_append]
    omega
  rw [Publication.bytes, ascii_size (dumps_ascii number_ascii _)]
  exact Nat.le_trans string (Nat.le_trans first second)

end Sizes

def nameOf (text : Text) (ascii : (text.all fun c => decide (c.val < 0x80)) = true) : Name :=
  ⟨text, isJson_iff.mpr (.text (ascii_unsplit (ascii_of_all ascii)))⟩

def longText : Text := List.replicate notifyLimit 0x61

theorem long_text_json : IsJson (.dict [(lit "text", .text longText)]) := by
  have low : AsciiOnly longText := by
    intro c member
    rw [List.eq_of_mem_replicate member]
    decide
  have key : AsciiOnly (lit "text") := ascii_of_all (by decide)
  apply isJson_iff.mpr
  refine .dict (List.nodup_singleton _) ?_ ?_
  · intro entry member
    rw [List.mem_singleton.mp member]
    exact ascii_unsplit key
  · intro entry member
    rw [List.mem_singleton.mp member]
    exact .text (ascii_unsplit low)

def longEvent : Publication where
  publisher := nameOf (lit "first") (by decide)
  memberId := nameOf (lit "member") (by decide)
  eventType := nameOf (lit "message") (by decide)
  data := ⟨[(lit "text", .text longText)], long_text_json⟩

/-- A text for a value that is no string; the long event has only strings. -/
def writtenStr : Str where
  of
    | .text value => value
    | value => dumps Number.write true value
  text _ := rfl

/-- An event whose long string is not its content is refused with and without the content, and nobody hands it on. -/
theorem long_event_lost : ¬ Runs.Throughout (Cluster.step writtenStr) (Survives writtenStr)
    (Cluster.start [nameOf (lit "first") (by decide), nameOf (lit "second") (by decide)]) [.publish longEvent] := by
  intro survives
  have slim : withoutContent longEvent.data.val = longEvent.data.val := rfl
  have bytes : notifyLimit ≤ longEvent.bytes longEvent.data.val := by
    have long := string_bytes longEvent (List.mem_singleton_self (lit "text", Value.text longText))
    rwa [longText, List.length_replicate] at long
  have limits : maxPayloadBytes < notifyLimit := by decide
  rcases (publish_kept (start_kept writtenStr _) longEvent).mpr survives.1 with whole | small | alone
  · omega
  · rw [slim] at small
    omega
  · have other := congrArg Subtype.val (alone ⟨nameOf (lit "second") (by decide), [], []⟩ (.tail _ (.head _)))
    exact absurd other (show lit "second" ≠ lit "first" by decide)

end Sprintable.PubSub
