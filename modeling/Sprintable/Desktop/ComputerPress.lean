import Mathlib.Data.List.Dedup
import Sprintable.Desktop.ClockView
import Sprintable.Desktop.Computers
import Sprintable.Logic.Interleave
import Sprintable.Logic.Keyed

/-! A press of the clock for a whole computer, statement by statement. The setups of the computer are
found, locked and found again; what else a press of each setup would ask is read in between, while
other transactions go on. -/

namespace Sprintable.Desktop
open Interleave

/-- Seconds that a device may be silent and still be reached. -/
def UNKNOWN_AFTER : Nat := 90

def GROUP_ROWS_MAX : Nat := 20000

def CLOCK_SCOPE_MAX : Nat := 500

def SCOPE_TOTAL_MAX : Nat := 100000

def IDEMPOTENCY_KEY_MAX : Nat := 128

/-- The length of the `b5:` and the member's id that a press puts before its key. -/
def PRESS_KEY_PREFIX : Nat := 40

/-- A row of `desktop_setups`, as a press reads it. The name is stripped and folded. -/
structure ClockSetup where
  id : Nat
  orgId : Nat
  agents : List Nat
  confirmedBy : Option Nat
  machineKey : Option String := none
  deviceName : String := ""
  confirmed : Bool := true
  exchanged : Bool := true
  revoked : Bool := false
  replaced : Bool := false
  computerPress : Bool := true
  deriving DecidableEq, Repr

structure PhoneKey where
  id : Nat
  memberId : Nat
  revoked : Bool := false
  deriving DecidableEq, Repr

/-- What committed transactions have left. -/
structure World where
  setups : List ClockSetup := []
  /-- The role of a user in an organisation. -/
  role : Nat → Nat → Option String := fun _ _ => none
  phones : List PhoneKey := []
  /-- The pairs of a phone and a setup that are not removed. -/
  pairings : List (Nat × Nat) := []
  /-- The last use of a setup's live token. -/
  lastUsedAt : Nat → Option Nat := fun _ => none
  remoteControl : Nat → Bool := fun _ => true
  now : Nat := 0

structure Press where
  memberId : Nat
  userId : Nat
  orgId : Nat
  setupId : Nat
  phoneId : Nat
  action : ClockAction
  signed : String
  idempotencyKey : String
  deriving DecidableEq, Repr

def ClockSetup.live (setup : ClockSetup) (orgId : Nat) : Bool := setup.orgId == orgId && !setup.revoked && setup.exchanged

/-- An owner or admin of the organisation, or whoever confirmed the device. -/
def canClock (role : Option String) (userId : Nat) (setup : ClockSetup) : Bool :=
  role == some "owner" || role == some "admin" || setup.confirmedBy == some userId

/-- Whose a setup is; nobody known is nobody else's. -/
inductive Owner where
  | user (userId : Nat)
  | unknown (setupId : Nat)
  deriving DecidableEq, Repr

inductive Place where
  | machine (key : String)
  | device (name : String)
  deriving DecidableEq, Repr

structure ComputerId where
  place : Place
  owner : Owner
  deriving DecidableEq, Repr

def ClockSetup.owner (setup : ClockSetup) : Owner := (setup.confirmedBy.map .user).getD (.unknown setup.id)

/-- The machine key, when it counts as one. -/
def ClockSetup.machine (setup : ClockSetup) : Option String := setup.machineKey.filter (· ≠ "")

/-- The machine keys of the setups that have this device name and owner. -/
def machineKeys (setups : List ClockSetup) (setup : ClockSetup) : List String :=
  ((setups.filter fun other => other.deviceName == setup.deviceName && other.owner == setup.owner).filterMap
    ClockSetup.machine).dedup

/-- `assign_computers`, for one of the setups. -/
def computerOf (setups : List ClockSetup) (setup : ClockSetup) : ComputerId where
  owner := setup.owner
  place :=
    match setup.machine, machineKeys setups setup with
    | some key, _ => .machine key
    | none, [key] => .machine key
    | none, _ => .device setup.deviceName

section Derived
variable {uuid : Nat → PyText.Uuid} {casefold : String → String} {orgId : PyText.Uuid} {setups : List ClockSetup}

/-- The setup as the derivation of the ids reads it. -/
def ClockSetup.facts (uuid : Nat → PyText.Uuid) (setup : ClockSetup) : Computers.SetupFacts where
  id := uuid setup.id
  machineKey := setup.machineKey
  confirmedBy := setup.confirmedBy.map uuid
  deviceName := setup.deviceName

def Place.text : Place → String
  | .machine key => "mk:" ++ key
  | .device name => "dn:" ++ name

theorem place_text_injective : Function.Injective Place.text := by
  intro first second same
  cases first with
  | machine key =>
    cases second with
    | machine other => rw [Computers.keyed_append_inj.mp same]
    | device name => exact absurd same Computers.keyed_ne_named
  | device name =>
    cases second with
    | machine key => exact absurd same.symm Computers.keyed_ne_named
    | device other =>
      have names := congrArg String.toList same
      rw [Place.text, Place.text, String.toList_append, String.toList_append, List.append_right_inj, String.toList_inj] at names
      rw [names]

/-- The setups and their confirmers have ids of their own, and the names are stripped and folded. -/
structure Known (uuid : Nat → PyText.Uuid) (casefold : String → String) (setups : List ClockSetup) : Prop where
  apart : ∃ ids : Set Nat, Set.InjOn uuid ids ∧
    ∀ setup ∈ setups, setup.id ∈ ids ∧ ∀ person, setup.confirmedBy = some person → person ∈ ids
  folded : ∀ setup ∈ setups, Computers.name casefold setup.deviceName = setup.deviceName

variable (known : Known uuid casefold setups) {first second : ClockSetup} (left : first ∈ setups) (right : second ∈ setups)
include known left

include right in
theorem owner_iff : Computers.who (first.facts uuid) = Computers.who (second.facts uuid) ↔ first.owner = second.owner := by
  obtain ⟨ids, injective, named⟩ := known.apart
  obtain ⟨firstId, firstPerson⟩ := named first left
  obtain ⟨secondId, secondPerson⟩ := named second right
  rw [Computers.who_eq_iff]
  unfold Computers.SamePerson ClockSetup.facts ClockSetup.owner
  cases confirmed : first.confirmedBy with
  | none =>
    have own := injective.eq_iff firstId secondId
    cases second.confirmedBy <;> simp [own]
  | some person =>
    cases other : second.confirmedBy with
    | none => simp
    | some another =>
      have same := injective.eq_iff (firstPerson person confirmed) (secondPerson another other)
      simp [← same, eq_comm]

theorem keys_by_pair :
    Computers.keysByPair casefold (setups.map (ClockSetup.facts uuid)) (first.facts uuid) = machineKeys setups first := by
  have pairs : ∀ other ∈ setups, decide (Computers.name casefold (other.facts uuid).deviceName =
        Computers.name casefold (first.facts uuid).deviceName ∧ Computers.who (other.facts uuid) = Computers.who (first.facts uuid)) =
      (other.deviceName == first.deviceName && other.owner == first.owner) := by
    intro other listed
    have names : Computers.name casefold (other.facts uuid).deviceName = other.deviceName := known.folded other listed
    have own : Computers.name casefold (first.facts uuid).deviceName = first.deviceName := known.folded first left
    simp only [names, own, owner_iff known listed left, Bool.decide_and, beq_eq_decide]
  rw [Computers.keysByPair, List.filter_map, List.filterMap_map, machineKeys]
  exact congrArg (fun rows => (rows.filterMap ClockSetup.machine).dedup) (List.filter_congr pairs)

theorem place_of :
    Computers.placeOf casefold (setups.map (ClockSetup.facts uuid)) (first.facts uuid) = (computerOf setups first).place.text := by
  have own : Computers.keyOf (first.facts uuid) = first.machine := rfl
  have name : Computers.name casefold (first.facts uuid).deviceName = first.deviceName := known.folded first left
  rw [Computers.placeOf, keys_by_pair known left, own, name, computerOf]
  dsimp only
  cases first.machine with
  | some key => rfl
  | none =>
    rcases machineKeys setups first with _ | ⟨key, _ | ⟨other, rest⟩⟩
    · rfl
    · rfl
    · rfl

include right in
/-- Two setups have one computer here exactly if their ids are derived from one text. -/
theorem computerOf_eq_iff : computerOf setups first = computerOf setups second ↔
    Computers.computerText casefold orgId (setups.map (ClockSetup.facts uuid)) (first.facts uuid) =
      Computers.computerText casefold orgId (setups.map (ClockSetup.facts uuid)) (second.facts uuid) := by
  rw [Computers.computerText_eq_iff, place_of known left, place_of known right, place_text_injective.eq_iff,
    owner_iff known left right, ComputerId.mk.injEq]
  rfl

end Derived

namespace World
variable (world : World) (press : Press)

def setup (id : Nat) : Option ClockSetup := world.setups.find? (·.id == id)

/-- `org_setup_facts`. -/
def facts (orgId : Nat) : List ClockSetup :=
  world.setups.filter fun setup => setup.orgId == orgId && setup.confirmed && !setup.replaced

/-- The setups that `computer_index` puts with the pressed one. -/
def grouping : Except DesktopRelayError (List Nat) :=
  let facts := world.facts press.orgId
  if GROUP_ROWS_MAX < facts.length then
    .error ⟨409, "computer_too_large", "this computer holds too many setups to press as one"⟩
  else match facts.find? (·.id == press.setupId) with
  | none => .ok []
  | some pressed => .ok ((facts.filter fun setup => computerOf facts setup = computerOf facts pressed).map (·.id))

def liveIds (ids : List Nat) : List Nat :=
  press.setupId :: (ids.filter fun id => id ≠ press.setupId ∧ (world.setup id).any (·.live press.orgId))

def heard (id : Nat) : Bool :=
  (world.setup id).any (!·.revoked) && (world.lastUsedAt id).any fun last => world.now ≤ last + UNKNOWN_AFTER

/-- `paired_phone`: the person's own live key, paired with a setup that is not disconnected. -/
def paired (id : Nat) : Bool :=
  world.phones.any (fun phone => phone.id == press.phoneId && phone.memberId == press.memberId && !phone.revoked) &&
    decide ((press.phoneId, id) ∈ world.pairings) && (world.setup id).any (!·.revoked)

/-- `_authorized_computer`. -/
def authorized : Except DesktopRelayError ClockSetup :=
  match (world.setup press.setupId).filter (·.live press.orgId) with
  | none => .error ⟨404, "computer_not_found", "no such computer"⟩
  | some setup =>
    if canClock (world.role press.userId press.orgId) press.userId setup then .ok setup
    else .error ⟨403, "not_allowed_to_command", "you cannot command this computer"⟩

def checkRemoteControl : Except DesktopRelayError Unit :=
  if world.remoteControl press.orgId then .ok ()
  else .error ⟨409, OFF_CODE, "remote control is off for this organization"⟩

def checkHeard : Except DesktopRelayError Unit :=
  if world.heard press.setupId then .ok ()
  else .error ⟨409, "device_unreachable", "that computer has not been heard from"⟩

def checkPaired : Except DesktopRelayError Unit :=
  if world.paired press press.setupId then .ok ()
  else .error ⟨409, "phone_not_paired", "this phone is not paired with that computer"⟩

def liveRows (ids : List Nat) (pressed : ClockSetup) : List ClockSetup :=
  pressed :: ((ids.filter (· ≠ pressed.id)).filterMap world.setup).filter (·.live press.orgId)

/-- What a press of this one setup by the same person and phone would ask. -/
def mayPress (id : Nat) : Bool :=
  (world.setup id).any (fun setup => setup.live press.orgId && canClock (world.role press.userId press.orgId) press.userId setup) &&
    world.remoteControl press.orgId && world.heard id && world.paired press id

end World

structure ClockCommand where
  setupId : Nat
  action : ClockAction
  signed : String
  scope : List Nat
  scopeTotal : Nat
  idempotencyKey : String
  requestedBy : Nat
  deriving DecidableEq, Repr

/-- A queued command, with a record of how it came about: the setups first found, the rows that the
scope was collected from, and the world it was queued in. -/
structure Queued where
  press : Press
  command : ClockCommand
  found : List Nat
  rows : List ClockSetup
  world : World

/-- The locks of an open press: on the rows of these setups, and once `shares` is set a share lock on
the phone's key and its pair with the pressed setup. -/
structure Hold where
  press : Press
  locked : List Nat
  shares : Bool := false
  deriving DecidableEq, Repr

inductive Outcome where
  | refused (error : DesktopRelayError)
  | again (command : ClockCommand)
  | queued (command : ClockCommand)
  deriving DecidableEq, Repr

structure PressDesk where
  world : World := {}
  queued : List Queued := []
  /-- The locks of the open presses. -/
  holds : List (Nat × Hold) := []
  outcomes : List (Nat × Outcome) := []
  /-- The presses whose connection broke. -/
  aborted : List Nat := []

namespace PressDesk
variable (desk : PressDesk) (self : Nat)

def holdOf : Option Hold := (Keyed.find Prod.fst desk.holds self).map Prod.snd

def release : PressDesk := { desk with holds := desk.holds.filter fun entry => entry.1 ≠ self }

/-- The locks of a press. Presses only read what they lock, so they do not wait for each other here. -/
def hold (hold : Hold) : PressDesk := { desk with holds := (self, hold) :: (desk.release self).holds }

def finish (outcome : Outcome) : PressDesk := { desk.release self with outcomes := desk.outcomes ++ [(self, outcome)] }

def earlier (press : Press) : Option ClockCommand :=
  (desk.queued.find? fun record =>
    record.command.setupId == press.setupId && record.command.idempotencyKey == press.idempotencyKey &&
      record.command.requestedBy == press.memberId).map (·.command)

/-- `enqueue_command` and the commit. -/
def enqueue (record : Queued) : PressDesk :=
  if !desk.world.remoteControl record.press.orgId then
    desk.finish self (.refused ⟨409, OFF_CODE, "remote control is off for this organization"⟩)
  else if CLOCK_SCOPE_MAX < record.command.scope.length then
    let length := record.command.scope.length
    desk.finish self (.refused
      ⟨422, "invalid_payload", s!"List should have at most {CLOCK_SCOPE_MAX} items after validation, not {length}"⟩)
  else if SCOPE_TOTAL_MAX < record.command.scopeTotal then
    desk.finish self (.refused ⟨422, "invalid_payload", s!"Input should be less than or equal to {SCOPE_TOTAL_MAX}"⟩)
  else if IDEMPOTENCY_KEY_MAX < PRESS_KEY_PREFIX + record.press.idempotencyKey.length then
    desk.finish self (.refused ⟨422, "invalid_idempotency_key", "an idempotency key of 1 to 128 characters"⟩)
  else match desk.earlier record.press with
  | some command => desk.finish self (.again command)
  | none => { desk.finish self (.queued record.command) with queued := desk.queued ++ [{ record with world := desk.world }] }

/-- The pairing is read and locked in one statement. -/
def sharePair (press : Press) (found : List Nat) : Except DesktopRelayError Unit × PressDesk :=
  match desk.world.checkPaired press with
  | .ok () => (.ok (), desk.hold self { press, locked := found, shares := true })
  | .error error => (.error error, desk)

end PressDesk

abbrev PressProg := Prog Unit PressDesk Unit

def finish (self : Nat) (outcome : Outcome) : PressProg := Prog.write (·.finish self outcome)

/-- A statement that reads, and the end of the press where it raises. -/
def check (self : Nat) (query : PressDesk → Except DesktopRelayError β) (next : β → PressProg) : PressProg := do
  match ← Prog.read query with
  | .ok value => next value
  | .error error => finish self (.refused error)

/-- The pairing with each other setup is read one after the other, without a lock. -/
def collect (press : Press) (role : Option String) (heard : List Nat) (next : List Nat → PressProg) :
    List ClockSetup → List Nat → PressProg
  | [], pressable => next pressable
  | row :: rest, pressable =>
    if row.id = press.setupId then
      collect press role heard next rest (if row.id ∈ heard then pressable ++ row.agents else pressable)
    else if canClock role press.userId row ∧ row.id ∈ heard then do
      let paired ← Prog.read fun desk => desk.world.paired press row.id
      collect press role heard next rest (if paired then pressable ++ row.agents else pressable)
    else collect press role heard next rest pressable

/-- Every agent of the setups that are heard from, and of the pressed one. -/
def scopeTotal (press : Press) (heard : List Nat) (rows : List ClockSetup) : Nat :=
  ((rows.filter fun row => row.id = press.setupId ∨ row.id ∈ heard).flatMap (·.agents)).dedup.length

def sameSetups (first second : List Nat) : Prop := (∀ id ∈ first, id ∈ second) ∧ ∀ id ∈ second, id ∈ first

instance (first second : List Nat) : Decidable (sameSetups first second) := inferInstanceAs (Decidable (_ ∧ _))

/-- `_computer_scope` and the queueing, under the locks. -/
def queueScope (self : Nat) (press : Press) (found : List Nat) (pressed : ClockSetup) : PressProg :=
  check self (fun desk => desk.world.grouping press) fun ids => do
  let ids ← Prog.read fun desk => desk.world.liveIds press ids
  let rows ← Prog.read fun desk => desk.world.liveRows press ids pressed
  let role ← Prog.read fun desk => desk.world.role press.userId press.orgId
  let heard ← Prog.read fun desk => (rows.map (·.id)).filter desk.world.heard
  collect press role heard (fun pressable =>
    if sameSetups (rows.map (·.id)) found then
      Prog.write fun desk => desk.enqueue self
        { press, found, rows, world := desk.world
          command :=
            { setupId := press.setupId, action := press.action, signed := press.signed
              scope := pressable.dedup.insertionSort (· ≤ ·), scopeTotal := scopeTotal press heard rows
              idempotencyKey := press.idempotencyKey, requestedBy := press.memberId } }
    else finish self (.refused
      ⟨409, "computer_changing", "this computer changed while the press was made — press again"⟩)) rows []

/-- The pair of the phone with the pressed setup, and the lock on it. -/
def sharePairing (self : Nat) (press : Press) (found : List Nat) (next : PressProg) : PressProg := do
  match ← Prog.atomically fun _ desk => desk.sharePair self press found with
  | .ok () => next
  | .error error => finish self (.refused error)

/-- `create_clock`, for a press with the computer mark. -/
def createClock (self : Nat) (press : Press) : PressProg :=
  check self (fun desk => desk.world.authorized press) fun _ =>
  check self (fun desk => desk.world.grouping press) fun ids => do
  let found ← Prog.read fun desk => desk.world.liveIds press ids
  Prog.write fun desk => desk.hold self { press, locked := found }
  check self (fun desk => desk.world.authorized press) fun pressed => do
  match ← Prog.read fun desk => desk.earlier press with
  | some command => finish self (.again command)
  | none =>
    check self (fun desk => desk.world.checkRemoteControl press) fun _ =>
    check self (fun desk => desk.world.checkHeard press) fun _ =>
    sharePairing self press found <|
    if !pressed.computerPress then
      finish self (.refused
        ⟨409, "computer_press_unsupported", "that computer's app cannot take a press of the whole computer yet"⟩)
    else queueScope self press found pressed

inductive Interference where
  | others (world : World)
  | abort (press : Nat)

/-- The other world leaves what the press has locked. Remote control is turned off under the locks of
all the organisation's setups, and a token is revoked or replaced under that of its setup. -/
def Hold.respected (hold : Hold) (before after : World) : Prop :=
  (∀ id ∈ hold.locked, after.setup id = before.setup id) ∧
    (before.remoteControl hold.press.orgId → after.remoteControl hold.press.orgId) ∧
    (hold.shares → before.paired hold.press hold.press.setupId → after.paired hold.press hold.press.setupId)

instance (hold : Hold) (before after : World) : Decidable (hold.respected before after) :=
  inferInstanceAs (Decidable (_ ∧ _ ∧ _))

def PressDesk.interfere (desk : PressDesk) : Interference → PressDesk
  | .others world =>
    if ∀ entry ∈ desk.holds, entry.2.respected desk.world world then { desk with world } else desk
  | .abort press => { desk.release press with aborted := press :: desk.aborted }

def pressHost : Host Unit PressDesk Press Interference where
  launch self press _ := { live := fun desk => self ∉ desk.aborted, program := createClock self press }
  outside change desk := desk.interfere change

end Sprintable.Desktop
