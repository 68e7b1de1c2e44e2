import Mathlib.Data.List.Sort
import Sprintable.Logic.Runs

/-! The phones that are paired with a desktop. A pair that a person removes stays removed until
the device has dropped the key; the server tells so from the snapshots of the device's own list,
in which it sees only the keys that are registered. -/

namespace Sprintable.Desktop
open Runs

def PHONES_PER_PERSON : Nat := 3

/-- The code of a refusal while the organisation's remote control is off. -/
def OFF_CODE : String := "remote_control_off"

structure DesktopRelayError where
  status : Nat
  code : String
  message : String
  deriving DecidableEq, Repr

/-- A phone key. It is known by its fingerprint, which is unique. -/
structure RemoteDevice where
  fingerprint : String
  memberId : Nat
  orgId : Nat
  label : String
  revokedAt : Option Nat := none
  deriving DecidableEq, Repr

structure RemoteDevicePairing where
  fingerprint : String
  setupId : Nat
  pairedAt : Nat
  reportedAt : Nat
  removedAt : Option Nat := none
  removedBy : Option Nat := none
  removalAckedAt : Option Nat := none
  deriving DecidableEq, Repr

structure DesktopSetup where
  id : Nat
  orgId : Nat
  deriving DecidableEq, Repr

structure PairingReport where
  phoneKeyFingerprint : String
  pairedAt : Nat
  deriving DecidableEq, Repr

structure Actor where
  memberId : Option Nat
  isAdmin : Bool
  orgId : Nat
  deriving DecidableEq, Repr

/-- A registration with what `register_phone` reads about people: if the login has ended, the
user of the caller, and the user that owns the key. -/
structure Registration where
  memberId : Nat
  orgId : Nat
  fingerprint : String
  label : String
  sessionEnded : Bool := false
  userId : Option Nat := none
  ownerUserId : Option Nat := none
  deriving DecidableEq, Repr

namespace RemoteDevicePairing
variable (pair : RemoteDevicePairing)

def key : String × Nat := (pair.fingerprint, pair.setupId)

def active : Bool := pair.removedAt.isNone

/-- Removed, and not yet dropped by the device as far as the server knows. -/
def awaits : Bool := pair.removedAt.isSome && pair.removalAckedAt.isNone

def remove (actor : Actor) (now : Nat) : RemoteDevicePairing :=
  { pair with removedAt := some now, removedBy := actor.memberId, removalAckedAt := none }

def list (pairedAt now : Nat) : RemoteDevicePairing :=
  if pair.awaits then { pair with reportedAt := now }
  else if pair.removedAt.isSome then
    { pair with removedAt := none, removedBy := none, removalAckedAt := none, pairedAt, reportedAt := now }
  else { pair with pairedAt, reportedAt := now }

/-- The device lists no such key, or none that is registered. -/
def drop (now : Nat) : RemoteDevicePairing :=
  { pair with
    removedAt := if pair.removedAt.isNone then some now else pair.removedAt
    removalAckedAt := if pair.removalAckedAt.isNone then some now else pair.removalAckedAt }

end RemoteDevicePairing

structure Phones where
  phones : List RemoteDevice := []
  pairings : List RemoteDevicePairing := []
  deriving DecidableEq, Repr

namespace Phones
variable (desk : Phones)

/-- The key is registered, live and in the organisation. -/
def registered (orgId : Nat) (fingerprint : String) : Bool :=
  desk.phones.any fun phone => phone.fingerprint == fingerprint && phone.orgId == orgId && phone.revokedAt.isNone

def phone (fingerprint : String) : Option RemoteDevice := desk.phones.find? (·.fingerprint == fingerprint)

def putPhone (fingerprint : String) (change : RemoteDevice → RemoteDevice) : Phones :=
  { desk with phones := desk.phones.map fun phone => if phone.fingerprint = fingerprint then change phone else phone }

def live (memberId : Nat) : List RemoteDevice :=
  desk.phones.filter fun phone => phone.memberId == memberId && phone.revokedAt.isNone

/-- `_key_of_same_person`: nothing, or if the key has no pairs and can move. -/
def keyOfSamePerson (registration : Registration) : Option Bool :=
  if registration.userId.isNone ∨ registration.ownerUserId ≠ registration.userId then none
  else some (!desk.pairings.any fun pair => pair.fingerprint == registration.fingerprint && pair.active)

/-- `register_phone`, for a key that has no row or a live row of its own, or is registered again. -/
def enroll (registration : Registration) (existing : Option RemoteDevice) : Except DesktopRelayError Phones :=
  if existing.any (·.revokedAt.isNone) then .ok desk
  else if PHONES_PER_PERSON ≤ (desk.live registration.memberId).length then
    .error ⟨409, "remote_device_limit", "at most three phones"⟩
  else match existing with
  | some _ => .ok <| desk.putPhone registration.fingerprint fun phone =>
      { phone with revokedAt := none, label := registration.label, orgId := registration.orgId }
  | none => .ok
      { desk with
        phones := desk.phones ++
          [{ fingerprint := registration.fingerprint, memberId := registration.memberId, orgId := registration.orgId
             label := registration.label }] }

/-- `register_phone`. The key of another member moves with its person. -/
def registerPhone (registration : Registration) : Except DesktopRelayError Phones :=
  if registration.sessionEnded then
    .error ⟨401, "session_ended", "this login has ended — sign in again to register the phone"⟩
  else match desk.phone registration.fingerprint with
  | some existing =>
    if existing.memberId = registration.memberId then desk.enroll registration (some existing)
    else match desk.keyOfSamePerson registration with
    | none => .error ⟨409, "remote_device_taken", "this phone key is registered by someone else"⟩
    | some false =>
      .error ⟨409, "remote_device_other_org", "this phone key is paired with a computer of another organization of yours"⟩
    | some true =>
      (desk.putPhone registration.fingerprint fun phone =>
        { phone with memberId := registration.memberId, orgId := registration.orgId }).enroll registration (some existing)
  | none => desk.enroll registration none

def ownPhone (fingerprint : String) (actor : Actor) : Option RemoteDevice :=
  (desk.phone fingerprint).filter fun phone =>
    phone.orgId == actor.orgId && (actor.isAdmin || actor.memberId == some phone.memberId)

/-- Every active pair of the kind is removed. -/
def removeWhere (kind : RemoteDevicePairing → Bool) (actor : Actor) (now : Nat) : Phones :=
  { desk with pairings := desk.pairings.map fun pair => if kind pair && pair.active then pair.remove actor now else pair }

def removePair (fingerprint : String) (setupId : Nat) (actor : Actor) (now : Nat) : Except DesktopRelayError Phones :=
  let kind := fun pair : RemoteDevicePairing => decide (pair.key = (fingerprint, setupId))
  match desk.ownPhone fingerprint actor with
  | none => .error ⟨404, "pairing_not_found", "no such pairing"⟩
  | some _ =>
    if desk.pairings.any kind then .ok (desk.removeWhere kind actor now)
    else .error ⟨404, "pairing_not_found", "no such pairing"⟩

/-- `remove_computer_pairs`, with the setups of the computer, if they could be listed. -/
def removeComputerPairs (fingerprint : String) (setupIds : Option (List Nat)) (actor : Actor) (now : Nat) :
    Except DesktopRelayError Phones :=
  match desk.ownPhone fingerprint actor, setupIds with
  | none, _ => .error ⟨404, "pairing_not_found", "no such pairing"⟩
  | some _, none =>
    .error ⟨409, "computer_too_large", "this organization has more setups than a computer can be removed from in one step"⟩
  | some _, some setupIds =>
    let kind := fun pair : RemoteDevicePairing => pair.fingerprint == fingerprint && decide (pair.setupId ∈ setupIds)
    if desk.pairings.any kind then .ok (desk.removeWhere kind actor now)
    else .error ⟨404, "pairing_not_found", "no such pairing"⟩

def removePhone (fingerprint : String) (actor : Actor) (now : Nat) : Except DesktopRelayError Phones :=
  match desk.ownPhone fingerprint actor with
  | none => .error ⟨404, "phone_not_found", "no such phone"⟩
  | some phone =>
    if phone.revokedAt.isSome then .ok desk
    else .ok <| (desk.putPhone fingerprint fun phone => { phone with revokedAt := some now }).removeWhere
      (·.fingerprint == fingerprint) actor now

def listed (setup : DesktopSetup) (snapshot : List PairingReport) : List PairingReport :=
  snapshot.filter fun report => desk.registered setup.orgId report.phoneKeyFingerprint

/-- What a snapshot makes of a pair of its device. -/
def report (setup : DesktopSetup) (snapshot : List PairingReport) (now : Nat) (pair : RemoteDevicePairing) : RemoteDevicePairing :=
  if pair.setupId = setup.id then
    match (desk.listed setup snapshot).find? (·.phoneKeyFingerprint == pair.fingerprint) with
    | some report => pair.list report.pairedAt now
    | none => pair.drop now
  else pair

def replacePairings (setup : DesktopSetup) (snapshot : List PairingReport) (now : Nat) : Except DesktopRelayError Phones :=
  if (snapshot.map PairingReport.phoneKeyFingerprint).Nodup then
    let added := (desk.listed setup snapshot).filter fun report =>
      !desk.pairings.any fun pair => decide (pair.key = (report.phoneKeyFingerprint, setup.id))
    .ok
      { desk with
        pairings := desk.pairings.map (desk.report setup snapshot now) ++ added.map fun report =>
          { fingerprint := report.phoneKeyFingerprint, setupId := setup.id, pairedAt := report.pairedAt, reportedAt := now } }
  else .error ⟨422, "duplicate_pairing", "a phone key appears twice in the snapshot"⟩

def removalsToSend (setupId : Nat) : List String :=
  ((desk.pairings.filter fun pair => pair.setupId == setupId && pair.awaits).insertionSort
    fun first second => first.removedAt.getD 0 ≤ second.removedAt.getD 0).map RemoteDevicePairing.fingerprint

end Phones

inductive PairingEvent where
  | snapshot (setup : DesktopSetup) (snapshot : List PairingReport) (now : Nat)
  | removePair (fingerprint : String) (setupId : Nat) (actor : Actor) (now : Nat)
  | removeComputerPairs (fingerprint : String) (setupIds : Option (List Nat)) (actor : Actor) (now : Nat)
  | removePhone (fingerprint : String) (actor : Actor) (now : Nat)
  | registerPhone (registration : Registration)
  deriving DecidableEq, Repr

namespace Phones
variable (desk : Phones)

def attempt : PairingEvent → Except DesktopRelayError Phones
  | .snapshot setup snapshot now => desk.replacePairings setup snapshot now
  | .removePair fingerprint setupId actor now => desk.removePair fingerprint setupId actor now
  | .removeComputerPairs fingerprint setupIds actor now => desk.removeComputerPairs fingerprint setupIds actor now
  | .removePhone fingerprint actor now => desk.removePhone fingerprint actor now
  | .registerPhone registration => desk.registerPhone registration

end Phones

end Sprintable.Desktop
