import Sprintable.Desktop.Pairings

/-! Which removals the device still has to hear of. A pair that a person removed is kept on record
until a snapshot of its device leaves the key out; the server keeps the same account in its own
columns just as long as it sees every key that a snapshot lists. -/

namespace Sprintable.Desktop
open Runs

/-- The tables, and a record of the pairs that a person removed and that no snapshot of their
device has left out since. -/
structure Watch where
  desk : Phones := {}
  undropped : List (String × Nat) := []
  deriving DecidableEq, Repr

def Phones.isActive (desk : Phones) (key : String × Nat) : Bool :=
  desk.pairings.any fun pair => decide (pair.key = key) && pair.active

namespace Watch

/-- What an event makes of the record. -/
def note (watch : Watch) (after : Phones) : PairingEvent → List (String × Nat)
  | .snapshot setup snapshot _ =>
    watch.undropped.filter fun key => key.2 ≠ setup.id ∨ key.1 ∈ snapshot.map PairingReport.phoneKeyFingerprint
  | .removePair .. | .removeComputerPairs .. | .removePhone .. | .registerPhone _ =>
    watch.undropped ++
      (watch.desk.pairings.filter fun pair => pair.active && !after.isActive pair.key).map RemoteDevicePairing.key

def step (watch : Watch) (event : PairingEvent) : Watch :=
  match watch.desk.attempt event with
  | .ok after => { desk := after, undropped := watch.note after event }
  | .error _ => watch

/-- A snapshot that lists a pair whose removal is not done finds its key registered, live, and in
the organisation of the device. -/
def Registered (watch : Watch) : PairingEvent → Prop
  | .snapshot setup snapshot _ =>
    (snapshot.map PairingReport.phoneKeyFingerprint).Nodup → ∀ pair ∈ watch.desk.pairings, pair.setupId = setup.id →
      pair.awaits = true → pair.fingerprint ∈ snapshot.map PairingReport.phoneKeyFingerprint →
      watch.desk.registered setup.orgId pair.fingerprint = true
  | .removePair .. | .removeComputerPairs .. | .removePhone .. | .registerPhone _ => True

instance (watch : Watch) (event : PairingEvent) : Decidable (watch.Registered event) := by
  cases event <;> unfold Registered <;> infer_instance

/-- What is claimed of a step: after it every undropped removal is sent and its pair is not
active; and a pair becomes active again only by a snapshot that lists its key, and not while
its removal is undropped. -/
structure StaysRemoved (before : Watch) (event : PairingEvent) (after : Watch) : Prop where
  sent : ∀ key ∈ after.undropped, key.1 ∈ after.desk.removalsToSend key.2 ∧ after.desk.isActive key = false
  again : ∀ key, (∃ pair ∈ before.desk.pairings, pair.key = key) → before.desk.isActive key = false →
    after.desk.isActive key = true → ∃ setup snapshot now, event = .snapshot setup snapshot now ∧ setup.id = key.2 ∧
      key.1 ∈ snapshot.map PairingReport.phoneKeyFingerprint ∧ key ∉ before.undropped

/-- The columns agree with the record. -/
structure Sound (watch : Watch) : Prop where
  unique : (watch.desk.pairings.map RemoteDevicePairing.key).Nodup
  awaits : ∀ key, key ∈ watch.undropped ↔ ∃ pair ∈ watch.desk.pairings, pair.key = key ∧ pair.awaits = true

end Watch

section Pairs
variable {desk : Phones} {pair other : RemoteDevicePairing} {key : String × Nat}

theorem isActive_iff : desk.isActive key = true ↔ ∃ pair ∈ desk.pairings, pair.key = key ∧ pair.active = true := by
  unfold Phones.isActive
  simp only [List.any_eq_true, Bool.and_eq_true, decide_eq_true_eq]

theorem same_pair (unique : (desk.pairings.map RemoteDevicePairing.key).Nodup) (inside : pair ∈ desk.pairings)
    (there : other ∈ desk.pairings) (same : pair.key = other.key) : pair = other :=
  List.inj_on_of_nodup_map unique inside there same

theorem awaits_inactive (awaits : pair.awaits = true) : pair.active = false := by
  unfold RemoteDevicePairing.awaits at awaits
  unfold RemoteDevicePairing.active
  cases removed : pair.removedAt with
  | none => simp [removed] at awaits
  | some at_ => rfl

theorem mem_removals {setupId : Nat} {fingerprint : String} : fingerprint ∈ desk.removalsToSend setupId ↔
    ∃ pair ∈ desk.pairings, pair.key = (fingerprint, setupId) ∧ pair.awaits = true := by
  unfold Phones.removalsToSend
  rw [List.mem_map]
  constructor
  · rintro ⟨pair, inside, rfl⟩
    obtain ⟨held, meets⟩ := List.mem_filter.mp ((List.perm_insertionSort _ _).mem_iff.mp inside)
    simp only [Bool.and_eq_true, beq_iff_eq] at meets
    exact ⟨pair, held, Prod.ext rfl meets.1, meets.2⟩
  · rintro ⟨pair, held, named, awaits⟩
    refine ⟨pair, (List.perm_insertionSort _ _).mem_iff.mpr (List.mem_filter.mpr ⟨held, ?_⟩), congrArg Prod.fst named⟩
    have setup : pair.setupId = setupId := congrArg Prod.snd named
    simp [setup, awaits]

theorem Watch.Sound.sent {watch : Watch} (sound : watch.Sound) (undropped : key ∈ watch.undropped) :
    key.1 ∈ watch.desk.removalsToSend key.2 ∧ watch.desk.isActive key = false := by
  obtain ⟨pair, held, named, awaits⟩ := (sound.awaits key).mp undropped
  refine ⟨mem_removals.mpr ⟨pair, held, named, awaits⟩, ?_⟩
  rw [Bool.eq_false_iff]
  intro active
  obtain ⟨other, there, same, running⟩ := isActive_iff.mp active
  cases same_pair sound.unique held there (named.trans same.symm)
  rw [awaits_inactive awaits] at running
  cases running

end Pairs

/-! Removals and registrations. -/

/-- A change of one pair by a person: none, or the removal of an active pair. -/
def Removes (change : RemoteDevicePairing → RemoteDevicePairing) : Prop :=
  ∀ pair, change pair = pair ∨ (pair.active = true ∧ ∃ actor now, change pair = pair.remove actor now)

section Removals
variable {desk after : Phones}

theorem removeWhere_removes (desk : Phones) (kind : RemoteDevicePairing → Bool) (actor : Actor) (now : Nat) :
    ∃ change, Removes change ∧ (desk.removeWhere kind actor now).pairings = desk.pairings.map change := by
  refine ⟨_, ?_, rfl⟩
  intro pair
  dsimp only
  split
  next both =>
    simp only [Bool.and_eq_true] at both
    exact .inr ⟨both.2, actor, now, rfl⟩
  next => exact .inl rfl

theorem unchanged_removes {pairings : List RemoteDevicePairing} (same : pairings = desk.pairings) :
    ∃ change, Removes change ∧ pairings = desk.pairings.map change :=
  ⟨id, fun _ => .inl rfl, by rw [same, List.map_id]⟩

theorem enroll_pairings {registration : Registration} {existing : Option RemoteDevice}
    (executed : desk.enroll registration existing = .ok after) : after.pairings = desk.pairings := by
  unfold Phones.enroll at executed
  split at executed
  · cases executed
    rfl
  split at executed
  · cases executed
  split at executed
  · cases executed
    rfl
  · cases executed
    rfl

theorem registerPhone_pairings {registration : Registration} (executed : desk.registerPhone registration = .ok after) :
    after.pairings = desk.pairings := by
  unfold Phones.registerPhone at executed
  split at executed
  · cases executed
  split at executed
  · split at executed
    · exact enroll_pairings executed
    split at executed
    · cases executed
    · cases executed
    · have moved := enroll_pairings executed
      exact moved
  · exact enroll_pairings executed

theorem attempt_removes {event : PairingEvent} (other : ∀ setup snapshot now, event ≠ .snapshot setup snapshot now)
    (executed : desk.attempt event = .ok after) :
    ∃ change, Removes change ∧ after.pairings = desk.pairings.map change := by
  cases event with
  | snapshot setup snapshot now => exact absurd rfl (other setup snapshot now)
  | removePair fingerprint setupId actor now =>
    simp only [Phones.attempt, Phones.removePair] at executed
    split at executed
    · cases executed
    split at executed
    · cases executed
      exact removeWhere_removes desk _ actor now
    · cases executed
  | removeComputerPairs fingerprint setupIds actor now =>
    simp only [Phones.attempt, Phones.removeComputerPairs] at executed
    split at executed
    · cases executed
    · cases executed
    split at executed
    · cases executed
      exact removeWhere_removes desk _ actor now
    · cases executed
  | removePhone fingerprint actor now =>
    simp only [Phones.attempt, Phones.removePhone] at executed
    split at executed
    · cases executed
    split at executed
    · cases executed
      exact unchanged_removes rfl
    · cases executed
      exact removeWhere_removes _ _ actor now
  | registerPhone registration => exact unchanged_removes (registerPhone_pairings executed)

end Removals

section Steps
variable {watch : Watch} {after : Phones}

theorem Removes.key {change : RemoteDevicePairing → RemoteDevicePairing} (removes : Removes change) (pair : RemoteDevicePairing) :
    (change pair).key = pair.key := by
  rcases removes pair with same | ⟨_, actor, now, removed⟩
  · rw [same]
  · rw [removed]
    rfl

theorem map_key {pairings : List RemoteDevicePairing} {change : RemoteDevicePairing → RemoteDevicePairing}
    (kept : ∀ pair, (change pair).key = pair.key) :
    (pairings.map change).map RemoteDevicePairing.key = pairings.map RemoteDevicePairing.key := by
  rw [List.map_map]
  apply List.map_congr_left
  intro pair _
  exact kept pair

theorem Watch.Sound.removed (sound : watch.Sound) {change : RemoteDevicePairing → RemoteDevicePairing} (removes : Removes change)
    (pairings : after.pairings = watch.desk.pairings.map change) :
    Watch.Sound { desk := after, undropped := watch.undropped ++
      (watch.desk.pairings.filter fun pair => pair.active && !after.isActive pair.key).map RemoteDevicePairing.key } := by
  have unique : (after.pairings.map RemoteDevicePairing.key).Nodup := by
    rw [pairings, map_key removes.key]
    exact sound.unique
  refine ⟨unique, ?_⟩
  intro key
  rw [List.mem_append, sound.awaits key, List.mem_map]
  constructor
  · rintro (⟨pair, held, named, awaits⟩ | ⟨pair, held, named⟩)
    · refine ⟨pair, ?_, named, awaits⟩
      rw [pairings]
      rcases removes pair with same | ⟨active, _⟩
      · exact List.mem_map.mpr ⟨pair, held, same⟩
      · rw [awaits_inactive awaits] at active
        cases active
    · obtain ⟨there, meets⟩ := List.mem_filter.mp held
      simp only [Bool.and_eq_true, Bool.not_eq_true'] at meets
      have inside : change pair ∈ after.pairings := by
        rw [pairings]
        exact List.mem_map_of_mem there
      rcases removes pair with same | ⟨_, actor, now, removed⟩
      · have still : after.isActive pair.key = true := isActive_iff.mpr ⟨pair, same ▸ inside, rfl, meets.1⟩
        rw [meets.2] at still
        cases still
      · refine ⟨change pair, inside, (removes.key pair).trans named, ?_⟩
        rw [removed]
        rfl
  · rintro ⟨pair, held, named, awaits⟩
    have inside := held
    rw [pairings] at held
    obtain ⟨old, there, rfl⟩ := List.mem_map.mp held
    rcases removes old with same | ⟨active, _⟩
    · rw [same] at named awaits
      exact .inl ⟨old, there, named, awaits⟩
    · refine .inr ⟨old, List.mem_filter.mpr ⟨there, ?_⟩, (removes.key old).symm.trans named⟩
      simp only [Bool.and_eq_true, Bool.not_eq_true']
      refine ⟨active, ?_⟩
      rw [Bool.eq_false_iff]
      intro running
      obtain ⟨other, present, same, live⟩ := isActive_iff.mp running
      cases same_pair unique inside present ((removes.key old).trans same.symm)
      rw [awaits_inactive awaits] at live
      cases live

theorem removed_again {change : RemoteDevicePairing → RemoteDevicePairing} (removes : Removes change)
    (pairings : after.pairings = watch.desk.pairings.map change) {key : String × Nat} (inactive : watch.desk.isActive key = false)
    (active : after.isActive key = true) : False := by
  obtain ⟨pair, held, named, running⟩ := isActive_iff.mp active
  rw [pairings] at held
  obtain ⟨old, there, rfl⟩ := List.mem_map.mp held
  rcases removes old with same | ⟨_, actor, now, removed⟩
  · rw [same] at named running
    rw [isActive_iff.mpr ⟨old, there, named, running⟩] at inactive
    cases inactive
  · rw [removed] at running
    cases running

end Steps

/-! Snapshots. -/

section Snapshots
variable {watch : Watch} {setup : DesktopSetup} {snapshot : List PairingReport} {now : Nat} {after : Phones}

theorem listed_find {fingerprint : String} :
    ((watch.desk.listed setup snapshot).find? (·.phoneKeyFingerprint == fingerprint)).isSome = true ↔
      fingerprint ∈ snapshot.map PairingReport.phoneKeyFingerprint ∧ watch.desk.registered setup.orgId fingerprint = true := by
  rw [List.find?_isSome]
  unfold Phones.listed
  constructor
  · rintro ⟨report, inside, same⟩
    obtain ⟨held, known⟩ := List.mem_filter.mp inside
    have named : report.phoneKeyFingerprint = fingerprint := by simpa using same
    rw [named] at known
    exact ⟨List.mem_map.mpr ⟨report, held, named⟩, known⟩
  · rintro ⟨listed, known⟩
    obtain ⟨report, held, named⟩ := List.mem_map.mp listed
    refine ⟨report, List.mem_filter.mpr ⟨held, ?_⟩, by simpa using named⟩
    rw [named]
    exact known

theorem report_key (desk : Phones) (pair : RemoteDevicePairing) : (desk.report setup snapshot now pair).key = pair.key := by
  unfold Phones.report
  split
  · split
    · unfold RemoteDevicePairing.list
      split
      · rfl
      split
      · rfl
      · rfl
    · rfl
  · rfl

theorem list_awaits (pair : RemoteDevicePairing) (pairedAt now : Nat) : (pair.list pairedAt now).awaits = pair.awaits := by
  unfold RemoteDevicePairing.list
  split
  · rfl
  next idle =>
    have quiet : pair.awaits = false := by simpa using idle
    rw [quiet]
    split
    · rfl
    next unremoved =>
      simp only [RemoteDevicePairing.awaits]
      simp [unremoved]

theorem drop_awaits (pair : RemoteDevicePairing) (now : Nat) : (pair.drop now).awaits = false := by
  unfold RemoteDevicePairing.drop RemoteDevicePairing.awaits
  cases pair.removalAckedAt with
  | none => simp
  | some acked => simp

/-- A snapshot leaves a removal open just where it is of another device or lists a registered key. -/
theorem report_awaits (pair : RemoteDevicePairing) : (watch.desk.report setup snapshot now pair).awaits = true ↔
    pair.awaits = true ∧ (pair.setupId = setup.id → pair.fingerprint ∈ snapshot.map PairingReport.phoneKeyFingerprint ∧
      watch.desk.registered setup.orgId pair.fingerprint = true) := by
  unfold Phones.report
  by_cases own : pair.setupId = setup.id
  · rw [if_pos own, ← listed_find]
    cases found : (watch.desk.listed setup snapshot).find? (·.phoneKeyFingerprint == pair.fingerprint) with
    | some report =>
      dsimp only
      rw [list_awaits]
      simp
    | none =>
      dsimp only
      rw [drop_awaits]
      simp [own]
  · rw [if_neg own]
    exact ⟨fun awaits => ⟨awaits, fun same => absurd same own⟩, And.left⟩

def paired (setup : DesktopSetup) (now : Nat) (report : PairingReport) : RemoteDevicePairing :=
  { fingerprint := report.phoneKeyFingerprint, setupId := setup.id, pairedAt := report.pairedAt, reportedAt := now }

/-- The registered keys that a snapshot lists for the first time. -/
def added (desk : Phones) (setup : DesktopSetup) (snapshot : List PairingReport) : List PairingReport :=
  (desk.listed setup snapshot).filter fun report =>
    !desk.pairings.any fun pair => decide (pair.key = (report.phoneKeyFingerprint, setup.id))

theorem replacePairings_spec {desk : Phones} (executed : desk.replacePairings setup snapshot now = .ok after) :
    (snapshot.map PairingReport.phoneKeyFingerprint).Nodup ∧
      after.pairings = desk.pairings.map (desk.report setup snapshot now) ++ (added desk setup snapshot).map (paired setup now) := by
  unfold Phones.replacePairings at executed
  split at executed
  next once =>
    cases executed
    exact ⟨once, rfl⟩
  next => cases executed

theorem added_fresh {desk : Phones} {report : PairingReport} (inside : report ∈ added desk setup snapshot)
    {pair : RemoteDevicePairing} (held : pair ∈ desk.pairings) : pair.key ≠ (report.phoneKeyFingerprint, setup.id) := by
  obtain ⟨_, fresh⟩ := List.mem_filter.mp inside
  simp only [Bool.not_eq_true', List.any_eq_false, decide_eq_true_eq] at fresh
  exact fresh pair held

theorem snapshot_unique {desk : Phones} (unique : (desk.pairings.map RemoteDevicePairing.key).Nodup)
    (executed : desk.replacePairings setup snapshot now = .ok after) : (after.pairings.map RemoteDevicePairing.key).Nodup := by
  obtain ⟨once, pairings⟩ := replacePairings_spec executed
  rw [pairings, List.map_append, map_key (report_key desk)]
  apply List.Nodup.append unique
  · have fingerprints : ((added desk setup snapshot).map PairingReport.phoneKeyFingerprint).Nodup := by
      apply List.Nodup.sublist _ once
      apply List.Sublist.map
      exact List.filter_sublist.trans List.filter_sublist
    rw [List.map_map]
    have keys : (added desk setup snapshot).map (RemoteDevicePairing.key ∘ paired setup now) =
        ((added desk setup snapshot).map PairingReport.phoneKeyFingerprint).map fun fingerprint => (fingerprint, setup.id) := by
      rw [List.map_map]
      rfl
    rw [keys]
    apply fingerprints.map
    intro first second same
    exact congrArg Prod.fst same
  · intro key old new
    obtain ⟨pair, held, rfl⟩ := List.mem_map.mp old
    rw [List.map_map] at new
    obtain ⟨report, inside, same⟩ := List.mem_map.mp new
    exact added_fresh inside held same.symm

theorem mem_snapshot {desk : Phones} (executed : desk.replacePairings setup snapshot now = .ok after) {pair : RemoteDevicePairing}
    (inside : pair ∈ after.pairings) : (∃ old ∈ desk.pairings, pair = desk.report setup snapshot now old) ∨
      ∃ report ∈ added desk setup snapshot, pair = paired setup now report := by
  rw [(replacePairings_spec executed).2] at inside
  rcases List.mem_append.mp inside with reported | new
  · obtain ⟨old, held, same⟩ := List.mem_map.mp reported
    exact .inl ⟨old, held, same.symm⟩
  · obtain ⟨report, held, same⟩ := List.mem_map.mp new
    exact .inr ⟨report, held, same.symm⟩

theorem reported_mem {desk : Phones} (executed : desk.replacePairings setup snapshot now = .ok after) {pair : RemoteDevicePairing}
    (held : pair ∈ desk.pairings) : desk.report setup snapshot now pair ∈ after.pairings := by
  rw [(replacePairings_spec executed).2]
  exact List.mem_append_left _ (List.mem_map_of_mem held)

theorem Watch.Sound.reported (sound : watch.Sound) (executed : watch.desk.replacePairings setup snapshot now = .ok after)
    (registered : watch.Registered (.snapshot setup snapshot now)) :
    Watch.Sound { desk := after, undropped := watch.note after (.snapshot setup snapshot now) } := by
  obtain ⟨once, _⟩ := replacePairings_spec executed
  refine ⟨snapshot_unique sound.unique executed, ?_⟩
  intro key
  unfold Watch.note
  rw [List.mem_filter, sound.awaits key, decide_eq_true_eq]
  constructor
  · rintro ⟨⟨pair, held, named, awaits⟩, stays⟩
    refine ⟨_, reported_mem executed held, (report_key watch.desk pair).trans named, (report_awaits pair).mpr ⟨awaits, ?_⟩⟩
    intro own
    have listed : pair.fingerprint ∈ snapshot.map PairingReport.phoneKeyFingerprint := by
      rw [← named] at stays
      exact stays.resolve_left fun other => other own
    exact ⟨listed, registered once pair held own awaits listed⟩
  · rintro ⟨pair, inside, named, awaits⟩
    rcases mem_snapshot executed inside with ⟨old, held, rfl⟩ | ⟨report, _, rfl⟩
    · obtain ⟨open_, own⟩ := (report_awaits old).mp awaits
      rw [report_key] at named
      refine ⟨⟨old, held, named, open_⟩, ?_⟩
      rw [← named]
      by_cases same : old.setupId = setup.id
      · exact .inr (own same).1
      · exact .inl same
    · cases awaits

/-- If what is undropped is still sent after a snapshot, the snapshot has seen every key it lists. -/
theorem Watch.Sound.seen (sound : watch.Sound) (executed : watch.desk.replacePairings setup snapshot now = .ok after)
    (sent : ∀ key ∈ watch.note after (.snapshot setup snapshot now), key.1 ∈ after.removalsToSend key.2) :
    watch.Registered (.snapshot setup snapshot now) := by
  intro _ pair held own awaits listed
  have undropped : pair.key ∈ watch.undropped := (sound.awaits pair.key).mpr ⟨pair, held, rfl, awaits⟩
  have still : pair.key ∈ watch.note after (.snapshot setup snapshot now) := by
    unfold Watch.note
    rw [List.mem_filter, decide_eq_true_eq]
    exact ⟨undropped, .inr listed⟩
  obtain ⟨other, inside, named, open_⟩ := mem_removals.mp (sent pair.key still)
  have same := same_pair (snapshot_unique sound.unique executed) inside (reported_mem executed held)
    (named.trans (report_key watch.desk pair).symm)
  rw [same] at open_
  exact (((report_awaits pair).mp open_).2 own).2

/-- A pair that a snapshot brings back was not waiting for the device to drop it, and is listed. -/
theorem Watch.Sound.relisted (sound : watch.Sound) (executed : watch.desk.replacePairings setup snapshot now = .ok after)
    {key : String × Nat} (known : ∃ pair ∈ watch.desk.pairings, pair.key = key) (inactive : watch.desk.isActive key = false)
    (active : after.isActive key = true) :
    setup.id = key.2 ∧ key.1 ∈ snapshot.map PairingReport.phoneKeyFingerprint ∧ key ∉ watch.undropped := by
  obtain ⟨pair, inside, named, running⟩ := isActive_iff.mp active
  rcases mem_snapshot executed inside with ⟨old, held, rfl⟩ | ⟨report, fresh, rfl⟩
  · rw [report_key] at named
    have quiet : old.active = false := by
      rw [Bool.eq_false_iff]
      intro live
      rw [isActive_iff.mpr ⟨old, held, named, live⟩] at inactive
      cases inactive
    have own : old.setupId = setup.id := by
      by_contra other
      rw [Phones.report, if_neg other, quiet] at running
      cases running
    have found : ((watch.desk.listed setup snapshot).find? (·.phoneKeyFingerprint == old.fingerprint)).isSome = true := by
      rw [Phones.report, if_pos own] at running
      split at running
      next report there => exact Option.isSome_iff_exists.mpr ⟨report, there⟩
      next =>
        unfold RemoteDevicePairing.active RemoteDevicePairing.drop at running
        unfold RemoteDevicePairing.active at quiet
        cases removed : old.removedAt with
        | none => simp [removed] at quiet
        | some at_ => simp [removed] at running
    refine ⟨?_, ?_, ?_⟩
    · rw [← named]
      exact own.symm
    · rw [← named]
      exact (listed_find.mp found).1
    · intro undropped
      obtain ⟨other, there, same, awaits⟩ := (sound.awaits key).mp undropped
      cases same_pair sound.unique held there (named.trans same.symm)
      have still : (watch.desk.report setup snapshot now old).awaits = true :=
        (report_awaits old).mpr ⟨awaits, fun _ => listed_find.mp found⟩
      rw [awaits_inactive still] at running
      cases running
  · obtain ⟨pair, held, same⟩ := known
    exact absurd (same.trans named.symm) (added_fresh fresh held)

end Snapshots

namespace Watch

/-- Where the columns agree with the record, a step is as it should be just if it sees every key it
needs to. -/
theorem Sound.same (watch : Watch) (event : PairingEvent) (_ : True) (sound : Sound watch) :
    watch.Registered event ↔ watch.StaysRemoved event (watch.step event) := by
  unfold Watch.step
  cases executed : watch.desk.attempt event with
  | error failure =>
    dsimp only
    constructor
    · intro _
      refine ⟨fun key undropped => sound.sent undropped, ?_⟩
      intro key _ inactive active
      rw [inactive] at active
      cases active
    · intro _
      cases event with
      | snapshot setup snapshot now =>
        intro once
        simp [Phones.attempt, Phones.replacePairings, once] at executed
      | _ => exact True.intro
  | ok after =>
    dsimp only
    by_cases reports : ∃ setup snapshot now, event = .snapshot setup snapshot now
    · obtain ⟨setup, snapshot, now, rfl⟩ := reports
      constructor
      · intro registered
        have next := sound.reported executed registered
        refine ⟨fun key undropped => next.sent undropped, ?_⟩
        intro key known inactive active
        exact ⟨setup, snapshot, now, rfl, sound.relisted executed known inactive active⟩
      · intro stays
        exact sound.seen executed fun key undropped => (stays.sent key undropped).1
    · have other : ∀ setup snapshot now, event ≠ .snapshot setup snapshot now :=
        fun setup snapshot now same => reports ⟨setup, snapshot, now, same⟩
      obtain ⟨change, removes, pairings⟩ := attempt_removes other executed
      have next := sound.removed removes pairings
      constructor
      · intro _
        refine ⟨?_, fun key _ inactive active => (removed_again removes pairings inactive active).elim⟩
        intro key undropped
        cases event with
        | snapshot setup snapshot now => exact absurd rfl (other setup snapshot now)
        | _ => exact next.sent undropped
      · intro _
        cases event with
        | snapshot setup snapshot now => exact absurd rfl (other setup snapshot now)
        | _ => exact True.intro

theorem Sound.step (watch : Watch) (event : PairingEvent) (_ : True) (sound : Sound watch)
    (stays : watch.StaysRemoved event (watch.step event)) : Sound (watch.step event) := by
  have registered := (sound.same watch event True.intro).mpr stays
  unfold Watch.step at stays ⊢
  cases executed : watch.desk.attempt event with
  | error failure => exact sound
  | ok after =>
    dsimp only
    by_cases reports : ∃ setup snapshot now, event = .snapshot setup snapshot now
    · obtain ⟨setup, snapshot, now, rfl⟩ := reports
      exact sound.reported executed registered
    · have other : ∀ setup snapshot now, event ≠ .snapshot setup snapshot now :=
        fun setup snapshot now same => reports ⟨setup, snapshot, now, same⟩
      obtain ⟨change, removes, pairings⟩ := attempt_removes other executed
      have next := sound.removed removes pairings
      cases event with
      | snapshot setup snapshot now => exact absurd rfl (other setup snapshot now)
      | _ => exact next

theorem Sound.empty : Sound {} := by
  constructor
  · exact List.nodup_nil
  · intro key
    constructor
    · intro inside
      cases inside
    · rintro ⟨pair, held, _⟩
      cases held

/-- Removed pairs stay removed until the device drops them, in just those runs in which a snapshot
that lists a pair whose removal is not done finds its key registered. -/
theorem removed_until_dropped (events : List PairingEvent) :
    Throughout Watch.step Registered {} events ↔
      Throughout Watch.step (fun watch event => watch.StaysRemoved event (watch.step event)) {} events :=
  Throughout.exactly Sound.same Sound.step Sound.empty fun _ _ => True.intro

end Watch

/-- The person takes the phone out; the device still lists its key when its next snapshot comes. -/
def takenOut : List PairingEvent :=
  [.registerPhone { memberId := 1, orgId := 1, fingerprint := "sha256:a", label := "phone" },
    .snapshot ⟨9, 1⟩ [⟨"sha256:a", 10⟩] 11, .removePhone "sha256:a" ⟨some 1, false, 1⟩ 20,
    .snapshot ⟨9, 1⟩ [⟨"sha256:a", 10⟩] 21]

/-- The server takes the removal for done, and no longer sends it. -/
theorem revoked_key_unsent : ¬ ∀ events : List PairingEvent,
    Throughout Watch.step (fun watch event => watch.StaysRemoved event (watch.step event)) {} events := by
  intro always
  have last := (always takenOut).2.2.2.1
  have undropped : ("sha256:a", 9) ∈ (final Watch.step {} takenOut).undropped := by decide
  have sent := (last.sent ("sha256:a", 9) undropped).1
  have unsent : ¬ ("sha256:a" : String) ∈ (final Watch.step {} takenOut).desk.removalsToSend 9 := by decide
  exact unsent sent

end Sprintable.Desktop
