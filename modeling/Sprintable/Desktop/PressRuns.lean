import Sprintable.Desktop.ComputerPress

/-! The authority of a press for a whole computer. What it has read of the setups stands under its
locks; what it has read without one stands as long as nobody takes it away before the press ends. -/

namespace Sprintable.Desktop
open Interleave

/-- The command names nobody twice, and nobody that a press of one setup could not reach; and it
comes from the setups that were found first, as they are now. -/
structure Queued.Within (record : Queued) : Prop where
  once : record.command.scope.Nodup
  authority : ∀ agent ∈ record.command.scope, ∃ setup, record.world.setup setup.id = some setup ∧
    agent ∈ setup.agents ∧ record.world.mayPress record.press setup.id
  unchanged : ∀ setup ∈ record.rows, record.world.setup setup.id = some setup
  same : sameSetups (record.rows.map (·.id)) record.found

/-- Nobody takes away what the press has read without a lock: the person keeps the right to clock the
locked setups, the phone its pairs with the other ones, and none of them falls silent. -/
structure Hold.Undisturbed (hold : Hold) (before after : World) : Prop where
  right : ∀ id ∈ hold.locked, ∀ setup, before.setup id = some setup →
    canClock (before.role hold.press.userId hold.press.orgId) hold.press.userId setup →
      canClock (after.role hold.press.userId hold.press.orgId) hold.press.userId setup
  paired : ∀ id ∈ hold.locked, id ≠ hold.press.setupId → before.paired hold.press id → after.paired hold.press id
  heard : ∀ id ∈ hold.locked, before.heard id → after.heard id

def isAdmin (role : Option String) : Prop := role = some "owner" ∨ role = some "admin"

structure Hold.Kept (hold : Hold) (before after : World) : Prop where
  respected : hold.respected before after
  undisturbed : hold.Undisturbed before after

section Facts
variable {hold : Hold} {first second third : World} {P Q : World → Prop} {id : Nat} {row : ClockSetup}

theorem Hold.Kept.refl (hold : Hold) (world : World) : hold.Kept world world :=
  ⟨⟨fun _ _ => rfl, fun on => on, fun _ paired => paired⟩, fun _ _ _ _ can => can, fun _ _ _ paired => paired, fun _ _ heard => heard⟩

theorem Hold.Kept.trans (early : hold.Kept first second) (late : hold.Kept second third) : hold.Kept first third := by
  constructor
  · refine ⟨?_, ?_, ?_⟩
    · exact fun id locked => (late.respected.1 id locked).trans (early.respected.1 id locked)
    · exact fun on => late.respected.2.1 (early.respected.2.1 on)
    · exact fun shares paired => late.respected.2.2 shares (early.respected.2.2 shares paired)
  · constructor
    · intro id locked setup found can
      apply late.undisturbed.right id locked setup ((early.respected.1 id locked).trans found)
      exact early.undisturbed.right id locked setup found can
    · exact fun id locked other paired => late.undisturbed.paired id locked other (early.undisturbed.paired id locked other paired)
    · exact fun id locked heard => late.undisturbed.heard id locked (early.undisturbed.heard id locked heard)

/-- What the locks and the calm of the others keep. -/
def Stable (hold : Hold) (P : World → Prop) : Prop := ∀ before after, hold.Kept before after → P before → P after

theorem Stable.and (first : Stable hold P) (second : Stable hold Q) : Stable hold fun world => P world ∧ Q world :=
  fun before after kept both => ⟨first before after kept both.1, second before after kept both.2⟩

variable (hold)

private theorem stable_row (locked : id ∈ hold.locked) : Stable hold fun world => world.setup id = some row :=
  fun _ _ kept found => (kept.respected.1 id locked).trans found

private theorem stable_right (locked : id ∈ hold.locked) : Stable hold fun world => world.setup id = some row ∧
    canClock (world.role hold.press.userId hold.press.orgId) hold.press.userId row := by
  rintro before after kept ⟨found, can⟩
  exact ⟨stable_row hold locked before after kept found, kept.undisturbed.right id locked row found can⟩

private theorem canClock_mono {role other : Option String} {userId : Nat} (admin : isAdmin role → isAdmin other)
    (can : canClock role userId row) : canClock other userId row := by
  simp only [canClock, Bool.or_eq_true, beq_iff_eq] at can ⊢
  rcases can with own | confirmed
  · exact .inl (admin own)
  · exact .inr confirmed

private theorem stable_remote : Stable hold fun world => world.remoteControl hold.press.orgId = true :=
  fun _ _ kept on => kept.respected.2.1 on

private theorem stable_heard (locked : id ∈ hold.locked) : Stable hold fun world => world.heard id = true :=
  fun _ _ kept heard => kept.undisturbed.heard id locked heard

private theorem stable_paired (locked : id ∈ hold.locked) (shares : hold.shares) :
    Stable hold fun world => world.paired hold.press id = true := by
  intro before after kept paired
  by_cases same : id = hold.press.setupId
  · subst same
    exact kept.respected.2.2 shares paired
  · exact kept.undisturbed.paired id locked same paired

private theorem mayPress_iff {world : World} {press : Press} :
    world.mayPress press id = true ↔
      (∃ setup, world.setup id = some setup ∧ setup.live press.orgId ∧
          canClock (world.role press.userId press.orgId) press.userId setup) ∧
        world.remoteControl press.orgId ∧ world.heard id ∧ world.paired press id := by
  simp [World.mayPress, Option.any_eq_true, and_assoc]

private theorem stable_mayPress (locked : id ∈ hold.locked) (shares : hold.shares) :
    Stable hold fun world => world.mayPress hold.press id = true := by
  intro before after kept may
  obtain ⟨⟨setup, found, live, can⟩, on, heard, paired⟩ := mayPress_iff.mp may
  apply mayPress_iff.mpr
  obtain ⟨found, can⟩ := stable_right hold locked before after kept ⟨found, can⟩
  refine ⟨⟨setup, found, live, can⟩, ?_, ?_, ?_⟩
  · exact stable_remote hold before after kept on
  · exact stable_heard hold locked before after kept heard
  · exact stable_paired hold locked shares before after kept paired

end Facts

namespace PressDesk
variable {desk : PressDesk} {self other : Nat} {held : Hold}

private theorem holdOf_hold (desk : PressDesk) (self : Nat) (held : Hold) : (desk.hold self held).holdOf self = some held := by
  simp [holdOf, hold, Keyed.find]

private theorem holdOf_release (different : other ≠ self) : (desk.release self).holdOf other = desk.holdOf other := by
  unfold holdOf release Keyed.find
  rw [List.find?_filter]
  congr 2
  funext entry
  by_cases same : entry.1 = other
  · simp [same, different]
  · simp [same]

private theorem holdOf_hold_other (different : other ≠ self) : (desk.hold self held).holdOf other = desk.holdOf other := by
  have skipped : (desk.hold self held).holdOf other = (desk.release self).holdOf other := by
    simp [holdOf, hold, Keyed.find, different.symm]
  exact skipped.trans (holdOf_release different)

private theorem mem_of_holdOf (found : desk.holdOf self = some held) : (self, held) ∈ desk.holds := by
  obtain ⟨⟨owner, entry⟩, listed, rfl⟩ := Option.map_eq_some_iff.mp found
  have same : owner = self := Keyed.find_key listed
  rw [← same]
  exact Keyed.find_mem listed

end PressDesk

/-- A live press keeps its locks, and what it knows under them. -/
def Relies (self : Nat) (before after : PressDesk) : Prop :=
  self ∉ after.aborted → self ∉ before.aborted ∧ after.holdOf self = before.holdOf self ∧
    ∀ held, before.holdOf self = some held → held.Kept before.world after.world

def pressRules : Discipline PressDesk where
  valid desk := ∀ record ∈ desk.queued, record.Within
  rely := Relies
  allowed _ _ := True
  refl self desk alive := ⟨alive, rfl, fun held _ => Hold.Kept.refl held desk.world⟩
  trans self _ _ _ early late alive := by
    obtain ⟨between, same, kept⟩ := late alive
    obtain ⟨before, equal, held⟩ := early between
    exact ⟨before, same.trans equal, fun hold found => (held hold found).trans (kept hold (equal.trans found))⟩

def Alive (self : Nat) (desk : PressDesk) : Prop := self ∉ desk.aborted

abbrev PressSafe (self : Nat) (program : PressProg) (desk : PressDesk) : Prop :=
  Safe pressRules self (Alive self) (fun _ _ => True) program desk

/-- The press has these locks, and what it has read still holds. -/
structure Knows (owner : Nat) (hold : Hold) (P : World → Prop) (desk : PressDesk) : Prop where
  locks : desk.holdOf owner = some hold
  fact : P desk.world

section Steps
variable {self : Nat} {hold : Hold} {P Q : World → Prop} {desk after : PressDesk} {β : Type}

theorem Knows.stays (knows : Knows self hold P desk) (stable : Stable hold P) (relied : Relies self desk after)
    (alive : Alive self after) : Knows self hold P after := by
  obtain ⟨_, same, kept⟩ := relied alive
  exact ⟨same.trans knows.locks, stable _ _ (kept hold knows.locks) knows.fact⟩

theorem Knows.weaken (knows : Knows self hold P desk) (implies : P desk.world → Q desk.world) : Knows self hold Q desk :=
  ⟨knows.locks, implies knows.fact⟩

private theorem relies_own {other : Nat} (world : after.world = desk.world) (aborted : after.aborted = desk.aborted)
    (holds : after.holdOf other = desk.holdOf other) : Relies other desk after := by
  intro alive
  rw [aborted] at alive
  rw [world]
  exact ⟨alive, holds, fun held _ => Hold.Kept.refl held desk.world⟩

private theorem finish_safe (outcome : Outcome) : PressSafe self (finish self outcome) desk := by
  intro state valid relied alive answer _
  refine ⟨valid, fun other different => relies_own rfl rfl (PressDesk.holdOf_release different), ?_⟩
  exact fun _ _ _ => True.intro

private theorem check_safe {query : PressDesk → Except DesktopRelayError β} {next : β → PressProg}
    (rest : ∀ state value, Relies self desk state → Alive self state → query state = .ok value →
      PressSafe self (next value) state) : PressSafe self (check self query next) desk := by
  apply Safe.observe
  intro state valid relied alive answer
  cases result : query state with
  | ok value => exact rest state value relied alive result
  | error error => exact finish_safe _

private theorem checked_safe {query : PressDesk → Except DesktopRelayError β} {next : β → PressProg} (knows : Knows self hold P desk)
    (stable : Stable hold P)
    (rest : ∀ state value, Knows self hold P state → query state = .ok value → PressSafe self (next value) state) :
    PressSafe self (check self query next) desk := by
  apply check_safe
  intro state value relied alive passed
  exact rest state value (knows.stays stable relied alive) passed

private theorem read_safe {query : PressDesk → β} {next : β → PressProg} (knows : Knows self hold P desk) (stable : Stable hold P)
    (rest : ∀ state, Knows self hold P state → PressSafe self (next (query state)) state) :
    PressSafe self (Prog.read query >>= next) desk := by
  apply Safe.observe
  intro state valid relied alive answer
  exact rest state (knows.stays stable relied alive)

private theorem enqueue_facts (desk : PressDesk) (self : Nat) (record : Queued) :
    (desk.enqueue self record).world = desk.world ∧ (desk.enqueue self record).aborted = desk.aborted ∧
      (desk.enqueue self record).holds = (desk.release self).holds ∧
      ∀ listed ∈ (desk.enqueue self record).queued, listed ∈ desk.queued ∨ listed = { record with world := desk.world } := by
  unfold PressDesk.enqueue
  split_ifs
  · exact ⟨rfl, rfl, rfl, fun listed member => .inl member⟩
  · exact ⟨rfl, rfl, rfl, fun listed member => .inl member⟩
  · exact ⟨rfl, rfl, rfl, fun listed member => .inl member⟩
  · exact ⟨rfl, rfl, rfl, fun listed member => .inl member⟩
  · cases desk.earlier record.press with
    | some command => exact ⟨rfl, rfl, rfl, fun listed member => .inl member⟩
    | none =>
      refine ⟨rfl, rfl, rfl, fun listed member => ?_⟩
      rcases List.mem_append.mp member with old | new
      · exact .inl old
      · exact .inr (List.mem_singleton.mp new)

private theorem enqueue_safe {record : PressDesk → Queued} (knows : Knows self hold P desk) (stable : Stable hold P)
    (within : ∀ state, Knows self hold P state → Queued.Within { record state with world := state.world }) :
    PressSafe self (Prog.write fun state => state.enqueue self (record state)) desk := by
  intro state valid relied alive answer _
  obtain ⟨world, aborted, holds, queued⟩ := enqueue_facts state self (record state)
  refine ⟨fun listed member => ?_, fun other different => relies_own world aborted ?_, fun _ _ _ => True.intro⟩
  · rcases queued listed member with old | rfl
    · exact valid listed old
    · exact within state (knows.stays stable relied alive)
  · have same : (state.release self).holdOf other = state.holdOf other := PressDesk.holdOf_release different
    simpa only [PressDesk.holdOf, Prog.write, holds] using same

end Steps

/-- What the press has gathered under its locks. The rows of setups that it has not locked are left out:
such a press is not queued. -/
structure Collected (press : Press) (found : List Nat) (role : Option String) (heard : List Nat) (rows : List ClockSetup)
    (pressable : List Nat) (world : World) : Prop where
  pressed : world.mayPress press press.setupId
  current : ∀ row ∈ rows, row.id ∈ found → world.setup row.id = some row
  right : ∀ row ∈ rows, row.id ∈ found → canClock role press.userId row →
    canClock (world.role press.userId press.orgId) press.userId row
  heard : ∀ id ∈ heard, id ∈ found → world.heard id
  agents : ∀ agent ∈ pressable, ∃ row ∈ rows, agent ∈ row.agents ∧ (row.id ∈ found → world.mayPress press row.id)

def shareHold (press : Press) (found : List Nat) : Hold := { press, locked := found, shares := true }

section Collecting
variable {self : Nat} {press : Press} {found heard pressable : List Nat} {role : Option String} {rows : List ClockSetup}
  {world : World} {desk : PressDesk}

private theorem stable_collected (pressedIn : press.setupId ∈ found) :
    Stable (shareHold press found) (Collected press found role heard rows pressable) := by
  intro before after kept collected
  constructor
  · exact stable_mayPress (shareHold press found) pressedIn rfl before after kept collected.pressed
  · intro row member inside
    exact stable_row (shareHold press found) inside before after kept (collected.current row member inside)
  · intro row member inside can
    have now := And.intro (collected.current row member inside) (collected.right row member inside can)
    exact (stable_right (shareHold press found) inside before after kept now).2
  · intro id member inside
    exact stable_heard (shareHold press found) inside before after kept (collected.heard id member inside)
  · intro agent member
    obtain ⟨row, listed, works, may⟩ := collected.agents agent member
    refine ⟨row, listed, works, fun inside => ?_⟩
    exact stable_mayPress (shareHold press found) inside rfl before after kept (may inside)

theorem Collected.join (collected : Collected press found role heard rows pressable world) {row : ClockSetup}
    (member : row ∈ rows) {joins : Prop} [Decidable joins] (may : joins → row.id ∈ found → world.mayPress press row.id) :
    Collected press found role heard rows (if joins then pressable ++ row.agents else pressable) world := by
  by_cases joining : joins
  · rw [if_pos joining]
    refine ⟨collected.pressed, collected.current, collected.right, collected.heard, fun agent listed => ?_⟩
    rcases List.mem_append.mp listed with old | new
    · exact collected.agents agent old
    · exact ⟨row, member, new, may joining⟩
  · rw [if_neg joining]
    exact collected

theorem Collected.may (collected : Collected press found role heard rows pressable world) {row : ClockSetup}
    (member : row ∈ rows) (live : row.live press.orgId) (can : canClock role press.userId row) (alive : row.id ∈ heard)
    (paired : world.paired press row.id) (inside : row.id ∈ found) : world.mayPress press row.id := by
  have remote := (mayPress_iff.mp collected.pressed).2.1
  apply mayPress_iff.mpr
  refine ⟨⟨row, collected.current row member inside, live, collected.right row member inside can⟩, remote, ?_, paired⟩
  exact collected.heard row.id alive inside

private theorem collect_safe (pressedIn : press.setupId ∈ found) {next : List Nat → PressProg}
    (live : ∀ row ∈ rows, row.live press.orgId)
    (rest : ∀ pressable state, Knows self (shareHold press found) (Collected press found role heard rows pressable) state →
      PressSafe self (next pressable) state) :
    ∀ left pressable state, (∀ row ∈ left, row ∈ rows) →
      Knows self (shareHold press found) (Collected press found role heard rows pressable) state →
      PressSafe self (collect press role heard next left pressable) state := by
  intro left
  induction left with
  | nil => exact fun pressable state _ knows => rest pressable state knows
  | cons row left ih =>
    intro pressable state within knows
    have member : row ∈ rows := within row List.mem_cons_self
    have others : ∀ other ∈ left, other ∈ rows := fun other listed => within other (List.mem_cons_of_mem row listed)
    rw [collect]
    by_cases pressed : row.id = press.setupId
    · rw [if_pos pressed]
      apply ih _ state others
      apply knows.weaken
      intro collected
      apply collected.join member
      intro _ _
      rw [pressed]
      exact collected.pressed
    · rw [if_neg pressed]
      by_cases able : canClock role press.userId row ∧ row.id ∈ heard
      · rw [if_pos able]
        apply read_safe knows (stable_collected pressedIn)
        intro state knows
        apply ih _ state others
        apply knows.weaken
        intro collected
        exact collected.join member fun paired inside => collected.may member (live row member) able.1 able.2 paired inside
      · rw [if_neg able]
        exact ih pressable state others knows

private theorem within_of_collected {record : Queued} (same : sameSetups (record.rows.map (·.id)) record.found)
    (collected : Collected record.press record.found role heard record.rows pressable record.world)
    (scope : record.command.scope = pressable.dedup.insertionSort (· ≤ ·)) : record.Within := by
  have inside : ∀ row ∈ record.rows, row.id ∈ record.found := fun row member => same.1 row.id (List.mem_map_of_mem member)
  have current : ∀ row ∈ record.rows, record.world.setup row.id = some row :=
    fun row member => collected.current row member (inside row member)
  have perm := List.perm_insertionSort (· ≤ ·) pressable.dedup
  constructor
  · rw [scope]
    exact perm.symm.nodup pressable.nodup_dedup
  · intro agent member
    rw [scope] at member
    obtain ⟨row, listed, works, may⟩ := collected.agents agent (List.mem_dedup.mp (perm.subset member))
    exact ⟨row, current row listed, works, may (inside row listed)⟩
  · exact current
  · exact same

end Collecting

section Presses
variable {self : Nat} {press : Press} {found : List Nat} {pressed : ClockSetup} {desk : PressDesk}

theorem World.setup_id {world : World} {id : Nat} {row : ClockSetup} (found : world.setup id = some row) : row.id = id := by
  simpa using List.find?_some found

theorem World.authorized_ok {world : World} {setup : ClockSetup} (passed : world.authorized press = .ok setup) :
    world.setup press.setupId = some setup ∧ setup.live press.orgId ∧
      canClock (world.role press.userId press.orgId) press.userId setup := by
  unfold World.authorized at passed
  cases found : (world.setup press.setupId).filter (·.live press.orgId) with
  | none => simp [found] at passed
  | some row =>
    simp only [found] at passed
    split_ifs at passed with may
    obtain ⟨listed, live⟩ := Option.filter_eq_some_iff.mp found
    cases passed
    exact ⟨listed, live, may⟩

theorem World.mem_liveRows {world : World} {ids : List Nat} {row : ClockSetup} (member : row ∈ world.liveRows press ids pressed) :
    row = pressed ∨ (world.setup row.id = some row ∧ row.live press.orgId) := by
  rcases List.mem_cons.mp member with same | other
  · exact .inl same
  · obtain ⟨listed, live⟩ := List.mem_filter.mp other
    obtain ⟨id, _, got⟩ := List.mem_filterMap.mp listed
    have same := World.setup_id got
    rw [← same] at got
    exact .inr ⟨got, live⟩

structure Pressed (press : Press) (setup : ClockSetup) (world : World) : Prop where
  row : world.setup press.setupId = some setup
  live : setup.live press.orgId
  may : world.mayPress press press.setupId

private theorem stable_pressed (pressedIn : press.setupId ∈ found) : Stable (shareHold press found) (Pressed press pressed) := by
  intro before after kept known
  constructor
  · exact stable_row (shareHold press found) pressedIn before after kept known.row
  · exact known.live
  · exact stable_mayPress (shareHold press found) pressedIn rfl before after kept known.may

private theorem queueScope_safe (pressedIn : press.setupId ∈ found) (knows : Knows self (shareHold press found) (Pressed press pressed) desk) :
    PressSafe self (queueScope self press found pressed) desk := by
  apply checked_safe knows (stable_pressed pressedIn)
  intro state ids knows _
  apply read_safe knows (stable_pressed pressedIn)
  intro state knows
  apply Safe.observe
  intro state _ relied alive _
  have knows := knows.stays (stable_pressed pressedIn) relied alive
  -- the rows as they are read, and what the locks keep of them from here on
  generalize rowsRead : state.world.liveRows press _ pressed = rows
  have pressedId : pressed.id = press.setupId := World.setup_id knows.fact.row
  have live : ∀ row ∈ rows, row.live press.orgId := by
    intro row member
    rw [← rowsRead] at member
    rcases World.mem_liveRows member with rfl | ⟨_, live⟩
    · exact knows.fact.live
    · exact live
  have collected : Knows self (shareHold press found) (Collected press found none [] rows []) state := by
    refine ⟨knows.locks, knows.fact.may, fun row member _ => ?_, fun row _ _ can => ?_, by simp, by simp⟩
    · rw [← rowsRead] at member
      rcases World.mem_liveRows member with rfl | ⟨current, _⟩
      · rw [pressedId]
        exact knows.fact.row
      · exact current
    · apply canClock_mono ?_ can
      simp [isAdmin]
  apply Safe.observe
  intro state _ relied alive _
  have collected := collected.stays (stable_collected pressedIn) relied alive
  have collected : Knows self (shareHold press found)
      (Collected press found (state.world.role press.userId press.orgId) [] rows []) state :=
    ⟨collected.locks, { collected.fact with right := fun _ _ _ can => can }⟩
  apply Safe.observe
  intro state _ relied alive _
  have collected := collected.stays (stable_collected pressedIn) relied alive
  have heard : Knows self (shareHold press found)
      (Collected press found _ ((rows.map (·.id)).filter state.world.heard) rows []) state :=
    ⟨collected.locks, { collected.fact with heard := fun id member _ => (List.mem_filter.mp member).2 }⟩
  apply collect_safe pressedIn live ?_ rows [] state (fun row member => member) heard
  intro pressable state knows
  by_cases same : sameSetups (rows.map (·.id)) found
  · simp only [if_pos same]
    apply enqueue_safe knows (stable_collected pressedIn)
    intro state knows
    exact within_of_collected same knows.fact rfl
  · simp only [if_neg same]
    exact finish_safe _

/-- The locks of a press before it shares the pair with its setup, and what it knows by then. -/
def firstHold (press : Press) (found : List Nat) : Hold := { press, locked := found }

structure Allowed (press : Press) (setup : ClockSetup) (world : World) : Prop where
  row : world.setup press.setupId = some setup
  live : setup.live press.orgId
  can : canClock (world.role press.userId press.orgId) press.userId setup

private theorem stable_allowed (pressedIn : press.setupId ∈ found) : Stable (firstHold press found) (Allowed press pressed) := by
  intro before after kept known
  obtain ⟨row, can⟩ := stable_right (firstHold press found) pressedIn before after kept ⟨known.row, known.can⟩
  exact ⟨row, known.live, can⟩

private theorem hold_relies {held : Hold} {other : Nat} (different : other ≠ self) : Relies other desk (desk.hold self held) :=
  relies_own rfl rfl (PressDesk.holdOf_hold_other different)

private theorem sharePairing_safe (pressedIn : press.setupId ∈ found) {next : PressProg}
    (knows : Knows self (firstHold press found)
      (fun world => (Allowed press pressed world ∧ world.remoteControl press.orgId) ∧ world.heard press.setupId) desk)
    (rest : ∀ state, Knows self (shareHold press found) (Pressed press pressed) state → PressSafe self next state) :
    PressSafe self (sharePairing self press found next) desk := by
  have allowedStays : Stable (firstHold press found) (Allowed press pressed) := stable_allowed pressedIn
  have stable := (allowedStays.and (stable_remote (firstHold press found))).and (stable_heard (firstHold press found) pressedIn)
  apply Safe.act
  intro state valid relied alive answer _
  obtain ⟨locks, ⟨allowed, remote⟩, heard⟩ := knows.stays stable relied alive
  unfold PressDesk.sharePair
  cases result : state.world.checkPaired press with
  | error error => exact ⟨valid, fun other _ => pressRules.refl other state, finish_safe _⟩
  | ok value =>
    refine ⟨valid, fun other different => hold_relies different, ?_⟩
    apply rest
    refine ⟨PressDesk.holdOf_hold _ _ _, allowed.row, allowed.live, ?_⟩
    have paired : state.world.paired press press.setupId := by
      unfold World.checkPaired at result
      split_ifs at result with paired
      exact paired
    exact mayPress_iff.mpr ⟨⟨pressed, allowed.row, allowed.live, allowed.can⟩, remote, heard, paired⟩

private theorem createClock_safe (self : Nat) (press : Press) (desk : PressDesk) : PressSafe self (createClock self press) desk := by
  apply check_safe
  intro state _ _ _ _
  apply check_safe
  intro state ids _ _ _
  apply Safe.observe
  intro state _ _ _ _
  generalize foundHere : state.world.liveIds press ids = found
  have pressedIn : press.setupId ∈ found := by
    rw [← foundHere]
    exact List.mem_cons_self
  apply Safe.act
  intro state valid _ _ _ _
  refine ⟨valid, fun other different => hold_relies different, ?_⟩
  have knows : Knows self (firstHold press found) (fun _ => True) (state.hold self (firstHold press found)) :=
    ⟨PressDesk.holdOf_hold _ _ _, True.intro⟩
  apply checked_safe knows fun _ _ _ known => known
  intro state pressed knows passed
  obtain ⟨row, live, can⟩ := World.authorized_ok passed
  have knows : Knows self (firstHold press found) (Allowed press pressed) state := knows.weaken fun _ => ⟨row, live, can⟩
  apply read_safe knows (stable_allowed pressedIn)
  intro state knows
  cases state.earlier press with
  | some command => exact finish_safe _
  | none =>
    apply checked_safe knows (stable_allowed pressedIn)
    intro state _ knows on
    have remote : state.world.remoteControl press.orgId := by
      unfold World.checkRemoteControl at on
      split_ifs at on with remote
      exact remote
    have knows := knows.weaken (Q := fun world => Allowed press pressed world ∧ world.remoteControl press.orgId)
      fun allowed => ⟨allowed, remote⟩
    apply checked_safe knows ((stable_allowed pressedIn).and (stable_remote _))
    intro state _ knows passed
    have heard : state.world.heard press.setupId := by
      unfold World.checkHeard at passed
      split_ifs at passed with heard
      exact heard
    apply sharePairing_safe pressedIn (knows.weaken fun allowed => ⟨allowed, heard⟩)
    intro state knows
    by_cases able : !pressed.computerPress
    · rw [if_pos able]
      exact finish_safe _
    · rw [if_neg able]
      exact queueScope_safe pressedIn knows

end Presses

/-- What others do leaves the open presses undisturbed. -/
def Interference.Calm (desk : PressDesk) : Interference → Prop
  | .others world => ∀ entry ∈ desk.holds, entry.2.Undisturbed desk.world world
  | .abort _ => True

private theorem disciplined_presses : DisciplinedUnder pressHost pressRules Interference.Calm := by
  constructor
  · intro index press desk _
    have lives : (fun later => (pressHost.launch index press desk).live later = true) = Alive index := by
      funext later
      simp [pressHost, Alive]
    rw [lives]
    exact createClock_safe index press desk
  · intro event desk calm valid _
    cases event with
    | others world =>
      by_cases respected : ∀ entry ∈ desk.holds, entry.2.respected desk.world world
      · simp only [pressHost, PressDesk.interfere, if_pos respected]
        refine ⟨valid, fun index alive => ⟨alive, rfl, fun held found => ?_⟩⟩
        have listed := PressDesk.mem_of_holdOf found
        exact ⟨respected _ listed, calm _ listed⟩
      · simp only [pressHost, PressDesk.interfere, if_neg respected]
        exact ⟨valid, fun index => pressRules.refl index desk⟩
    | abort press =>
      refine ⟨valid, fun index alive => ?_⟩
      have different : index ≠ press ∧ index ∉ desk.aborted := by
        simpa [pressHost, PressDesk.interfere] using alive
      refine ⟨different.2, PressDesk.holdOf_release different.1, fun held _ => ?_⟩
      exact Hold.Kept.refl held desk.world

/-- As long as the others leave the open presses undisturbed, every queued command of a computer stays
within what the person and the phone could press one setup at a time when it was queued, and comes from
the setups as they are then. -/
theorem press_within_single_presses (world : World) {events : List (Event Unit Press Interference)}
    (calm : Runs.Throughout (step pressHost) (fun system event => event.meets Interference.Calm system)
      ⟨{ world }, []⟩ events) :
    ∀ record ∈ (Runs.final (step pressHost) ⟨{ world }, []⟩ events).shared.queued, record.Within := by
  have initial : Sound pressRules (⟨{ world }, []⟩ : System Unit PressDesk) :=
    ⟨fun record member => absurd member List.not_mem_nil, by simp⟩
  have sound := calm.invariant
    (fun system event met sound => Sound.step_under disciplined_presses system event met True.intro sound) initial
  exact sound.valid

/-- A computer of two setups with one agent each, both paired with the phone of their owner. -/
def officeSetup (id : Nat) : ClockSetup :=
  { id, orgId := 1, agents := [100 + id], confirmedBy := some 5, machineKey := some "mac", deviceName := "office" }

def office (pairings : List (Nat × Nat)) : World :=
  { setups := [officeSetup 7, officeSetup 8], role := fun _ _ => some "member", phones := [⟨9, 3, false⟩], pairings
    lastUsedAt := fun _ => some 0 }

def officePress : Press :=
  { memberId := 3, userId := 5, orgId := 1, setupId := 7, phoneId := 9, action := .outOpen, signed := "pressed"
    idempotencyKey := "once" }

/-- The press, up to its last statement. -/
def pressUnderWay : List (Event Unit Press Interference) := .start officePress :: List.replicate 15 (.run 0 ())

/-- Before its last statement the others leave this world. -/
def pressAround (between : World) : List (Event Unit Press Interference) :=
  pressUnderWay ++ [.outside (.others between), .run 0 ()]

theorem Hold.Undisturbed.more_pairs (hold : Hold) {first second : List (Nat × Nat)} (kept : ∀ pair ∈ first, pair ∈ second) :
    hold.Undisturbed (office first) (office second) := by
  refine ⟨fun _ _ _ _ can => can, fun id _ _ paired => ?_, fun _ _ heard => heard⟩
  simp only [World.paired, Bool.and_eq_true, decide_eq_true_eq] at paired ⊢
  exact ⟨⟨paired.1.1, kept _ paired.1.2⟩, paired.2⟩

theorem press_within_single_presses_sample :
    Runs.Throughout (step pressHost) (fun system event => event.meets Interference.Calm system)
        ⟨{ world := office [(9, 7), (9, 8)] }, []⟩ (pressAround (office [(9, 7), (9, 8), (10, 8)])) ∧
      ∀ record ∈ (Runs.final (step pressHost) ⟨{ world := office [(9, 7), (9, 8)] }, []⟩
        (pressAround (office [(9, 7), (9, 8), (10, 8)]))).shared.queued, record.Within := by
  have calm : Runs.Throughout (step pressHost) (fun system event => event.meets Interference.Calm system)
      ⟨{ world := office [(9, 7), (9, 8)] }, []⟩ (pressAround (office [(9, 7), (9, 8), (10, 8)])) := by
    apply Runs.Throughout.append.mpr
    refine ⟨?_, fun entry _ => ?_, True.intro, True.intro⟩
    · simp [pressUnderWay, List.replicate, Runs.Throughout, Event.meets]
    · have same : (Runs.final (step pressHost) ⟨{ world := office [(9, 7), (9, 8)] }, []⟩ pressUnderWay).shared.world =
          office [(9, 7), (9, 8)] := rfl
      rw [same]
      exact Hold.Undisturbed.more_pairs entry.2 (by simp)
  exact ⟨calm, press_within_single_presses _ calm⟩

/-- A pair with the other setup is removed after the press has read it: the queued command names an
agent that the person and the phone could not press any more. -/
theorem removed_pair_still_pressed :
    ∃ record ∈ (Runs.final (step pressHost) ⟨{ world := office [(9, 7), (9, 8)] }, []⟩
        (pressAround (office [(9, 7)]))).shared.queued,
      ∃ agent ∈ record.command.scope, ∀ setup ∈ record.world.setups, agent ∈ setup.agents →
        record.world.mayPress record.press setup.id = false := by
  decide +kernel

end Sprintable.Desktop
