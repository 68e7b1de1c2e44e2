import Mathlib.Data.List.Nodup
import Mathlib.Data.List.Range
import Sprintable.Logic.Runs

/-! Actions that wait for the commit of a database session. Each belongs to the innermost
transaction that was open when it was scheduled; a rollback drops what belongs to the
transaction rolled back or to one inside it, and the outer commit runs what is left. -/

namespace Sprintable.Sessions

/-- A transaction with its parents, innermost first: the last one is the outer transaction. -/
abbrev Chain := List Nat

/-- `_owned_by`, which walks up the parents. No transaction owns what was scheduled outside. -/
def ownedBy (rolledBack : Nat) : Chain → Bool
  | [] => false
  | txn :: parents => if txn = rolledBack then true else ownedBy rolledBack parents

theorem ownedBy_iff {rolledBack : Nat} {owner : Chain} : ownedBy rolledBack owner = true ↔ rolledBack ∈ owner := by
  induction owner with
  | nil => simp [ownedBy]
  | cons txn parents ih =>
    unfold ownedBy
    by_cases same : txn = rolledBack
    · simp [same]
    · rw [if_neg same, ih, List.mem_cons]
      exact ⟨.inr, fun inside => inside.resolve_left (Ne.symm same)⟩

structure Entry where
  owner : Chain
  action : Nat
  deriving DecidableEq, Repr

/-- The session and its list of waiting actions. `ran` lists the actions that were called;
the last three fields are a record of the run that no function reads. -/
structure Session where
  open_ : Chain := []
  begun : Nat := 0
  pending : List Entry := []
  ran : List Nat := []
  scheduled : List Entry := []
  rolledBack : List Nat := []
  committed : List Nat := []

/-- What a caller does with the session. A rollback of the whole session is one of each
open transaction, innermost first. -/
inductive Event where
  | begin_
  | beginNested
  | schedule (count : Nat)
  | release (txn : Nat)
  | rollback (txn : Nat)
  | commit
  deriving DecidableEq, Repr

namespace Session
variable (session : Session)

def push : Session := { session with open_ := session.begun :: session.open_, begun := session.begun + 1 }

def autobegin : Session := if session.open_ = [] then session.push else session

/-- `schedule_after_commit`, for a list of actions that are numbered as they come. -/
def scheduleAfterCommit (count : Nat) : Session :=
  let entries := (List.range' session.scheduled.length count).map fun action => { owner := session.open_, action }
  { session with pending := session.pending ++ entries, scheduled := session.scheduled ++ entries }

/-- The transactions outside this one, once it is closed with those inside it. -/
def outside (txn : Nat) : Chain := (session.open_.dropWhile (· ≠ txn)).tail

/-- `_drop_rolled_back`, when the transaction rolled back is told. -/
def dropRolledBack (txn : Nat) : Session :=
  { session with pending := session.pending.filter fun entry => !ownedBy txn entry.owner }

/-- `_run_pending`, at each commit: a savepoint that is released runs nothing. -/
def runPending (inNestedTransaction : Bool) : Session :=
  if inNestedTransaction then session
  else { session with pending := [], ran := session.ran ++ session.pending.map Entry.action }

/-- A savepoint is released, and those inside it before it. -/
def release (txn : Nat) : Session :=
  if txn ∈ session.open_ ∧ session.open_.getLast? ≠ some txn then
    { session.runPending true with open_ := session.outside txn }
  else session

def rollback (txn : Nat) : Session :=
  if txn ∈ session.open_ then
    { session.dropRolledBack txn with open_ := session.outside txn, rolledBack := txn :: session.rolledBack }
  else session

/-- The outer commit, which releases every savepoint that is still open. -/
def commit : Session :=
  let begun := session.autobegin
  { begun.runPending false with open_ := [], committed := begun.open_.getLast?.toList ++ begun.committed }

def step (session : Session) : Event → Session
  | .begin_ => session.autobegin
  | .beginNested => session.autobegin.push
  | .schedule count => session.scheduleAfterCommit count
  | .release txn => session.release txn
  | .rollback txn => session.rollback txn
  | .commit => session.commit

/-- The outer transaction of a chain was committed, and nothing on the way to it was rolled back. -/
def Lasts (owner : Chain) : Prop :=
  (∃ outer ∈ session.committed, owner.getLast? = some outer) ∧ ∀ txn ∈ owner, txn ∉ session.rolledBack

/-- What the lists say about each other between two events. -/
structure Sound : Prop where
  chain : session.open_.Nodup
  known : ∀ txn ∈ session.open_, txn < session.begun
  closed : ∀ txn, txn ∈ session.rolledBack ∨ txn ∈ session.committed → txn < session.begun ∧ txn ∉ session.open_
  numbered : session.scheduled.map Entry.action = List.range session.scheduled.length
  waiting : session.pending.Sublist session.scheduled
  called : ∀ action ∈ session.ran, ∃ entry ∈ session.scheduled, entry.action = action
  once : session.ran.Nodup
  owners : ∀ entry ∈ session.scheduled, ∀ txn ∈ entry.owner,
    txn < session.begun ∧ (txn ∈ session.open_ → entry.owner.getLast? = session.open_.getLast?)
  apart : ∀ entry ∈ session.pending, entry.action ∉ session.ran ∧
    (entry.owner ≠ [] → session.open_ ≠ [] ∧ entry.owner.getLast? = session.open_.getLast?)
  waits : ∀ entry ∈ session.scheduled, session.open_ ≠ [] → entry.owner.getLast? = session.open_.getLast? →
    (entry ∈ session.pending ↔ ∀ txn ∈ entry.owner, txn ∉ session.rolledBack)
  lasts : ∀ entry ∈ session.scheduled, entry.owner ≠ [] → (entry.action ∈ session.ran ↔ session.Lasts entry.owner)

variable {session}

theorem dropWhile_split {chain : Chain} {txn : Nat} (inside : txn ∈ chain) :
    ∃ nested, chain = nested ++ txn :: (chain.dropWhile (· ≠ txn)).tail := by
  induction chain with
  | nil => cases inside
  | cons first rest ih =>
    by_cases same : first = txn
    · subst same
      exact ⟨[], by simp⟩
    · obtain ⟨nested, split⟩ := ih ((List.mem_cons.mp inside).resolve_left (Ne.symm same))
      refine ⟨first :: nested, ?_⟩
      rw [List.dropWhile_cons_of_pos (by simpa using same), List.cons_append, ← split]

theorem outside_split {txn : Nat} (inside : txn ∈ session.open_) : ∃ nested, session.open_ = nested ++ txn :: session.outside txn :=
  dropWhile_split inside

namespace Sound

theorem initial : Sound {} where
  chain := List.nodup_nil
  known _ member := by cases member
  closed _ member := by rcases member with member | member <;> cases member
  numbered := rfl
  waiting := .slnil
  called _ member := by cases member
  once := List.nodup_nil
  owners _ member := by cases member
  apart _ member := by cases member
  waits _ member := by cases member
  lasts _ member := by cases member

theorem same_entry (sound : session.Sound) {first second : Entry} (one : first ∈ session.scheduled)
    (other : second ∈ session.scheduled) (same : first.action = second.action) : first = second := by
  have unique : (session.scheduled.map Entry.action).Nodup := by
    rw [sound.numbered]
    exact List.nodup_range
  exact List.inj_on_of_nodup_map unique one other same

theorem action_known (sound : session.Sound) {entry : Entry} (member : entry ∈ session.scheduled) :
    entry.action < session.scheduled.length := by
  have present : entry.action ∈ session.scheduled.map Entry.action := List.mem_map_of_mem member
  rw [sound.numbered, List.mem_range] at present
  exact present

theorem not_lasts (sound : session.Sound) {owner : Chain}
    (own : owner.getLast? = session.open_.getLast?) : ¬session.Lasts owner := by
  rintro ⟨⟨outer, committed, last⟩, _⟩
  rw [own] at last
  exact (sound.closed outer (.inr committed)).2 (List.mem_of_mem_getLast? last)

theorem push (sound : session.Sound) : session.push.Sound where
  chain := List.nodup_cons.mpr ⟨fun inside => absurd (sound.known _ inside) (Nat.lt_irrefl _), sound.chain⟩
  known txn member := by
    rcases List.mem_cons.mp member with rfl | inside
    · exact Nat.lt_succ_self _
    · exact Nat.lt_succ_of_lt (sound.known txn inside)
  closed txn gone := by
    obtain ⟨old, outside⟩ := sound.closed txn gone
    refine ⟨Nat.lt_succ_of_lt old, fun member => ?_⟩
    rcases List.mem_cons.mp member with rfl | inside
    · exact absurd old (Nat.lt_irrefl _)
    · exact outside inside
  numbered := sound.numbered
  waiting := sound.waiting
  called := sound.called
  once := sound.once
  owners entry member txn own := by
    obtain ⟨old, last⟩ := sound.owners entry member txn own
    refine ⟨Nat.lt_succ_of_lt old, fun present => ?_⟩
    rcases List.mem_cons.mp present with rfl | inside
    · exact absurd old (Nat.lt_irrefl _)
    · exact (last inside).trans (List.getLast?_cons_of_ne_nil (List.ne_nil_of_mem inside)).symm
  apart entry member := by
    obtain ⟨fresh, last⟩ := sound.apart entry member
    refine ⟨fresh, fun owned => ⟨List.cons_ne_nil _ _, ?_⟩⟩
    obtain ⟨begun, same⟩ := last owned
    exact same.trans (List.getLast?_cons_of_ne_nil begun).symm
  waits entry member _ own := by
    by_cases begun : session.open_ = []
    · change entry.owner.getLast? = (session.begun :: session.open_).getLast? at own
      rw [begun, List.getLast?_singleton] at own
      exact absurd (sound.owners entry member _ (List.mem_of_mem_getLast? own)).1 (Nat.lt_irrefl _)
    · exact sound.waits entry member begun (own.trans (List.getLast?_cons_of_ne_nil begun))
  lasts := sound.lasts

theorem autobegin (sound : session.Sound) : session.autobegin.Sound := by
  unfold Session.autobegin
  split
  · exact sound.push
  · exact sound

theorem scheduleAfterCommit (sound : session.Sound) (count : Nat) : (session.scheduleAfterCommit count).Sound := by
  have fresh : ∀ entry ∈ (List.range' session.scheduled.length count).map (fun action => Entry.mk session.open_ action),
      entry.owner = session.open_ ∧ session.scheduled.length ≤ entry.action := by
    intro entry member
    obtain ⟨action, inside, rfl⟩ := List.mem_map.mp member
    exact ⟨rfl, (List.mem_range'_1.mp inside).1⟩
  have uncalled : ∀ entry : Entry, session.scheduled.length ≤ entry.action → entry.action ∉ session.ran := by
    intro entry late called
    obtain ⟨old, member, same⟩ := sound.called _ called
    have := sound.action_known member
    omega
  constructor
  · exact sound.chain
  · exact sound.known
  · exact sound.closed
  · unfold Session.scheduleAfterCommit
    dsimp only
    rw [List.map_append, sound.numbered, List.map_map]
    have same : (Entry.action ∘ fun action => Entry.mk session.open_ action) = id := rfl
    rw [same, List.map_id, List.length_append, List.length_map, List.length_range', List.range_eq_range', List.range_eq_range']
    have joined : List.range' 0 session.scheduled.length ++ List.range' (0 + session.scheduled.length) count =
        List.range' 0 (session.scheduled.length + count) := List.range'_append_1
    rwa [Nat.zero_add] at joined
  · exact sound.waiting.append (List.Sublist.refl _)
  · intro action called
    obtain ⟨entry, member, same⟩ := sound.called action called
    exact ⟨entry, List.mem_append_left _ member, same⟩
  · exact sound.once
  · intro entry member txn own
    rcases List.mem_append.mp member with old | new
    · exact sound.owners entry old txn own
    · have same := (fresh entry new).1
      rw [same] at own
      exact ⟨sound.known txn own, fun _ => by rw [same]; rfl⟩
  · intro entry member
    rcases List.mem_append.mp member with old | new
    · exact sound.apart entry old
    · obtain ⟨same, late⟩ := fresh entry new
      exact ⟨uncalled entry late, fun owned => ⟨same ▸ owned, by rw [same]; rfl⟩⟩
  · intro entry member begun own
    rcases List.mem_append.mp member with old | new
    · have known := sound.waits entry old begun own
      refine ⟨fun waiting => known.mp ?_, fun free => List.mem_append_left _ (known.mpr free)⟩
      rcases List.mem_append.mp waiting with before | late
      · exact before
      · have := (fresh entry late).2
        have := sound.action_known old
        omega
    · refine ⟨fun _ txn inside rolled => ?_, fun _ => List.mem_append_right _ new⟩
      rw [(fresh entry new).1] at inside
      exact (sound.closed txn (.inl rolled)).2 inside
  · intro entry member owned
    rcases List.mem_append.mp member with old | new
    · exact sound.lasts entry old owned
    · obtain ⟨same, late⟩ := fresh entry new
      exact ⟨fun called => absurd called (uncalled entry late), fun lasts => absurd lasts (sound.not_lasts (by rw [same]))⟩

theorem outside_facts (sound : session.Sound) {txn : Nat} (inside : txn ∈ session.open_) :
    (session.outside txn).Nodup ∧ (∀ other ∈ session.outside txn, other ∈ session.open_) ∧ txn ∉ session.outside txn ∧
      (session.outside txn ≠ [] → (session.outside txn).getLast? = session.open_.getLast?) ∧
      (session.outside txn = [] → session.open_.getLast? = some txn) := by
  obtain ⟨nested, split⟩ := outside_split inside
  have unique := sound.chain
  rw [split] at unique
  have tail := List.nodup_cons.mp (List.nodup_append.mp unique).2.1
  refine ⟨tail.2, fun other member => ?_, tail.1, fun left => ?_, fun none_left => ?_⟩
  · rw [split]
    exact List.mem_append_right _ (List.mem_cons_of_mem _ member)
  · rw [split, List.getLast?_append_of_ne_nil _ (List.cons_ne_nil _ _), List.getLast?_cons_of_ne_nil left]
  · rw [split, none_left]
    exact List.getLast?_concat

theorem release (sound : session.Sound) (txn : Nat) : (session.release txn).Sound := by
  unfold Session.release
  split
  next nested =>
    obtain ⟨unique, sub, _, last, none_left⟩ := sound.outside_facts nested.1
    have left : session.outside txn ≠ [] := fun empty => nested.2 (none_left empty)
    constructor
    · exact unique
    · exact fun other member => sound.known other (sub other member)
    · exact fun other gone => ⟨(sound.closed other gone).1, fun member => (sound.closed other gone).2 (sub other member)⟩
    · exact sound.numbered
    · exact sound.waiting
    · exact sound.called
    · exact sound.once
    · intro entry member other own
      obtain ⟨old, same⟩ := sound.owners entry member other own
      exact ⟨old, fun present => (same (sub other present)).trans (last left).symm⟩
    · intro entry member
      obtain ⟨fresh, same⟩ := sound.apart entry member
      exact ⟨fresh, fun owned => ⟨left, (same owned).2.trans (last left).symm⟩⟩
    · exact fun entry member _ own => sound.waits entry member (List.ne_nil_of_mem nested.1) (own.trans (last left))
    · exact sound.lasts
  next => exact sound

theorem rollback (sound : session.Sound) (txn : Nat) : (session.rollback txn).Sound := by
  unfold Session.rollback
  split
  next inside =>
    obtain ⟨unique, sub, gone_now, last, none_left⟩ := sound.outside_facts inside
    have begun := List.ne_nil_of_mem inside
    have kept : ∀ entry, entry ∈ (session.dropRolledBack txn).pending ↔ entry ∈ session.pending ∧ txn ∉ entry.owner := by
      intro entry
      unfold dropRolledBack
      rw [List.mem_filter, Bool.not_eq_true', ← Bool.not_eq_true, ownedBy_iff]
    constructor
    · exact unique
    · exact fun other member => sound.known other (sub other member)
    · intro other gone
      rcases gone with rolled | committed
      · rcases List.mem_cons.mp rolled with rfl | before
        · exact ⟨sound.known _ inside, gone_now⟩
        · exact ⟨(sound.closed other (.inl before)).1, fun member => (sound.closed other (.inl before)).2 (sub other member)⟩
      · exact ⟨(sound.closed other (.inr committed)).1, fun member => (sound.closed other (.inr committed)).2 (sub other member)⟩
    · exact sound.numbered
    · exact List.filter_sublist.trans sound.waiting
    · exact sound.called
    · exact sound.once
    · intro entry member other own
      obtain ⟨old, same⟩ := sound.owners entry member other own
      exact ⟨old, fun present => (same (sub other present)).trans (last (List.ne_nil_of_mem present)).symm⟩
    · intro entry member
      obtain ⟨waiting, free⟩ := (kept entry).mp member
      obtain ⟨fresh, same⟩ := sound.apart entry waiting
      refine ⟨fresh, fun owned => ?_⟩
      have left : session.outside txn ≠ [] := by
        intro empty
        have own := (same owned).2
        rw [none_left empty] at own
        exact free (List.mem_of_mem_getLast? own)
      exact ⟨left, (same owned).2.trans (last left).symm⟩
    · intro entry member left own
      change entry ∈ (session.dropRolledBack txn).pending ↔ ∀ other ∈ entry.owner, other ∉ txn :: session.rolledBack
      rw [kept, sound.waits entry member begun (own.trans (last left))]
      constructor
      · rintro ⟨free, apart⟩ other owns rolled
        rcases List.mem_cons.mp rolled with rfl | before
        · exact apart owns
        · exact free other owns before
      · intro free
        exact ⟨fun other inside before => free other inside (List.mem_cons_of_mem _ before),
          fun inside => free txn inside List.mem_cons_self⟩
    · intro entry member owned
      refine (sound.lasts entry member owned).trans ⟨fun lasts => ⟨lasts.1, fun other own rolled => ?_⟩, fun lasts => ⟨lasts.1, ?_⟩⟩
      · rcases List.mem_cons.mp rolled with rfl | before
        · exact sound.not_lasts ((sound.owners entry member _ own).2 inside) lasts
        · exact lasts.2 other own before
      · exact fun other own before => lasts.2 other own (List.mem_cons_of_mem _ before)
  next => exact sound

theorem autobegin_begun (session : Session) : session.autobegin.open_ ≠ [] := by
  unfold Session.autobegin
  split
  · exact List.cons_ne_nil _ _
  next begun => exact begun

theorem commit (sound : session.Sound) : session.commit.Sound := by
  unfold Session.commit
  have sound := sound.autobegin
  have begun := autobegin_begun session
  generalize session.autobegin = current at sound begun
  obtain ⟨outer, last⟩ : ∃ outer, current.open_.getLast? = some outer := ⟨_, List.getLast?_eq_some_getLast begun⟩
  have outer_open : outer ∈ current.open_ := List.mem_of_mem_getLast? last
  have sub : ∀ entry ∈ current.pending, entry ∈ current.scheduled := fun entry member => sound.waiting.subset member
  dsimp only [runPending, Bool.false_eq_true, if_false]
  simp only [last, Option.toList_some, List.singleton_append]
  constructor
  · exact List.nodup_nil
  · exact fun _ member => by cases member
  · intro txn gone
    refine ⟨?_, List.not_mem_nil⟩
    rcases gone with rolled | committed
    · exact (sound.closed txn (.inl rolled)).1
    · rcases List.mem_cons.mp committed with rfl | before
      · exact sound.known _ outer_open
      · exact (sound.closed txn (.inr before)).1
  · exact sound.numbered
  · exact List.nil_sublist _
  · intro action called
    rcases List.mem_append.mp called with before | now
    · exact sound.called action before
    · obtain ⟨entry, member, same⟩ := List.mem_map.mp now
      exact ⟨entry, sub entry member, same⟩
  · refine List.nodup_append.mpr ⟨sound.once, ?_, ?_⟩
    · have unique : (current.scheduled.map Entry.action).Nodup := by
        rw [sound.numbered]
        exact List.nodup_range
      exact unique.sublist (sound.waiting.map _)
    · intro first before second now same
      obtain ⟨entry, member, rfl⟩ := List.mem_map.mp now
      exact (sound.apart entry member).1 (same ▸ before)
  · exact fun entry member txn own => ⟨(sound.owners entry member txn own).1, fun impossible => by cases impossible⟩
  · exact fun _ member => by cases member
  · exact fun _ _ impossible => absurd rfl impossible
  · intro entry member owned
    have called_now : entry.action ∈ current.ran ++ current.pending.map Entry.action ↔
        entry.action ∈ current.ran ∨ entry ∈ current.pending := by
      rw [List.mem_append]
      refine or_congr_right ⟨fun now => ?_, fun waiting => List.mem_map_of_mem waiting⟩
      obtain ⟨other, waiting, same⟩ := List.mem_map.mp now
      exact sound.same_entry (sub other waiting) member same ▸ waiting
    change entry.action ∈ current.ran ++ current.pending.map Entry.action ↔ _
    rw [called_now, sound.lasts entry member owned]
    by_cases own : entry.owner.getLast? = current.open_.getLast?
    · have not_yet := sound.not_lasts own
      rw [sound.waits entry member begun own]
      constructor
      · rintro (lasts | free)
        · exact absurd lasts not_yet
        · exact ⟨⟨outer, List.mem_cons_self, own.trans last⟩, free⟩
      · exact fun lasts => .inr lasts.2
    · have elsewhere : entry ∉ current.pending := fun waiting => own ((sound.apart entry waiting).2 owned).2
      constructor
      · rintro (⟨⟨root, committed, same⟩, free⟩ | waiting)
        · exact ⟨⟨root, List.mem_cons_of_mem _ committed, same⟩, free⟩
        · exact absurd waiting elsewhere
      · rintro ⟨⟨root, committed, same⟩, free⟩
        rcases List.mem_cons.mp committed with rfl | before
        · exact absurd (same.trans last.symm) own
        · exact .inl ⟨⟨root, before, same⟩, free⟩

theorem step (sound : session.Sound) (event : Event) : (session.step event).Sound := by
  cases event with
  | begin_ => exact sound.autobegin
  | beginNested => exact sound.autobegin.push
  | schedule count => exact sound.scheduleAfterCommit count
  | release txn => exact sound.release txn
  | rollback txn => exact sound.rollback txn
  | commit => exact sound.commit

end Sound

end Session

/-- In every run, what was called was scheduled and was called once; and an action that a
transaction scheduled has been called exactly if its outer transaction was committed and
no transaction from its own to the outer one was rolled back. -/
theorem after_commit_follows_transaction (events : List Event) :
    let session := Runs.final Session.step {} events
    session.ran.Nodup ∧ (∀ action ∈ session.ran, ∃ entry ∈ session.scheduled, entry.action = action) ∧
      ∀ entry ∈ session.scheduled, entry.owner ≠ [] → (entry.action ∈ session.ran ↔ session.Lasts entry.owner) := by
  have kept : ∀ session event, Session.Sound session → Session.Sound (session.step event) :=
    fun _ event sound => Session.Sound.step sound event
  have sound : Session.Sound (Runs.final Session.step {} events) := Runs.final_invariant kept Session.Sound.initial events
  exact ⟨sound.once, sound.called, sound.lasts⟩

/-- A savepoint that is rolled back takes its own action with it, not the one of its sibling. -/
example : (Runs.final Session.step {}
    [.begin_, .beginNested, .schedule 1, .rollback 1, .beginNested, .schedule 1, .release 2, .commit]).ran = [1] := by decide

end Sprintable.Sessions
