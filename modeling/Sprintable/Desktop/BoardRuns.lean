import Sprintable.Desktop.BoardRows

/-! The board under reports that come late, twice or in another order. A report counts by its
number as long as every accepted one leaves a row to remember it by. -/

namespace Sprintable.Desktop
open Runs

namespace Delivery

def sessions (delivery : Delivery) : List SnapshotSession :=
  match delivery.report with
  | .state sessionKey report => [{ report with sessionKey }]
  | .list sessions => sessions

/-- What an applied report makes of a session that it does not name. -/
def spares (delivery : Delivery) (row : DesktopSession) : DesktopSession :=
  match delivery.report with
  | .state _ _ => row
  | .list _ => row.unlisted delivery.reportSeq delivery.reading.now

/-- The row that an applied report leaves for a session whose row so far is `old`. -/
def leaves (delivery : Delivery) (sessionKey : String) (old : Option DesktopSession) : Option DesktopSession :=
  (listedSession delivery.sessions sessionKey).elim (old.map delivery.spares) fun session =>
    some (.reported sessionKey old session.toSessionReport delivery.reportSeq delivery.reading.now)

/-- The report is one that the device may send, with or without regard to its number. -/
structure WellFormed (delivery : Delivery) : Prop where
  agents : ∀ session ∈ delivery.sessions, session.agentMemberId ∈ delivery.reading.setupAgents
  distinct : (delivery.sessions.map (·.sessionKey)).Nodup
  positive : 0 < delivery.reportSeq
  inRange : delivery.reportSeq ≤ INT32_MAX

/-- The rows that have not expired when the report comes. -/
def unexpired (delivery : Delivery) (rows : List DesktopSession) : List DesktopSession :=
  pruneExpired rows delivery.reading.now

/-- The live rows leave room for the sessions that have no row. -/
def Fits (delivery : Delivery) (rows : List DesktopSession) : Prop :=
  ((delivery.unexpired rows).filter fun row => !row.stopped).length +
    (newSessions (delivery.unexpired rows) delivery.sessions).length ≤ SESSION_ROWS_PER_DEVICE

/-- The ended rows that the report puts out of their place. -/
def displaced (delivery : Delivery) (rows : List DesktopSession) : List DesktopSession :=
  oldestEnded delivery.reading.tied (delivery.unexpired rows)
    (newSessions (delivery.unexpired rows) delivery.sessions).length

end Delivery

section Deliveries
variable {rows kept after : List DesktopSession} {row : DesktopSession} {delivery : Delivery} {wanted : String}

theorem pruneExpired_sublist (rows : List DesktopSession) (now : Nat) : (pruneExpired rows now).Sublist rows :=
  List.filter_sublist

theorem unexpired_unique (unique : (sessionKeys rows).Nodup) : (sessionKeys (delivery.unexpired rows)).Nodup :=
  unique.sublist ((pruneExpired_sublist rows delivery.reading.now).map _)

theorem pruneExpired_live {now : Nat} (member : row ∈ rows) (live : row.stopped = false) : row ∈ pruneExpired rows now := by
  apply List.mem_filter.mpr
  refine ⟨member, ?_⟩
  simp [DesktopSession.expired, live]

theorem newSessions_single (rows : List DesktopSession) (report : SessionReport) (sessionKey : String) :
    (newSessions rows [{ report with sessionKey }]).length = if sessionKey ∈ sessionKeys rows then 0 else 1 := by
  unfold newSessions
  split
  next present => rw [List.filter_cons_of_neg (by simpa using present), List.filter_nil, List.length_nil]
  next absent => rw [List.filter_cons_of_pos (by simpa using absent), List.filter_nil, List.length_singleton]

/-- What an applied report comes from: room made among the unexpired rows, then its writes. -/
structure Applied (delivery : Delivery) (rows kept after : List DesktopSession) : Prop where
  rooms : kept = delivery.unexpired rows ∨
    makeRoom delivery.reading.tied (delivery.unexpired rows)
      (newSessions (delivery.unexpired rows) delivery.sessions).length = .ok kept
  roomy : (sessionKeys rows).Nodup → rows.length ≤ SESSION_ROWS_PER_DEVICE →
    kept.length + (newSessions (delivery.unexpired rows) delivery.sessions).length ≤ SESSION_ROWS_PER_DEVICE
  keys : sessionKeys after = sessionKeys kept ++ (newSessions kept delivery.sessions).map (·.sessionKey)
  content : ∀ wanted, findSession after wanted = delivery.leaves wanted (findSession kept wanted)

theorem apply_ok (distinct : (delivery.sessions.map (·.sessionKey)).Nodup) (executed : delivery.apply rows = .ok after) :
    ∃ kept, Applied delivery rows kept after := by
  obtain ⟨report, reportSeq, reading⟩ := delivery
  cases report with
  | state sessionKey report =>
    simp only [Delivery.apply, applyState] at executed
    obtain ⟨kept, made, written⟩ := bind_ok executed
    cases written
    have single := newSessions_single (pruneExpired rows reading.now) report sessionKey
    refine ⟨kept, ?_, ?_, ?_, ?_⟩
    · split at made
      next => exact .inl (Except.ok.inj made).symm
      next absent =>
        right
        simp only [Delivery.unexpired, Delivery.sessions]
        rw [single, if_neg absent]
        exact made
    · intro unique bounded
      simp only [Delivery.unexpired, Delivery.sessions]
      rw [single]
      split at made
      next present =>
        have shorter := (pruneExpired_sublist rows reading.now).length_le
        cases made
        rw [if_pos present]
        omega
      next absent =>
        rw [if_neg absent]
        exact makeRoom_length (unique.sublist ((pruneExpired_sublist rows reading.now).map _)) made
    · rw [keys_writeReport]
      simp only [Delivery.sessions, newSessions]
      by_cases present : sessionKey ∈ sessionKeys kept
      · rw [if_pos present, List.filter_cons_of_neg (by simpa using present)]
        exact (List.append_nil _).symm
      · rw [if_neg present, List.filter_cons_of_pos (by simpa using present)]
        rfl
    · intro wanted
      rw [find_writeReport]
      simp only [Delivery.leaves, Delivery.sessions]
      rw [listedSession_cons]
      by_cases same : sessionKey = wanted
      · rw [if_pos same, if_pos same, same, Option.elim_some]
      · rw [if_neg same, if_neg same]
        exact Option.map_id'.symm
  | list sessions =>
    simp only [Delivery.apply, applyList] at executed
    obtain ⟨kept, made, written⟩ := bind_ok executed
    cases written
    refine ⟨kept, .inr made, ?_, keys_writeList distinct kept reportSeq reading.now, find_writeList distinct kept reportSeq reading.now⟩
    intro unique _
    exact makeRoom_length (unique.sublist ((pruneExpired_sublist rows reading.now).map _)) made

namespace Applied
variable (applied : Applied delivery rows kept after)
include applied

theorem sublist : kept.Sublist (delivery.unexpired rows) := by
  rcases applied.rooms with rfl | made
  · exact List.Sublist.refl _
  · exact makeRoom_sublist made

theorem kept_unique (unique : (sessionKeys rows).Nodup) : (sessionKeys kept).Nodup :=
  unique.sublist ((applied.sublist.trans (pruneExpired_sublist rows delivery.reading.now)).map _)

theorem unique (distinct : (delivery.sessions.map (·.sessionKey)).Nodup) (unique : (sessionKeys rows).Nodup) :
    (sessionKeys after).Nodup := by
  rw [applied.keys]
  exact nodup_new (applied.kept_unique unique) distinct

theorem live (unique : (sessionKeys rows).Nodup) (member : row ∈ rows) (alive : row.stopped = false) : row ∈ kept := by
  have current : row ∈ delivery.unexpired rows := pruneExpired_live member alive
  rcases applied.rooms with rfl | made
  · exact current
  · exact makeRoom_live (unexpired_unique unique) made current alive

theorem newSessions_kept
    (spared : ∀ row ∈ delivery.displaced rows, row.sessionKey ∉ delivery.sessions.map (·.sessionKey)) :
    newSessions kept delivery.sessions = newSessions (delivery.unexpired rows) delivery.sessions := by
  apply List.filter_congr
  intro session named
  rcases applied.rooms with rfl | made
  · rfl
  · have same : session.sessionKey ∈ sessionKeys kept ↔ session.sessionKey ∈ sessionKeys (delivery.unexpired rows) := by
      constructor
      · intro present
        exact (applied.sublist.map _).subset present
      · intro present
        obtain ⟨row, member, key⟩ := List.mem_map.mp present
        rw [(makeRoom_ok.mp made).2]
        apply List.mem_map.mpr
        refine ⟨row, List.mem_filter.mpr ⟨member, decide_eq_true ?_⟩, key⟩
        intro dropped
        obtain ⟨old, oldest, equal⟩ := List.mem_map.mp dropped
        exact spared old oldest (List.mem_map.mpr ⟨session, named, (equal.trans key).symm⟩)
    simp only [same]

theorem bounded (unique : (sessionKeys rows).Nodup) (bound : rows.length ≤ SESSION_ROWS_PER_DEVICE)
    (spared : ∀ row ∈ delivery.displaced rows, row.sessionKey ∉ delivery.sessions.map (·.sessionKey)) :
    after.length ≤ SESSION_ROWS_PER_DEVICE := by
  have room := applied.roomy unique bound
  have keys := congrArg List.length applied.keys
  rw [applied.newSessions_kept spared, List.length_append, List.length_map] at keys
  simp only [sessionKeys, List.length_map] at keys
  omega

theorem find_of_mem (distinct : (delivery.sessions.map (·.sessionKey)).Nodup) (unique : (sessionKeys rows).Nodup)
    (member : row ∈ after) : delivery.leaves row.sessionKey (findSession kept row.sessionKey) = some row := by
  rw [← applied.content]
  exact Keyed.find_of_mem (applied.unique distinct unique) member

theorem numbers_le (distinct : (delivery.sessions.map (·.sessionKey)).Nodup) (unique : (sessionKeys rows).Nodup)
    (newer : latestSeq rows < delivery.reportSeq) : ∀ row ∈ after, row.lastReportSeq ≤ delivery.reportSeq := by
  intro row member
  have left := applied.find_of_mem distinct unique member
  unfold Delivery.leaves at left
  cases named : listedSession delivery.sessions row.sessionKey with
  | some session =>
    rw [named, Option.elim_some] at left
    rw [← Option.some.inj left]
    exact Nat.le_refl _
  | none =>
    rw [named, Option.elim_none] at left
    obtain ⟨old, found, rfl⟩ := Option.map_eq_some_iff.mp left
    unfold Delivery.spares
    split
    · have present : old ∈ rows :=
        (pruneExpired_sublist rows delivery.reading.now).subset (applied.sublist.subset (Keyed.find_mem found))
      have below := le_latestSeq present
      omega
    · exact (unlisted_seq old).le

theorem number_left (unique : (sessionKeys rows).Nodup) (bound : rows.length ≤ SESSION_ROWS_PER_DEVICE)
    (remembered : delivery.sessions = [] → delivery.unexpired rows ≠ []) :
    ∃ row ∈ after, row.lastReportSeq = delivery.reportSeq := by
  cases sessions : delivery.sessions with
  | cons first rest =>
    have found := applied.content first.sessionKey
    unfold Delivery.leaves at found
    rw [sessions, listedSession_cons, if_pos rfl, Option.elim_some] at found
    exact ⟨_, Keyed.find_mem found, rfl⟩
  | nil =>
    obtain ⟨row, current⟩ := List.exists_mem_of_ne_nil _ (remembered sessions)
    have present : row ∈ kept := by
      rcases applied.rooms with rfl | made
      · exact current
      · have shorter := (pruneExpired_sublist rows delivery.reading.now).length_le
        have enough : excess (delivery.unexpired rows) (newSessions (delivery.unexpired rows) delivery.sessions).length = 0 := by
          rw [sessions]
          simp only [excess, newSessions, List.filter_nil, List.length_nil, Delivery.unexpired]
          omega
        rw [(makeRoom_ok.mp made).2]
        apply List.mem_filter.mpr
        refine ⟨current, decide_eq_true ?_⟩
        rw [oldestEnded, enough, List.take_zero]
        exact List.not_mem_nil
    have found := applied.content row.sessionKey
    rw [show findSession kept row.sessionKey = some row from Keyed.find_of_mem (applied.kept_unique unique) present] at found
    unfold Delivery.leaves at found
    rw [sessions, show listedSession [] row.sessionKey = none from rfl, Option.elim_none, Option.map_some] at found
    refine ⟨_, Keyed.find_mem found, ?_⟩
    unfold Delivery.sessions at sessions
    unfold Delivery.spares
    split at sessions
    · cases sessions
    · exact unlisted_seq row

end Applied

theorem makeRoom_fits (tied : DesktopSession → Nat) {newRows : Nat} :
    (∃ kept, makeRoom tied rows newRows = .ok kept) ↔
      (rows.filter fun row => !row.stopped).length + newRows ≤ SESSION_ROWS_PER_DEVICE := by
  have parts := List.length_eq_length_filter_add (l := rows) (·.stopped)
  constructor
  · rintro ⟨kept, made⟩
    have enough := (makeRoom_ok.mp made).1
    unfold excess at enough
    omega
  · intro fits
    exact ⟨_, makeRoom_ok.mpr ⟨by unfold excess; omega, rfl⟩⟩

theorem apply_fits (bounded : rows.length ≤ SESSION_ROWS_PER_DEVICE) :
    (∃ after, delivery.apply rows = .ok after) ↔ delivery.Fits rows := by
  obtain ⟨report, reportSeq, reading⟩ := delivery
  have shorter := (pruneExpired_sublist rows reading.now).length_le
  cases report with
  | state sessionKey report =>
    simp only [Delivery.apply, applyState, Delivery.Fits, Delivery.unexpired, Delivery.sessions]
    rw [newSessions_single]
    by_cases present : sessionKey ∈ sessionKeys (pruneExpired rows reading.now)
    · rw [if_pos present, if_pos present]
      have live := List.length_filter_le (fun row : DesktopSession => !row.stopped) (pruneExpired rows reading.now)
      exact ⟨fun _ => by omega, fun _ => ⟨_, rfl⟩⟩
    · rw [if_neg present, if_neg present, ← makeRoom_fits reading.tied]
      constructor
      · rintro ⟨after, executed⟩
        obtain ⟨kept, made, _⟩ := bind_ok executed
        exact ⟨kept, made⟩
      · rintro ⟨kept, made⟩
        rw [made]
        exact ⟨_, rfl⟩
  | list sessions =>
    simp only [Delivery.apply, applyList, Delivery.Fits, Delivery.unexpired, Delivery.sessions]
    rw [← makeRoom_fits reading.tied]
    constructor
    · rintro ⟨after, executed⟩
      obtain ⟨kept, made, _⟩ := bind_ok executed
      exact ⟨kept, made⟩
    · rintro ⟨kept, made⟩
      rw [made]
      exact ⟨_, rfl⟩

theorem checkAgent_ok {setupAgents : List Nat} {agentMemberId : Nat} :
    checkAgent setupAgents agentMemberId = .ok () ↔ agentMemberId ∈ setupAgents := by
  unfold checkAgent
  split
  next known => exact ⟨fun _ => known, fun _ => rfl⟩
  next unknown => simp [unknown]

theorem checkAgents_ok {setupAgents : List Nat} {sessions : List SnapshotSession} :
    (sessions.forM fun session => checkAgent setupAgents session.agentMemberId) = .ok () ↔
      ∀ session ∈ sessions, session.agentMemberId ∈ setupAgents := by
  induction sessions with
  | nil => simp [pure, Except.pure]
  | cons first rest ih =>
    rw [List.forall_mem_cons, ← ih, ← checkAgent_ok]
    exact check_ok

theorem checkSeqRange_ok {seq : Nat} : checkSeqRange seq = .ok () ↔ seq ≤ INT32_MAX := by
  unfold checkSeqRange
  split
  next exceeded => simp [exceeded]
  next => exact ⟨fun _ => by omega, fun _ => rfl⟩

theorem checkLatest_ok {seq : Nat} : checkLatest rows seq = .ok () ↔ latestSeq rows < seq := by
  dsimp only [checkLatest]
  split
  next late => simp [late]
  next => exact ⟨fun _ => by omega, fun _ => rfl⟩

theorem receive_ok :
    delivery.receive rows = .ok after ↔
      delivery.WellFormed ∧ latestSeq rows < delivery.reportSeq ∧ delivery.apply rows = .ok after := by
  obtain ⟨report, reportSeq, reading⟩ := delivery
  cases report with
  | state sessionKey report =>
    simp only [Delivery.receive, recordSessionState, Delivery.apply]
    rw [check_ok, check_ok, check_ok, checkAgent_ok, checkSeqRange_ok, checkLatest_ok]
    constructor
    · rintro ⟨known, inRange, newer, applied⟩
      refine ⟨⟨?_, List.nodup_singleton _, Nat.zero_lt_of_lt newer, inRange⟩, newer, applied⟩
      intro session named
      rw [List.mem_singleton.mp named]
      exact known
    · rintro ⟨formed, newer, applied⟩
      exact ⟨formed.agents _ (List.mem_singleton_self _), formed.inRange, newer, applied⟩
  | list sessions =>
    simp only [Delivery.receive, replaceSessions, Delivery.apply]
    rw [check_ok, check_ok, checkAgents_ok, checkSeqRange_ok]
    by_cases distinct : (sessions.map (·.sessionKey)).Nodup
    · rw [if_pos distinct, check_ok, check_ok, checkLatest_ok]
      constructor
      · rintro ⟨known, inRange, _, newer, applied⟩
        exact ⟨⟨known, distinct, Nat.zero_lt_of_lt newer, inRange⟩, newer, applied⟩
      · rintro ⟨formed, newer, applied⟩
        exact ⟨formed.agents, formed.inRange, rfl, newer, applied⟩
    · rw [if_neg distinct]
      constructor
      · rintro ⟨_, _, executed⟩
        cases executed
      · rintro ⟨formed, _⟩
        exact absurd formed.distinct distinct

end Deliveries

/-- The reports applied in turn, without regard to their numbers. -/
def replay (issued : List DesktopSession) (deliveries : List Delivery) : Except ReportRefusal (List DesktopSession) :=
  deliveries.foldlM Delivery.apply issued

namespace DeviceBoard

/-- The board of the token's reports, in the order of their numbers. -/
structure InOrder (board : DeviceBoard) : Prop where
  increasing : board.accepted.Pairwise fun earlier later => earlier.reportSeq < later.reportSeq
  replayed : replay board.issued board.accepted = .ok board.rows
  bounded : board.rows.length ≤ SESSION_ROWS_PER_DEVICE

/-- How a report is met: by its number alone once it is well formed and there is room for it, and
without the loss of a live session. -/
structure Counts (board : DeviceBoard) (delivery : Delivery) : Prop where
  applied : (∃ rows, delivery.receive board.rows = .ok rows) ↔
    delivery.WellFormed ∧ delivery.Fits board.rows ∧ ∀ earlier ∈ board.accepted, earlier.reportSeq < delivery.reportSeq
  refused : (¬∃ rows, delivery.receive board.rows = .ok rows) → board.step (.deliver delivery) = board
  live : (∃ rows, delivery.receive board.rows = .ok rows) → ∀ row ∈ board.rows, row.stopped = false →
    findSession (board.step (.deliver delivery)).rows row.sessionKey = delivery.leaves row.sessionKey (some row)

def Follows (board : DeviceBoard) (event : BoardEvent) : Prop :=
  ∀ delivery, event = .deliver delivery → board.Counts delivery

/-- A report that counts leaves a row to remember its number by, and none of the rows that it names
is put out to make room for the others. -/
def Remembers (board : DeviceBoard) (event : BoardEvent) : Prop :=
  ∀ delivery, event = .deliver delivery → delivery.WellFormed → latestSeq board.rows < delivery.reportSeq →
    (delivery.sessions = [] → delivery.unexpired board.rows ≠ []) ∧
      ∀ row ∈ delivery.displaced board.rows, row.sessionKey ∉ delivery.sessions.map (·.sessionKey)

/-- What every run whose reports are remembered keeps. -/
structure Sound (board : DeviceBoard) : Prop extends InOrder board where
  unique : (sessionKeys board.rows).Nodup
  newest : ∀ earlier ∈ board.accepted, earlier.reportSeq ≤ latestSeq board.rows
  known : latestSeq board.rows = 0 ∨ ∃ earlier ∈ board.accepted, earlier.reportSeq = latestSeq board.rows

variable {board : DeviceBoard} {delivery : Delivery} {rows kept : List DesktopSession}

theorem step_accepted (received : delivery.receive board.rows = .ok rows) :
    board.step (.deliver delivery) = { board with rows, accepted := board.accepted ++ [delivery] } := by
  unfold step
  dsimp only
  rw [received]

theorem step_refused (refused : ¬∃ rows, delivery.receive board.rows = .ok rows) :
    board.step (.deliver delivery) = board := by
  unfold step
  dsimp only
  cases received : delivery.receive board.rows with
  | ok rows => exact absurd ⟨rows, received⟩ refused
  | error _ => rfl

theorem Sound.counts (sound : board.Sound) (delivery : Delivery) : board.Counts delivery := by
  refine ⟨?_, step_refused, ?_⟩
  · constructor
    · rintro ⟨rows, received⟩
      obtain ⟨formed, newer, applied⟩ := receive_ok.mp received
      refine ⟨formed, (apply_fits sound.bounded).mp ⟨rows, applied⟩, ?_⟩
      intro earlier accepted
      exact (sound.newest earlier accepted).trans_lt newer
    · rintro ⟨formed, fits, above⟩
      obtain ⟨rows, applied⟩ := (apply_fits sound.bounded).mpr fits
      refine ⟨rows, receive_ok.mpr ⟨formed, ?_, applied⟩⟩
      rcases sound.known with none | ⟨earlier, accepted, same⟩
      · rw [none]
        exact formed.positive
      · rw [← same]
        exact above earlier accepted
  · rintro ⟨after, received⟩ row member alive
    obtain ⟨formed, _, executed⟩ := receive_ok.mp received
    obtain ⟨kept, applied⟩ := apply_ok formed.distinct executed
    rw [step_accepted received]
    dsimp only
    rw [applied.content]
    congr 1
    exact Keyed.find_of_mem (applied.kept_unique sound.unique) (applied.live sound.unique member alive)

theorem Sound.received (sound : board.Sound) (remembers : board.Remembers (.deliver delivery))
    (received : delivery.receive board.rows = .ok rows) :
    Sound { board with rows, accepted := board.accepted ++ [delivery] } := by
  obtain ⟨formed, newer, executed⟩ := receive_ok.mp received
  obtain ⟨kept, applied⟩ := apply_ok formed.distinct executed
  obtain ⟨remembered, spared⟩ := remembers delivery rfl formed newer
  have latest : latestSeq rows = delivery.reportSeq :=
    latestSeq_eq (applied.numbers_le formed.distinct sound.unique newer)
      (applied.number_left sound.unique sound.bounded remembered)
  constructor
  · constructor
    · apply List.pairwise_append.mpr
      refine ⟨sound.increasing, List.pairwise_singleton _ _, ?_⟩
      intro earlier accepted last new
      rw [List.mem_singleton.mp new]
      exact (sound.newest earlier accepted).trans_lt newer
    · simp only [replay, List.foldlM_append]
      rw [show board.accepted.foldlM Delivery.apply board.issued = .ok board.rows from sound.replayed]
      exact (bind_pure _).trans executed
    · exact applied.bounded sound.unique sound.bounded spared
  · exact applied.unique formed.distinct sound.unique
  · intro earlier accepted
    rw [latest]
    rcases List.mem_append.mp accepted with before | new
    · exact ((sound.newest earlier before).trans_lt newer).le
    · rw [List.mem_singleton.mp new]
  · exact .inr ⟨delivery, List.mem_append_right _ (List.mem_singleton_self _), latest.symm⟩

theorem sessionKeys_restartCount (rows : List DesktopSession) : sessionKeys (restartCount rows) = sessionKeys rows := by
  simp [sessionKeys, restartCount]

theorem latestSeq_restartCount (rows : List DesktopSession) : latestSeq (restartCount rows) = 0 := by
  apply Nat.le_zero.mp
  apply latestSeq_le
  intro row member
  obtain ⟨old, _, rfl⟩ := List.mem_map.mp member
  exact Nat.le_refl 0

theorem Sound.step (sound : board.Sound) (event : BoardEvent) (remembers : board.Remembers event) :
    (board.step event).Sound := by
  cases event with
  | issueToken =>
    constructor
    · refine ⟨List.Pairwise.nil, rfl, ?_⟩
      rw [DeviceBoard.step, restartCount, List.length_map]
      exact sound.bounded
    · rw [DeviceBoard.step, sessionKeys_restartCount]
      exact sound.unique
    · intro earlier accepted
      cases accepted
    · exact .inl (latestSeq_restartCount board.rows)
  | deliver delivery =>
    by_cases received : ∃ rows, delivery.receive board.rows = .ok rows
    · obtain ⟨rows, received⟩ := received
      rw [step_accepted received]
      exact sound.received remembers received
    · rw [step_refused received]
      exact sound

theorem sound_initial : Sound {} := by
  constructor
  · exact ⟨List.Pairwise.nil, rfl, Nat.zero_le _⟩
  · exact List.nodup_nil
  · intro earlier accepted
    cases accepted
  · exact .inl rfl

/-- As long as every report that counts leaves a row of its number, and puts out none that it
names, the reports count by their numbers and the board is that of the newest. -/
theorem board_follows_newest (events : List BoardEvent) (remembered : Throughout step Remembers {} events) :
    Throughout step Follows {} events ∧ (final step {} events).InOrder := by
  have kept : ∀ board event, Remembers board event → Sound board → Sound (board.step event) :=
    fun _ event remembers sound => sound.step event remembers
  constructor
  · apply remembered.carry kept sound_initial
    intro board event _ sound delivery _
    exact sound.counts delivery
  · exact (remembered.invariant kept sound_initial).toInOrder

def sampleReading : Reading := { setupAgents := [7], now := 1000, tied := fun _ => 0 }

def workingReport : BoardReport := .state "s-1" { agentMemberId := 7, state := .working, reportedAt := 1000 }

def startsWorking : BoardEvent := .deliver { report := workingReport, reportSeq := 1, reading := sampleReading }

def emptiesList : BoardEvent := .deliver { report := .list [], reportSeq := 10, reading := sampleReading }

theorem board_follows_newest_sample :
    Throughout step Remembers {} [.issueToken, startsWorking, emptiesList] ∧
      Throughout step Follows {} [.issueToken, startsWorking, emptiesList] ∧
      (final step {} [.issueToken, startsWorking, emptiesList]).InOrder := by
  have remembered : Throughout step Remembers {} [.issueToken, startsWorking, emptiesList] := by
    refine ⟨?_, ?_, ?_, True.intro⟩
    · intro delivery same
      cases same
    · intro delivery same _ _
      cases same
      exact ⟨by decide, by decide⟩
    · intro delivery same _ _
      cases same
      exact ⟨by decide, by decide⟩
  exact ⟨remembered, board_follows_newest _ remembered⟩

/-- An empty list that finds no row leaves none: the report with number 5 that comes after it, late,
is applied although number 10 was accepted. -/
theorem late_report_applied :
    ¬Throughout step Follows {} [emptiesList, .deliver { report := workingReport, reportSeq := 5, reading := sampleReading }] := by
  intro follows
  have late := (follows.2.1 _ rfl).applied.mp ⟨_, rfl⟩
  have order := late.2.2 { report := .list [], reportSeq := 10, reading := sampleReading } (List.mem_singleton_self _)
  exact absurd order (by decide)

end DeviceBoard

end Sprintable.Desktop
