import Sprintable.Desktop.SessionBoard

/-! What the operations of the session board make of its rows: which number is the latest, which
rows give way, and which row each session is left with. -/

namespace Sprintable.Desktop

section Numbers
variable {rows : List DesktopSession} {row : DesktopSession} {seq : Nat}

theorem le_latestSeq (member : row ∈ rows) : row.lastReportSeq ≤ latestSeq rows := by
  have present : row.lastReportSeq ∈ rows.map (·.lastReportSeq) := List.mem_map_of_mem member
  unfold latestSeq
  cases largest : (rows.map (·.lastReportSeq)).max? with
  | none =>
    rw [List.max?_eq_none_iff] at largest
    rw [largest] at present
    cases present
  | some top => exact (List.max?_eq_some_iff.mp largest).2 _ present

theorem latestSeq_cases (rows : List DesktopSession) :
    latestSeq rows = 0 ∨ ∃ row ∈ rows, row.lastReportSeq = latestSeq rows := by
  unfold latestSeq
  cases largest : (rows.map (·.lastReportSeq)).max? with
  | none => exact .inl rfl
  | some top =>
    obtain ⟨row, member, same⟩ := List.mem_map.mp (List.max?_eq_some_iff.mp largest).1
    exact .inr ⟨row, member, same⟩

theorem latestSeq_le (bounded : ∀ row ∈ rows, row.lastReportSeq ≤ seq) : latestSeq rows ≤ seq := by
  rcases latestSeq_cases rows with none | ⟨row, member, same⟩
  · omega
  · rw [← same]
    exact bounded row member

theorem latestSeq_eq (bounded : ∀ row ∈ rows, row.lastReportSeq ≤ seq) (reached : ∃ row ∈ rows, row.lastReportSeq = seq) :
    latestSeq rows = seq := by
  obtain ⟨row, member, same⟩ := reached
  have above := le_latestSeq member
  have below := latestSeq_le bounded
  omega

end Numbers

section Rooms
variable {rows kept : List DesktopSession} {row : DesktopSession} {tied : DesktopSession → Nat} {newRows : Nat}

theorem mem_oldestEnded (member : row ∈ oldestEnded tied rows newRows) : row ∈ rows ∧ row.stopped := by
  have sorted := (List.mem_insertionSort _).mp (List.mem_of_mem_take member)
  exact List.mem_filter.mp sorted

theorem length_oldestEnded (tied : DesktopSession → Nat) (rows : List DesktopSession) (newRows : Nat) :
    (oldestEnded tied rows newRows).length = min (excess rows newRows) (rows.filter (·.stopped)).length := by
  rw [oldestEnded, List.length_take, List.length_insertionSort]

theorem nodup_oldestEnded (unique : (sessionKeys rows).Nodup) : (sessionKeys (oldestEnded tied rows newRows)).Nodup := by
  have ended : ((rows.filter (·.stopped)).map DesktopSession.sessionKey).Nodup :=
    unique.sublist (List.filter_sublist.map _)
  have sorted := ((List.perm_insertionSort (endsBefore tied) (rows.filter (·.stopped))).map DesktopSession.sessionKey).nodup_iff.mpr ended
  exact sorted.sublist ((List.take_sublist _ _).map _)

theorem makeRoom_ok :
    makeRoom tied rows newRows = .ok kept ↔
      excess rows newRows ≤ (rows.filter (·.stopped)).length ∧
        kept = rows.filter fun row => row.sessionKey ∉ sessionKeys (oldestEnded tied rows newRows) := by
  have length := length_oldestEnded tied rows newRows
  dsimp only [makeRoom]
  split
  next short =>
    constructor
    · intro absurd
      cases absurd
    · rintro ⟨enough, _⟩
      omega
  next enough =>
    rw [Except.ok.injEq, eq_comm (a := kept)]
    exact ⟨fun same => ⟨by omega, same⟩, fun made => made.2⟩

theorem makeRoom_sublist (made : makeRoom tied rows newRows = .ok kept) : kept.Sublist rows := by
  rw [(makeRoom_ok.mp made).2]
  exact List.filter_sublist

theorem makeRoom_live (unique : (sessionKeys rows).Nodup) (made : makeRoom tied rows newRows = .ok kept)
    (member : row ∈ rows) (live : row.stopped = false) : row ∈ kept := by
  rw [(makeRoom_ok.mp made).2]
  apply List.mem_filter.mpr
  refine ⟨member, decide_eq_true ?_⟩
  intro dropped
  obtain ⟨old, oldest, same⟩ := List.mem_map.mp dropped
  obtain ⟨present, stopped⟩ := mem_oldestEnded oldest
  rw [List.inj_on_of_nodup_map unique present member same, live] at stopped
  cases stopped

theorem makeRoom_parts (unique : (sessionKeys rows).Nodup) (made : makeRoom tied rows newRows = .ok kept) :
    rows.length = kept.length + excess rows newRows := by
  obtain ⟨enough, rfl⟩ := makeRoom_ok.mp made
  have dropped := length_oldestEnded tied rows newRows
  have parts := List.length_eq_length_filter_add (l := rows) fun row =>
    decide (row.sessionKey ∈ sessionKeys (oldestEnded tied rows newRows))
  have named : (sessionKeys (oldestEnded tied rows newRows)).length =
      (rows.filter fun row => decide (row.sessionKey ∈ sessionKeys (oldestEnded tied rows newRows))).length := by
    apply Eq.trans _ (List.length_map DesktopSession.sessionKey)
    apply List.Perm.length_eq
    apply (List.perm_ext_iff_of_nodup (nodup_oldestEnded unique) (unique.sublist (List.filter_sublist.map _))).mpr
    intro key
    constructor
    · intro listed
      obtain ⟨row, oldest, rfl⟩ := List.mem_map.mp listed
      exact List.mem_map_of_mem (List.mem_filter.mpr ⟨(mem_oldestEnded oldest).1, decide_eq_true listed⟩)
    · intro listed
      obtain ⟨row, member, rfl⟩ := List.mem_map.mp listed
      exact of_decide_eq_true (List.mem_filter.mp member).2
  rw [sessionKeys, List.length_map] at named
  simp only [decide_not]
  unfold sessionKeys at parts ⊢
  omega

theorem makeRoom_length (unique : (sessionKeys rows).Nodup) (made : makeRoom tied rows newRows = .ok kept) :
    kept.length + newRows ≤ SESSION_ROWS_PER_DEVICE := by
  have parts := makeRoom_parts unique made
  unfold excess at parts
  omega

end Rooms

section Writes
variable {rows : List DesktopSession} {row : DesktopSession} {sessions : List SnapshotSession} {seq now : Nat} {key wanted : String}

def findSession (rows : List DesktopSession) (sessionKey : String) : Option DesktopSession :=
  Keyed.find DesktopSession.sessionKey rows sessionKey

theorem mem_sessionKeys : wanted ∈ sessionKeys rows ↔ ∃ row, findSession rows wanted = some row := by
  constructor
  · intro present
    cases found : findSession rows wanted with
    | some row => exact ⟨row, rfl⟩
    | none =>
      obtain ⟨row, member, same⟩ := List.mem_map.mp present
      exact absurd same (Keyed.find_none found row member)
  · rintro ⟨row, found⟩
    exact List.mem_map.mpr ⟨row, Keyed.find_mem found, Keyed.find_key found⟩

theorem find_writeReport (report : SessionReport) :
    findSession (writeReport rows key report seq now) wanted =
      if key = wanted then some (.reported key (findSession rows key) report seq now) else findSession rows wanted := by
  unfold writeReport findSession
  by_cases same : key = wanted
  · subst same
    rw [if_pos rfl]
    cases found : Keyed.find DesktopSession.sessionKey rows key with
    | some old =>
      rw [Keyed.find_put, found]
      exact if_pos rfl
    | none => exact Keyed.find_append_new found rfl
  · rw [if_neg same]
    split
    · exact Keyed.find_put_other same
    · exact Keyed.find_append_other same

theorem keys_writeReport (report : SessionReport) :
    sessionKeys (writeReport rows key report seq now) =
      if key ∈ sessionKeys rows then sessionKeys rows else sessionKeys rows ++ [key] := by
  unfold writeReport
  cases found : Keyed.find DesktopSession.sessionKey rows key with
  | some old =>
    rw [if_pos (mem_sessionKeys.mpr ⟨old, found⟩)]
    exact Keyed.map_key_put rows _
  | none =>
    have absent : key ∉ sessionKeys rows := by
      intro present
      obtain ⟨row, listed⟩ := mem_sessionKeys.mp present
      rw [findSession, found] at listed
      cases listed
    rw [if_neg absent]
    simp [sessionKeys, DesktopSession.reported]

def listedSession (sessions : List SnapshotSession) (sessionKey : String) : Option SnapshotSession :=
  Keyed.find SnapshotSession.sessionKey sessions sessionKey

theorem listedSession_cons (first : SnapshotSession) (rest : List SnapshotSession) :
    listedSession (first :: rest) wanted = if first.sessionKey = wanted then some first else listedSession rest wanted := by
  unfold listedSession Keyed.find
  rw [List.find?_cons]
  by_cases same : first.sessionKey = wanted <;> simp [same]

/-- The rows after the reports of a list, before the other sessions are ended. -/
def writtenList (rows : List DesktopSession) (sessions : List SnapshotSession) (seq now : Nat) : List DesktopSession :=
  sessions.foldl (fun rows session => writeReport rows session.sessionKey session.toSessionReport seq now) rows

theorem find_writtenList (unique : (sessions.map (·.sessionKey)).Nodup) (rows : List DesktopSession) (seq now : Nat) (wanted : String) :
    findSession (writtenList rows sessions seq now) wanted =
      (listedSession sessions wanted).elim (findSession rows wanted) fun session =>
        some (.reported wanted (findSession rows wanted) session.toSessionReport seq now) := by
  induction sessions generalizing rows with
  | nil => rfl
  | cons first rest ih =>
    simp only [List.map_cons, List.nodup_cons] at unique
    rw [writtenList, List.foldl_cons, ← writtenList, ih unique.2 _]
    by_cases same : first.sessionKey = wanted
    · have later : listedSession rest wanted = none := by
        cases found : listedSession rest wanted with
        | none => rfl
        | some other =>
          have named : other.sessionKey = wanted := Keyed.find_key found
          exact absurd (List.mem_map.mpr ⟨other, Keyed.find_mem found, named.trans same.symm⟩) unique.1
      rw [later, listedSession_cons, if_pos same, Option.elim_none, Option.elim_some, find_writeReport, if_pos same, same]
    · rw [listedSession_cons, if_neg same, find_writeReport, if_neg same]

theorem keys_writtenList (unique : (sessions.map (·.sessionKey)).Nodup) (rows : List DesktopSession) (seq now : Nat) :
    sessionKeys (writtenList rows sessions seq now) =
      sessionKeys rows ++ (newSessions rows sessions).map (·.sessionKey) := by
  induction sessions generalizing rows with
  | nil => exact (List.append_nil _).symm
  | cons first rest ih =>
    simp only [List.map_cons, List.nodup_cons] at unique
    rw [writtenList, List.foldl_cons, ← writtenList, ih unique.2 _]
    unfold newSessions
    rw [keys_writeReport]
    by_cases present : first.sessionKey ∈ sessionKeys rows
    · rw [if_pos present, List.filter_cons_of_neg (by simpa using present)]
    · have others : rest.filter (fun session => session.sessionKey ∉ sessionKeys rows ++ [first.sessionKey]) =
          rest.filter fun session => session.sessionKey ∉ sessionKeys rows := by
        apply List.filter_congr
        intro session member
        have other : session.sessionKey ≠ first.sessionKey := fun same => unique.1 (same ▸ List.mem_map_of_mem member)
        simp [other]
      rw [if_neg present, List.filter_cons_of_pos (by simpa using present), others, List.append_assoc]
      rfl

theorem nodup_new (distinct : (sessionKeys rows).Nodup) (unique : (sessions.map (·.sessionKey)).Nodup) :
    (sessionKeys rows ++ (newSessions rows sessions).map (·.sessionKey)).Nodup := by
  apply List.nodup_append.mpr
  refine ⟨distinct, unique.sublist (List.filter_sublist.map _), ?_⟩
  intro old present key new same
  obtain ⟨session, listed, rfl⟩ := List.mem_map.mp new
  have absent := (List.mem_filter.mp listed).2
  rw [same] at present
  simp [present] at absent

theorem unlisted_key (row : DesktopSession) : (row.unlisted seq now).sessionKey = row.sessionKey := by
  unfold DesktopSession.unlisted
  split <;> rfl

theorem unlisted_seq (row : DesktopSession) : (row.unlisted seq now).lastReportSeq = seq := by
  unfold DesktopSession.unlisted
  split <;> rfl

theorem keys_writeList (unique : (sessions.map (·.sessionKey)).Nodup) (rows : List DesktopSession) (seq now : Nat) :
    sessionKeys (writeList rows sessions seq now) =
      sessionKeys rows ++ (newSessions rows sessions).map (·.sessionKey) := by
  rw [← keys_writtenList unique rows seq now]
  unfold writeList sessionKeys
  rw [List.map_map]
  apply List.map_congr_left
  intro row _
  rw [Function.comp_apply]
  split
  · rfl
  · exact unlisted_key row

theorem listed_iff : wanted ∈ sessions.map (·.sessionKey) ↔ (listedSession sessions wanted).isSome := by
  unfold listedSession Keyed.find
  rw [List.find?_isSome]
  simp

theorem find_writeList (unique : (sessions.map (·.sessionKey)).Nodup) (rows : List DesktopSession) (seq now : Nat) (wanted : String) :
    findSession (writeList rows sessions seq now) wanted =
      (listedSession sessions wanted).elim ((findSession rows wanted).map (·.unlisted seq now)) fun session =>
        some (.reported wanted (findSession rows wanted) session.toSessionReport seq now) := by
  have written := find_writtenList unique rows seq now wanted
  have keyed : ∀ row : DesktopSession,
      (if row.sessionKey ∈ sessions.map (·.sessionKey) then row else row.unlisted seq now).sessionKey = row.sessionKey := by
    intro row
    split
    · rfl
    · exact unlisted_key row
  have mapped : findSession (writeList rows sessions seq now) wanted =
      (findSession (writtenList rows sessions seq now) wanted).map fun row =>
        if row.sessionKey ∈ sessions.map (·.sessionKey) then row else row.unlisted seq now := Keyed.find_map _ keyed
  rw [mapped, written]
  have listed : wanted ∈ sessions.map (·.sessionKey) ↔ (listedSession sessions wanted).isSome := listed_iff
  cases found : listedSession sessions wanted with
  | some session =>
    rw [found] at listed
    rw [Option.elim_some, Option.elim_some, Option.map_some, if_pos]
    exact listed.mpr rfl
  | none =>
    rw [found] at listed
    rw [Option.elim_none, Option.elim_none]
    cases old : findSession rows wanted with
    | none => rfl
    | some row =>
      rw [Option.map_some, Option.map_some, if_neg]
      intro present
      rw [show row.sessionKey = wanted from Keyed.find_key old] at present
      cases listed.mp present

end Writes

end Sprintable.Desktop
