import Mathlib.Data.List.Induction
import Sprintable.Gates.Frame

/-! The GitHub check of a merge gate: head commits that webhooks deliver, the
anchor that an approval writes, and the results that are reported. A delivery
and a report read their gate before they write, and other writers run between. -/

namespace Sprintable.Gates

inductive CheckStatus where
  | inProgress | completed
  deriving DecidableEq, Repr

inductive CheckConclusion where
  | success | failure
  deriving DecidableEq, Repr

def githubStateForGateStatus : GateStatus → CheckStatus × Option CheckConclusion
  | .approved | .autoPassed => (.completed, some .success)
  | .rejected | .voided => (.completed, some .failure)
  | .pending | .held => (.inProgress, none)

/-- The latest live link between a story and a pull request, with its `head_sha` evidence. -/
structure PrLink where
  repoFullName : String
  prNumber : Int
  headSha : Option String

structure CheckRequest where
  orgId : Uuid
  gateId : Uuid
  headSha : Option String := none
  repoFullName : Option String := none
  prNumber : Option Int := none

structure CheckReport where
  gateId : Uuid
  repoFullName : String
  prNumber : Int
  headSha : String
  status : CheckStatus
  conclusion : Option CheckConclusion
  deriving DecidableEq, Repr

def Gate.passed (gate : Gate) : Bool := gate.status == .approved || gate.status == .autoPassed

namespace CheckRequest
variable (request : CheckRequest)

/-- The link fills in what the caller left out. -/
def target (link : Option PrLink) : Option (String × Int) :=
  match request.repoFullName, request.prNumber with
  | some repo, some number => some (repo, number)
  | repo, number =>
    link.map fun link => ((repo.filter (· ≠ "")).getD link.repoFullName, number.getD link.prNumber)

/-- A passed gate is reported for its anchor alone, and not at all when the
caller names another commit. -/
def head (gate : Gate) (link : Option PrLink) : Option String :=
  if gate.passed then
    if request.headSha.isSome ∧ request.headSha ≠ gate.approvedHeadSha then none
    else gate.approvedHeadSha.filter (· ≠ "")
  else (request.headSha.or (link.bind PrLink.headSha)).filter (· ≠ "")

/-- What `publish_gate_check` tells GitHub of the gate that it read, if anything. -/
def report (gate : Gate) (link : Option PrLink) (installationId : Option Int) : Option CheckReport :=
  if gate.gateType ≠ .merge ∨ installationId = none then none
  else
    match request.target link, request.head gate link with
    | some (repo, number), some headSha =>
      let (status, conclusion) := githubStateForGateStatus gate.status
      some ⟨gate.id, repo, number, headSha, status, conclusion⟩
    | _, _ => none

theorem report_success {gate : Gate} {link : Option PrLink} {installationId : Option Int} {report : CheckReport}
    (reported : request.report gate link installationId = some report) (success : report.conclusion = some .success) :
    report.gateId = gate.id ∧ gate.passed = true ∧ gate.approvedHeadSha = some report.headSha := by
  unfold CheckRequest.report at reported
  split at reported
  · cases reported
  split at reported
  next repo number headSha _ named =>
    cases reported
    have passed : gate.passed = true := by
      cases status : gate.status <;> simp_all [Gate.passed]
    unfold CheckRequest.head at named
    rw [if_pos passed] at named
    split at named
    · cases named
    · exact ⟨rfl, passed, (Option.filter_eq_some_iff.mp named).1⟩
  · cases reported

end CheckRequest

/-- A call of `publish_gate_check` that has read its gate. -/
structure Publishing where
  gate : Gate
  report : CheckReport

/-- What GitHub answers: the runs of this name on the commit, and the id of the
run that was written, if each request succeeded. -/
structure GithubAnswer where
  listed : Option (List (Option Int))
  result : Option (Option Int)

/-- A column is written back only when its value differs from the one loaded. -/
def flushed {α : Type} [DecidableEq α] (loaded assigned current : α) : α :=
  if assigned = loaded then current else assigned

namespace Publishing
variable (call : Publishing)

/-- The run on record is for another commit, or there is none. -/
def needsRun : Bool :=
  call.gate.githubCheckRunId.isNone || call.gate.githubCheckRunSha != some call.report.headSha

/-- The run to record once GitHub has accepted the report: one of this name that
the commit already has, or else the created one. -/
def recordedRun (answer : GithubAnswer) : Option Int :=
  if call.needsRun then
    ((answer.listed.bind List.head?).join).or answer.result.join
  else call.gate.githubCheckRunId

/-- The anchor is assigned the reported commit on success, which for the row
that was read is no change. -/
def save (run : Option Int) (row : Gate) : Gate :=
  { row with
    githubCheckRunId := flushed call.gate.githubCheckRunId run row.githubCheckRunId
    githubCheckRunSha :=
      if call.needsRun then flushed call.gate.githubCheckRunSha (some call.report.headSha) row.githubCheckRunSha
      else row.githubCheckRunSha
    approvedHeadSha :=
      if call.report.conclusion = some .success then
        flushed call.gate.approvedHeadSha (some call.report.headSha) row.approvedHeadSha
      else row.approvedHeadSha }

end Publishing

/-- A webhook that has read the merge gate of its pull request. -/
structure HeadDelivery where
  gate : Gate
  newHeadSha : String
  prUpdatedAt : Option Nat

namespace HeadDelivery
variable (delivery : HeadDelivery)

/-- Whether the gate returns to pending is decided on the row as it was read;
only staleness comes back from the update itself. -/
def reopens (stale : Bool) : Bool :=
  delivery.gate.passed && !stale && delivery.gate.approvedHeadSha != some delivery.newHeadSha

def reopen (row : Gate) (now : Nat) : Gate :=
  let loaded := delivery.gate
  { row with
    status := flushed loaded.status .pending row.status
    statusEnteredAt := flushed loaded.statusEnteredAt (some now) row.statusEnteredAt
    resolverId := flushed loaded.resolverId none row.resolverId
    resolvedAt := flushed loaded.resolvedAt none row.resolvedAt
    resolutionNote := flushed loaded.resolutionNote none row.resolutionNote
    approvedHeadSha := flushed loaded.approvedHeadSha none row.approvedHeadSha
    githubCheckRunId := flushed loaded.githubCheckRunId none row.githubCheckRunId
    githubCheckRunSha := flushed loaded.githubCheckRunSha none row.githubCheckRunSha }

/-- The row after `reopen_gate_if_new_sha`: the watermark rises to the greatest
instant in one update, then the row is re-opened or kept. -/
def apply (row : Gate) (now : Nat) : Gate :=
  let (observed, stale) := row.observeHead delivery.prUpdatedAt
  if delivery.reopens stale then delivery.reopen observed now else observed

end HeadDelivery

/-- One approval through the gate endpoint, with what the other tables answered. -/
structure Approval where
  drafts : Drafts
  orgId : Uuid
  gateId : Uuid
  resolverId : Option Uuid
  note : Option String
  reviewedDraft : Option (Uuid × Nat)
  reviewedHeadSha : Option String
  linkHeadSha : Option String
  now : Nat

inductive ApprovalRefusal where
  | gate (error : GateError)
  | alreadyResolved (status : GateStatus)
  | headChanged (currentHeadSha : Option String)

/-- The approved merge gate is anchored to the commit that was checked last, or
else to the head of its link, in the transaction of the approval. -/
def Gate.anchorApproved (gate : Gate) (linkHeadSha : Option String) : Gate :=
  let headSha := if PyText.truthy gate.githubCheckRunSha then gate.githubCheckRunSha else linkHeadSha
  if gate.gateType = .merge ∧ PyText.truthy headSha then { gate with approvedHeadSha := headSha } else gate

def approveGate (table : Table) (approval : Approval) : Except ApprovalRefusal Table :=
  match table.lookup approval.orgId approval.gateId with
  | none => .error (.gate (.notFound approval.gateId))
  | some gate =>
    if gate.status ≠ .pending then .error (.alreadyResolved gate.status)
    else if gate.gateType = .merge ∧ gate.githubCheckRunSha.isSome ∧ approval.reviewedHeadSha ≠ gate.githubCheckRunSha then
      .error (.headChanged gate.githubCheckRunSha)
    else
      match transitionGate approval.drafts table approval.orgId approval.gateId .approved approval.resolverId
          approval.note approval.reviewedDraft approval.now with
      | .error error => .error (.gate error)
      | .ok (after, approved, _) => .ok (after.put (approved.anchorApproved approval.linkHeadSha))

/-- The gate rows, the webhooks and check publications under way, the reports
sent to GitHub, and the instants delivered for each gate, newest first. -/
structure CheckDesk where
  gates : Table := []
  received : List HeadDelivery := []
  publishing : List Publishing := []
  saving : List (Publishing × Option Int) := []
  reports : List CheckReport := []
  delivered : List (Uuid × Nat) := []

def latest (delivered : List (Uuid × Nat)) (gateId : Uuid) : Option Nat :=
  ((delivered.filter fun entry => entry.1 == gateId).map Prod.snd).max?

theorem latest_cons (delivered : List (Uuid × Nat)) (target gateId : Uuid) (instant : Nat) :
    latest ((target, instant) :: delivered) gateId =
      if target = gateId then some ((latest delivered gateId).elim instant (max instant)) else latest delivered gateId := by
  unfold latest
  by_cases same : target = gateId
  · simp [same]
  · simp [same]

/-- The writers of gate rows, the approval endpoint, a webhook and a check
publication by their phases. Head commits are delivered by webhooks only. -/
inductive CheckEvent where
  | write (write : GateWrite)
  | approve (approval : Approval)
  | headReceived (orgId storyId : Uuid) (prNumber : Int) (repo newHeadSha : String) (prUpdatedAt : Option Nat)
  | headApplied (index now : Nat)
  | publishRead (request : CheckRequest) (link : Option PrLink) (installationId : Option Int)
  | publishSent (index : Nat) (answer : GithubAnswer)
  | publishSaved (index : Nat)

namespace CheckDesk

def opened : CheckDesk where

def deliver (desk : CheckDesk) (delivery : HeadDelivery) (now : Nat) : CheckDesk where
  gates := Keyed.modify Gate.id desk.gates delivery.gate.id fun row => delivery.apply row now
  received := desk.received
  publishing := desk.publishing
  saving := desk.saving
  reports := desk.reports
  delivered :=
    match delivery.prUpdatedAt with
    | some updated => (delivery.gate.id, updated) :: desk.delivered
    | none => desk.delivered

def step (desk : CheckDesk) : CheckEvent → CheckDesk
  | .write write => if write.delivers then desk else { desk with gates := write.step desk.gates }
  | .approve approval =>
    match approveGate desk.gates approval with
    | .ok gates => { desk with gates }
    | .error _ => desk
  | .headReceived orgId storyId prNumber repo newHeadSha prUpdatedAt =>
    let slot : Slot := { orgId, workItemId := storyId, workItemType := "story", gateType := .merge }
    let number := if 0 < prNumber then some prNumber else none
    match findGateSlotWithPrFallback desk.gates slot number (some repo |>.filter (· ≠ "")) with
    | (some gate, gates) => { desk with gates, received := desk.received ++ [⟨gate, newHeadSha, prUpdatedAt⟩] }
    | (none, _) => desk
  | .headApplied index now =>
    match desk.received[index]? with
    | some delivery => { desk with received := desk.received.eraseIdx index }.deliver delivery now
    | none => desk
  | .publishRead request link installationId =>
    match desk.gates.lookup request.orgId request.gateId with
    | some gate =>
      match request.report gate link installationId with
      | some report => { desk with publishing := desk.publishing ++ [⟨gate, report⟩] }
      | none => desk
    | none => desk
  | .publishSent index answer =>
    match desk.publishing[index]? with
    | some call =>
      let sent := { desk with publishing := desk.publishing.eraseIdx index, reports := desk.reports ++ [call.report] }
      if answer.result.isSome then { sent with saving := desk.saving ++ [(call, call.recordedRun answer)] } else sent
    | none => desk
  | .publishSaved index =>
    match desk.saving[index]? with
    | some (call, run) =>
      { desk with
        gates := Keyed.modify Gate.id desk.gates call.gate.id (call.save run)
        saving := desk.saving.eraseIdx index }
    | none => desk

end CheckDesk

theorem latest_absent {delivered : List (Uuid × Nat)} {gateId : Uuid}
    (absent : ∀ entry ∈ delivered, entry.1 ≠ gateId) : latest delivered gateId = none := by
  unfold latest
  have none_left : (delivered.filter fun entry => entry.1 == gateId) = [] := by
    apply List.filter_eq_nil_iff.mpr
    intro entry member
    simpa using absent entry member
  simp [none_left]

theorem save_core (call : Publishing) (run : Option Int) (row : Gate) : (call.save run row).core = row.core := rfl

theorem anchor_approved_core (gate : Gate) (linkHeadSha : Option String) :
    (gate.anchorApproved linkHeadSha).core = gate.core := by
  unfold Gate.anchorApproved
  dsimp only
  split <;> split <;> rfl

theorem approve_descends {table after : Table} {approval : Approval} (executed : approveGate table approval = .ok after) :
    (∀ row ∈ after, Descends table row) ∧ table.Grown after := by
  unfold approveGate at executed
  split at executed
  · cases executed
  repeat' split at executed
  all_goals cases executed
  next approved commands transition =>
    obtain ⟨rows, row⟩ := transition_descends transition
    have grown : table.Grown _ := .inl (transition_ids transition)
    exact ⟨put_preserves rows (row.core (anchor_approved_core approved approval.linkHeadSha)), grown.put _⟩

namespace HeadDelivery
variable (delivery : HeadDelivery) (row : Gate) (now : Nat)

theorem apply_watermark : (delivery.apply row now).prHeadObservedAt =
    match delivery.prUpdatedAt with
    | some updated => some (row.prHeadObservedAt.elim updated (max updated))
    | none => row.prHeadObservedAt := by
  unfold apply Gate.observeHead
  cases delivery.prUpdatedAt with
  | none =>
    dsimp only
    split <;> rfl
  | some updated =>
    dsimp only
    have greatest : max (row.prHeadObservedAt.getD updated) updated = row.prHeadObservedAt.elim updated (max updated) := by
      cases row.prHeadObservedAt with
      | none => exact max_self updated
      | some observed => exact max_comm observed updated
    rw [greatest]
    split <;> rfl

theorem apply_id : (delivery.apply row now).id = row.id := by
  unfold apply Gate.observeHead
  cases delivery.prUpdatedAt with
  | none =>
    dsimp only
    split <;> rfl
  | some updated =>
    dsimp only
    split <;> rfl

theorem apply_stale {updated observed : Nat} (sent : delivery.prUpdatedAt = some updated)
    (watermark : row.prHeadObservedAt = some observed) (older : updated < observed) :
    (delivery.apply row now).status = row.status := by
  have greater : max observed updated ≠ updated := by omega
  unfold apply Gate.observeHead reopens
  simp [sent, watermark, greater]

/-- A newer head returns the row to pending when the row that was read had
passed for another commit. -/
theorem apply_newer {updated : Nat} (sent : delivery.prUpdatedAt = some updated)
    (newer : ∀ observed ∈ row.prHeadObservedAt, observed < updated) (passed : delivery.gate.passed = true)
    (different : delivery.gate.approvedHeadSha ≠ some delivery.newHeadSha) :
    (delivery.apply row now).status = .pending := by
  have greatest : max (row.prHeadObservedAt.getD updated) updated = updated := by
    cases watermark : row.prHeadObservedAt with
    | none => exact max_self updated
    | some observed => exact max_eq_right (newer observed watermark).le
  have changes : GateStatus.pending ≠ delivery.gate.status := by
    intro waiting
    simp [Gate.passed, ← waiting] at passed
  unfold apply Gate.observeHead reopens
  simp [sent, greatest, passed, different, reopen, flushed, changes]

end HeadDelivery

namespace CheckDesk

/-- Watermarks agree with what was delivered, and webhooks hold merge gates of the table. -/
structure Observed (desk : CheckDesk) : Prop where
  watermark : ∀ row ∈ desk.gates, row.prHeadObservedAt = latest desk.delivered row.id
  known : ∀ entry ∈ desk.delivered, entry.1 ∈ desk.gates.map Gate.id
  received : ∀ delivery ∈ desk.received, delivery.gate.id ∈ desk.gates.map Gate.id

theorem Observed.descend {desk : CheckDesk} (observed : desk.Observed) {after : Table}
    (rows : ∀ row ∈ after, Descends desk.gates row) (grown : desk.gates.Grown after) :
    Observed { desk with gates := after } where
  watermark row member := by
    rcases rows row member with ⟨old, present, same⟩ | ⟨unobserved, fresh⟩
    · rw [id_of_core same]
      exact (congrArg GateCore.prHeadObservedAt same).trans (observed.watermark old present)
    · refine unobserved.trans (latest_absent fun entry delivered key => ?_).symm
      obtain ⟨old, present, name⟩ := List.mem_map.mp (observed.known entry delivered)
      exact fresh old present (name.trans key)
  known entry delivered := grown.mem (observed.known entry delivered)
  received delivery waiting := grown.mem (observed.received delivery waiting)

theorem Observed.deliver {desk : CheckDesk} (observed : desk.Observed) {delivery : HeadDelivery} (now : Nat)
    (present : delivery.gate.id ∈ desk.gates.map Gate.id) : (desk.deliver delivery now).Observed := by
  have keys : (desk.deliver delivery now).gates.map Gate.id = desk.gates.map Gate.id :=
    Keyed.map_key_modify desk.gates delivery.gate.id fun row => delivery.apply_id row now
  constructor
  · intro row member
    obtain ⟨old, stored, same⟩ := List.mem_map.mp member
    have before := observed.watermark old stored
    unfold CheckDesk.deliver
    split at same
    next target =>
      subst same
      rw [delivery.apply_watermark, delivery.apply_id]
      cases delivery.prUpdatedAt with
      | none => exact before
      | some updated =>
        dsimp only
        rw [latest_cons, if_pos target.symm, before]
    next other =>
      subst same
      cases delivery.prUpdatedAt with
      | none => exact before
      | some updated =>
        dsimp only
        rw [latest_cons, if_neg fun target => other target.symm, before]
  · intro entry delivered
    rw [keys]
    unfold CheckDesk.deliver at delivered
    cases sent : delivery.prUpdatedAt with
    | none =>
      simp only [sent] at delivered
      exact observed.known entry delivered
    | some updated =>
      simp only [sent, List.mem_cons] at delivered
      rcases delivered with rfl | delivered
      · exact present
      · exact observed.known entry delivered
  · intro other waiting
    rw [keys]
    exact observed.received other waiting

theorem found_key {table after : Table} {slot : Slot} {prNumber : Option Int} {repoFullName : Option String} {gate : Gate}
    (lookup : findGateSlotWithPrFallback table slot prNumber repoFullName = (some gate, after)) :
    gate.id ∈ after.map Gate.id := by
  rw [find_slot_ids lookup]
  rcases find_slot_cases lookup with ⟨missing, _⟩ | ⟨row, member, found, _⟩ | ⟨row, member, pr, repo, found, _⟩
  · cases missing
  · cases found
    exact List.mem_map_of_mem member
  · cases found
    exact List.mem_map.mpr ⟨row, member, rfl⟩

theorem step_observed (desk : CheckDesk) (event : CheckEvent) (observed : desk.Observed) : (desk.step event).Observed := by
  cases event with
  | write write =>
    simp only [step]
    split
    · exact observed
    next other => exact observed.descend (GateWrite.step_descends _ write (by simpa using other)) (GateWrite.step_grown _ write)
  | approve approval =>
    simp only [step]
    split
    next gates approved =>
      obtain ⟨rows, grown⟩ := approve_descends approved
      exact observed.descend rows grown
    · exact observed
  | headReceived orgId storyId prNumber repo newHeadSha prUpdatedAt =>
    simp only [step]
    split
    next gate gates lookup =>
      have found := observed.descend (find_slot_descends lookup).1 (.inl (find_slot_ids lookup))
      refine ⟨found.watermark, found.known, fun delivery waiting => ?_⟩
      rcases List.mem_append.mp waiting with old | new
      · exact found.received delivery old
      · rw [List.mem_singleton.mp new]
        exact found_key lookup
    · exact observed
  | headApplied index now =>
    simp only [step]
    split
    next delivery waiting =>
      have rest : Observed { desk with received := desk.received.eraseIdx index } :=
        ⟨observed.watermark, observed.known, fun other member =>
          observed.received other (List.mem_of_mem_eraseIdx member)⟩
      exact rest.deliver now (observed.received delivery (List.mem_of_getElem? waiting))
    · exact observed
  | publishRead request link installationId =>
    simp only [step]
    repeat' split
    all_goals exact ⟨observed.watermark, observed.known, observed.received⟩
  | publishSent index answer =>
    simp only [step]
    repeat' split
    all_goals exact ⟨observed.watermark, observed.known, observed.received⟩
  | publishSaved index =>
    simp only [step]
    split
    next call run _ =>
      have keys : (Keyed.modify Gate.id desk.gates call.gate.id (call.save run)).map Gate.id = desk.gates.map Gate.id :=
        Keyed.map_key_modify desk.gates call.gate.id fun _ => rfl
      have rows : ∀ row ∈ Keyed.modify Gate.id desk.gates call.gate.id (call.save run), Descends desk.gates row := by
        intro row member
        obtain ⟨old, present, rfl⟩ := List.mem_map.mp member
        have kept := Descends.start old present
        split
        · exact kept.core (save_core call run old)
        · exact kept
      have saved := observed.descend rows (.inl keys)
      exact ⟨saved.watermark, saved.known, saved.received⟩
    · exact observed

theorem run_observed (events : List CheckEvent) : (Runs.final step opened events).Observed := by
  have initial : opened.Observed := ⟨by simp [opened], by simp [opened], by simp [opened]⟩
  have always : Runs.Throughout step (fun _ _ => True) opened events := .trivial (fun _ _ => True.intro) opened events
  exact always.invariant (fun desk event _ observed => step_observed desk event observed) initial

/-- The report names the commit that the gate row carried as its anchor, with
the status of a passed gate, when its call read the row. -/
def Anchored (events : List CheckEvent) (report : CheckReport) : Prop :=
  ∃ earlier request link installationId later,
    events = earlier ++ .publishRead request link installationId :: later ∧
    ∃ row ∈ (Runs.final step opened earlier).gates,
      row.id = report.gateId ∧ row.passed = true ∧ row.approvedHeadSha = some report.headSha

theorem Anchored.extend {events : List CheckEvent} {report : CheckReport} (anchored : Anchored events report)
    (event : CheckEvent) : Anchored (events ++ [event]) report := by
  obtain ⟨earlier, request, link, installationId, later, rfl, row⟩ := anchored
  exact ⟨earlier, request, link, installationId, later ++ [event], by simp, row⟩

/-- Every success that is sent or about to be sent names an anchor. -/
def Honest (events : List CheckEvent) (desk : CheckDesk) : Prop :=
  ∀ report ∈ desk.reports ++ desk.publishing.map Publishing.report,
    report.conclusion = some .success → Anchored events report

theorem Honest.extend {events : List CheckEvent} {desk after : CheckDesk} (honest : Honest events desk) (event : CheckEvent)
    (kept : ∀ report ∈ after.reports ++ after.publishing.map Publishing.report,
      report ∈ desk.reports ++ desk.publishing.map Publishing.report) : Honest (events ++ [event]) after :=
  fun report member success => (honest report (kept report member) success).extend event

theorem step_honest (events : List CheckEvent) (event : CheckEvent)
    (honest : Honest events (Runs.final step opened events)) :
    Honest (events ++ [event]) ((Runs.final step opened events).step event) := by
  cases event with
  | write write =>
    apply honest.extend
    simp only [step]
    split <;> exact fun _ => id
  | approve approval =>
    apply honest.extend
    simp only [step]
    split <;> exact fun _ => id
  | headReceived orgId storyId prNumber repo newHeadSha prUpdatedAt =>
    apply honest.extend
    simp only [step]
    split <;> exact fun _ => id
  | headApplied index now =>
    apply honest.extend
    simp only [step]
    split <;> exact fun _ => id
  | publishRead request link installationId =>
    cases found : (Runs.final step opened events).gates.lookup request.orgId request.gateId with
    | none =>
      apply honest.extend
      simp only [step, found]
      exact fun _ => id
    | some gate =>
      cases reported : request.report gate link installationId with
      | none =>
        apply honest.extend
        simp only [step, found, reported]
        exact fun _ => id
      | some report =>
        intro other member success
        simp only [step, found, reported, List.map_append, ← List.append_assoc] at member
        rcases List.mem_append.mp member with old | new
        · exact (honest other old success).extend _
        · obtain rfl := List.mem_singleton.mp new
          obtain ⟨name, passed, anchor⟩ := request.report_success reported success
          exact ⟨events, request, link, installationId, [], rfl, gate, Table.lookup_mem found, name.symm, passed, anchor⟩
  | publishSent index answer =>
    apply honest.extend
    simp only [step]
    split
    next call waiting =>
      have queued := List.mem_of_getElem? waiting
      have sent : ∀ report ∈ ((Runs.final step opened events).reports ++ [call.report]) ++
          ((Runs.final step opened events).publishing.eraseIdx index).map Publishing.report,
          report ∈ (Runs.final step opened events).reports ++
            (Runs.final step opened events).publishing.map Publishing.report := by
        intro report member
        simp only [List.mem_append, List.mem_singleton, List.mem_map] at member ⊢
        rcases member with (old | rfl) | ⟨other, rest, rfl⟩
        · exact .inl old
        · exact .inr ⟨call, queued, rfl⟩
        · exact .inr ⟨other, List.mem_of_mem_eraseIdx rest, rfl⟩
      split <;> exact sent
    · exact fun _ => id
  | publishSaved index =>
    apply honest.extend
    simp only [step]
    split <;> exact fun _ => id

theorem run_honest (events : List CheckEvent) : Honest events (Runs.final step opened events) := by
  induction events using List.reverseRecOn with
  | nil => simp [Honest, opened]
  | append_singleton events event ih =>
    rw [Runs.final_append]
    exact step_honest events event ih

def statuses (desk : CheckDesk) : List (Uuid × GateStatus) := desk.gates.map fun gate => (gate.id, gate.status)

theorem applied_gates {desk : CheckDesk} {index : Nat} {delivery : HeadDelivery}
    (waiting : desk.received[index]? = some delivery) (now : Nat) :
    (desk.step (.headApplied index now)).gates =
      Keyed.modify Gate.id desk.gates delivery.gate.id fun row => delivery.apply row now := by
  simp only [step, waiting]
  rfl

theorem Observed.stale {desk : CheckDesk} (observed : desk.Observed) {index now updated seen : Nat}
    {delivery : HeadDelivery} (waiting : desk.received[index]? = some delivery) (sent : delivery.prUpdatedAt = some updated)
    (watermark : latest desk.delivered delivery.gate.id = some seen) (older : updated < seen) :
    (desk.step (.headApplied index now)).statuses = desk.statuses := by
  unfold statuses
  rw [applied_gates waiting, Keyed.modify, List.map_map]
  apply List.map_congr_left
  intro row member
  simp only [Function.comp_apply]
  split
  next target =>
    have mark := (observed.watermark row member).trans (target ▸ watermark)
    rw [delivery.apply_id, delivery.apply_stale row now sent mark older]
  · rfl

theorem Observed.newer {desk : CheckDesk} (observed : desk.Observed) {index now updated : Nat}
    {delivery : HeadDelivery} (waiting : desk.received[index]? = some delivery) (sent : delivery.prUpdatedAt = some updated)
    (newest : ∀ seen ∈ latest desk.delivered delivery.gate.id, seen < updated) (passed : delivery.gate.passed = true)
    (different : delivery.gate.approvedHeadSha ≠ some delivery.newHeadSha) :
    ∀ row ∈ (desk.step (.headApplied index now)).gates, row.id = delivery.gate.id → row.status = .pending := by
  rw [applied_gates waiting]
  intro row member key
  obtain ⟨old, present, rfl⟩ := List.mem_map.mp member
  split at key
  next target =>
    rw [if_pos target]
    apply delivery.apply_newer old now sent _ passed different
    rw [observed.watermark old present, target]
    exact newest
  next other => exact absurd key other

end CheckDesk

section Samples

/-- A pull request whose first head is approved and reported, and three webhooks
that have read the approved gate: an older head, one of the same instant and a newer one. -/
def sampleHeads : List CheckEvent :=
  let request : CreateRequest :=
    { orgId := 1, workItemId := 2, workItemType := "story", gateType := .merge, gateId := 4, prNumber := some 3
      repoFullName := some "o/r" }
  let approval : Approval :=
    { drafts := .empty, orgId := 1, gateId := 4, resolverId := some 8, note := none, reviewedDraft := none
      reviewedHeadSha := none, linkHeadSha := some "a", now := 30 }
  [.write (.operation (.create request .ask 10)),
    .headReceived 1 2 3 "o/r" "a" (some 5), .headApplied 0 20, .approve approval,
    .publishRead { orgId := 1, gateId := 4, repoFullName := some "o/r", prNumber := some 3 } none (some 9),
    .publishSent 0 ⟨some [], some (some 77)⟩, .publishSaved 0,
    .headReceived 1 2 3 "o/r" "z" (some 4), .headReceived 1 2 3 "o/r" "b" (some 5), .headReceived 1 2 3 "o/r" "c" (some 6)]

def sampleDesk : CheckDesk := Runs.final CheckDesk.step .opened sampleHeads

theorem sample_received (index : Fin 3) : ∃ delivery, sampleDesk.received[index.val]? = some delivery ∧
    delivery.gate.id = 4 ∧ delivery.gate.passed = true ∧ delivery.gate.approvedHeadSha = some "a" ∧
    delivery.newHeadSha = ["z", "b", "c"].get index ∧ delivery.prUpdatedAt = some (4 + index.val) := by
  have entry : (sampleDesk.received[index.val]?).map (fun delivery => (delivery.gate.id, delivery.gate.passed,
      delivery.gate.approvedHeadSha, delivery.newHeadSha, delivery.prUpdatedAt)) =
      some (4, true, some "a", ["z", "b", "c"].get index, some (4 + index.val)) := by
    match index with
    | 0 => decide +kernel
    | 1 => decide +kernel
    | 2 => decide +kernel
  obtain ⟨delivery, waiting, shape⟩ := Option.map_eq_some_iff.mp entry
  simp only [Prod.mk.injEq] at shape
  exact ⟨delivery, waiting, shape⟩

theorem sample_watermark : latest sampleDesk.delivered 4 = some 5 := by decide +kernel

end Samples

/-- In every run, a reported success names the commit that the row carried as
its anchor when the call read it; the stored watermark is the greatest instant
delivered; a delivery older than it keeps every status; and a newer head returns
to pending each gate that had passed for another commit when it was read. -/
theorem head_sha_anchored (events : List CheckEvent) :
    (∀ report ∈ (Runs.final CheckDesk.step .opened events).reports,
      report.conclusion = some .success → CheckDesk.Anchored events report) ∧
    (∀ row ∈ (Runs.final CheckDesk.step .opened events).gates,
      row.prHeadObservedAt = latest (Runs.final CheckDesk.step .opened events).delivered row.id) ∧
    ∀ index delivery updated now, (Runs.final CheckDesk.step .opened events).received[index]? = some delivery →
      delivery.prUpdatedAt = some updated →
      ((∃ seen ∈ latest (Runs.final CheckDesk.step .opened events).delivered delivery.gate.id, updated < seen) →
        ((Runs.final CheckDesk.step .opened events).step (.headApplied index now)).statuses =
          (Runs.final CheckDesk.step .opened events).statuses) ∧
      ((∀ seen ∈ latest (Runs.final CheckDesk.step .opened events).delivered delivery.gate.id, seen < updated) →
        delivery.gate.passed = true → delivery.gate.approvedHeadSha ≠ some delivery.newHeadSha →
        ∀ row ∈ ((Runs.final CheckDesk.step .opened events).step (.headApplied index now)).gates,
          row.id = delivery.gate.id → row.status = .pending) := by
  have observed := CheckDesk.run_observed events
  refine ⟨fun report sent => ?_, observed.watermark, fun index delivery updated now waiting sent => ⟨?_, ?_⟩⟩
  · exact CheckDesk.run_honest events report (List.mem_append_left _ sent)
  · rintro ⟨seen, watermark, older⟩
    exact observed.stale waiting sent watermark older
  · intro newest passed different
    exact observed.newer waiting sent newest passed different

/-- The sample run reports its anchor, ignores the older head and gives way to the newer one. -/
theorem head_sha_anchored_run :
    CheckDesk.Anchored sampleHeads ⟨4, "o/r", 3, "a", .completed, some .success⟩ ∧
      (sampleDesk.step (.headApplied 0 40)).statuses = sampleDesk.statuses ∧
      ∀ row ∈ (sampleDesk.step (.headApplied 2 40)).gates, row.id = 4 → row.status = .pending := by
  obtain ⟨reports, -, deliveries⟩ := head_sha_anchored sampleHeads
  refine ⟨reports _ (by decide +kernel) rfl, ?_, ?_⟩
  · obtain ⟨delivery, waiting, name, -, -, -, sent⟩ := sample_received 0
    refine (deliveries 0 delivery 4 40 waiting sent).1 ⟨5, ?_, by omega⟩
    rw [name]
    exact sample_watermark
  · obtain ⟨delivery, waiting, name, passed, anchor, head, sent⟩ := sample_received 2
    have newest : ∀ seen ∈ latest sampleDesk.delivered delivery.gate.id, seen < 6 := by
      rw [name, sample_watermark]
      simp
    have different : delivery.gate.approvedHeadSha ≠ some delivery.newHeadSha := by
      rw [anchor, head]
      decide
    have returned := (deliveries 2 delivery 6 40 waiting sent).2 newest passed different
    rw [name] at returned
    exact returned

/-- A second head of the same instant is not newer than the watermark and still
returns the approved gate to pending. -/
theorem tied_head_reopens :
    ¬ ∀ (events : List CheckEvent) (index now updated : Nat) (delivery : HeadDelivery),
      (Runs.final CheckDesk.step .opened events).received[index]? = some delivery →
      delivery.prUpdatedAt = some updated →
      (∃ seen ∈ latest (Runs.final CheckDesk.step .opened events).delivered delivery.gate.id, updated ≤ seen) →
      ∀ row ∈ (Runs.final CheckDesk.step .opened events).gates, row.status ≠ .pending →
        ∀ next ∈ ((Runs.final CheckDesk.step .opened events).step (.headApplied index now)).gates,
          next.id = row.id → next.status ≠ .pending := by
  intro kept
  obtain ⟨delivery, waiting, name, -, -, -, sent⟩ := sample_received 1
  have tied : ∃ seen ∈ latest sampleDesk.delivered delivery.gate.id, 5 ≤ seen := by
    rw [name, sample_watermark]
    exact ⟨5, rfl, le_refl 5⟩
  have before : (4, GateStatus.approved) ∈ sampleDesk.statuses := by decide +kernel
  have after : (4, GateStatus.pending) ∈ (sampleDesk.step (.headApplied 1 40)).statuses := by decide +kernel
  obtain ⟨row, member, shape⟩ := List.mem_map.mp before
  obtain ⟨next, present, moved⟩ := List.mem_map.mp after
  simp only [Prod.mk.injEq] at shape moved
  have resolved : row.status ≠ .pending := by
    rw [shape.2]
    decide
  exact kept sampleHeads 1 40 5 delivery waiting sent tied row member resolved next present (moved.1.trans shape.1.symm) moved.2

end Sprintable.Gates
