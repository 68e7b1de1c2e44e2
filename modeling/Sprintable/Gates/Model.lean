import Sprintable.Basic
import Sprintable.Logic.PyText

/-! The approval gate row, its status machine and the gate table. Other tables
that an operation reads are passed to it; the gate rows are the state. -/

namespace Sprintable.Gates

inductive GateStatus where
  | pending | approved | rejected | autoPassed | voided | held
  deriving DecidableEq, Repr

/-- Legal moves of the human decision machine, as pairs of source and target. -/
def validTransitions : List (GateStatus × GateStatus) :=
  [(.pending, .approved), (.pending, .rejected), (.pending, .voided), (.pending, .held), (.held, .pending)]

def isValidTransition (fromStatus toStatus : GateStatus) : Bool :=
  validTransitions.contains (fromStatus, toStatus)

inductive GateType where
  | merge | externalPublish | docApproval | loopDecision | artifactCanonicalize | agentDecisionRequest
  | hypothesisOutcomeConfirm | supportEscalationReview | conceptApproval | adsBoost
  | other (name : String)
  deriving DecidableEq, Repr

/-- Gate types that ignore the policy disposition and always wait for a human. -/
def alwaysManualGateTypes : List GateType :=
  [.docApproval, .loopDecision, .artifactCanonicalize, .agentDecisionRequest, .hypothesisOutcomeConfirm,
    .supportEscalationReview, .externalPublish, .conceptApproval, .adsBoost]

inductive Disposition where
  | allowAuto | ask | deny
  deriving DecidableEq, Repr

def dispositionToStatus : Disposition → GateStatus
  | .allowAuto => .autoPassed
  | .ask => .pending
  | .deny => .rejected

inductive EvidenceStatus where
  | sufficient | blocked | insufficient
  deriving DecidableEq, Repr

inductive CheckResult where
  | pass | fail
  deriving DecidableEq, Repr

inductive UnmetCondition where
  | disposition (gateStatus : GateStatus)
  | ci (result : Option CheckResult)
  | pr (result : Option CheckResult)
  | lowerBound (lowerBound threshold : Rat)

/-- Why a merge evaluation decided as it did, with the data its sentence quotes. -/
inductive DecisionReason where
  | ciFail
  | ciUnknown (selfReportOnly : Bool)
  | policyDeny
  | sampleInsufficient (resolved minSample : Nat)
  | autoMerge (lowerBound threshold : Rat) (hit resolved : Nat)
  | policyAsk
  | conditionsUnmet (unmet : List UnmetCondition)

inductive MergeDecision where
  | autoMerge | askHuman | block
  deriving DecidableEq, Repr

/-- A JSON value of `neutral_facts`. Instants keep the moment that their ISO text names. -/
inductive Value where
  | null
  | bool (value : Bool)
  | number (value : Rat)
  | text (value : String)
  | instant (value : Nat)
  | list (items : List Value)
  | dict (entries : List (String × Value))

abbrev Facts := List (String × Value)

namespace Value

/-- Python truth of a JSON value. -/
def truthy : Value → Bool
  | .null => false
  | .bool value => value
  | .number value => value ≠ 0
  | .text value => value ≠ ""
  | .instant _ => true
  | .list items => !items.isEmpty
  | .dict entries => !entries.isEmpty

def ofOption {α : Type} (wrap : α → Value) : Option α → Value
  | none => .null
  | some value => wrap value

end Value

namespace Facts

def get (facts : Facts) (key : String) : Value :=
  (facts.lookup key).getD .null

/-- `facts[key] = value` on an insertion-ordered dict. -/
def set (facts : Facts) (key : String) (value : Value) : Facts :=
  if facts.any (fun entry => entry.1 == key) then
    facts.map fun entry => if entry.1 == key then (key, value) else entry
  else facts ++ [(key, value)]

/-- `{**facts, **others}`. -/
def merge (facts others : Facts) : Facts :=
  others.foldl (fun merged entry => merged.set entry.1 entry.2) facts

def list (facts : Facts) (key : String) : List Value :=
  match facts.get key with
  | .list items => items
  | _ => []

def text (facts : Facts) (key : String) : Option String :=
  match facts.get key with
  | .text value => some value
  | _ => none

section Lookup
variable {facts : Facts} {key other : String}

theorem lookup_map_other (different : other ≠ key) (value : Value) :
    (facts.map fun entry => if entry.1 == key then (key, value) else entry).lookup other = facts.lookup other := by
  induction facts with
  | nil => rfl
  | cons entry rest ih =>
    obtain ⟨name, stored⟩ := entry
    by_cases same : name = key
    · subst same
      have missed : (other == name) = false := by simpa using different
      simpa [List.lookup_cons, missed] using ih
    · by_cases wanted : other = name
      · simp [same, wanted]
      · have missed : (other == name) = false := by simpa using wanted
        simpa [List.lookup_cons, same, missed] using ih

theorem lookup_append_other (different : other ≠ key) (value : Value) :
    (facts ++ [(key, value)]).lookup other = facts.lookup other := by
  induction facts with
  | nil =>
    have missed : (other == key) = false := by simpa using different
    simp [List.lookup_cons, missed]
  | cons entry rest ih =>
    obtain ⟨name, stored⟩ := entry
    cases wanted : other == name with
    | true => simp [List.lookup_cons, wanted]
    | false => simp [List.lookup_cons, wanted, ih]

theorem get_set_other (different : other ≠ key) (value : Value) : (facts.set key value).get other = facts.get other := by
  unfold get set
  split
  · rw [lookup_map_other different]
  · rw [lookup_append_other different]

theorem text_set_other (different : other ≠ key) (value : Value) : (facts.set key value).text other = facts.text other := by
  unfold text
  rw [get_set_other different]

theorem get_merge_other {others : Facts} (absent : ∀ entry ∈ others, other ≠ entry.1) :
    (facts.merge others).get other = facts.get other := by
  unfold merge
  induction others generalizing facts with
  | nil => rfl
  | cons entry rest ih =>
    rw [List.foldl_cons, ih fun later member => absent later (List.mem_cons_of_mem entry member)]
    exact get_set_other (absent entry List.mem_cons_self) entry.2

theorem text_merge_other {others : Facts} (absent : ∀ entry ∈ others, other ≠ entry.1) :
    (facts.merge others).text other = facts.text other := by
  unfold text
  rw [get_merge_other absent]

end Lookup

end Facts

structure Gate where
  id : Uuid
  orgId : Uuid
  workItemId : Uuid
  workItemType : String
  gateType : GateType
  prNumber : Option Int := none
  repoFullName : Option String := none
  scopeKey : String := ""
  status : GateStatus := .pending
  resolverId : Option Uuid := none
  resolvedAt : Option Nat := none
  resolutionNote : Option String := none
  designatedApproverId : Option Uuid := none
  heldUntil : Option Nat := none
  neutralFacts : Option Facts := none
  requiresHuman : Bool := false
  evidenceStatus : Option EvidenceStatus := none
  decisionBasis : Option DecisionReason := none
  autoDecisionReason : Option MergeDecision := none
  statusEnteredAt : Option Nat := none
  evidenceStatusEnteredAt : Option Nat := none
  githubCheckRunId : Option Int := none
  githubCheckRunSha : Option String := none
  approvedHeadSha : Option String := none
  prHeadObservedAt : Option Nat := none
  sealedContentVersion : Option Nat := none
  sealedScheduledAt : Option Nat := none

namespace Gate

def facts (gate : Gate) : Facts := gate.neutralFacts.getD []

def setStatus (gate : Gate) (newStatus : GateStatus) (now : Nat) : Gate :=
  if gate.status = newStatus then gate else { gate with status := newStatus, statusEnteredAt := some now }

def setEvidenceStatus (gate : Gate) (newStatus : EvidenceStatus) (now : Nat) : Gate :=
  if gate.evidenceStatus = some newStatus then gate
  else { gate with evidenceStatus := some newStatus, evidenceStatusEnteredAt := some now }

section SetStatus
variable (gate : Gate) (newStatus : GateStatus) (now : Nat)

@[simp] theorem setStatus_status : (gate.setStatus newStatus now).status = newStatus := by
  unfold setStatus
  split
  · assumption
  · rfl

@[simp] theorem setStatus_id : (gate.setStatus newStatus now).id = gate.id := by
  unfold setStatus
  split <;> rfl

@[simp] theorem setStatus_orgId : (gate.setStatus newStatus now).orgId = gate.orgId := by
  unfold setStatus
  split <;> rfl

@[simp] theorem setStatus_resolvedAt : (gate.setStatus newStatus now).resolvedAt = gate.resolvedAt := by
  unfold setStatus
  split <;> rfl

@[simp] theorem setStatus_approvedHeadSha :
    (gate.setStatus newStatus now).approvedHeadSha = gate.approvedHeadSha := by
  unfold setStatus
  split <;> rfl

end SetStatus

end Gate

/-- All gate rows. Writers replace the row that carries the same primary key. -/
abbrev Table := List Gate

namespace Table

def lookup (table : Table) (orgId gateId : Uuid) : Option Gate :=
  table.find? fun gate => gate.id == gateId && gate.orgId == orgId

def put (table : Table) (gate : Gate) : Table :=
  table.map fun row => if row.id = gate.id then gate else row

theorem lookup_mem {table : Table} {orgId gateId : Uuid} {gate : Gate}
    (found : table.lookup orgId gateId = some gate) : gate ∈ table :=
  List.mem_of_find?_eq_some found

theorem mem_put {table : Table} {gate row : Gate} (member : row ∈ table.put gate) :
    row = gate ∨ row ∈ table := by
  obtain ⟨old, present, same⟩ := List.mem_map.mp member
  split at same
  · exact .inl same.symm
  · exact .inr (same ▸ present)

end Table

inductive GateError where
  | notFound (gateId : Uuid)
  | duplicateKey (gateId : Uuid)
  | illegalTransition (fromStatus toStatus : GateStatus)
  | illegalVoid (fromStatus : GateStatus)
  | illegalHold (fromStatus : GateStatus)
  | illegalUnhold (fromStatus : GateStatus)
  | rejectionNoteRequired
  | voidReasonRequired
  | overrideDecision
  | overrideReasonRequired
  | overrideNotPending (status : GateStatus)
  | undoNotResolved (status : GateStatus)
  | undoNotSelf
  | undoWindowExpired
  | reviewedDraftChanged (currentDraftId : Uuid) (currentVersion : Nat)
  deriving DecidableEq, Repr

def GateStatus.text : GateStatus → String
  | .pending => "pending"
  | .approved => "approved"
  | .rejected => "rejected"
  | .autoPassed => "auto_passed"
  | .voided => "voided"
  | .held => "held"

def GateError.message : GateError → String
  | .notFound gateId => "Gate " ++ PyText.uuidText gateId ++ " not found"
  | .duplicateKey gateId => "duplicate key value violates unique constraint: " ++ PyText.uuidText gateId
  | .illegalTransition fromStatus toStatus =>
    "불법 전이: " ++ fromStatus.text ++ " → " ++ toStatus.text ++ ". pending에서만 approved|rejected로 전이 가능."
  | .illegalVoid fromStatus => "불법 전이: " ++ fromStatus.text ++ " → voided. pending 게이트만 무효화 가능."
  | .illegalHold fromStatus => "불법 전이: " ++ fromStatus.text ++ " → held. pending 게이트만 보류 가능."
  | .illegalUnhold fromStatus => "불법 전이: " ++ fromStatus.text ++ " → pending. 보류(held) 게이트만 재개 가능."
  | .rejectionNoteRequired => "반려(변경 요청) 사유(note) 입력이 필수입니다."
  | .voidReasonRequired => "void 사유(reason)는 필수입니다."
  | .overrideDecision => "decision 은 approved|rejected 만 가능합니다."
  | .overrideReasonRequired => "override 는 reason(사유)이 필수입니다."
  | .overrideNotPending status => "override 는 pending gate 만 가능합니다 (현재 " ++ status.text ++ ")."
  | .undoNotResolved status =>
    "취소 불가: 게이트가 " ++ status.text ++ " 상태입니다 (승인/반려된 게이트만 취소 가능)."
  | .undoNotSelf => "본인이 해소한 게이트만 취소할 수 있습니다."
  | .undoWindowExpired => "취소 창(5분)이 지났습니다."
  | .reviewedDraftChanged _ _ => "recipe reviewed draft changed"

end Sprintable.Gates
