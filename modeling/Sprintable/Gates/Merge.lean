import Sprintable.Gates.Resolution

/-! The merge gate: evaluation of pull-request evidence and re-opening when the
head commit moves. Both write gate rows outside the human decision machine. -/

namespace Sprintable.Gates

def normalizeResult : Option String → Option CheckResult
  | none => none
  | some result =>
    let word := PyText.lower (PyText.strip result)
    some (if word = "pass" ∨ word = "success" then .pass else .fail)

/-- Outcome statistics of the implementing member. `lowerBound` is the Wilson
bound that the trust service computed in floating point. -/
structure OutcomeStats where
  hit : Nat
  resolved : Nat
  pending : Nat
  hitRate : Option Rat
  lowerBound : Rat
  regret : Option Rat

def minOutcomeSample : Nat := 3

def MergeDecision.evidenceStatus : MergeDecision → EvidenceStatus
  | .autoMerge => .sufficient
  | .block => .blocked
  | .askHuman => .insufficient

def unmetConditions (ci pr : Option CheckResult) (gateStatus : GateStatus) (outcome : OutcomeStats) (threshold : Rat) :
    List UnmetCondition :=
  (if gateStatus ≠ .autoPassed then [.disposition gateStatus] else []) ++
    (if ci ≠ some .pass then [.ci ci] else []) ++
    (if pr ≠ some .pass then [.pr pr] else []) ++
    (if outcome.lowerBound < threshold then [.lowerBound outcome.lowerBound threshold] else [])

def decideMerge (ci pr : Option CheckResult) (gateStatus : GateStatus) (outcome : OutcomeStats) (threshold : Rat)
    (minSample : Nat) (selfReportOnly : Bool) : MergeDecision × DecisionReason :=
  if ci = some .fail then (.block, .ciFail)
  else if ci = none then (.askHuman, .ciUnknown selfReportOnly)
  else if gateStatus = .rejected then (.block, .policyDeny)
  else if outcome.resolved < minSample then (.askHuman, .sampleInsufficient outcome.resolved minSample)
  else if gateStatus = .autoPassed ∧ ci = some .pass ∧ pr = some .pass ∧ threshold ≤ outcome.lowerBound then
    (.autoMerge, .autoMerge outcome.lowerBound threshold outcome.hit outcome.resolved)
  else if gateStatus = .pending then (.askHuman, .policyAsk)
  else (.askHuman, .conditionsUnmet (unmetConditions ci pr gateStatus outcome threshold))

/-- One evaluation request, with what the other tables and GitHub answered to it. -/
structure MergeEvidence where
  orgId : Uuid
  storyId : Uuid
  prNumber : Int
  repo : String
  ciResult : Option String
  prResult : Option String
  trustThreshold : Rat
  headSha : Option String
  participation : Option Uuid
  disposition : Disposition
  explicitAsk : Bool
  outcome : OutcomeStats
  selfReportOnly : Bool
  observedFacts : Facts
  designatedApproverId : Option Uuid
  newGateId : Uuid

namespace MergeEvidence
variable (evidence : MergeEvidence)

def ci : Option CheckResult := normalizeResult evidence.ciResult

def pr : Option CheckResult := normalizeResult evidence.prResult

/-- No CI, no pull request and no explicit policy: no gate is materialised. -/
def noSubstance : Bool :=
  evidence.ci.isNone && decide (evidence.prNumber ≤ 0) &&
    !(evidence.disposition == .deny || (evidence.disposition == .ask && evidence.explicitAsk))

def slot : Slot where
  orgId := evidence.orgId
  workItemId := evidence.storyId
  workItemType := "story"
  gateType := .merge

def dbPrNumber : Option Int := if 0 < evidence.prNumber then some evidence.prNumber else none

def dbRepoFullName : Option String := if evidence.repo = "" then none else some evidence.repo

/-- `round(x, 4)`, ties to even. -/
def round4 (x : Rat) : Rat :=
  let scaled := x * 10000
  let low := scaled.floor
  let rest := scaled - low
  (if rest < 1 / 2 ∨ (rest = 1 / 2 ∧ low % 2 = 0) then low else low + 1 : Int) / 10000

def checkText : Option CheckResult → Value
  | none => .null
  | some .pass => .text "pass"
  | some .fail => .text "fail"

def facts (memberId : Uuid) : Facts :=
  Facts.merge
    [("requested_by_member_id", .text (PyText.uuidText memberId)),
      ("ci_result", checkText evidence.ci), ("pr_result", checkText evidence.pr),
      ("trust_basis", .text "hypothesis_outcome"),
      ("trust", .ofOption .number evidence.outcome.hitRate),
      ("outcome_hit_rate", .ofOption .number evidence.outcome.hitRate),
      ("outcome_lower_bound", .number (round4 evidence.outcome.lowerBound)),
      ("outcome_resolved", .number evidence.outcome.resolved), ("outcome_hit", .number evidence.outcome.hit),
      ("outcome_pending", .number evidence.outcome.pending),
      ("outcome_regret", .ofOption .number evidence.outcome.regret),
      ("trust_threshold", .number evidence.trustThreshold), ("min_outcome_sample", .number minOutcomeSample),
      ("pr_number", .number evidence.prNumber), ("repo", .text evidence.repo),
      ("self_report_only", .bool evidence.selfReportOnly)]
    (if evidence.dbPrNumber.isSome && evidence.dbRepoFullName.isSome then evidence.observedFacts else [])

def request (memberId : Uuid) : CreateRequest where
  toSlot := evidence.slot
  gateId := evidence.newGateId
  neutralFacts := some (evidence.facts memberId)
  prNumber := evidence.dbPrNumber
  repoFullName := evidence.dbRepoFullName
  designatedApproverId := evidence.designatedApproverId

def verdict (gateStatus : GateStatus) : MergeDecision × DecisionReason :=
  decideMerge evidence.ci evidence.pr gateStatus evidence.outcome evidence.trustThreshold minOutcomeSample
    evidence.selfReportOnly

end MergeEvidence

structure MergeGateDecision where
  decision : MergeDecision
  reason : Option DecisionReason
  gateId : Option Uuid
  gateStatus : Option GateStatus
  trust : Option Rat
  ciResult : Option CheckResult

/-- A resubmission re-opens a rejected or voided gate; a gate that was already
open takes the newer facts. -/
def Gate.resubmit (gate : Gate) (existed : Bool) (facts : Facts) (now : Nat) : Gate :=
  if gate.status = .rejected ∨ gate.status = .voided then
    let history := gate.facts.list "decision_history" ++ [.dict gate.historyEntry]
    { gate.setStatus .pending now with
      resolverId := none
      resolvedAt := none
      resolutionNote := none
      neutralFacts := some (facts.set "decision_history" (.list history)) }
  else if (gate.status = .pending ∨ gate.status = .autoPassed) ∧ existed then
    { gate with neutralFacts := some (gate.facts.merge facts) }
  else gate

def Gate.recordVerdict (gate : Gate) (decision : MergeDecision) (reason : DecisionReason) (now : Nat) : Gate :=
  { gate.setEvidenceStatus decision.evidenceStatus now with
    requiresHuman := decision != .autoMerge
    decisionBasis := some reason
    autoDecisionReason := some decision }

/-- Anchor the head commit of an automatic merge, or withdraw the anchor when
the evidence no longer supports one. The withdrawal assigns the status directly. -/
def Gate.anchor (gate : Gate) (decision : MergeDecision) (headSha : Option String) : Gate :=
  if decision = .autoMerge then
    if PyText.truthy headSha then { gate with approvedHeadSha := headSha } else gate
  else if gate.status = .autoPassed ∧ PyText.truthy gate.approvedHeadSha then
    { gate with approvedHeadSha := none, status := .pending }
  else gate

def evaluateMergeGate (table : Table) (evidence : MergeEvidence) (now : Nat) :
    Except GateError (Table × MergeGateDecision) :=
  match evidence.participation with
  | none => .ok (table, ⟨.askHuman, none, none, none, none, evidence.ci⟩)
  | some memberId =>
    if evidence.noSubstance then .ok (table, ⟨.autoMerge, none, none, none, none, evidence.ci⟩)
    else do
      let (priorGate, table) :=
        findGateSlotWithPrFallback table evidence.slot evidence.dbPrNumber evidence.dbRepoFullName
      let (table, gate) ← createGate table (evidence.request memberId) evidence.disposition now
      let gate := gate.resubmit priorGate.isSome (evidence.facts memberId) now
      let (decision, reason) := evidence.verdict gate.status
      let gate := (gate.recordVerdict decision reason now).anchor decision evidence.headSha
      return (table.put gate,
        ⟨decision, some reason, some gate.id, some gate.status, evidence.outcome.hitRate, evidence.ci⟩)

/-- A delivery is stale when a later pull-request update was already observed. -/
def Gate.observeHead (gate : Gate) (prUpdatedAt : Option Nat) : Gate × Bool :=
  match prUpdatedAt with
  | none => (gate, false)
  | some updated =>
    let watermark := max (gate.prHeadObservedAt.getD updated) updated
    ({ gate with prHeadObservedAt := some watermark }, watermark != updated)

def reopenGateIfNewSha (table : Table) (orgId gateId : Uuid) (newHeadSha : String) (prUpdatedAt : Option Nat)
    (now : Nat) : Except GateError (Table × Bool) :=
  match table.lookup orgId gateId with
  | none => .error (.notFound gateId)
  | some gate =>
    if gate.gateType ≠ .merge then .ok (table, false)
    else
      let (observed, stale) := gate.observeHead prUpdatedAt
      if gate.status ≠ .approved ∧ gate.status ≠ .autoPassed then .ok (table.put observed, false)
      else if stale then .ok (table.put observed, false)
      else if observed.approvedHeadSha = some newHeadSha then .ok (table.put observed, false)
      else
        let reopened := { observed.setStatus .pending now with
          resolverId := none
          resolvedAt := none
          resolutionNote := none
          approvedHeadSha := none
          githubCheckRunId := none
          githubCheckRunSha := none }
        .ok (table.put reopened, true)

/-- The columns of a gate that outlive every decision about it. -/
structure GateCore where
  id : Uuid
  orgId : Uuid
  workItemId : Uuid
  workItemType : String
  gateType : GateType
  scopeKey : String
  prHeadObservedAt : Option Nat

def Gate.core (gate : Gate) : GateCore where
  id := gate.id
  orgId := gate.orgId
  workItemId := gate.workItemId
  workItemType := gate.workItemType
  gateType := gate.gateType
  scopeKey := gate.scopeKey
  prHeadObservedAt := gate.prHeadObservedAt

@[simp] theorem setStatus_core (gate : Gate) (newStatus : GateStatus) (now : Nat) :
    (gate.setStatus newStatus now).core = gate.core := by
  unfold Gate.setStatus
  split <;> rfl

theorem id_of_core {left right : Gate} (same : left.core = right.core) : left.id = right.id :=
  congrArg GateCore.id same

theorem resubmit_core (gate : Gate) (existed : Bool) (facts : Facts) (now : Nat) :
    (gate.resubmit existed facts now).core = gate.core := by
  unfold Gate.resubmit
  split
  · exact setStatus_core gate .pending now
  · split <;> rfl

theorem verdict_core (gate : Gate) (decision : MergeDecision) (reason : DecisionReason) (headSha : Option String)
    (now : Nat) : ((gate.recordVerdict decision reason now).anchor decision headSha).core = gate.core := by
  have recorded : (gate.recordVerdict decision reason now).core = gate.core := by
    unfold Gate.recordVerdict Gate.setEvidenceStatus
    split <;> rfl
  unfold Gate.anchor
  split
  · split <;> exact recorded
  · split <;> exact recorded

end Sprintable.Gates
