import Sprintable.Gates.Frame
import Sprintable.Lines.Engine
import Sprintable.Lines.Lint

/-! The life of a workflow line config: drafts, the request to publish with its
review gate, publication behind an approved gate, rejection and retirement. The
digest of a config is a parameter: only its equality is ever used. -/

namespace Sprintable.Lines

open Gates

def validVersionTransitions : List (VersionStatus × VersionStatus) :=
  [(.draft, .pendingReview), (.draft, .retired), (.pendingReview, .published), (.pendingReview, .rejected),
    (.pendingReview, .draft), (.pendingReview, .retired), (.published, .retired), (.rejected, .draft),
    (.rejected, .retired)]

def isValidVersionTransition (old new : VersionStatus) : Bool := validVersionTransitions.contains (old, new)

def workflowConfigPublishGateType : GateType := .other "workflow_config_publish"

def workflowLineVersionWorkItemType : String := "wf_line_version"

structure ConfigDesk where
  versions : List LineVersion := []
  definitions : List LineDefinition := []
  gates : Table := []

inductive ConfigError where
  | notFound
  | duplicateKey (id : Uuid)
  | lintCrashed (failure : Json.TypeFailure)
  | notDraft (status : VersionStatus)
  | illegalVersionTransition (old new : VersionStatus)
  | cannotRequestPublish (status : VersionStatus)
  | noPublishGate
  | gate (error : GateError)
  | gateNotApproved (status : GateStatus)
  | wrongGateType
  | selfApproval (versionId : Uuid)

namespace ConfigDesk

def opened : ConfigDesk where

def version (desk : ConfigDesk) (orgId versionId : Uuid) : Option LineVersion :=
  desk.versions.find? fun version => version.id == versionId && version.orgId == orgId

def putVersion (desk : ConfigDesk) (version : LineVersion) : ConfigDesk :=
  { desk with versions := Keyed.put LineVersion.id desk.versions version }

end ConfigDesk

def lint (config : Json) : Except ConfigError (List LintError) :=
  (lintConfig config).mapError .lintCrashed

def transitionVersion (version : LineVersion) (newStatus : VersionStatus) : Except ConfigError LineVersion :=
  if isValidVersionTransition version.status newStatus then .ok { version with status := newStatus }
  else .error (.illegalVersionTransition version.status newStatus)

def nextVersion (versions : List LineVersion) (orgId : Uuid) (projectId : Option Uuid) (entityType : String) : Nat :=
  let own := versions.filter fun version =>
    version.orgId == orgId && version.projectId == projectId && version.entityType == entityType
  (own.map LineVersion.version).max?.getD 0 + 1

def isSelfApproval (gate : Gate) (resolverId : Option Uuid) : Bool :=
  match resolverId, gate.facts.text "requested_by_member_id" with
  | some resolver, some requestedBy => requestedBy != "" && PyText.uuidText resolver == requestedBy
  | _, _ => false

def LineDefinition.retire (definition : LineDefinition) (version : LineVersion) (now : Nat) : LineDefinition :=
  if definition.orgId = version.orgId ∧ definition.projectId = version.projectId ∧
      definition.entityType = version.entityType ∧ definition.isActive then
    { definition with isActive := false, retiredAt := some now }
  else definition

def LineVersion.define (version : LineVersion) (definitionId : Uuid) (now : Nat) : LineDefinition where
  id := definitionId
  orgId := version.orgId
  projectId := version.projectId
  entityType := version.entityType
  version := version.version
  publishedAt := some now
  configHash := some version.configHash

def LineVersion.publish (version : LineVersion) (resolverId : Option Uuid) (definitionId : Uuid) (now : Nat) :
    LineVersion :=
  { version with
    status := .published
    publishedAt := some now
    reviewedByMemberId := resolverId
    lineDefinitionId := some definitionId }

section Operations
variable (computeConfigHash : Json → String) (desk : ConfigDesk)

def createDraft (versionId orgId : Uuid) (projectId : Option Uuid) (entityType : String) (config : Json)
    (createdBy : Uuid) : Except ConfigError ConfigDesk := do
  let lintErrors ← lint config
  if desk.versions.any (fun version => version.id == versionId) then throw (.duplicateKey versionId)
  let version : LineVersion :=
    { id := versionId, orgId, projectId, entityType, version := nextVersion desk.versions orgId projectId entityType
      config, configHash := computeConfigHash config, lintErrors, createdByMemberId := createdBy }
  return { desk with versions := desk.versions ++ [version] }

def updateDraftConfig (version : LineVersion) (config : Json) : Except ConfigError ConfigDesk :=
  if version.status ≠ .draft then .error (.notDraft version.status)
  else do
    let lintErrors ← lint config
    return desk.putVersion { version with config, configHash := computeConfigHash config, lintErrors }

def completePublish (version : LineVersion) (gate : Gate) (resolverId : Option Uuid) (auto : Bool)
    (definitionId : Uuid) (now : Nat) : Except ConfigError ConfigDesk :=
  if gate.status ≠ .approved ∧ gate.status ≠ .autoPassed then .error (.gateNotApproved gate.status)
  else if gate.gateType ≠ workflowConfigPublishGateType then .error .wrongGateType
  else if !auto && isSelfApproval gate resolverId then .error (.selfApproval version.id)
  else if version.status = .published then .ok desk
  else if desk.definitions.any (fun definition => definition.id == definitionId) then .error (.duplicateKey definitionId)
  else
    .ok { desk.putVersion (version.publish resolverId definitionId now) with
      definitions := (desk.definitions.map fun definition => definition.retire version now) ++
        [version.define definitionId now] }

def publishRequest (version : LineVersion) (memberId gateId : Uuid) : CreateRequest where
  orgId := version.orgId
  workItemId := version.id
  workItemType := workflowLineVersionWorkItemType
  gateType := workflowConfigPublishGateType
  gateId := gateId
  neutralFacts := some [("version_id", .text (PyText.uuidText version.id)), ("config_hash", .text version.configHash),
    ("requested_by_member_id", .text (PyText.uuidText memberId)), ("entity_type", .text version.entityType)]

def submitForReview (version : LineVersion) : Except ConfigError LineVersion :=
  if version.status ≠ .draft ∧ version.status ≠ .pendingReview ∧ version.status ≠ .rejected then
    .error (.cannotRequestPublish version.status)
  else if version.status = .pendingReview then .ok version
  else transitionVersion version .pendingReview

/-- A config that fails the lint is refused, and the findings stay on the version. -/
def requestPublish (version : LineVersion) (memberId : Uuid) (disposition : Disposition) (gateId definitionId : Uuid)
    (now : Nat) : Except ConfigError ConfigDesk := do
  let lintErrors ← lint version.config
  let checked := { version with lintErrors }
  if !lintErrors.isEmpty then .ok (desk.putVersion checked)
  else
    let waiting ← submitForReview checked
    let (gates, gate) ← (createGate desk.gates (publishRequest waiting memberId gateId) disposition now).mapError .gate
    let reviewed := { waiting with reviewGateId := some gate.id }
    let requested := { desk.putVersion reviewed with gates }
    if gate.status = .approved ∨ gate.status = .autoPassed then
      completePublish requested reviewed gate none true definitionId now
    else .ok requested

/-- The review gate is approved and the version published in one transaction. -/
def approvePublish (drafts : Drafts) (version : LineVersion) (resolverId definitionId : Uuid) (now : Nat) :
    Except ConfigError ConfigDesk :=
  match version.reviewGateId with
  | none => .error .noPublishGate
  | some gateId =>
    match desk.gates.lookup version.orgId gateId with
    | none => .error .noPublishGate
    | some gate =>
      if isSelfApproval gate (some resolverId) then .error (.selfApproval version.id)
      else do
        let (gates, approved, _) ←
          (transitionGate drafts desk.gates version.orgId gateId .approved (some resolverId) none none now).mapError .gate
        completePublish { desk with gates } version approved (some resolverId) false definitionId now

/-- The rejection of the review gate, if there is one; its refusal is passed over. -/
def rejectReview (drafts : Drafts) (version : LineVersion) (resolverId : Uuid) (reason : String) (now : Nat) : Table :=
  match version.reviewGateId with
  | none => desk.gates
  | some gateId =>
    match transitionGate drafts desk.gates version.orgId gateId .rejected (some resolverId) (some reason) none now with
    | .ok (gates, _) => gates
    | .error _ => desk.gates

def rejectPublish (drafts : Drafts) (version : LineVersion) (resolverId : Uuid) (reason : String) (now : Nat) :
    Except ConfigError ConfigDesk := do
  let rejected ← transitionVersion version .rejected
  return { desk.putVersion rejected with gates := rejectReview desk drafts version resolverId reason now }

def retireVersion (version : LineVersion) : Except ConfigError ConfigDesk := do
  let retired ← transitionVersion version .retired
  return desk.putVersion retired

end Operations

/-- The calls of the config endpoints, and decisions about gates made elsewhere. -/
inductive ConfigEvent where
  | createDraft (versionId orgId : Uuid) (projectId : Option Uuid) (entityType : String) (config : Json) (createdBy : Uuid)
  | updateDraft (orgId versionId : Uuid) (config : Json)
  | requestPublish (orgId versionId memberId : Uuid) (disposition : Disposition) (gateId definitionId now : Nat)
  | approvePublish (drafts : Drafts) (orgId versionId resolverId definitionId : Uuid) (now : Nat)
  | rejectPublish (drafts : Drafts) (orgId versionId resolverId : Uuid) (reason : String) (now : Nat)
  | retire (orgId versionId : Uuid)
  | gateDecision (operation : GateOperation)

/-- The operation decides a gate that stands, and neither submits nor evaluates one. -/
def isGateDecision : GateOperation → Bool
  | .create .. | .evaluateMerge .. | .reopenIfNewSha .. => false
  | _ => true

namespace ConfigEvent

/-- The operation on the version that the call names. -/
def on (desk : ConfigDesk) (orgId versionId : Uuid) (operation : LineVersion → Except ConfigError ConfigDesk) :
    Except ConfigError ConfigDesk :=
  match desk.version orgId versionId with
  | none => .error .notFound
  | some version => operation version

def attempt (computeConfigHash : Json → String) (desk : ConfigDesk) : ConfigEvent → Except ConfigError ConfigDesk
  | .createDraft versionId orgId projectId entityType config createdBy =>
    Lines.createDraft computeConfigHash desk versionId orgId projectId entityType config createdBy
  | .updateDraft orgId versionId config =>
    on desk orgId versionId fun version => updateDraftConfig computeConfigHash desk version config
  | .requestPublish orgId versionId memberId disposition gateId definitionId now =>
    on desk orgId versionId fun version =>
      Lines.requestPublish desk version memberId disposition gateId definitionId now
  | .approvePublish drafts orgId versionId resolverId definitionId now =>
    on desk orgId versionId fun version => Lines.approvePublish desk drafts version resolverId definitionId now
  | .rejectPublish drafts orgId versionId resolverId reason now =>
    on desk orgId versionId fun version => Lines.rejectPublish desk drafts version resolverId reason now
  | .retire orgId versionId => on desk orgId versionId fun version => retireVersion desk version
  | .gateDecision operation =>
    if isGateDecision operation then .ok { desk with gates := operation.step desk.gates } else .ok desk

def step (computeConfigHash : Json → String) : ConfigDesk → ConfigEvent → ConfigDesk :=
  Runs.settle (attempt computeConfigHash)

end ConfigEvent

end Sprintable.Lines
