import Mathlib.Data.Finset.Option
import Sprintable.Gates.Model
import Sprintable.Routing.Members

/-! Whom an event reaches. A routing leg names a field of the payload, a target that the server
derives, or the member that is bound to the stage of a recipe; it is resolved to member ids when the
event is published. -/

namespace Sprintable.Routing
open Gates (Facts Value Gate GateStatus)

structure Story where
  id : Uuid
  orgId : Uuid
  projectId : Uuid
  assigneeId : Option Uuid := none
  humanOwnerMemberId : Option Uuid := none
  deriving DecidableEq, Repr

structure StoryAssignee where
  storyId : Uuid
  orgId : Uuid
  memberId : Uuid
  deriving DecidableEq, Repr

structure Task where
  id : Uuid
  orgId : Uuid
  storyId : Uuid
  assigneeId : Option Uuid := none
  deriving DecidableEq, Repr

structure Goal where
  id : Uuid
  orgId : Uuid
  projectId : Uuid
  assigneeId : Option Uuid := none
  deriving DecidableEq, Repr

inductive ItemType where
  | doc | visualArtifact | loop | hypothesis | sprint
  deriving DecidableEq, Repr

def ItemType.name : ItemType → String
  | .doc => "doc"
  | .visualArtifact => "visual_artifact"
  | .loop => "loop"
  | .hypothesis => "hypothesis"
  | .sprint => "sprint"

/-- A row of one of the tables that only name a project here. -/
structure WorkItem where
  type : ItemType
  id : Uuid
  orgId : Uuid
  projectId : Uuid
  deriving DecidableEq, Repr

structure RecipeRoleBinding where
  orgId : Uuid
  projectId : Option Uuid
  eventDefinitionKey : String
  stage : String
  agentMemberId : Option Uuid
  deriving DecidableEq, Repr

inductive CapabilityTarget where
  | agent | channelConnection | generationConnector | other
  deriving DecidableEq, Repr

inductive ActorKind where
  | agent | human | either
  deriving DecidableEq, Repr

structure StageMetadata where
  role : Option String := none
  approvalSurface : Option String := none
  target : Option CapabilityTarget := none
  deriving DecidableEq, Repr

/-- `stages` is the enumeration of the schema's stage property. -/
structure EventDefinition where
  key : String
  orgId : Option Uuid
  enabled : Bool := true
  stages : List String := []
  stageMetadata : List (String × StageMetadata) := []
  roleActorKinds : List (String × ActorKind) := []
  deriving DecidableEq, Repr

def EventDefinition.metadata (definition : EventDefinition) (stage : String) : StageMetadata :=
  (definition.stageMetadata.lookup stage).getD {}

/-- What a stopped publication command belongs to. -/
structure RecipePublishFailureContext where
  definitionKey : String
  requestStage : String
  workItemType : String
  workItemId : Uuid
  approverId : Option Uuid
  deriving DecidableEq, Repr

/-- `failureContext` is what is found of the command when its failure is told. -/
structure PublicationCommand where
  id : Uuid
  orgId : Uuid
  failureContext : Option RecipePublishFailureContext
  deriving DecidableEq, Repr

inductive ServerDerivedTarget where
  | none | workItemStakeholders | goalOwner | recipePublishFailure
  deriving DecidableEq, Repr

inductive RoutingLeg where
  | recipeRoleBinding
  | payloadField (memberIdField : String)
  | serverDerived (target : ServerDerivedTarget)
  deriving DecidableEq, Repr

/-- The errors of the resolver. The last one is the database's, which is given a value that is no text. -/
inductive RoutingError where
  | definitionKeyRequired
  | missingPayloadField (field : String)
  | unknownMember (field : String) (memberId : Uuid)
  | invalidReference (field : String)
  | notText (field : String)
  deriving DecidableEq, Repr

structure Database where
  roster : Roster := {}
  stories : List Story := []
  storyAssignees : List StoryAssignee := []
  tasks : List Task := []
  goals : List Goal := []
  items : List WorkItem := []
  bindings : List RecipeRoleBinding := []
  definitions : List EventDefinition := []
  gates : List Gate := []
  commands : List PublicationCommand := []

def parseUuid (value : Value) (field : String) : Except RoutingError Uuid :=
  match value with
  | .text text =>
    match PyText.uuidOf text with
    | some id => .ok id
    | none => .error (.invalidReference field)
  | _ => .error (.invalidReference field)

/-- `uuid.UUID(str(value))` of a text. A number of 32 digits, which spells an id too, is read as none. -/
def readUuid (value : Value) : Option Uuid :=
  match value with
  | .text text => PyText.uuidOf text
  | _ => none

def namedMember (payload : Facts) (field : String) : Except RoutingError (Finset Uuid) :=
  match payload.text field with
  | some text => if text = "" then .ok ∅ else (fun id => {id}) <$> parseUuid (.text text) field
  | none => .ok ∅

namespace Database
variable (db : Database) (orgId : Uuid)

def story? (id : Uuid) : Option Story := db.stories.find? fun story => story.id == id && story.orgId == orgId

def task? (id : Uuid) : Option Task := db.tasks.find? fun task => task.id == id && task.orgId == orgId

def goal? (id : Uuid) : Option Goal := db.goals.find? fun goal => goal.id == id && goal.orgId == orgId

def storyStakeholders (id : Uuid) : Finset Uuid :=
  match db.story? orgId id with
  | none => ∅
  | some story =>
    story.assigneeId.toFinset ∪ story.humanOwnerMemberId.toFinset ∪
      ((db.storyAssignees.filter fun row => row.storyId == id && row.orgId == orgId).map (·.memberId)).toFinset

def taskAssignee (id : Uuid) : Finset Uuid := ((db.task? orgId id).bind fun task => task.assigneeId).toFinset

def goalAssignee (id : Uuid) : Finset Uuid := ((db.goal? orgId id).bind fun goal => goal.assigneeId).toFinset

/-- The stakeholders of a work item, by its type. -/
def assigned (type : String) (id : Uuid) : Finset Uuid :=
  if type = "story" then db.storyStakeholders orgId id
  else if type = "task" then db.taskAssignee orgId id
  else if type = "goal" ∨ type = "epic" then db.goalAssignee orgId id
  else ∅

def workItemStakeholdersUnfiltered (payload : Facts) : Except RoutingError (Finset Uuid) := do
  let requester ← namedMember payload "gate_requester_member_id"
  let author ← namedMember payload "gate_draft_author_member_id"
  let ids := requester ∪ author
  if (payload.get "work_item_type").truthy && (payload.get "work_item_id").truthy then
    let workItemId ← parseUuid (payload.get "work_item_id") "work_item_id"
    match payload.text "work_item_type" with
    | some type => return ids ∪ db.assigned orgId type workItemId
    | none => return ids
  else return ids

def resolveWorkItemStakeholders (payload : Facts) : Except RoutingError (Finset Uuid) :=
  db.roster.orgRecipientIds orgId <$> db.workItemStakeholdersUnfiltered orgId payload

def resolveGoalOwner (payload : Facts) : Except RoutingError (Finset Uuid) := do
  if (payload.get "goal_id").truthy then
    let goalId ← parseUuid (payload.get "goal_id") "goal_id"
    return db.roster.orgRecipientIds orgId (db.goalAssignee orgId goalId)
  else return ∅

/-- The project of a work item, by the table of its type. -/
def workItemProject (type : String) (id : Uuid) : Option Uuid :=
  if type = "story" then (db.story? orgId id).map (·.projectId)
  else if type = "task" then
    (db.task? orgId id).bind fun task => (db.stories.find? (·.id == task.storyId)).map (·.projectId)
  else if type = "goal" ∨ type = "epic" then (db.goal? orgId id).map (·.projectId)
  else
    (db.items.find? fun item => item.type.name == type && item.id == id && item.orgId == orgId).map (·.projectId)

def resolveWorkItemProjectId (payload : Facts) : Except RoutingError (Option Uuid) := do
  if (payload.get "work_item_type").truthy && (payload.get "work_item_id").truthy then
    let workItemId ← parseUuid (payload.get "work_item_id") "work_item_id"
    return (payload.text "work_item_type").bind fun type => db.workItemProject orgId type workItemId
  else return none

def binding? (projectId : Option Uuid) (key stage : String) : Option Uuid :=
  (db.bindings.find? fun row =>
    row.orgId == orgId && row.projectId == projectId && row.eventDefinitionKey == key && row.stage == stage).bind
      (·.agentMemberId)

def boundMemberForStage (projectId : Option Uuid) (key stage : String) : Option Uuid :=
  let ofProject := projectId.bind fun project => db.binding? orgId (some project) key stage
  (ofProject.or (db.binding? orgId none key stage)).filter fun id => (db.roster.activeMemberIds orgId {id}).Nonempty

def recipeCrewMemberIds (projectId : Option Uuid) (key : String) : Finset Uuid :=
  let crew := (db.bindings.filter fun row =>
    row.orgId == orgId && row.eventDefinitionKey == key && (row.projectId.isNone || row.projectId == projectId)).filterMap
      (·.agentMemberId)
  db.roster.activeMemberIds orgId crew.toFinset

/-- The enabled definition of a key. The organisation's own one goes before the preset. -/
def definition? (key : String) : Option EventDefinition :=
  let named := db.definitions.filter fun definition => definition.key == key && definition.enabled
  (named.find? (·.orgId == some orgId)).or (named.find? (·.orgId.isNone))

def stageApprovalIsElsewhere (key stage : String) : Bool :=
  match db.definition? orgId key with
  | none => false
  | some definition =>
    let metadata := definition.metadata stage
    if PyText.truthy metadata.approvalSurface then
      if metadata.target = some .channelConnection ∨ metadata.target = some .generationConnector then true
      else ((metadata.role.bind fun role => definition.roleActorKinds.lookup role).getD .agent) ≠ .agent
    else false

end Database

def nextRecipeStage (definition : EventDefinition) (stage : String) : Option String :=
  if stage ∈ definition.stages then definition.stages[definition.stages.idxOf stage + 1]? else none

def previousRecipeStage (definition : EventDefinition) (stage : String) : Option String :=
  if stage ∈ definition.stages ∧ 0 < definition.stages.idxOf stage then
    definition.stages[definition.stages.idxOf stage - 1]?
  else none

def resolvedBefore (gate other : Gate) : Bool :=
  match gate.resolvedAt, other.resolvedAt with
  | _, none => false
  | none, some _ => true
  | some first, some second => first < second

def latestResolved : List Gate → Option Gate
  | [] => none
  | gate :: rest =>
    match latestResolved rest with
    | none => some gate
    | some other => if resolvedBefore gate other then some other else some gate

/-- Who decided a gate, else who should. -/
def approver (gate : Gate) : Option Uuid := gate.resolverId.or gate.designatedApproverId

namespace Database
variable (db : Database) (orgId : Uuid)

def contextTriggerGate (workItemId : Option Uuid) (context : Facts) : Option Gate :=
  if (context.get "trigger_gate_id").truthy then
    match readUuid (context.get "trigger_gate_id") with
    | none => none
    | some id => (db.gates.find? (·.id == id)).filter fun gate => gate.orgId == orgId && some gate.workItemId == workItemId
  else none

/-- The gates of the organisation that approved this stage of the recipe for the work item. -/
def approvedGates (definition : EventDefinition) (previous : String) (workItemId : Uuid) (workItemType : String) : List Gate :=
  db.gates.filter fun gate =>
    gate.orgId == orgId && gate.workItemId == workItemId && gate.workItemType == workItemType &&
      gate.status == GateStatus.approved && gate.facts.text "stage" == some previous &&
      gate.facts.text "triggered_by_event" == some definition.key

def lastStageGate (definition : EventDefinition) (stage : String) (payload context : Facts) : Except RoutingError (Option Gate) :=
  match previousRecipeStage definition stage, readUuid (payload.get "work_item_id") with
  | some previous, some workItemId =>
    match db.contextTriggerGate orgId (some workItemId) context with
    | some gate => .ok (some gate)
    | none =>
      match payload.get "work_item_type" with
      | .text type => .ok (latestResolved (db.approvedGates orgId definition previous workItemId type))
      | .null => .ok none
      | _ => .error (.notText "work_item_type")
  | _, _ => .ok none

/-- The bound member, if it is an agent of the organisation. -/
def boundAgentForStage (projectId : Option Uuid) (key stage : String) : Option Uuid :=
  (db.boundMemberForStage orgId projectId key stage).filter fun id =>
    db.roster.teamMembers.any fun row => row.id == id && row.orgId == orgId && row.type == .agent

def lastServerStageRecipients (projectId : Option Uuid) (definition : EventDefinition) (stage : String) (payload context : Facts) :
    Except RoutingError (Finset Uuid) := do
  let gate ← db.lastStageGate orgId definition stage payload context
  let agent :=
    match previousRecipeStage definition stage, readUuid (payload.get "work_item_id") with
    | some previous, some _ => db.boundAgentForStage orgId projectId definition.key previous
    | _, _ => none
  return (gate.bind approver).toFinset ∪ agent.toFinset

/-- The recipients of a stage that a channel connection runs: the member of the next stage. -/
def channelStageRecipients (projectId : Option Uuid) (definition : EventDefinition) (key stage : String) (payload context : Facts) :
    Except RoutingError (Finset Uuid) :=
  match nextRecipeStage definition stage with
  | none => db.lastServerStageRecipients orgId projectId definition stage payload context
  | some next =>
    match (definition.metadata next).target with
    | none | some .agent => .ok (db.boundMemberForStage orgId projectId key next).toFinset
    | _ => .ok ∅

/-- `_resolve_recipe_role_binding`, of a stage that is a text. -/
def stageRecipients (projectId : Option Uuid) (key stage : String) (payload context : Facts) : Except RoutingError (Finset Uuid) :=
  if db.stageApprovalIsElsewhere orgId key stage then .ok ∅
  else
    let definition := db.definition? orgId key
    let target := definition.bind fun definition => (definition.metadata stage).target
    let bound := if target = some .channelConnection then none else db.boundMemberForStage orgId projectId key stage
    match bound, definition with
    | some member, _ => .ok {member}
    | none, none => .ok ∅
    | none, some definition =>
      if target = some .channelConnection then db.channelStageRecipients orgId projectId definition key stage payload context
      else if target = some .generationConnector then .ok (db.recipeCrewMemberIds orgId projectId key)
      else .ok ∅

def resolveRecipeRoleBinding (payload : Facts) (key : String) (context : Facts) : Except RoutingError (Finset Uuid) := do
  if (payload.get "stage").truthy then
    let projectId ← db.resolveWorkItemProjectId orgId payload
    match payload.text "stage" with
    | some stage => db.stageRecipients orgId projectId key stage payload context
    | none => .error (.notText "stage")
  else return ∅

def recipePublishFailureRecipients (found : RecipePublishFailureContext) : Finset Uuid :=
  let projectId :=
    if found.workItemType = "" then none else db.workItemProject orgId found.workItemType found.workItemId
  (found.approverId.filter fun id => db.roster.hasIdentity orgId id).toFinset ∪
    (db.boundAgentForStage orgId projectId found.definitionKey found.requestStage).toFinset

def commandFailure? (commandId : Uuid) : Option RecipePublishFailureContext :=
  ((db.commands.find? (·.id == commandId)).filter (·.orgId == orgId)).bind fun command => command.failureContext

def resolveRecipePublishFailure (payload : Facts) : Except RoutingError (Finset Uuid) := do
  if (payload.get "command_id").truthy then
    let commandId ← parseUuid (payload.get "command_id") "command_id"
    match db.commandFailure? orgId commandId with
    | none => return ∅
    | some found => return db.recipePublishFailureRecipients orgId found
  else return ∅

def resolveServerDerived (target : ServerDerivedTarget) (payload : Facts) : Except RoutingError (Finset Uuid) :=
  match target with
  | .none => .ok ∅
  | .workItemStakeholders => db.resolveWorkItemStakeholders orgId payload
  | .goalOwner => db.resolveGoalOwner orgId payload
  | .recipePublishFailure => db.resolveRecipePublishFailure orgId payload

def resolveRoutingLeg (leg : RoutingLeg) (payload : Facts) (key : Option String) (context : Facts) :
    Except RoutingError (Finset Uuid) :=
  match leg with
  | .recipeRoleBinding =>
    if PyText.truthy key then db.resolveRecipeRoleBinding orgId payload (key.getD "") context
    else .error .definitionKeyRequired
  | .payloadField field =>
    if (payload.get field).truthy then do
      let memberId ← parseUuid (payload.get field) field
      let valid := db.roster.filterOrgMemberIds orgId {memberId}
      if valid = ∅ then .error (.unknownMember field memberId) else return valid
    else .error (.missingPayloadField field)
  | .serverDerived target => do
    let ids ← db.resolveServerDerived orgId target payload
    if target = .workItemStakeholders ∧ PyText.truthy key ∧ (payload.get "stage").truthy then
      return ids ∪ (← db.resolveRecipeRoleBinding orgId payload (key.getD "") context)
    else return ids

end Database

end Sprintable.Routing
