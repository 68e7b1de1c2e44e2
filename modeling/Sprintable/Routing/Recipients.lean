import Sprintable.Logic.Runs
import Sprintable.Routing.Resolver

/-! Who is reached: every source of recipients goes through one of the rules that pick members,
except the approver of a gate at the last stage of a recipe. -/

namespace Sprintable.Routing
open Gates (Facts Value Gate GateStatus)
open Runs

theorem Roster.activeMemberIds_subset {roster : Roster} {orgId : Uuid} {ids : Finset Uuid} : roster.activeMemberIds orgId ids ⊆ ids := by
  intro id member
  rcases Finset.mem_union.mp member with active | rest
  · exact (Finset.mem_filter.mp active).1
  · exact (Finset.mem_sdiff.mp (Finset.mem_filter.mp rest).1).1

/-- An answer of the resolver names living members of the organisation only. -/
def AllLiving (db : Database) (orgId : Uuid) (answer : Except RoutingError (Finset Uuid)) : Prop :=
  ∀ ids, answer = .ok ids → ∀ id ∈ ids, db.roster.Living orgId id

section Sources
variable {db : Database} {orgId : Uuid} {projectId : Option Uuid} {key stage : String} {payload context : Facts}
  {definition : EventDefinition} {id : Uuid}

theorem AllLiving.ok {ids : Finset Uuid} (living : ∀ id ∈ ids, db.roster.Living orgId id) : AllLiving db orgId (.ok ids) := by
  intro found same
  cases same
  exact living

theorem AllLiving.nobody : AllLiving db orgId (.ok ∅) :=
  .ok fun _ member => absurd member (Finset.notMem_empty _)

theorem AllLiving.error {failure : RoutingError} : AllLiving db orgId (.error failure) := by
  intro found same
  cases same

theorem boundMember_living (bound : db.boundMemberForStage orgId projectId key stage = some id) : db.roster.Living orgId id := by
  obtain ⟨_, active⟩ := Option.filter_eq_some_iff.mp bound
  obtain ⟨member, inside⟩ := of_decide_eq_true active
  cases Finset.mem_singleton.mp (Roster.activeMemberIds_subset inside)
  exact Roster.activeMemberIds_living inside

theorem boundAgent_living (bound : db.boundAgentForStage orgId projectId key stage = some id) : db.roster.Living orgId id :=
  boundMember_living (Option.filter_eq_some_iff.mp bound).1

theorem stakeholders_living : AllLiving db orgId (db.resolveWorkItemStakeholders orgId payload) := by
  intro ids answered id member
  obtain ⟨_, _, rfl⟩ := map_ok answered
  exact Roster.orgRecipientIds_living member

theorem goalOwner_living : AllLiving db orgId (db.resolveGoalOwner orgId payload) := by
  unfold Database.resolveGoalOwner
  split
  · intro ids answered id member
    obtain ⟨_, _, rest⟩ := bind_ok answered
    cases rest
    exact Roster.orgRecipientIds_living member
  · exact .nobody

theorem publishFailure_living (found : RecipePublishFailureContext) (member : id ∈ db.recipePublishFailureRecipients orgId found) :
    db.roster.Living orgId id := by
  rcases Finset.mem_union.mp member with decided | bound
  · have approves := Option.mem_toFinset.mp decided
    exact Roster.hasIdentity_living (Option.filter_eq_some_iff.mp approves).2
  · exact boundAgent_living (Option.mem_toFinset.mp bound)

theorem resolvePublishFailure_living : AllLiving db orgId (db.resolveRecipePublishFailure orgId payload) := by
  unfold Database.resolveRecipePublishFailure
  split
  · intro ids answered id member
    obtain ⟨commandId, _, rest⟩ := bind_ok answered
    split at rest
    · cases rest
      exact absurd member (Finset.notMem_empty _)
    · cases rest
      exact publishFailure_living _ member
  · exact .nobody

theorem serverDerived_living (target : ServerDerivedTarget) : AllLiving db orgId (db.resolveServerDerived orgId target payload) := by
  cases target with
  | none => exact .nobody
  | workItemStakeholders => exact stakeholders_living
  | goalOwner => exact goalOwner_living
  | recipePublishFailure => exact resolvePublishFailure_living

theorem crew_living (member : id ∈ db.recipeCrewMemberIds orgId projectId key) : db.roster.Living orgId id :=
  Roster.activeMemberIds_living member

theorem lastServerStage_living
    (decided : ∀ gate id, db.lastStageGate orgId definition stage payload context = .ok (some gate) → approver gate = some id →
      db.roster.Living orgId id) :
    AllLiving db orgId (db.lastServerStageRecipients orgId projectId definition stage payload context) := by
  intro ids answered id member
  obtain ⟨gate, found, rest⟩ := bind_ok answered
  cases rest
  rcases Finset.mem_union.mp member with approves | agent
  · obtain ⟨own, rfl, named⟩ := Option.bind_eq_some_iff.mp (Option.mem_toFinset.mp approves)
    exact decided own id found named
  · have bound := Option.mem_toFinset.mp agent
    split at bound
    · exact boundAgent_living bound
    · cases bound

theorem channelStage_living
    (decided : nextRecipeStage definition stage = none → ∀ gate id,
      db.lastStageGate orgId definition stage payload context = .ok (some gate) → approver gate = some id → db.roster.Living orgId id) :
    AllLiving db orgId (db.channelStageRecipients orgId projectId definition key stage payload context) := by
  unfold Database.channelStageRecipients
  split
  next last => exact lastServerStage_living (decided last)
  next =>
    split
    · exact .ok fun _ member => boundMember_living (Option.mem_toFinset.mp member)
    · exact .ok fun _ member => boundMember_living (Option.mem_toFinset.mp member)
    · exact .nobody

structure LastChannelStage (db : Database) (orgId : Uuid) (key : String) (definition : EventDefinition) (stage : String) : Prop where
  found : db.definition? orgId key = some definition
  here : db.stageApprovalIsElsewhere orgId key stage = false
  channel : (definition.metadata stage).target = some .channelConnection
  last : nextRecipeStage definition stage = none

theorem stageRecipients_living
    (decided : ∀ definition gate id, LastChannelStage db orgId key definition stage →
      db.lastStageGate orgId definition stage payload context = .ok (some gate) → approver gate = some id → db.roster.Living orgId id) :
    AllLiving db orgId (db.stageRecipients orgId projectId key stage payload context) := by
  unfold Database.stageRecipients
  split
  · exact .nobody
  next here =>
    dsimp only
    split
    next member _ bound =>
      split at bound
      · cases bound
      · exact .ok fun id inside => Finset.mem_singleton.mp inside ▸ boundMember_living bound
    · exact .nobody
    next definition _ found =>
      split
      next channel =>
        rw [found] at channel
        apply channelStage_living
        intro last gate id
        exact decided definition gate id ⟨found, Bool.eq_false_iff.mpr here, channel, last⟩
      next =>
        split
        · exact .ok fun _ member => crew_living member
        · exact .nobody

theorem truthy_of_text {field text : String} (named : payload.text field = some text) :
    (payload.get field).truthy = true ↔ text ≠ "" := by
  unfold Facts.text at named
  split at named
  next value found =>
    cases named
    rw [found]
    exact decide_eq_true_iff
  next => cases named

theorem roleBinding_living
    (decided : ∀ stage definition gate id, payload.text "stage" = some stage → stage ≠ "" → LastChannelStage db orgId key definition stage →
      db.lastStageGate orgId definition stage payload context = .ok (some gate) → approver gate = some id → db.roster.Living orgId id) :
    AllLiving db orgId (db.resolveRecipeRoleBinding orgId payload key context) := by
  unfold Database.resolveRecipeRoleBinding
  split
  next given =>
    intro ids answered
    obtain ⟨projectId, _, rest⟩ := bind_ok answered
    split at rest
    next stage named =>
      have text := (truthy_of_text named).mp given
      exact stageRecipients_living (fun definition gate id => decided stage definition gate id named text) ids rest
    · cases rest
  · exact .nobody

/-- A gate decides who is reached: the leg is answered for the last stage of a recipe, and a channel
connection runs that stage. -/
structure DecidedByGate (db : Database) (orgId : Uuid) (leg : RoutingLeg) (payload : Facts) (key : Option String) (context : Facts)
    (gate : Gate) : Prop where
  answered : leg = .recipeRoleBinding ∨ leg = .serverDerived .workItemStakeholders ∧
    ∃ ids, db.resolveWorkItemStakeholders orgId payload = .ok ids
  named : PyText.truthy key = true
  stage : ∃ stage definition, payload.text "stage" = some stage ∧ stage ≠ "" ∧
    LastChannelStage db orgId (key.getD "") definition stage ∧
    db.lastStageGate orgId definition stage payload context = .ok (some gate)

theorem leg_living {leg : RoutingLeg} {key : Option String}
    (decided : ∀ gate id, DecidedByGate db orgId leg payload key context gate → approver gate = some id → db.roster.Living orgId id) :
    AllLiving db orgId (db.resolveRoutingLeg orgId leg payload key context) := by
  cases leg with
  | recipeRoleBinding =>
    unfold Database.resolveRoutingLeg
    dsimp only
    split
    next named =>
      apply roleBinding_living
      intro stage definition gate id given text last found
      exact decided gate id ⟨.inl rfl, named, stage, definition, given, text, last, found⟩
    · exact .error
  | payloadField field =>
    unfold Database.resolveRoutingLeg
    dsimp only
    split
    · intro ids answered id member
      obtain ⟨memberId, _, rest⟩ := bind_ok answered
      split at rest
      · cases rest
      · cases rest
        exact Roster.filterOrgMemberIds_living member
    · exact .error
  | serverDerived target =>
    intro ids answered id member
    obtain ⟨derived, resolved, rest⟩ := bind_ok answered
    split at rest
    next stage =>
      obtain ⟨rfl, named, given⟩ := stage
      obtain ⟨bound, others, rest⟩ := bind_ok rest
      cases rest
      rcases Finset.mem_union.mp member with first | second
      · exact serverDerived_living _ derived resolved id first
      · apply roleBinding_living _ bound others id second
        intro stage definition gate id given text last found
        exact decided gate id ⟨.inr ⟨rfl, derived, resolved⟩, named, stage, definition, given, text, last, found⟩
    next =>
      cases rest
      exact serverDerived_living _ ids resolved id member

/-! The gate's approver is reached. -/

theorem project_ok {gate : Gate} (found : db.lastStageGate orgId definition stage payload context = .ok (some gate)) :
    ∃ projectId, db.resolveWorkItemProjectId orgId payload = .ok projectId := by
  unfold Database.lastStageGate at found
  split at found
  next read =>
    unfold Database.resolveWorkItemProjectId
    split
    · unfold readUuid at read
      split at read
      next text same =>
        rw [same]
        unfold parseUuid
        dsimp only
        rw [read]
        exact ⟨_, rfl⟩
      · cases read
    · exact ⟨_, rfl⟩
  · cases found

theorem roleBinding_reaches {gate : Gate} (given : payload.text "stage" = some stage) (text : stage ≠ "")
    (last : LastChannelStage db orgId key definition stage)
    (found : db.lastStageGate orgId definition stage payload context = .ok (some gate)) (decided : approver gate = some id) :
    ∃ ids, db.resolveRecipeRoleBinding orgId payload key context = .ok ids ∧ id ∈ ids := by
  obtain ⟨projectId, project⟩ := project_ok found
  have recipients : ∃ ids, db.lastServerStageRecipients orgId projectId definition stage payload context = .ok ids ∧ id ∈ ids := by
    unfold Database.lastServerStageRecipients
    rw [found]
    refine ⟨_, rfl, Finset.mem_union_left _ (Option.mem_toFinset.mpr ?_)⟩
    exact decided
  have reached : db.resolveRecipeRoleBinding orgId payload key context =
      db.lastServerStageRecipients orgId projectId definition stage payload context := by
    unfold Database.resolveRecipeRoleBinding
    rw [if_pos ((truthy_of_text given).mpr text), project, given]
    change db.stageRecipients orgId projectId key stage payload context = _
    unfold Database.stageRecipients
    simp only [last.here, last.found, last.channel, Option.bind_some, if_true]
    unfold Database.channelStageRecipients
    rw [last.last]
    rfl
  rw [reached]
  exact recipients

theorem leg_reaches {leg : RoutingLeg} {key : Option String} {gate : Gate}
    (by_ : DecidedByGate db orgId leg payload key context gate) (decided : approver gate = some id) :
    ∃ ids, db.resolveRoutingLeg orgId leg payload key context = .ok ids ∧ id ∈ ids := by
  obtain ⟨stage, definition, given, text, last, found⟩ := by_.stage
  obtain ⟨ids, answered, member⟩ := roleBinding_reaches given text last found decided
  rcases by_.answered with rfl | ⟨rfl, others, resolved⟩
  · refine ⟨ids, ?_, member⟩
    unfold Database.resolveRoutingLeg
    dsimp only
    rw [if_pos by_.named, answered]
  · refine ⟨others ∪ ids, ?_, Finset.mem_union_right _ member⟩
    unfold Database.resolveRoutingLeg Database.resolveServerDerived
    dsimp only
    rw [resolved]
    change (if _ then _ else _) = _
    rw [if_pos ⟨rfl, by_.named, (truthy_of_text given).mpr text⟩, answered]
    rfl

end Sources

/-- A leg reaches living members of the organisation only, exactly if the gate that decides the last
stage of a recipe has an approver who is one. -/
theorem recipients_living_iff (db : Database) (orgId : Uuid) (leg : RoutingLeg) (payload : Facts) (key : Option String)
    (context : Facts) :
    AllLiving db orgId (db.resolveRoutingLeg orgId leg payload key context) ↔
      ∀ gate id, DecidedByGate db orgId leg payload key context gate → approver gate = some id → db.roster.Living orgId id := by
  constructor
  · intro living gate id by_ decided
    obtain ⟨ids, answered, member⟩ := leg_reaches by_ decided
    exact living ids answered id member
  · exact leg_living

/-! A person who left approved the last stage before its publication: no membership is left, and yet
the event is addressed to that person. -/

def departedDatabase : Database where
  roster := {
    members := [{ id := 7, orgId := 1, type := .human, isActive := false }]
    orgMembers := [{ id := 7, orgId := 1, deletedAt := some 5 }] }
  definitions := [{
    key := "org.acme.newsletter", orgId := some 1, stages := ["approval", "published"]
    stageMetadata := [("published", { target := some .channelConnection })] }]
  gates := [{
    id := 4, orgId := 1, workItemId := 3, workItemType := "story", gateType := .externalPublish, status := .approved
    resolverId := some 7 }]

def publishedPayload : Facts :=
  [("work_item_type", .text "story"), ("work_item_id", .text "00000000-0000-0000-0000-000000000003"), ("stage", .text "published")]

def causedByGate : Facts := [("trigger_gate_id", .text "00000000-0000-0000-0000-000000000004")]

theorem departed_approver_reached :
    ¬ AllLiving departedDatabase 1
      (departedDatabase.resolveRoutingLeg 1 .recipeRoleBinding publishedPayload (some "org.acme.newsletter") causedByGate) := by
  intro living
  have gone : ¬ departedDatabase.roster.Living 1 7 := by decide
  apply gone
  exact living _ rfl 7 (by decide)

end Sprintable.Routing
