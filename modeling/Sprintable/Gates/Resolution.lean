import Sprintable.Gates.Slot

/-! Human decisions on a gate: approval and rejection with the cascade between a
recipe gate and its only destination gate, undo, hold, void and override. -/

namespace Sprintable.Gates

inductive DraftKind where
  | channelPost | sitePost
  deriving DecidableEq, Repr

structure RecipeShownDraft where
  kind : DraftKind
  draftId : Uuid

/-- Answers of the draft tables. Drafts are looked up within one organisation;
a site draft may have no connection, and versions are listed in order. -/
structure Drafts where
  sandboxChannelEnabled : Bool
  siteDraft : Uuid → Uuid → Option (Option Uuid)
  siteLatest : Uuid → Option Uuid
  channelDraft : Uuid → Uuid → Option Uuid
  channelLatest : Uuid → Option Uuid
  recipeShown : Uuid → Uuid → String → Option RecipeShownDraft
  versions : DraftKind → Uuid → List (Nat × Uuid)

def Drafts.empty : Drafts where
  sandboxChannelEnabled := false
  siteDraft _ _ := none
  siteLatest _ := none
  channelDraft _ _ := none
  channelLatest _ := none
  recipeShown _ _ _ := none
  versions _ _ := []

/-- The channels whose adapter is a blog. -/
def Drafts.isBlog (drafts : Drafts) (destination : String) : Bool :=
  ["hosted_site", "wordpress", "webhook", "ghost"].contains destination ||
    (drafts.sandboxChannelEnabled && destination == "ghost_sandbox")

inductive ContentKind where
  | channelPost | sitePost | commentReply
  deriving DecidableEq, Repr

structure CommandRequest where
  gateId : Uuid
  destination : Uuid
  approvedVersion : Uuid
  requestedByMemberId : Uuid
  scheduledAt : Option Nat
  contentKind : ContentKind
  deriving DecidableEq, Repr

def scheduledCommandDraftUnresolvedNote : String := "예약 명령 미생성(draft 해석 실패)"

def scheduledCommandScopeMismatchNote : String := "예약 명령 미생성(승인된 목적지와 초안의 현재 목적지 불일치)"

def recipeAutoSatisfiedNote : String :=
  "auto_satisfied_by_recipe_external_publish_gate: single destination (story #4069)"

def recipeAutoRejectedNote : String :=
  "auto_rejected_by_recipe_external_publish_gate: single destination (story #4139)"

/-- `uuid.UUID(facts[key])`, absent when the key is missing or does not parse. -/
def Facts.uuid (facts : Facts) (key : String) : Option Uuid :=
  (facts.text key).bind PyText.uuidOf

def Gate.appendNote (gate : Gate) (note : String) : Gate :=
  { gate with
    resolutionNote := some (if PyText.truthy gate.resolutionNote then gate.resolutionNote.getD "" ++ "\n" ++ note else note) }

/-- The publication command that an approved external-publish gate asks for. A
gate whose draft cannot be resolved gets a note instead of a command. -/
def maybeCreateScheduledPublicationCommand (drafts : Drafts) (gate : Gate) (resolverId : Option Uuid) :
    Gate × Option CommandRequest :=
  if gate.gateType ≠ .externalPublish then (gate, none)
  else if gate.facts.text "kind" = some "comment_reply" then
    match resolverId, gate.facts.uuid "reply_id", gate.facts.uuid "connection_id" with
    | some resolver, some reply, some connection =>
      (gate, some ⟨gate.id, connection, reply, resolver, none, .commentReply⟩)
    | _, _, _ => (gate, none)
  else
    let unresolved := (gate.appendNote scheduledCommandDraftUnresolvedNote, none)
    let destination := (gate.facts.text "destination").getD ""
    if drafts.isBlog destination then
      if destination = "hosted_site" then (gate, none)
      else
        match resolverId, gate.facts.uuid "draft_id" with
        | some resolver, some draftId =>
          match drafts.siteDraft gate.orgId draftId, drafts.siteLatest draftId with
          | some (some connection), some latest =>
            if PyText.uuidText connection ≠ gate.scopeKey then
              (gate.appendNote scheduledCommandScopeMismatchNote, none)
            else (gate, some ⟨gate.id, connection, latest, resolver, none, .sitePost⟩)
          | _, _ => unresolved
        | _, _ => unresolved
    else
      match gate.sealedScheduledAt with
      | none => (gate, none)
      | some scheduled =>
        match resolverId, gate.facts.uuid "draft_id" with
        | some resolver, some draftId =>
          match drafts.channelDraft gate.orgId draftId, drafts.channelLatest draftId with
          | some connection, some latest =>
            (gate, some ⟨gate.id, connection, latest, resolver, some scheduled, .channelPost⟩)
          | _, _ => unresolved
        | _, _ => unresolved

def Gate.scopedExternalPublish (gate : Gate) (orgId workItemId : Uuid) (workItemType : String) : Bool :=
  gate.orgId == orgId && gate.workItemId == workItemId && gate.workItemType == workItemType &&
    gate.gateType == .externalPublish && gate.scopeKey != ""

def findSolePendingScopedExternalPublishGate (table : Table) (orgId workItemId : Uuid) (workItemType : String) :
    Option Gate :=
  match table.filter (fun gate => gate.scopedExternalPublish orgId workItemId workItemType && gate.status == .pending) with
  | [sole] => some sole
  | _ => none

def Gate.isRecipeExternalPublish (gate : Gate) : Bool :=
  gate.gateType == .externalPublish && gate.scopeKey == "" &&
    (gate.facts.get "triggered_by_event").truthy && (gate.facts.get "stage").truthy

/-- Record which draft version the approver saw. A draft that changed since the
approval screen was opened is refused. -/
def sealRecipeApprovedDraft (drafts : Drafts) (gate : Gate) (reviewedDraft : Option (Uuid × Nat)) :
    Except GateError (Gate × Option (Uuid × Nat)) :=
  if !gate.isRecipeExternalPublish then .ok (gate, none)
  else
    match drafts.recipeShown gate.orgId gate.workItemId gate.workItemType with
    | none => .ok (gate, none)
    | some shown =>
      match (drafts.versions shown.kind shown.draftId).getLast? with
      | none => .ok (gate, none)
      | some (version, versionId) =>
        if reviewedDraft ≠ some (shown.draftId, version) then .error (.reviewedDraftChanged shown.draftId version)
        else
          let kind := match shown.kind with | .channelPost => "channel_post" | .sitePost => "site_post"
          let approved := [("kind", .text kind), ("draft_id", .text (PyText.uuidText shown.draftId)),
            ("version", .number version), ("version_id", .text (PyText.uuidText versionId))]
          .ok ({ gate with neutralFacts := some (gate.facts.set "approved_draft" (.dict approved)) },
            some (shown.draftId, version))

def recipeApprovalCovers (recipe : Gate) (draftId : Option String) (version : Option Nat) : Bool :=
  let approved : Facts := match recipe.facts.get "approved_draft" with
    | .dict entries => entries
    | _ => []
  match draftId, version, approved.text "draft_id", approved.get "version" with
  | some draft, some wanted, some approvedDraft, .number approvedVersion =>
    approvedDraft == draft && approvedVersion == (wanted : Rat)
  | _, _, _, _ => false

def hasOtherLiveDestination (table : Table) (target : Gate) : Bool :=
  table.any fun gate => gate.scopedExternalPublish target.orgId target.workItemId target.workItemType &&
    gate.scopeKey != target.scopeKey && (gate.status == .pending || gate.status == .approved)

/-- The destination gate that a recipe approval also decides: the only pending
one, still holding the sealed draft version, with no other live destination. -/
def recipeApprovalCascadeTarget (table : Table) (orgId workItemId : Uuid) (workItemType : String)
    (sealedDraft : Uuid × Nat) : Option Gate :=
  match findSolePendingScopedExternalPublishGate table orgId workItemId workItemType with
  | none => none
  | some sole =>
    if sole.facts.text "draft_id" ≠ some (PyText.uuidText sealedDraft.1) then none
    else if sole.sealedContentVersion ≠ some sealedDraft.2 then none
    else if hasOtherLiveDestination table sole then none
    else some sole

/-- Give a destination gate the decision of its recipe gate. -/
def Gate.cascadeFrom (target recipe : Gate) (newStatus : GateStatus) (note : String) (now : Nat) : Gate :=
  { target.setStatus newStatus now with
    requiresHuman := false
    resolverId := recipe.resolverId
    resolvedAt := recipe.resolvedAt
    resolutionNote := some note }

def approveCascade (drafts : Drafts) (table : Table) (gate : Gate) (resolverId : Option Uuid)
    (reviewedDraft : Option (Uuid × Nat)) (now : Nat) : Except GateError (Table × Gate × List CommandRequest) :=
  if gate.gateType = .externalPublish ∧ gate.scopeKey = "" then do
    let (marked, sealedDraft) ← sealRecipeApprovedDraft drafts gate reviewedDraft
    let updated := table.put marked
    let selected := sealedDraft.bind (recipeApprovalCascadeTarget updated gate.orgId gate.workItemId gate.workItemType)
    match selected.filter (fun target =>
        recipeApprovalCovers marked (target.facts.text "draft_id") target.sealedContentVersion) with
    | none => return (updated, marked, [])
    | some target =>
      let decided := target.cascadeFrom marked .approved recipeAutoSatisfiedNote now
      let (noted, command) := maybeCreateScheduledPublicationCommand drafts decided resolverId
      return (updated.put noted, marked, command.toList)
  else .ok (table, gate, [])

def rejectCascade (table : Table) (gate : Gate) (now : Nat) : Table :=
  if gate.gateType = .externalPublish ∧ gate.scopeKey = "" then
    match findSolePendingScopedExternalPublishGate table gate.orgId gate.workItemId gate.workItemType with
    | none => table
    | some target => table.put (target.cascadeFrom gate .rejected recipeAutoRejectedNote now)
  else table

def Gate.resolve (gate : Gate) (newStatus : GateStatus) (resolverId : Option Uuid) (note : Option String)
    (now : Nat) : Gate :=
  { gate.setStatus newStatus now with
    resolverId := resolverId
    resolvedAt := some now
    resolutionNote := if PyText.truthy note then note else gate.resolutionNote }

def transitionGate (drafts : Drafts) (table : Table) (orgId gateId : Uuid) (newStatus : GateStatus)
    (resolverId : Option Uuid) (note : Option String) (reviewedDraft : Option (Uuid × Nat)) (now : Nat) :
    Except GateError (Table × Gate × List CommandRequest) :=
  match table.lookup orgId gateId with
  | none => .error (.notFound gateId)
  | some gate =>
    if !isValidTransition gate.status newStatus then .error (.illegalTransition gate.status newStatus)
    else if newStatus = .rejected ∧ !PyText.notBlank note then .error .rejectionNoteRequired
    else
      let decided := gate.resolve newStatus resolverId note now
      match newStatus with
      | .approved => do
        let (noted, command) := maybeCreateScheduledPublicationCommand drafts decided resolverId
        let (after, marked, commands) ← approveCascade drafts (table.put noted) noted resolverId reviewedDraft now
        return (after, marked, command.toList ++ commands)
      | .rejected => .ok (rejectCascade (table.put decided) decided now, decided, [])
      | _ => .ok (table.put decided, decided, [])

def gateUndoWindow : Nat := minutes 5

def undoGateResolution (table : Table) (orgId gateId actorId : Uuid) (now : Nat) : Except GateError (Table × Gate) :=
  match table.lookup orgId gateId with
  | none => .error (.notFound gateId)
  | some gate =>
    if gate.status ≠ .approved ∧ gate.status ≠ .rejected then .error (.undoNotResolved gate.status)
    else if gate.resolverId ≠ some actorId then .error .undoNotSelf
    else
      match gate.resolvedAt with
      | none => .error .undoWindowExpired
      | some resolved =>
        if resolved + gateUndoWindow < now then .error .undoWindowExpired
        else
          let undone := { gate.setStatus .pending now with resolverId := none, resolvedAt := none, resolutionNote := none }
          .ok (table.put undone, undone)

def voidGate (table : Table) (orgId gateId voiderId : Uuid) (reason : String) (now : Nat) :
    Except GateError (Table × Gate) :=
  match table.lookup orgId gateId with
  | none => .error (.notFound gateId)
  | some gate =>
    if !isValidTransition gate.status .voided then .error (.illegalVoid gate.status)
    else if !PyText.notBlank (some reason) then .error .voidReasonRequired
    else
      let voided := { gate.setStatus .voided now with
        resolverId := some voiderId, resolutionNote := some reason, resolvedAt := some now }
      .ok (table.put voided, voided)

def holdGate (table : Table) (orgId gateId holderId : Uuid) (reason : Option String) (heldUntil : Option Nat)
    (now : Nat) : Except GateError (Table × Gate) :=
  match table.lookup orgId gateId with
  | none => .error (.notFound gateId)
  | some gate =>
    if !isValidTransition gate.status .held then .error (.illegalHold gate.status)
    else
      let held := { gate.setStatus .held now with
        resolverId := some holderId, resolutionNote := reason, heldUntil := heldUntil }
      .ok (table.put held, held)

def unholdGate (table : Table) (orgId gateId : Uuid) (now : Nat) : Except GateError (Table × Gate) :=
  match table.lookup orgId gateId with
  | none => .error (.notFound gateId)
  | some gate =>
    if !isValidTransition gate.status .pending then .error (.illegalUnhold gate.status)
    else
      let resumed := { gate.setStatus .pending now with resolverId := none, resolutionNote := none, heldUntil := none }
      .ok (table.put resumed, resumed)

def overrideGate (drafts : Drafts) (table : Table) (orgId gateId ownerId : Uuid) (decision : GateStatus)
    (reason : String) (now : Nat) : Except GateError (Table × Gate × List CommandRequest) :=
  if decision ≠ .approved ∧ decision ≠ .rejected then .error .overrideDecision
  else if !PyText.notBlank (some reason) then .error .overrideReasonRequired
  else
    match table.lookup orgId gateId with
    | none => .error (.notFound gateId)
    | some gate =>
      if gate.status ≠ .pending then .error (.overrideNotPending gate.status)
      else do
        let (after, decided, commands) ←
          transitionGate drafts table orgId gateId decision (some ownerId) (some reason) none now
        let marks := [("overridden", .bool true), ("override_decision", .text decision.text),
          ("override_reason", .text reason), ("overridden_by_member_id", .text (PyText.uuidText ownerId))]
        let marked := { decided with neutralFacts := some (decided.facts.merge marks) }
        return (after.put marked, marked, commands)

end Sprintable.Gates
