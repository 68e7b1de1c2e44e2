import Sprintable.Lines.LineConfig

/-! What the publication of line configs guarantees over whole runs: the review
gate of a version carries the digest of its config from the request on, because
a config is frozen once it has a gate. -/

namespace Sprintable.Lines

open Gates

section Sealing
variable {drafts : Drafts} {table after : Table} {orgId gateId : Uuid} {gate : Gate} {now : Nat}

/-- The row comes from a row of `before` with the same core, and a review gate
kept the digest that it carries. -/
def SealedFrom (before : Table) (row : Gate) : Prop :=
  ∃ old ∈ before, row.core = old.core ∧
    (old.gateType = workflowConfigPublishGateType → row.facts.text "config_hash" = old.facts.text "config_hash")

theorem SealedFrom.start : ∀ row ∈ table, SealedFrom table row :=
  fun row member => ⟨row, member, rfl, fun _ => rfl⟩

theorem SealedFrom.congr {before : Table} {row next : Gate} (sealed_ : SealedFrom before row) (core : next.core = row.core)
    (facts : row.gateType = workflowConfigPublishGateType →
      next.facts.text "config_hash" = row.facts.text "config_hash") : SealedFrom before next := by
  obtain ⟨old, present, same, kept⟩ := sealed_
  refine ⟨old, present, core.trans same, fun review => ?_⟩
  have type : row.gateType = old.gateType := congrArg GateCore.gateType same
  exact (facts (type.trans review)).trans (kept review)

theorem SealedFrom.setStatus {before : Table} {row : Gate} (sealed_ : SealedFrom before row) (newStatus : GateStatus)
    (now : Nat) : SealedFrom before (row.setStatus newStatus now) := by
  refine sealed_.congr (setStatus_core row newStatus now) fun _ => ?_
  unfold Gate.setStatus
  split <;> rfl

theorem sealed_resolvable (before : Table) (newStatus : GateStatus) (now : Nat) :
    Resolvable newStatus now (SealedFrom before) where
  resolve gate _ _ _ kept := (kept.setStatus newStatus now).congr rfl fun _ => rfl
  note _ _ kept := kept.congr rfl fun _ => rfl
  mark gate facts publishes kept := kept.congr rfl fun review => by
    rw [publishes] at review
    cases review
  cascade target _ _ _ _ kept := (kept.setStatus newStatus now).congr rfl fun _ => rfl

theorem transition_sealed {newStatus : GateStatus} {resolverId : Option Uuid} {note : Option String}
    {reviewedDraft : Option (Uuid × Nat)} {commands : List CommandRequest}
    (executed : transitionGate drafts table orgId gateId newStatus resolverId note reviewedDraft now =
      .ok (after, gate, commands)) : (∀ row ∈ after, SealedFrom table row) ∧ SealedFrom table gate :=
  transition_preserves (sealed_resolvable table newStatus now) SealedFrom.start executed

theorem put_sealed (found : table.lookup orgId gateId = some gate) {row : Gate} (core : row.core = gate.core)
    (facts : row.facts.text "config_hash" = gate.facts.text "config_hash") :
    ∀ other ∈ table.put row, SealedFrom table other :=
  put_preserves SealedFrom.start ((SealedFrom.start gate (Table.lookup_mem found)).congr core fun _ => facts)

theorem setStatus_facts (gate : Gate) (newStatus : GateStatus) (now : Nat) :
    (gate.setStatus newStatus now).facts = gate.facts := by
  unfold Gate.setStatus
  split <;> rfl

theorem decision_sealed {operation : GateOperation} (decides : isGateDecision operation = true)
    (executed : operation.attempt table = .ok after) :
    (∀ row ∈ after, SealedFrom table row) ∧ after.map Gate.id = table.map Gate.id := by
  cases operation with
  | create request disposition now => cases decides
  | evaluateMerge evidence now => cases decides
  | reopenIfNewSha orgId gateId newHeadSha prUpdatedAt now => cases decides
  | transition drafts orgId gateId decision resolverId note reviewedDraft now =>
    obtain ⟨_, decided, rfl⟩ := Runs.map_ok executed
    exact ⟨(transition_sealed decided).1, transition_ids decided⟩
  | undo orgId gateId actorId now =>
    obtain ⟨_, undone, rfl⟩ := Runs.map_ok executed
    unfold undoGateResolution at undone
    split at undone
    · cases undone
    next row found =>
      repeat' split at undone
      all_goals cases undone
      exact ⟨put_sealed found (setStatus_core row .pending now) (congrArg (Facts.text · "config_hash") (setStatus_facts row .pending now)), ids_put _ _⟩
  | hold orgId gateId holderId reason heldUntil now =>
    obtain ⟨_, held, rfl⟩ := Runs.map_ok executed
    unfold holdGate at held
    split at held
    · cases held
    next row found =>
      split at held
      all_goals cases held
      exact ⟨put_sealed found (setStatus_core row .held now) (congrArg (Facts.text · "config_hash") (setStatus_facts row .held now)), ids_put _ _⟩
  | unhold orgId gateId now =>
    obtain ⟨_, resumed, rfl⟩ := Runs.map_ok executed
    unfold unholdGate at resumed
    split at resumed
    · cases resumed
    next row found =>
      split at resumed
      all_goals cases resumed
      exact ⟨put_sealed found (setStatus_core row .pending now) (congrArg (Facts.text · "config_hash") (setStatus_facts row .pending now)), ids_put _ _⟩
  | void orgId gateId voiderId reason now =>
    obtain ⟨_, voided, rfl⟩ := Runs.map_ok executed
    unfold voidGate at voided
    split at voided
    · cases voided
    next row found =>
      repeat' split at voided
      all_goals cases voided
      exact ⟨put_sealed found (setStatus_core row .voided now) (congrArg (Facts.text · "config_hash") (setStatus_facts row .voided now)), ids_put _ _⟩
  | override drafts orgId gateId ownerId decision reason now =>
    obtain ⟨_, overridden, rfl⟩ := Runs.map_ok executed
    unfold overrideGate at overridden
    repeat' split at overridden
    all_goals try cases overridden
    obtain ⟨⟨cascaded, decided, others⟩, transition, overridden⟩ := Runs.bind_ok overridden
    cases overridden
    obtain ⟨rows, row⟩ := transition_sealed transition
    refine ⟨put_preserves rows (row.congr rfl fun _ => ?_), (ids_put _ _).trans (transition_ids transition)⟩
    apply Facts.text_merge_other
    simp

theorem transition_other {row : Gate} (found : table.lookup orgId gateId = some row) (other : row.gateType ≠ .externalPublish)
    {newStatus : GateStatus} {resolverId : Option Uuid} {note : Option String} {reviewedDraft : Option (Uuid × Nat)}
    {commands : List CommandRequest}
    (executed : transitionGate drafts table orgId gateId newStatus resolverId note reviewedDraft now =
      .ok (after, gate, commands)) : gate = row.resolve newStatus resolverId note now ∧ after = table.put gate := by
  have type : (row.resolve newStatus resolverId note now).gateType = row.gateType :=
    congrArg GateCore.gateType (setStatus_core row newStatus now)
  unfold transitionGate at executed
  rw [found] at executed
  dsimp only at executed
  split at executed
  · cases executed
  split at executed
  · cases executed
  split at executed
  · have quiet : maybeCreateScheduledPublicationCommand drafts (row.resolve .approved resolverId note now) resolverId =
        (row.resolve .approved resolverId note now, none) := by
      unfold maybeCreateScheduledPublicationCommand
      rw [if_pos (type ▸ other)]
    rw [quiet] at executed
    obtain ⟨⟨cascaded, marked, others⟩, cascade, executed⟩ := Runs.bind_ok executed
    cases executed
    unfold approveCascade at cascade
    rw [if_neg fun publishes => other (type.symm.trans publishes.1)] at cascade
    cases cascade
    exact ⟨rfl, rfl⟩
  · cases executed
    unfold rejectCascade
    rw [if_neg fun publishes => other (type.symm.trans publishes.1)]
    exact ⟨rfl, rfl⟩
  · cases executed
    exact ⟨rfl, rfl⟩

/-- What a submission without a pull request does: it returns the row of the
slot, re-opens it after a rejection, or adds a row under a new key. -/
theorem create_unbound_cases {request : CreateRequest} {disposition : Disposition} (unbound : request.prNumber = none)
    (created : createGate table request disposition now = .ok (after, gate)) :
    (gate ∈ table ∧ request.toSlot.holds gate = true ∧ after = table) ∨
    (∃ existing ∈ table, request.toSlot.holds existing = true ∧
      gate = (reopenRejectedGate table existing request disposition now).2 ∧ after = table.put gate) ∨
    (gate = newGate request disposition now ∧ after = table ++ [gate] ∧ ∀ row ∈ table, row.id ≠ request.gateId) := by
  unfold createGate findGateSlotWithPrFallback at created
  rw [unbound] at created
  dsimp only at created
  cases found : table.find? fun gate => request.toSlot.holds gate && gate.prNumber == none with
  | none =>
    rw [found] at created
    dsimp only at created
    split at created
    · cases created
    next fresh =>
      cases created
      exact .inr (.inr ⟨rfl, rfl, by simpa using fresh⟩)
  | some existing =>
    rw [found] at created
    dsimp only at created
    have member := List.mem_of_find?_eq_some found
    have holds : request.toSlot.holds existing = true := by
      have selected := List.find?_some found
      simp only [Bool.and_eq_true] at selected
      exact selected.1
    split at created
    · cases created
      exact .inl ⟨member, holds, rfl⟩
    · cases created
      exact .inr (.inl ⟨existing, member, holds, rfl, rfl⟩)

end Sealing

section Requests
variable {table after : Table} {version : LineVersion} {memberId gateId : Uuid} {disposition : Disposition}
  {gate : Gate} {now : Nat}

structure Reviews (version : LineVersion) (gate : Gate) : Prop where
  type : gate.gateType = workflowConfigPublishGateType
  item : gate.workItemId = version.id

theorem request_holds (holds : (publishRequest version memberId gateId).toSlot.holds gate = true) :
    Reviews version gate := by
  simp only [Slot.holds, publishRequest, Bool.and_eq_true, beq_iff_eq] at holds
  exact ⟨holds.1.2, holds.1.1.1.2⟩

theorem reopened_facts (existing : Gate) (request : CreateRequest) (disposition : Disposition) (now : Nat) {key : String}
    (other : key ≠ "decision_history") : (reopenRejectedGate table existing request disposition now).2.facts.text key =
      Facts.text (request.neutralFacts.getD []) key := by
  unfold reopenRejectedGate Gate.facts
  exact Facts.text_set_other other _

/-- A request to publish returns the review gate of the version. Every other
review gate keeps its digest, and that of the version is sealed or kept. -/
theorem request_gates (unique : table.Unique)
    (created : createGate table (publishRequest version memberId gateId) disposition now = .ok (after, gate)) :
    gate ∈ after ∧ Reviews version gate ∧ (∀ old ∈ table, ∃ row ∈ after, row.core = old.core) ∧
    ∀ row ∈ after, SealedFrom table row ∨
      (Reviews version row ∧ row.facts.text "config_hash" = some version.configHash) := by
  rcases create_unbound_cases rfl created with
    ⟨member, holds, rfl⟩ | ⟨existing, member, holds, rfl, rfl⟩ | ⟨rfl, rfl, fresh⟩
  · exact ⟨member, request_holds holds, fun old present => ⟨old, present, rfl⟩,
      fun row present => .inl (SealedFrom.start row present)⟩
  · have reviews := request_holds holds
    have core := reopened_core table existing (publishRequest version memberId gateId) disposition now
    have reopened : Reviews version (reopenRejectedGate table existing (publishRequest version memberId gateId) disposition now).2 :=
      ⟨(congrArg GateCore.gateType core).trans reviews.type, (congrArg GateCore.workItemId core).trans reviews.item⟩
    refine ⟨?_, reopened, fun old present => ?_, fun row present => ?_⟩
    · exact List.mem_map.mpr ⟨existing, member, if_pos (id_of_core core).symm⟩
    · by_cases same : old.id = existing.id
      · obtain rfl := row_of_id unique present member same
        exact ⟨_, List.mem_map.mpr ⟨old, present, if_pos (id_of_core core).symm⟩, core⟩
      · exact ⟨old, List.mem_map.mpr ⟨old, present, if_neg fun back => same (back.trans (id_of_core core))⟩, rfl⟩
    · rcases Table.mem_put present with rfl | old
      · refine .inr ⟨reopened, ?_⟩
        exact reopened_facts existing (publishRequest version memberId gateId) disposition now (by decide)
      · exact .inl (SealedFrom.start row old)
  · have new : Reviews version (newGate (publishRequest version memberId gateId) disposition now) := ⟨rfl, rfl⟩
    refine ⟨List.mem_append_right _ List.mem_cons_self, new, fun old present => ⟨old, List.mem_append_left _ present, rfl⟩,
      fun row present => ?_⟩
    rcases List.mem_append.mp present with old | same
    · exact .inl (SealedFrom.start row old)
    · rw [List.mem_singleton.mp same]
      exact .inr ⟨new, rfl⟩

end Requests

/-- The column that an active line is unique for. -/
def LineDefinition.line (definition : LineDefinition) : Uuid × Option Uuid × String :=
  (definition.orgId, definition.projectId, definition.entityType)

def LineVersion.line (version : LineVersion) : Uuid × Option Uuid × String :=
  (version.orgId, version.projectId, version.entityType)

/-- The tables agree: configs, digests and review gates belong together, and each
active definition has its published version. -/
structure Governed (computeConfigHash : Json → String) (desk : ConfigDesk) : Prop where
  versionIds : (desk.versions.map LineVersion.id).Nodup
  definitionIds : (desk.definitions.map LineDefinition.id).Nodup
  gateIds : desk.gates.Unique
  hashes : ∀ version ∈ desk.versions, version.configHash = computeConfigHash version.config
  reviewed : ∀ gate ∈ desk.gates, gate.gateType = workflowConfigPublishGateType →
    ∃ version ∈ desk.versions, gate.workItemId = version.id ∧ version.status ≠ .draft ∧
      lintConfig version.config = .ok [] ∧ gate.facts.text "config_hash" = some version.configHash
  gated : ∀ version ∈ desk.versions, ∀ gateId, version.reviewGateId = some gateId →
    ∃ gate ∈ desk.gates, gate.id = gateId ∧ Reviews version gate
  linted : ∀ version ∈ desk.versions, version.status = .published → lintConfig version.config = .ok []
  oneActive : ∀ left ∈ desk.definitions, ∀ right ∈ desk.definitions,
    left.isActive = true → right.isActive = true → left.line = right.line → left = right
  active : ∀ definition ∈ desk.definitions, definition.isActive = true →
    ∃ version ∈ desk.versions, version.lineDefinitionId = some definition.id ∧ version.status = .published

section Steps
variable {computeConfigHash : Json → String} {desk after : ConfigDesk} {version next : LineVersion} {gates : Table}
  {orgId versionId : Uuid}

theorem mem_put_version {row : LineVersion} (member : row ∈ (desk.putVersion next).versions) :
    row = next ∨ (row ∈ desk.versions ∧ row.id ≠ next.id) := by
  obtain ⟨old, present, same⟩ := List.mem_map.mp member
  split at same
  · exact .inl same.symm
  next other => exact .inr (same ▸ ⟨present, other⟩)

theorem put_version_other {row : LineVersion} (member : row ∈ desk.versions) (other : row.id ≠ next.id) :
    row ∈ (desk.putVersion next).versions :=
  List.mem_map.mpr ⟨row, member, if_neg other⟩

theorem put_version_self (member : version ∈ desk.versions) (same : version.id = next.id) :
    next ∈ (desk.putVersion next).versions :=
  List.mem_map.mpr ⟨version, member, if_pos same⟩

theorem Governed.version_of_id (governed : Governed computeConfigHash desk) {left right : LineVersion}
    (first : left ∈ desk.versions) (second : right ∈ desk.versions) (same : left.id = right.id) : left = right :=
  List.inj_on_of_nodup_map governed.versionIds first second same

theorem Governed.review (governed : Governed computeConfigHash desk) (member : version ∈ desk.versions) {gate : Gate}
    (present : gate ∈ desk.gates) (reviews : Reviews version gate) :
    version.status ≠ .draft ∧ lintConfig version.config = .ok [] ∧
      gate.facts.text "config_hash" = some version.configHash := by
  obtain ⟨owner, owned, item, status, passed, digest⟩ := governed.reviewed gate present reviews.type
  obtain rfl := governed.version_of_id owned member (item.symm.trans reviews.item)
  exact ⟨status, passed, digest⟩

theorem Reviews.of_core {gate row : Gate} (reviews : Reviews version gate) (core : row.core = gate.core) :
    Reviews version row :=
  ⟨(congrArg GateCore.gateType core).trans reviews.type, (congrArg GateCore.workItemId core).trans reviews.item⟩

/-- Replacing a version together with the gates: a gate keeps its digest or is
sealed for the version, and a version with a gate keeps its digest and its lint. -/
theorem Governed.put (governed : Governed computeConfigHash desk) (member : version ∈ desk.versions)
    (id : next.id = version.id) (hash : next.configHash = computeConfigHash next.config) (unique : gates.Unique)
    (cores : ∀ old ∈ desk.gates, ∃ row ∈ gates, row.core = old.core)
    (rows : ∀ row ∈ gates, SealedFrom desk.gates row ∨
      (Reviews version row ∧ row.facts.text "config_hash" = some version.configHash))
    (keeps : ∀ row ∈ gates, Reviews version row →
      next.status ≠ .draft ∧ lintConfig next.config = .ok [] ∧ next.configHash = version.configHash)
    (review : ∀ gateId, next.reviewGateId = some gateId → version.reviewGateId = some gateId ∨
      ∃ gate ∈ gates, gate.id = gateId ∧ Reviews version gate)
    (linted : next.status = .published → lintConfig next.config = .ok [])
    (active : version.status = .published → ∀ definition ∈ desk.definitions, definition.isActive = true →
      version.lineDefinitionId = some definition.id →
        next.status = .published ∧ next.lineDefinitionId = version.lineDefinitionId) :
    Governed computeConfigHash { desk.putVersion next with gates } where
  versionIds := by
    have keys : (desk.putVersion next).versions.map LineVersion.id = desk.versions.map LineVersion.id :=
      Keyed.map_key_put desk.versions next
    rw [keys]
    exact governed.versionIds
  definitionIds := governed.definitionIds
  gateIds := unique
  hashes row present := by
    rcases mem_put_version present with rfl | ⟨old, _⟩
    · exact hash
    · exact governed.hashes row old
  reviewed row present type := by
    have self := put_version_self member id.symm
    have sealed_ : Reviews version row → row.facts.text "config_hash" = some version.configHash →
        ∃ owner ∈ (desk.putVersion next).versions, row.workItemId = owner.id ∧ owner.status ≠ .draft ∧
          lintConfig owner.config = .ok [] ∧ row.facts.text "config_hash" = some owner.configHash := by
      intro reviews digest
      obtain ⟨status, passed, same⟩ := keeps row present reviews
      exact ⟨next, self, reviews.item.trans id.symm, status, passed, digest.trans (congrArg some same.symm)⟩
    rcases rows row present with ⟨old, stored, core, kept⟩ | ⟨reviews, digest⟩
    · have oldType : old.gateType = workflowConfigPublishGateType := (congrArg GateCore.gateType core).symm.trans type
      have item : row.workItemId = old.workItemId := congrArg GateCore.workItemId core
      obtain ⟨owner, owned, owns, status, passed, digest⟩ := governed.reviewed old stored oldType
      by_cases same : owner.id = version.id
      · obtain rfl := governed.version_of_id owned member same
        exact sealed_ ⟨type, item.trans owns⟩ ((kept oldType).trans digest)
      · exact ⟨owner, put_version_other owned (fun back => same (back.trans id)), item.trans owns, status, passed,
          (kept oldType).trans digest⟩
    · exact sealed_ reviews digest
  gated row present gateId pointed := by
    rcases mem_put_version present with rfl | ⟨old, _⟩
    · rcases review gateId pointed with before | ⟨gate, stored, key, reviews⟩
      · obtain ⟨gate, stored, key, reviews⟩ := governed.gated version member gateId before
        obtain ⟨kept, there, core⟩ := cores gate stored
        have reviewed := reviews.of_core core
        exact ⟨kept, there, (id_of_core core).trans key, reviewed.type, reviewed.item.trans id.symm⟩
      · exact ⟨gate, stored, key, reviews.type, reviews.item.trans id.symm⟩
    · obtain ⟨gate, stored, key, reviews⟩ := governed.gated row old gateId pointed
      obtain ⟨kept, there, core⟩ := cores gate stored
      exact ⟨kept, there, (id_of_core core).trans key, reviews.of_core core⟩
  linted row present published := by
    rcases mem_put_version present with rfl | ⟨old, _⟩
    · exact linted published
    · exact governed.linted row old published
  oneActive := governed.oneActive
  active definition defined live := by
    obtain ⟨owner, owned, points, published⟩ := governed.active definition defined live
    by_cases same : owner.id = version.id
    · obtain rfl := governed.version_of_id owned member same
      obtain ⟨status, pointer⟩ := active published definition defined live points
      exact ⟨next, put_version_self member id.symm, pointer.trans points, status⟩
    · exact ⟨owner, put_version_other owned (fun back => same (back.trans id)), points, published⟩

theorem Governed.decided (governed : Governed computeConfigHash desk) (rows : ∀ row ∈ gates, SealedFrom desk.gates row)
    (keys : gates.map Gate.id = desk.gates.map Gate.id) : Governed computeConfigHash { desk with gates } where
  versionIds := governed.versionIds
  definitionIds := governed.definitionIds
  gateIds := by
    unfold Table.Unique
    rw [keys]
    exact governed.gateIds
  hashes := governed.hashes
  reviewed row present type := by
    obtain ⟨old, stored, core, kept⟩ := rows row present
    have oldType : old.gateType = workflowConfigPublishGateType := (congrArg GateCore.gateType core).symm.trans type
    obtain ⟨owner, owned, owns, status, passed, digest⟩ := governed.reviewed old stored oldType
    exact ⟨owner, owned, (congrArg GateCore.workItemId core).trans owns, status, passed, (kept oldType).trans digest⟩
  gated version member gateId pointed := by
    obtain ⟨gate, stored, key, reviews⟩ := governed.gated version member gateId pointed
    have name : gateId ∈ gates.map Gate.id := by
      rw [keys]
      exact List.mem_map.mpr ⟨gate, stored, key⟩
    obtain ⟨row, present, same⟩ := List.mem_map.mp name
    obtain ⟨old, there, core, _⟩ := rows row present
    obtain rfl := row_of_id governed.gateIds there stored ((id_of_core core).symm.trans (same.trans key.symm))
    exact ⟨row, present, same, reviews.of_core core⟩
  linted := governed.linted
  oneActive := governed.oneActive
  active := governed.active

/-- The version has passed the lint and is published behind a passed review gate
that carries the digest of its config. -/
def Approved (computeConfigHash : Json → String) (desk : ConfigDesk) (version : LineVersion) : Prop :=
  lintConfig version.config = .ok [] ∧ ∃ gate ∈ desk.gates, version.reviewGateId = some gate.id ∧
    (gate.status = .approved ∨ gate.status = .autoPassed) ∧
      gate.facts.text "config_hash" = some (computeConfigHash version.config)

def Publishes (computeConfigHash : Json → String) (before after : ConfigDesk) : Prop :=
  ∀ version ∈ after.versions, version.status = .published →
    (∃ old ∈ before.versions, old.id = version.id ∧ old.status = .published) ∨
      Approved computeConfigHash after version

theorem Publishes.keep (kept : ∀ row ∈ after.versions, row.status = .published → row ∈ desk.versions ∨
    ∃ old ∈ desk.versions, old.id = row.id ∧ old.status = .published) : Publishes computeConfigHash desk after := by
  intro row present published
  rcases kept row present published with same | older
  · exact .inl ⟨row, same, rfl, published⟩
  · exact .inl older

theorem retire_id (definition : LineDefinition) (version : LineVersion) (now : Nat) :
    (definition.retire version now).id = definition.id := by
  unfold LineDefinition.retire
  split <;> rfl

theorem retire_active {definition : LineDefinition} {now : Nat} (live : (definition.retire version now).isActive = true) :
    definition.retire version now = definition ∧ definition.line ≠ version.line := by
  unfold LineDefinition.retire at live ⊢
  split at live
  · cases live
  next other =>
    refine ⟨if_neg other, fun same => other ?_⟩
    simp only [LineDefinition.line, LineVersion.line, Prod.mk.injEq] at same
    exact ⟨same.1, same.2.1, same.2.2, live⟩

theorem Governed.define (governed : Governed computeConfigHash desk) (member : version ∈ desk.versions)
    (published : version.status = .published) {definitionId : Uuid} (points : version.lineDefinitionId = some definitionId)
    (fresh : ∀ definition ∈ desk.definitions, definition.id ≠ definitionId) (origin : LineVersion) (now : Nat) :
    Governed computeConfigHash { desk with
      definitions := (desk.definitions.map fun definition => definition.retire origin now) ++
        [origin.define definitionId now] } where
  versionIds := governed.versionIds
  definitionIds := by
    have keys : (desk.definitions.map fun definition => definition.retire origin now).map LineDefinition.id =
        desk.definitions.map LineDefinition.id := by
      rw [List.map_map]
      apply List.map_congr_left
      exact fun definition _ => retire_id definition origin now
    apply Keyed.nodup_append
    · rw [keys]
      exact governed.definitionIds
    · intro old present
      obtain ⟨definition, defined, rfl⟩ := List.mem_map.mp present
      rw [retire_id]
      exact fresh definition defined
  gateIds := governed.gateIds
  hashes := governed.hashes
  reviewed := governed.reviewed
  gated := governed.gated
  linted := governed.linted
  oneActive left first right second leftLive rightLive same := by
    have standing : ∀ definition ∈ desk.definitions.map fun definition => definition.retire origin now,
        definition.isActive = true → definition ∈ desk.definitions ∧ definition.line ≠ origin.line := by
      intro definition present live
      obtain ⟨old, defined, rfl⟩ := List.mem_map.mp present
      obtain ⟨unchanged, other⟩ := retire_active live
      rw [unchanged]
      exact ⟨defined, other⟩
    have new : (origin.define definitionId now).line = origin.line := rfl
    rcases List.mem_append.mp first with old | added
    · obtain ⟨leftDefined, leftOther⟩ := standing left old leftLive
      rcases List.mem_append.mp second with older | added
      · exact governed.oneActive left leftDefined right (standing right older rightLive).1 leftLive rightLive same
      · obtain rfl := List.mem_singleton.mp added
        exact absurd (same.trans new) leftOther
    · obtain rfl := List.mem_singleton.mp added
      rcases List.mem_append.mp second with older | added
      · exact absurd (same.symm.trans new) (standing right older rightLive).2
      · exact (List.mem_singleton.mp added).symm
  active definition present live := by
    rcases List.mem_append.mp present with old | added
    · obtain ⟨former, defined, rfl⟩ := List.mem_map.mp old
      obtain ⟨unchanged, _⟩ := retire_active live
      rw [unchanged] at live ⊢
      exact governed.active former defined live
    · obtain rfl := List.mem_singleton.mp added
      exact ⟨version, member, points, published⟩

/-- Publication behind the review gate of the version keeps the tables in
agreement, and what it publishes is approved. -/
theorem Governed.publish (governed : Governed computeConfigHash desk) (member : version ∈ desk.versions) {gate : Gate}
    (present : gate ∈ desk.gates) (pointed : version.reviewGateId = some gate.id) {resolverId : Option Uuid} {auto : Bool}
    {definitionId : Uuid} {now : Nat}
    (completed : completePublish desk version gate resolverId auto definitionId now = .ok after) :
    Governed computeConfigHash after ∧ Publishes computeConfigHash desk after := by
  obtain ⟨stored, there, key, reviews⟩ := governed.gated version member gate.id pointed
  obtain rfl := row_of_id governed.gateIds there present key
  obtain ⟨reviewedStatus, passed, digest⟩ := governed.review member present reviews
  have hash := governed.hashes version member
  unfold completePublish at completed
  split at completed
  · cases completed
  next passing =>
    split at completed
    · cases completed
    split at completed
    · cases completed
    split at completed
    · cases completed
      exact ⟨governed, .keep fun row old _ => .inl old⟩
    next unpublished =>
      split at completed
      · cases completed
      next fresh =>
        cases completed
        have stands : ∀ old ∈ desk.gates, ∃ row ∈ desk.gates, row.core = old.core := fun old here => ⟨old, here, rfl⟩
        have sealed_ : ∀ row ∈ desk.gates, SealedFrom desk.gates row ∨
            (Reviews version row ∧ row.facts.text "config_hash" = some version.configHash) :=
          fun row here => .inl (SealedFrom.start row here)
        have keeps : ∀ row ∈ desk.gates, Reviews version row →
            (version.publish resolverId definitionId now).status ≠ .draft ∧ lintConfig version.config = .ok [] ∧
              version.configHash = version.configHash :=
          fun _ _ _ => ⟨nofun, passed, rfl⟩
        have replaced : Governed computeConfigHash (desk.putVersion (version.publish resolverId definitionId now)) :=
          governed.put member rfl hash governed.gateIds stands sealed_ keeps (fun gateId before => .inl before)
            (fun _ => passed) fun published => absurd published unpublished
        have self : version.publish resolverId definitionId now ∈
            (desk.putVersion (version.publish resolverId definitionId now)).versions := put_version_self member rfl
        have free : ∀ definition ∈ desk.definitions, definition.id ≠ definitionId := by simpa using fresh
        refine ⟨replaced.define self rfl rfl free version now, fun row there published => ?_⟩
        rcases mem_put_version there with rfl | ⟨old, _⟩
        · refine .inr ⟨passed, stored, present, pointed, ?_, digest.trans (congrArg some hash)⟩
          by_cases approved : stored.status = .approved
          · exact .inl approved
          · exact .inr (not_not.mp fun other => passing ⟨approved, other⟩)
        · exact .inl ⟨row, old, rfl, published⟩

theorem Governed.amend (governed : Governed computeConfigHash desk) (member : version ∈ desk.versions)
    (id : next.id = version.id) (config : next.config = version.config) (hash : next.configHash = version.configHash)
    (review : next.reviewGateId = version.reviewGateId) (draft : version.status ≠ .draft → next.status ≠ .draft)
    (published : next.status = .published → version.status = .published)
    (active : version.status = .published → ∀ definition ∈ desk.definitions, definition.isActive = true →
      version.lineDefinitionId = some definition.id →
        next.status = .published ∧ next.lineDefinitionId = version.lineDefinitionId) :
    Governed computeConfigHash (desk.putVersion next) ∧ Publishes computeConfigHash desk (desk.putVersion next) := by
  have digest : next.configHash = computeConfigHash next.config := by
    rw [hash, config]
    exact governed.hashes version member
  have stands : ∀ old ∈ desk.gates, ∃ row ∈ desk.gates, row.core = old.core := fun old here => ⟨old, here, rfl⟩
  have sealed_ : ∀ row ∈ desk.gates, SealedFrom desk.gates row ∨
      (Reviews version row ∧ row.facts.text "config_hash" = some version.configHash) :=
    fun row here => .inl (SealedFrom.start row here)
  have keeps : ∀ row ∈ desk.gates, Reviews version row →
      next.status ≠ .draft ∧ lintConfig next.config = .ok [] ∧ next.configHash = version.configHash := by
    intro row here reviews
    obtain ⟨status, passed, _⟩ := governed.review member here reviews
    exact ⟨draft status, config ▸ passed, hash⟩
  have linted : next.status = .published → lintConfig next.config = .ok [] := by
    intro status
    rw [config]
    exact governed.linted version member (published status)
  refine ⟨governed.put member id digest governed.gateIds stands sealed_ keeps (fun gateId pointed => .inl (review ▸ pointed))
    linted active, .keep fun row present status => ?_⟩
  rcases mem_put_version present with rfl | ⟨old, _⟩
  · exact .inr ⟨version, member, id.symm, published status⟩
  · exact .inl old

theorem version_found (found : desk.version orgId versionId = some version) :
    version ∈ desk.versions ∧ version.orgId = orgId := by
  have selected := List.find?_some found
  simp only [Bool.and_eq_true, beq_iff_eq] at selected
  exact ⟨List.mem_of_find?_eq_some found, selected.2⟩

theorem transition_version_spec {newStatus : VersionStatus} (moved : transitionVersion version newStatus = .ok next) :
    next = { version with status := newStatus } ∧ isValidVersionTransition version.status newStatus = true := by
  unfold transitionVersion at moved
  split at moved
  next valid =>
    cases moved
    exact ⟨rfl, valid⟩
  · cases moved

theorem lint_spec {config : Json} {errors : List LintError} (checked : lint config = .ok errors) :
    lintConfig config = .ok errors := by
  unfold lint at checked
  cases linted : lintConfig config with
  | error failure =>
    rw [linted] at checked
    cases checked
  | ok found =>
    rw [linted] at checked
    cases checked
    rfl

theorem map_error_ok {α err other : Type} {result : Except err α} {convert : err → other} {value : α}
    (succeeded : result.mapError convert = .ok value) : result = .ok value := by
  cases result with
  | error failure => cases succeeded
  | ok found =>
    cases succeeded
    rfl

theorem Governed.createDraft (governed : Governed computeConfigHash desk) {projectId : Option Uuid} {entityType : String}
    {config : Json} {createdBy : Uuid}
    (created : Lines.createDraft computeConfigHash desk versionId orgId projectId entityType config createdBy = .ok after) :
    Governed computeConfigHash after ∧ Publishes computeConfigHash desk after := by
  unfold Lines.createDraft at created
  obtain ⟨errors, _, created⟩ := Runs.bind_ok created
  split at created
  · cases created
  next fresh =>
    cases created
    have absent : ∀ old ∈ desk.versions, old.id ≠ versionId := by simpa using fresh
    refine ⟨?_, fun row present published => ?_⟩
    · refine ⟨Keyed.nodup_append governed.versionIds absent, governed.definitionIds, governed.gateIds,
        fun row present => ?_, fun gate present type => ?_, fun row present gateId pointed => ?_,
        fun row present published => ?_, governed.oneActive, fun definition defined live => ?_⟩
      · rcases List.mem_append.mp present with old | new
        · exact governed.hashes row old
        · rw [List.mem_singleton.mp new]
      · obtain ⟨owner, owned, review⟩ := governed.reviewed gate present type
        exact ⟨owner, List.mem_append_left _ owned, review⟩
      · rcases List.mem_append.mp present with old | new
        · exact governed.gated row old gateId pointed
        · rw [List.mem_singleton.mp new] at pointed
          cases pointed
      · rcases List.mem_append.mp present with old | new
        · exact governed.linted row old published
        · rw [List.mem_singleton.mp new] at published
          cases published
      · obtain ⟨owner, owned, serves⟩ := governed.active definition defined live
        exact ⟨owner, List.mem_append_left _ owned, serves⟩
    · rcases List.mem_append.mp present with old | new
      · exact .inl ⟨row, old, rfl, published⟩
      · rw [List.mem_singleton.mp new] at published
        cases published

theorem Governed.updateDraft (governed : Governed computeConfigHash desk) (member : version ∈ desk.versions)
    {config : Json} (updated : updateDraftConfig computeConfigHash desk version config = .ok after) :
    Governed computeConfigHash after ∧ Publishes computeConfigHash desk after := by
  unfold updateDraftConfig at updated
  split at updated
  · cases updated
  next draft =>
    have open_ : version.status = .draft := not_not.mp draft
    obtain ⟨errors, _, updated⟩ := Runs.bind_ok updated
    cases updated
    have stands : ∀ old ∈ desk.gates, ∃ row ∈ desk.gates, row.core = old.core := fun old here => ⟨old, here, rfl⟩
    have sealed_ : ∀ row ∈ desk.gates, SealedFrom desk.gates row ∨
        (Reviews version row ∧ row.facts.text "config_hash" = some version.configHash) :=
      fun row here => .inl (SealedFrom.start row here)
    refine ⟨governed.put member rfl rfl governed.gateIds stands sealed_ (fun row here reviews => ?_)
      (fun gateId before => .inl before) (fun published => ?_) (fun published => ?_), .keep fun row present published => ?_⟩
    · exact absurd open_ (governed.review member here reviews).1
    · exact absurd (open_.symm.trans published) (by decide)
    · exact absurd (open_.symm.trans published) (by decide)
    · rcases mem_put_version present with rfl | ⟨old, _⟩
      · exact absurd (open_.symm.trans published) (by decide)
      · exact .inl old

theorem Governed.review_requested (governed : Governed computeConfigHash desk) (member : version ∈ desk.versions)
    (unpublished : version.status ≠ .published) (passed : lintConfig version.config = .ok []) {waiting : LineVersion}
    {memberId gateId : Uuid} {disposition : Disposition} {now : Nat} {gate : Gate}
    (created : createGate desk.gates (publishRequest waiting memberId gateId) disposition now = .ok (gates, gate))
    (id : waiting.id = version.id) (config : waiting.config = version.config)
    (hash : waiting.configHash = version.configHash) (status : waiting.status = .pendingReview) :
    Governed computeConfigHash { desk.putVersion { waiting with reviewGateId := some gate.id } with gates } ∧
      gate ∈ gates := by
  obtain ⟨present, reviews, cores, rows⟩ := request_gates governed.gateIds created
  have of_waiting : ∀ {row : Gate}, Reviews waiting row → Reviews version row :=
    fun reviews => ⟨reviews.type, reviews.item.trans id⟩
  have digest : waiting.configHash = computeConfigHash waiting.config := by
    rw [hash, config]
    exact governed.hashes version member
  refine ⟨governed.put member id digest ((create_grown created).unique governed.gateIds) cores (fun row here => ?_)
    (fun row here _ => ?_) (fun key pointed => ?_) (fun published => ?_) (fun published => absurd published unpublished), present⟩
  · rcases rows row here with kept | ⟨owned, seal_⟩
    · exact .inl kept
    · exact .inr ⟨of_waiting owned, seal_.trans (congrArg some hash)⟩
  · exact ⟨by simp [status], by rw [config]; exact passed, hash⟩
  · exact .inr ⟨gate, present, Option.some.inj pointed, of_waiting reviews⟩
  · exact absurd (status.symm.trans published) (by decide)

theorem submit_spec (submitted : submitForReview version = .ok next) :
    next = { version with status := .pendingReview } ∧ version.status ≠ .published := by
  unfold submitForReview at submitted
  split at submitted
  · cases submitted
  next requestable =>
    refine ⟨?_, fun published => requestable (by simp [published])⟩
    split at submitted
    next already =>
      cases submitted
      rw [← already]
    · exact (transition_version_spec submitted).1

theorem Governed.requestPublish (governed : Governed computeConfigHash desk) (member : version ∈ desk.versions)
    {memberId gateId definitionId : Uuid} {disposition : Disposition} {now : Nat}
    (requested : Lines.requestPublish desk version memberId disposition gateId definitionId now = .ok after) :
    Governed computeConfigHash after ∧ Publishes computeConfigHash desk after := by
  unfold Lines.requestPublish at requested
  obtain ⟨errors, checked, requested⟩ := Runs.bind_ok requested
  dsimp only at requested
  split at requested
  · cases requested
    exact governed.amend member rfl rfl rfl rfl id id fun published _ _ _ _ => ⟨published, rfl⟩
  next clean =>
    have passed : lintConfig version.config = .ok [] := by
      rw [lint_spec checked]
      simpa using clean
    obtain ⟨waiting, submitted, requested⟩ := Runs.bind_ok requested
    obtain ⟨rfl, unpublished⟩ := submit_spec submitted
    obtain ⟨⟨gates, gate⟩, created, requested⟩ := Runs.bind_ok requested
    obtain ⟨reviewed, present⟩ := governed.review_requested member unpublished passed (map_error_ok created) rfl rfl rfl rfl
    dsimp only at requested
    split at requested
    · obtain ⟨published, approved⟩ := reviewed.publish (put_version_self member rfl) present rfl requested
      refine ⟨published, fun row there status => ?_⟩
      rcases approved row there status with ⟨old, before, key, earlier⟩ | approved
      · rcases mem_put_version before with rfl | ⟨older, _⟩
        · cases earlier
        · exact .inl ⟨old, older, key, earlier⟩
      · exact .inr approved
    · cases requested
      refine ⟨reviewed, .keep fun row there status => ?_⟩
      rcases mem_put_version there with rfl | ⟨old, _⟩
      · cases status
      · exact .inl old

theorem Governed.approvePublish (governed : Governed computeConfigHash desk) (member : version ∈ desk.versions)
    {drafts : Drafts} {resolverId definitionId : Uuid} {now : Nat}
    (approved : Lines.approvePublish desk drafts version resolverId definitionId now = .ok after) :
    Governed computeConfigHash after ∧ Publishes computeConfigHash desk after := by
  unfold Lines.approvePublish at approved
  split at approved
  · cases approved
  next gateId pointed =>
    split at approved
    · cases approved
    next gate found =>
      split at approved
      · cases approved
      obtain ⟨⟨gates, decided, commands⟩, transition, completed⟩ := Runs.bind_ok approved
      have transition := map_error_ok transition
      have key : gate.id = gateId := by
        have selected := List.find?_some found
        simp only [Bool.and_eq_true, beq_iff_eq] at selected
        exact selected.1
      obtain ⟨stored, there, same, reviews⟩ := governed.gated version member gateId pointed
      obtain rfl := row_of_id governed.gateIds there (Table.lookup_mem found) (same.trans key.symm)
      have other : stored.gateType ≠ .externalPublish := by
        rw [reviews.type]
        decide
      obtain ⟨resolved, written⟩ := transition_other found other transition
      have name : decided.id = stored.id := by
        rw [resolved]
        exact Gate.setStatus_id stored .approved now
      have present : decided ∈ gates := by
        rw [written]
        exact List.mem_map.mpr ⟨stored, there, if_pos name.symm⟩
      have standing := governed.decided (transition_sealed transition).1 (transition_ids transition)
      exact standing.publish member present (by rw [pointed, name, key]) completed

theorem Governed.rejectPublish (governed : Governed computeConfigHash desk) (member : version ∈ desk.versions)
    {drafts : Drafts} {resolverId : Uuid} {reason : String} {now : Nat}
    (rejected : Lines.rejectPublish desk drafts version resolverId reason now = .ok after) :
    Governed computeConfigHash after ∧ Publishes computeConfigHash desk after := by
  unfold Lines.rejectPublish at rejected
  obtain ⟨next, moved, rejected⟩ := Runs.bind_ok rejected
  obtain ⟨rfl, valid⟩ := transition_version_spec moved
  cases rejected
  have unpublished : version.status ≠ .published := by
    intro published
    rw [published] at valid
    cases valid
  have decided : Governed computeConfigHash { desk with gates := rejectReview desk drafts version resolverId reason now } := by
    unfold rejectReview
    split
    · exact governed
    · split
      next transition => exact governed.decided (transition_sealed transition).1 (transition_ids transition)
      · exact governed
  exact decided.amend member rfl rfl rfl rfl (fun _ => nofun) nofun fun published => absurd published unpublished

/-- The version is published for a definition that is still active. -/
def ConfigDesk.serves (desk : ConfigDesk) (version : LineVersion) : Bool :=
  version.status == .published &&
    desk.definitions.any fun definition => definition.isActive && version.lineDefinitionId == some definition.id

theorem Governed.retire (governed : Governed computeConfigHash desk) (member : version ∈ desk.versions)
    (idle : desk.serves version = false) (retired : retireVersion desk version = .ok after) :
    Governed computeConfigHash after ∧ Publishes computeConfigHash desk after := by
  unfold retireVersion at retired
  obtain ⟨next, moved, retired⟩ := Runs.bind_ok retired
  obtain ⟨rfl, _⟩ := transition_version_spec moved
  cases retired
  have unserved : version.status = .published → ∀ definition ∈ desk.definitions, definition.isActive = true →
      version.lineDefinitionId ≠ some definition.id := by
    intro published definition defined live pointed
    have serving : desk.serves version = true := by
      simp only [ConfigDesk.serves, published, Bool.and_eq_true, beq_self_eq_true, List.any_eq_true, true_and]
      exact ⟨definition, defined, live, by simp [pointed]⟩
    rw [serving] at idle
    cases idle
  exact governed.amend member rfl rfl rfl rfl (fun _ => nofun) nofun fun published definition defined live pointed =>
    absurd pointed (unserved published definition defined live)

end Steps

namespace ConfigEvent

/-- The call retires no version whose definition is still active. -/
def keepsLine (desk : ConfigDesk) : ConfigEvent → Bool
  | .retire orgId versionId => (desk.version orgId versionId).all fun version => !desk.serves version
  | _ => true

theorem attempt_governed {computeConfigHash : Json → String} {desk after : ConfigDesk} {event : ConfigEvent}
    (governed : Governed computeConfigHash desk) (kept : event.keepsLine desk = true)
    (executed : event.attempt computeConfigHash desk = .ok after) :
    Governed computeConfigHash after ∧ Publishes computeConfigHash desk after := by
  have named : ∀ {orgId versionId : Uuid} {operation : LineVersion → Except ConfigError ConfigDesk},
      on desk orgId versionId operation = .ok after →
        ∃ version ∈ desk.versions, desk.version orgId versionId = some version ∧ operation version = .ok after := by
    intro orgId versionId operation applied
    unfold on at applied
    split at applied
    · cases applied
    next version found => exact ⟨version, (version_found found).1, found, applied⟩
  cases event with
  | createDraft versionId orgId projectId entityType config createdBy => exact governed.createDraft executed
  | updateDraft orgId versionId config =>
    obtain ⟨version, member, _, updated⟩ := named executed
    exact governed.updateDraft member updated
  | requestPublish orgId versionId memberId disposition gateId definitionId now =>
    obtain ⟨version, member, _, requested⟩ := named executed
    exact governed.requestPublish member requested
  | approvePublish drafts orgId versionId resolverId definitionId now =>
    obtain ⟨version, member, _, approved⟩ := named executed
    exact governed.approvePublish member approved
  | rejectPublish drafts orgId versionId resolverId reason now =>
    obtain ⟨version, member, _, rejected⟩ := named executed
    exact governed.rejectPublish member rejected
  | retire orgId versionId =>
    obtain ⟨version, member, found, retired⟩ := named executed
    have idle : desk.serves version = false := by simpa [keepsLine, found] using kept
    exact governed.retire member idle retired
  | gateDecision operation =>
    have still : ∀ gates, Publishes computeConfigHash desk { desk with gates } := fun gates => .keep fun row old _ => .inl old
    simp only [attempt] at executed
    split at executed
    next decides =>
      cases executed
      refine ⟨?_, still _⟩
      unfold GateOperation.step Runs.settle
      split
      next gates decided =>
        obtain ⟨rows, keys⟩ := decision_sealed decides decided
        exact governed.decided rows keys
      · exact governed
    · cases executed
      exact ⟨governed, still desk.gates⟩

end ConfigEvent

/-- What the config tables promise after each step: the newly published versions
are approved, no line has two active definitions, and the config that an active
definition resolves to is never empty. -/
structure LineLaw (computeConfigHash : Json → String) (before after : ConfigDesk) : Prop where
  publishes : Publishes computeConfigHash before after
  oneActive : ∀ left ∈ after.definitions, ∀ right ∈ after.definitions,
    left.isActive = true → right.isActive = true → left.line = right.line → left = right
  published : ∀ definition ∈ after.definitions, definition.isActive = true →
    (∃ version ∈ after.versions, version.lineDefinitionId = some definition.id ∧ version.status = .published) ∧
      (publishedConfig after.versions definition).truthy = true

/-- The config of an active definition is that of a published version, which has passed the lint. -/
theorem Governed.config {computeConfigHash : Json → String} {desk : ConfigDesk} (governed : Governed computeConfigHash desk)
    {definition : LineDefinition} (defined : definition ∈ desk.definitions) (live : definition.isActive = true) :
    (publishedConfig desk.versions definition).truthy = true := by
  obtain ⟨version, member, points, published⟩ := governed.active definition defined live
  have candidate : version ∈ (desk.versions.filter fun version =>
      version.lineDefinitionId == some definition.id && version.status == .published).insertionSort
        fun a b => b.version ≤ a.version := by
    rw [List.mem_insertionSort, List.mem_filter]
    exact ⟨member, by simp [points, published]⟩
  unfold publishedConfig
  dsimp only
  split
  next selected first =>
    have chosen := List.mem_of_mem_head? first
    rw [List.mem_insertionSort, List.mem_filter] at chosen
    simp only [Bool.and_eq_true, beq_iff_eq] at chosen
    obtain ⟨isObj, truthy⟩ := lint_passed_config (governed.linted selected chosen.1 chosen.2.2)
    unfold Json.asObj
    rw [if_pos isObj]
    exact truthy
  next missing =>
    rw [List.head?_eq_none_iff.mp missing] at candidate
    cases candidate

theorem Governed.opened (computeConfigHash : Json → String) : Governed computeConfigHash ConfigDesk.opened where
  versionIds := List.nodup_nil
  definitionIds := List.nodup_nil
  gateIds := List.nodup_nil
  hashes _ member := absurd member List.not_mem_nil
  reviewed _ member := absurd member List.not_mem_nil
  gated _ member := absurd member List.not_mem_nil
  linted _ member := absurd member List.not_mem_nil
  oneActive _ member := absurd member List.not_mem_nil
  active _ member := absurd member List.not_mem_nil

/-- In every run that retires no version whose definition is still active, each
step keeps the law of published lines. -/
theorem published_line_approved (computeConfigHash : Json → String) (events : List ConfigEvent)
    (kept : Runs.Throughout (ConfigEvent.step computeConfigHash) (fun desk event => event.keepsLine desk = true)
      ConfigDesk.opened events) :
    Runs.Throughout (ConfigEvent.step computeConfigHash)
      (fun desk event => LineLaw computeConfigHash desk (ConfigEvent.step computeConfigHash desk event))
      ConfigDesk.opened events := by
  have law : ∀ desk (event : ConfigEvent), event.keepsLine desk = true → Governed computeConfigHash desk →
      Governed computeConfigHash (ConfigEvent.step computeConfigHash desk event) ∧
        Publishes computeConfigHash desk (ConfigEvent.step computeConfigHash desk event) := by
    intro desk event guard governed
    unfold ConfigEvent.step Runs.settle
    split
    next after executed => exact ConfigEvent.attempt_governed governed guard executed
    · exact ⟨governed, .keep fun row old _ => .inl old⟩
  refine kept.carry (fun desk event guard governed => (law desk event guard governed).1)
    (Governed.opened computeConfigHash) fun desk event guard governed => ?_
  obtain ⟨after, publishes⟩ := law desk event guard governed
  exact ⟨publishes, after.oneActive, fun definition defined live =>
    ⟨after.active definition defined live, after.config defined live⟩⟩

section Samples

def sampleLineConfig : Json :=
  .obj [("rollout_mode", .str "enforcing"),
    ("steps", .arr [.obj [("step_type", .str "advisory"), ("to_status", .str "done")]])]

/-- A config that is drafted, sent to review and approved by another member. -/
def samplePublication : List ConfigEvent :=
  [.createDraft 1 2 none "doc" sampleLineConfig 3, .requestPublish 2 1 3 .ask 4 5 100, .approvePublish .empty 2 1 6 7 200]

end Samples

/-- A second version replaces the published one, and the first may then be retired. -/
theorem published_line_approved_sample :
    Runs.Throughout (ConfigEvent.step fun _ => "digest")
      (fun desk event => LineLaw (fun _ => "digest") desk (ConfigEvent.step (fun _ => "digest") desk event)) ConfigDesk.opened
      (samplePublication ++ [.createDraft 11 2 none "doc" sampleLineConfig 3, .requestPublish 2 11 3 .ask 14 15 300,
        .approvePublish .empty 2 11 6 17 400, .retire 2 1]) := by
  apply published_line_approved
  decide +kernel

/-- Retiring the published version leaves its definition active without a config. -/
theorem retired_version_empties_line :
    ¬ Runs.Throughout (ConfigEvent.step fun _ => "digest")
      (fun desk event => LineLaw (fun _ => "digest") desk (ConfigEvent.step (fun _ => "digest") desk event)) ConfigDesk.opened
      (samplePublication ++ [.retire 2 1]) := by
  intro law
  obtain ⟨-, last, -⟩ := Runs.Throughout.append.mp law
  have empty : (Runs.final (ConfigEvent.step fun _ => "digest") ConfigDesk.opened
      (samplePublication ++ [.retire 2 1])).definitions.any (fun definition => definition.isActive &&
        !(publishedConfig (Runs.final (ConfigEvent.step fun _ => "digest") ConfigDesk.opened
          (samplePublication ++ [.retire 2 1])).versions definition).truthy) = true := by
    decide +kernel
  obtain ⟨definition, defined, shape⟩ := List.any_eq_true.mp empty
  simp only [Bool.and_eq_true, Bool.not_eq_true'] at shape
  rw [Runs.final_append] at defined shape
  have full := (last.published definition defined shape.1).2
  exact Bool.false_ne_true (shape.2.symm.trans full)

end Sprintable.Lines
