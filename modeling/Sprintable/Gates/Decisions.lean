import Sprintable.Gates.ResolutionFields

/-! One rule for everything a human decision does to gate rows: the decided
gate, its note and its facts, and the destination gate that the cascade decides
with it. A property of rows is carried through a decision by checking these
four changes. -/

namespace Sprintable.Gates

/-- A property of gate rows that a decision for `newStatus` taken at `now` keeps. -/
structure Resolvable (newStatus : GateStatus) (now : Nat) (valid : Gate → Prop) : Prop where
  resolve : ∀ gate resolverId note, isValidTransition gate.status newStatus = true → valid gate →
    valid (gate.resolve newStatus resolverId note now)
  note : ∀ gate note, valid gate → valid (gate.appendNote note)
  mark : ∀ gate facts, gate.gateType = .externalPublish → valid gate → valid { gate with neutralFacts := facts }
  cascade : ∀ target recipe note, newStatus = .approved ∨ newStatus = .rejected → target.status = .pending →
    valid target → valid (target.cascadeFrom recipe newStatus note now)

section Preservation
variable {valid : Gate → Prop} {drafts : Drafts} {table after : Table} {gate : Gate} {now : Nat}

theorem command_hook_cases (drafts : Drafts) (gate : Gate) (resolverId : Option Uuid) :
    (maybeCreateScheduledPublicationCommand drafts gate resolverId).1 = gate ∨
    ∃ note, (maybeCreateScheduledPublicationCommand drafts gate resolverId).1 = gate.appendNote note := by
  unfold maybeCreateScheduledPublicationCommand
  dsimp only
  repeat' split
  all_goals first | exact .inl rfl | exact .inr ⟨_, rfl⟩

theorem command_hook_preserves {newStatus : GateStatus} (stable : Resolvable newStatus now valid) (drafts : Drafts)
    (kept : valid gate) (resolverId : Option Uuid) :
    valid (maybeCreateScheduledPublicationCommand drafts gate resolverId).1 := by
  rcases command_hook_cases drafts gate resolverId with same | ⟨note, noted⟩
  · rw [same]
    exact kept
  · rw [noted]
    exact stable.note gate note kept

theorem seal_cases {reviewedDraft sealedDraft : Option (Uuid × Nat)} {marked : Gate}
    (sealed_ : sealRecipeApprovedDraft drafts gate reviewedDraft = .ok (marked, sealedDraft)) :
    marked = gate ∨ ∃ facts, marked = { gate with neutralFacts := facts } := by
  unfold sealRecipeApprovedDraft at sealed_
  repeat' split at sealed_
  all_goals cases sealed_
  all_goals first | exact .inl rfl | exact .inr ⟨_, rfl⟩

theorem sole_pending_spec {orgId workItemId : Uuid} {workItemType : String}
    (found : findSolePendingScopedExternalPublishGate table orgId workItemId workItemType = some gate) :
    gate ∈ table ∧ gate.scopedExternalPublish orgId workItemId workItemType = true ∧ gate.status = .pending := by
  unfold findSolePendingScopedExternalPublishGate at found
  split at found
  next sole alone =>
    cases found
    have member : gate ∈ table.filter fun gate =>
        gate.scopedExternalPublish orgId workItemId workItemType && gate.status == .pending := by
      rw [alone]
      exact List.mem_singleton.mpr rfl
    have selected := List.mem_filter.mp member
    simp only [Bool.and_eq_true, beq_iff_eq] at selected
    exact ⟨selected.1, selected.2.1, selected.2.2⟩
  · cases found

theorem cascade_target_spec {orgId workItemId : Uuid} {workItemType : String} {sealedDraft : Uuid × Nat}
    (found : recipeApprovalCascadeTarget table orgId workItemId workItemType sealedDraft = some gate) :
    findSolePendingScopedExternalPublishGate table orgId workItemId workItemType = some gate ∧
    gate.facts.text "draft_id" = some (PyText.uuidText sealedDraft.1) ∧
    gate.sealedContentVersion = some sealedDraft.2 ∧ hasOtherLiveDestination table gate = false := by
  unfold recipeApprovalCascadeTarget at found
  split at found
  · cases found
  next sole selected =>
    split at found
    · cases found
    next draft =>
      split at found
      · cases found
      next version =>
        split at found
        · cases found
        next alone =>
          cases found
          exact ⟨selected, not_not.mp draft, not_not.mp version, by simpa using alone⟩

theorem approve_cascade_preserves (stable : Resolvable .approved now valid) (kept : ∀ row ∈ table, valid row)
    (decided : valid gate) {resolverId : Option Uuid} {reviewedDraft : Option (Uuid × Nat)} {marked : Gate}
    {commands : List CommandRequest}
    (executed : approveCascade drafts table gate resolverId reviewedDraft now = .ok (after, marked, commands)) :
    (∀ row ∈ after, valid row) ∧ valid marked := by
  unfold approveCascade at executed
  split at executed
  next publishes =>
    obtain ⟨⟨facts, sealedDraft⟩, sealed_, executed⟩ := Runs.bind_ok executed
    have new : valid facts := by
      rcases seal_cases sealed_ with rfl | ⟨_, rfl⟩
      · exact decided
      · exact stable.mark _ _ publishes.1 decided
    have updated := put_preserves kept new
    dsimp only at executed
    split at executed
    · cases executed
      exact ⟨updated, new⟩
    next target selected =>
      cases executed
      obtain ⟨selected, -⟩ := Option.filter_eq_some_iff.mp selected
      obtain ⟨draft, -, selected⟩ := Option.bind_eq_some_iff.mp selected
      obtain ⟨sole, -, -, -⟩ := cascade_target_spec selected
      obtain ⟨member, -, waiting⟩ := sole_pending_spec sole
      refine ⟨put_preserves updated (command_hook_preserves stable drafts ?_ resolverId), new⟩
      exact stable.cascade target _ _ (.inl rfl) waiting (updated target member)
  · cases executed
    exact ⟨kept, decided⟩

theorem reject_cascade_preserves (stable : Resolvable .rejected now valid) (kept : ∀ row ∈ table, valid row) :
    ∀ row ∈ rejectCascade table gate now, valid row := by
  unfold rejectCascade
  split
  · split
    · exact kept
    next target sole =>
      obtain ⟨member, -, waiting⟩ := sole_pending_spec sole
      exact put_preserves kept (stable.cascade target gate _ (.inr rfl) waiting (kept target member))
  · exact kept

theorem transition_preserves {newStatus : GateStatus} (stable : Resolvable newStatus now valid)
    (kept : ∀ row ∈ table, valid row) {orgId gateId : Uuid} {resolverId : Option Uuid} {note : Option String}
    {reviewedDraft : Option (Uuid × Nat)} {commands : List CommandRequest}
    (executed : transitionGate drafts table orgId gateId newStatus resolverId note reviewedDraft now =
      .ok (after, gate, commands)) : (∀ row ∈ after, valid row) ∧ valid gate := by
  unfold transitionGate at executed
  split at executed
  · cases executed
  next selected found =>
    split at executed
    · cases executed
    next legal =>
      have decided := stable.resolve selected resolverId note (by simpa using legal) (kept selected (Table.lookup_mem found))
      split at executed
      · cases executed
      dsimp only at executed
      split at executed
      · obtain ⟨⟨cascaded, marked, others⟩, cascade, executed⟩ := Runs.bind_ok executed
        cases executed
        have noted := command_hook_preserves stable drafts decided resolverId
        exact approve_cascade_preserves stable (put_preserves kept noted) noted cascade
      · cases executed
        exact ⟨reject_cascade_preserves stable (put_preserves kept decided), decided⟩
      · cases executed
        exact ⟨put_preserves kept decided, decided⟩

end Preservation

end Sprintable.Gates
