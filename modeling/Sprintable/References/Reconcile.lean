import Sprintable.References.Table

/-! What the reconciliation of a text's references leaves in the table. The rows of the text agree
with the text, and no other row changes, as long as no row of another relation comes between. -/

namespace Sprintable.References

section Laws
variable (entities : List Entity) (targetTypes : List String) (place : Place) (extracted : List ExtractedRef)

/-- The text refers to another entity of the organisation, of a registered type. -/
structure Wanted (ref : ExtractedRef) : Prop where
  extracted : ref ∈ extracted
  registered : ref.target.targetType ∈ targetTypes
  resolved : resolves entities place.orgId ref.target.targetType ref.target.targetId = true
  other : ¬ (ref.target.targetType = place.sourceType ∧ ref.target.targetId = place.sourceId)

/-- A row of the text: a mention or an embed of the place, without another relation. -/
def OfText (row : Reference) : Prop := row.place = place ∧ row.target.form ≠ .proof ∧ row.relation = .none

instance OfText.decidable (row : Reference) : Decidable (OfText place row) :=
  inferInstanceAs (Decidable (_ ∧ _ ∧ _))

variable (createdBy : Option Uuid) (table : Table)

def reconciled : Table := (reconcileEntityReferences entities targetTypes place extracted createdBy false table).1

/-- What is claimed: the rows of the text are those it wants, one of each target, with an origin that
was extracted for it; other rows are as before; and the same list again changes nothing. -/
structure Exact : Prop where
  sound : ∀ row ∈ (reconciled entities targetTypes place extracted createdBy table).rows, OfText place row →
    ∃ textual, Wanted entities targetTypes place extracted (row.extracted textual)
  complete : ∀ ref, Wanted entities targetTypes place extracted ref →
    ∃ row ∈ (reconciled entities targetTypes place extracted createdBy table).rows, OfText place row ∧ row.target = ref.target
  others : ((reconciled entities targetTypes place extracted createdBy table).rows.filter fun row => decide ¬ OfText place row) =
    table.rows.filter fun row => decide ¬ OfText place row
  again : ∀ (list : List ExtractedRef) (by_ : Option Uuid), (∀ ref, ref ∈ list ↔ ref ∈ extracted) →
    (reconciled entities targetTypes place list by_ (reconciled entities targetTypes place extracted createdBy table)).rows =
      (reconciled entities targetTypes place extracted createdBy table).rows

/-- What the table must be like before: no row of another organisation has the key of a wanted target;
and a row of the place with the other relation has a target that is wanted with its origin, beside a
row of the text that is wanted too, or beside none while another origin was extracted. -/
structure Undisturbed : Prop where
  foreign : ∀ row ∈ table.rows, row.place ≠ place → row.relation = .none →
    (row.place.sourceType, row.place.sourceField, row.place.sourceId) = (place.sourceType, place.sourceField, place.sourceId) →
      ∀ ref, Wanted entities targetTypes place extracted ref → row.target ≠ ref.target
  related : ∀ row ∈ table.rows, row.place = place → row.relation = .createdFrom → ∀ textual : row.target.form ≠ .proof,
    Wanted entities targetTypes place extracted (row.extracted textual) ∧
      ((∃ own ∈ table.rows, OfText place own ∧ own.target = row.target ∧
          ∃ textual, Wanted entities targetTypes place extracted (own.extracted textual)) ∨
        (∀ own ∈ table.rows, OfText place own → own.target ≠ row.target) ∧
          ∃ ref, Wanted entities targetTypes place extracted ref ∧ ref.target = row.target ∧ ref.origin ≠ row.origin)

end Laws

section Outcome
variable {entities : List Entity} {targetTypes : List String} {place : Place} {extracted : List ExtractedRef}
  {createdBy : Option Uuid} {table : Table} {rows : List Reference} {row own : Reference} {ref : ExtractedRef}

theorem mem_targetRefs : ref ∈ targetRefs entities targetTypes place extracted ↔ Wanted entities targetTypes place extracted ref := by
  unfold targetRefs candidates found ownEntity
  simp only [List.mem_filter, List.mem_dedup, List.contains_iff_mem, Bool.not_eq_true', Bool.and_eq_false_iff, beq_eq_false_iff_ne]
  constructor
  · rintro ⟨⟨⟨given, registered⟩, other⟩, resolved⟩
    exact ⟨given, registered, resolved, fun both => other.elim (absurd both.1) (absurd both.2)⟩
  · intro wanted
    exact ⟨⟨⟨wanted.extracted, wanted.registered⟩, not_and_or.mp wanted.other⟩, wanted.resolved⟩

theorem mem_existingRefs : ref ∈ existingRefs place rows ↔
    ∃ row ∈ rows, row.place = place ∧ ∃ textual, row.extracted textual = ref := by
  unfold existingRefs ofPlace
  rw [List.mem_dedup, List.mem_filterMap]
  constructor
  · rintro ⟨row, member, same⟩
    split at same
    next textual =>
      split at same
      next here => exact ⟨row, member, here, textual, Option.some.inj same⟩
      next => cases same
    next => cases same
  · rintro ⟨row, member, here, textual, same⟩
    refine ⟨row, member, ?_⟩
    rw [dif_pos textual, if_pos here, same]

theorem mem_staleRefs {targets : List ExtractedRef} : ref ∈ staleRefs place rows targets ↔ ref ∈ existingRefs place rows ∧ ref ∉ targets := by
  simp [staleRefs, List.mem_filter]

theorem mem_deleteStale {stale : List ExtractedRef} : row ∈ deleteStale place rows stale ↔
    row ∈ rows ∧ ¬ (row.place = place ∧ ∃ ref ∈ stale, ref.target = row.target) := by
  unfold deleteStale
  rw [List.mem_filter, Bool.not_eq_true', Bool.eq_false_iff, ne_eq, Bool.and_eq_true, decide_eq_true_eq, List.any_eq_true]
  simp only [decide_eq_true_eq]

/-- A target that the place holds with an origin that is not wanted. -/
def StaleTarget (entities : List Entity) (targetTypes : List String) (place : Place) (extracted : List ExtractedRef)
    (rows : List Reference) (target : Target) : Prop :=
  ∃ row ∈ rows, row.place = place ∧ row.target = target ∧
    ∃ textual, ¬ Wanted entities targetTypes place extracted (row.extracted textual)

theorem reconciled_shape : ∃ kept written, (reconciled entities targetTypes place extracted createdBy table).rows =
      table.rows.filter kept ++ written ∧
    (∀ row, row ∈ table.rows.filter kept ↔ row ∈ table.rows ∧
      ¬ (row.place = place ∧ StaleTarget entities targetTypes place extracted table.rows row.target)) ∧
    ∀ row ∈ written, ∃ ref, Wanted entities targetTypes place extracted ref ∧ ref ∉ existingRefs place table.rows ∧
      row = newRow place createdBy ref := by
  let targets := targetRefs entities targetTypes place extracted
  let stale := staleRefs place table.rows targets
  let new := targets.filter fun ref => !(existingRefs place table.rows).contains ref
  obtain ⟨written, shape, inside⟩ := @UniqueRows.insertAll_shape _ _ Reference.covered Reference.key _
    (deleteStale place table.rows stale) (new.map (newRow place createdBy))
  refine ⟨_, written, shape, ?_, ?_⟩
  · intro row
    apply mem_deleteStale.trans
    apply and_congr_right
    intro _
    apply not_congr
    apply and_congr_right
    intro _
    constructor
    · rintro ⟨ref, stale, same⟩
      obtain ⟨held, unwanted⟩ := mem_staleRefs.mp stale
      obtain ⟨other, member, here, textual, rfl⟩ := mem_existingRefs.mp held
      exact ⟨other, member, here, same, textual, fun wanted => unwanted (mem_targetRefs.mpr wanted)⟩
    · rintro ⟨other, member, here, same, textual, unwanted⟩
      refine ⟨other.extracted textual, mem_staleRefs.mpr ⟨?_, ?_⟩, same⟩
      · exact mem_existingRefs.mpr ⟨other, member, here, textual, rfl⟩
      · exact fun wanted => unwanted (mem_targetRefs.mp wanted)
  · intro row member
    obtain ⟨ref, fresh, rfl⟩ := List.mem_map.mp (inside row member)
    obtain ⟨wanted, absent⟩ := List.mem_filter.mp fresh
    exact ⟨ref, mem_targetRefs.mp wanted, by simpa using absent, rfl⟩

theorem new_covered (wanted : Wanted entities targetTypes place extracted ref) (fresh : ref ∉ existingRefs place table.rows) :
    ∃ row ∈ (reconciled entities targetTypes place extracted createdBy table).rows, row.covered = true ∧
      row.key = (newRow place createdBy ref).key := by
  apply UniqueRows.insertAll_covers
  · refine List.mem_map_of_mem (List.mem_filter.mpr ⟨mem_targetRefs.mpr wanted, ?_⟩)
    simpa using fresh
  · exact decide_eq_true ref.textual

theorem newRow_ofText : OfText place (newRow place createdBy ref) := ⟨rfl, ref.textual, rfl⟩

theorem OfText.key (text : OfText place row) :
    row.key = ((place.sourceType, place.sourceField, place.sourceId), row.target, .none) := by
  obtain ⟨here, _, relation⟩ := text
  unfold Reference.key
  rw [here, relation]

theorem OfText.same (first : row ∈ table.rows) (second : own ∈ table.rows) (text : OfText place row) (text' : OfText place own)
    (same : row.target = own.target) : row = own := by
  apply table.unique.same first second (decide_eq_true text.2.1) (decide_eq_true text'.2.1)
  rw [text.key, text'.key, same]

theorem created_same (first : row ∈ table.rows) (second : own ∈ table.rows) (here : row.place = place) (here' : own.place = place)
    (textual : row.target.form ≠ .proof) (relation : row.relation = .createdFrom) (relation' : own.relation = .createdFrom)
    (same : row.target = own.target) : row = own := by
  apply table.unique.same first second (decide_eq_true textual) (decide_eq_true (same ▸ textual))
  unfold Reference.key
  rw [here, here', relation, relation', same]

theorem reconciled_sound (member : row ∈ (reconciled entities targetTypes place extracted createdBy table).rows)
    (text : OfText place row) : ∃ textual, Wanted entities targetTypes place extracted (row.extracted textual) := by
  obtain ⟨kept, written, shape, keeps, puts⟩ := @reconciled_shape entities targetTypes place extracted createdBy table
  rw [shape] at member
  rcases List.mem_append.mp member with old | new
  · obtain ⟨before, fits⟩ := (keeps row).mp old
    refine ⟨text.2.1, ?_⟩
    by_contra unwanted
    exact fits ⟨text.1, row, before, text.1, rfl, text.2.1, unwanted⟩
  · obtain ⟨ref, wanted, _, rfl⟩ := puts row new
    exact ⟨ref.textual, wanted⟩

theorem Wanted.of_list {list : List ExtractedRef} (same : ∀ ref, ref ∈ list ↔ ref ∈ extracted) :
    Wanted entities targetTypes place list ref ↔ Wanted entities targetTypes place extracted ref :=
  ⟨fun wanted => ⟨(same ref).mp wanted.extracted, wanted.registered, wanted.resolved, wanted.other⟩,
    fun wanted => ⟨(same ref).mpr wanted.extracted, wanted.registered, wanted.resolved, wanted.other⟩⟩

/-- A table whose text rows are those that are wanted, and whose other rows of the place are wanted
too, stays as it is. -/
theorem reconciled_fixed (sound : ∀ row ∈ table.rows, row.place = place → ∀ textual : row.target.form ≠ .proof,
      Wanted entities targetTypes place extracted (row.extracted textual))
    (complete : ∀ ref, Wanted entities targetTypes place extracted ref → ∃ row ∈ table.rows, OfText place row ∧ row.target = ref.target) :
    (reconciled entities targetTypes place extracted createdBy table).rows = table.rows := by
  let targets := targetRefs entities targetTypes place extracted
  have kept : deleteStale place table.rows (staleRefs place table.rows targets) = table.rows := by
    apply List.filter_eq_self.mpr
    intro row member
    have stays : row ∈ deleteStale place table.rows (staleRefs place table.rows targets) := by
      refine mem_deleteStale.mpr ⟨member, ?_⟩
      rintro ⟨_, ref, stale, _⟩
      obtain ⟨held, unwanted⟩ := mem_staleRefs.mp stale
      obtain ⟨other, inside, there, textual, rfl⟩ := mem_existingRefs.mp held
      exact unwanted (mem_targetRefs.mpr (sound other inside there textual))
    exact (List.mem_filter.mp stays).2
  have taken : UniqueRows.insertAll Reference.covered Reference.key table.rows
      ((targets.filter fun ref => !(existingRefs place table.rows).contains ref).map (newRow place createdBy)) = table.rows := by
    apply UniqueRows.insertAll_taken
    intro row new
    obtain ⟨ref, fresh, rfl⟩ := List.mem_map.mp new
    obtain ⟨own, member, text, same⟩ := complete ref (mem_targetRefs.mp (List.mem_filter.mp fresh).1)
    refine ⟨own, member, decide_eq_true text.2.1, ?_⟩
    rw [text.key, newRow_ofText.key]
    exact congrArg (fun target => (_, target, _)) same
  have rows : (reconciled entities targetTypes place extracted createdBy table).rows =
      UniqueRows.insertAll Reference.covered Reference.key (deleteStale place table.rows (staleRefs place table.rows targets))
        ((targets.filter fun ref => !(existingRefs place table.rows).contains ref).map (newRow place createdBy)) := rfl
  rw [rows, kept, taken]

section Undisturbed
variable (undisturbed : Undisturbed entities targetTypes place extracted table)
include undisturbed

theorem Undisturbed.stale {target : Target} (stale : StaleTarget entities targetTypes place extracted table.rows target)
    (member : row ∈ table.rows) (here : row.place = place) (same : row.target = target) : row.relation = .none := by
  obtain ⟨other, inside, there, rfl, textual, unwanted⟩ := stale
  cases relation : other.relation with
  | createdFrom => exact absurd (undisturbed.related other inside there relation textual).1 unwanted
  | none =>
    cases own : row.relation with
    | none => rfl
    | createdFrom =>
      have text : OfText place other := ⟨there, textual, relation⟩
      rcases (undisturbed.related row member here own (same ▸ textual)).2 with ⟨beside, held, own, alike, proof, wanted⟩ | ⟨alone, _⟩
      · have one : beside = other := own.same held inside text (alike.trans same)
        subst one
        exact absurd wanted unwanted
      · exact absurd same.symm (alone other inside text)

theorem Undisturbed.others : ((reconciled entities targetTypes place extracted createdBy table).rows.filter
    fun row => decide ¬ OfText place row) = table.rows.filter fun row => decide ¬ OfText place row := by
  obtain ⟨kept, written, shape, keeps, puts⟩ := @reconciled_shape entities targetTypes place extracted createdBy table
  have added : (written.filter fun row => decide ¬ OfText place row) = [] := by
    apply List.filter_eq_nil_iff.mpr
    intro row member
    obtain ⟨ref, _, _, rfl⟩ := puts row member
    simpa using @newRow_ofText place createdBy ref
  rw [shape, List.filter_append, added, List.append_nil, List.filter_filter]
  apply List.filter_congr
  intro row member
  by_cases text : OfText place row
  · simp [text]
  · have stays : row ∈ table.rows.filter kept := by
      refine (keeps row).mpr ⟨member, ?_⟩
      rintro ⟨here, stale⟩
      have relation := undisturbed.stale stale member here rfl
      obtain ⟨other, _, _, same, textual, _⟩ := stale
      exact text ⟨here, same ▸ textual, relation⟩
    simp [text, (List.mem_filter.mp stays).2]

theorem Undisturbed.fresh (wanted : Wanted entities targetTypes place extracted ref)
    (gone : ∀ own ∈ table.rows, OfText place own → own.target = ref.target →
      StaleTarget entities targetTypes place extracted table.rows ref.target) :
    ∃ new, Wanted entities targetTypes place extracted new ∧ new ∉ existingRefs place table.rows ∧ new.target = ref.target := by
  by_cases held : ref ∈ existingRefs place table.rows
  · obtain ⟨row, member, here, textual, rfl⟩ := mem_existingRefs.mp held
    cases relation : row.relation with
    | none =>
      -- The row of the text goes although it is wanted, so another row of the target is not.
      obtain ⟨other, inside, there, same, textual', unwanted⟩ := gone row member ⟨here, textual, relation⟩ rfl
      cases second : other.relation with
      | none =>
        have one : other = row := OfText.same inside member ⟨there, textual', second⟩ ⟨here, textual, relation⟩ same
        subst one
        exact absurd wanted unwanted
      | createdFrom => exact absurd (undisturbed.related other inside there second textual').1 unwanted
    | createdFrom =>
      rcases (undisturbed.related row member here relation textual).2 with ⟨own, inside, text, same, proof, good⟩ | ⟨alone, new, good, same, differs⟩
      · have stale := gone own inside text same
        have none := undisturbed.stale stale member here rfl
        cases none.symm.trans relation
      · refine ⟨new, good, ?_, same⟩
        intro known
        obtain ⟨other, inside, there, textual', rfl⟩ := mem_existingRefs.mp known
        cases second : other.relation with
        | none => exact alone other inside ⟨there, textual', second⟩ same
        | createdFrom =>
          have one : other = row := created_same inside member there here textual' second relation same
          subst one
          exact differs rfl
  · exact ⟨ref, wanted, held, rfl⟩

theorem Undisturbed.complete (wanted : Wanted entities targetTypes place extracted ref) :
    ∃ row ∈ (reconciled entities targetTypes place extracted createdBy table).rows, OfText place row ∧ row.target = ref.target := by
  obtain ⟨kept, written, shape, keeps, puts⟩ := @reconciled_shape entities targetTypes place extracted createdBy table
  by_cases stays : ∃ own ∈ table.rows, OfText place own ∧ own.target = ref.target ∧
      ¬ StaleTarget entities targetTypes place extracted table.rows ref.target
  · obtain ⟨own, member, text, same, fits⟩ := stays
    refine ⟨own, ?_, text, same⟩
    rw [shape]
    exact List.mem_append_left _ ((keeps own).mpr ⟨member, fun both => fits (same ▸ both.2)⟩)
  · obtain ⟨new, good, fresh, target⟩ := undisturbed.fresh wanted fun own member text same => by
      by_contra fits
      exact stays ⟨own, member, text, same, fits⟩
    obtain ⟨row, member, covered, key⟩ := @new_covered entities targetTypes place extracted createdBy table new good fresh
    rw [newRow_ofText.key] at key
    simp only [Reference.key, Prod.mk.injEq] at key
    have same : row.target = ref.target := key.2.1.trans target
    by_cases here : row.place = place
    · exact ⟨row, member, ⟨here, of_decide_eq_true covered, key.2.2⟩, same⟩
    · have before : row ∈ table.rows := by
        rw [shape] at member
        rcases List.mem_append.mp member with old | added
        · exact ((keeps row).mp old).1
        · obtain ⟨other, _, _, rfl⟩ := puts row added
          exact absurd rfl here
      have source : (row.place.sourceType, row.place.sourceField, row.place.sourceId) =
          (place.sourceType, place.sourceField, place.sourceId) := by
        rw [key.1.1, key.1.2.1, key.1.2.2]
      exact absurd same (undisturbed.foreign row before here key.2.2 source ref wanted)

theorem Undisturbed.exact : Exact entities targetTypes place extracted createdBy table := by
  refine ⟨fun row member text => reconciled_sound member text, fun ref wanted => undisturbed.complete wanted, undisturbed.others, ?_⟩
  intro list by_ same
  apply reconciled_fixed
  · intro row member here textual
    apply (Wanted.of_list same).mpr
    by_cases text : OfText place row
    · obtain ⟨_, wanted⟩ := reconciled_sound member text
      exact wanted
    · have before : row ∈ table.rows.filter fun row => decide ¬ OfText place row := by
        rw [← @Undisturbed.others entities targetTypes place extracted createdBy table undisturbed]
        exact List.mem_filter.mpr ⟨member, decide_eq_true text⟩
      cases relation : row.relation with
      | none => exact absurd ⟨here, textual, relation⟩ text
      | createdFrom => exact (undisturbed.related row (List.mem_filter.mp before).1 here relation textual).1
  · intro ref wanted
    exact undisturbed.complete ((Wanted.of_list same).mp wanted)

end Undisturbed

section Exact
variable (exact_ : Exact entities targetTypes place extracted createdBy table)
include exact_

theorem Exact.keeps (member : row ∈ table.rows) (other : ¬ OfText place row) :
    row ∈ (reconciled entities targetTypes place extracted createdBy table).rows := by
  have inside : row ∈ table.rows.filter fun row => decide ¬ OfText place row := List.mem_filter.mpr ⟨member, decide_eq_true other⟩
  rw [← exact_.others] at inside
  exact (List.mem_filter.mp inside).1

theorem Exact.foreign (member : row ∈ table.rows) (elsewhere : row.place ≠ place) (relation : row.relation = .none)
    (source : (row.place.sourceType, row.place.sourceField, row.place.sourceId) = (place.sourceType, place.sourceField, place.sourceId))
    (wanted : Wanted entities targetTypes place extracted ref) : row.target ≠ ref.target := by
  intro same
  obtain ⟨own, inside, text, target⟩ := exact_.complete ref wanted
  have still := exact_.keeps member fun text => elsewhere text.1
  have textual : row.target.form ≠ .proof := same ▸ ref.textual
  have one : row = own := by
    apply (reconciled entities targetTypes place extracted createdBy table).unique.same still inside
      (decide_eq_true textual) (decide_eq_true text.2.1)
    rw [text.key]
    unfold Reference.key
    rw [source, relation, same, target]
  exact elsewhere (one ▸ text.1)

theorem Exact.related (member : row ∈ table.rows) (here : row.place = place) (relation : row.relation = .createdFrom)
    (textual : row.target.form ≠ .proof) :
    Wanted entities targetTypes place extracted (row.extracted textual) ∧
      ((∃ own ∈ table.rows, OfText place own ∧ own.target = row.target ∧
          ∃ textual, Wanted entities targetTypes place extracted (own.extracted textual)) ∨
        (∀ own ∈ table.rows, OfText place own → own.target ≠ row.target) ∧
          ∃ ref, Wanted entities targetTypes place extracted ref ∧ ref.target = row.target ∧ ref.origin ≠ row.origin) := by
  have other : ¬ OfText place row := fun text => by cases relation.symm.trans text.2.2
  obtain ⟨kept, written, shape, keeps, puts⟩ := @reconciled_shape entities targetTypes place extracted createdBy table
  have still := exact_.keeps member other
  rw [shape] at still
  -- The row was not inserted, so nothing of its target was stale.
  have fits : ¬ StaleTarget entities targetTypes place extracted table.rows row.target := by
    rcases List.mem_append.mp still with old | new
    · exact fun stale => ((keeps row).mp old).2 ⟨here, stale⟩
    · obtain ⟨ref, _, _, rfl⟩ := puts row new
      cases relation
  have wanted : Wanted entities targetTypes place extracted (row.extracted textual) := by
    by_contra unwanted
    exact fits ⟨row, member, here, rfl, textual, unwanted⟩
  refine ⟨wanted, ?_⟩
  obtain ⟨own, inside, text, target⟩ := exact_.complete _ wanted
  have place_ := inside
  rw [shape] at place_
  rcases List.mem_append.mp place_ with old | new
  · exact .inl ⟨own, ((keeps own).mp old).1, text, target, exact_.sound own inside text⟩
  · obtain ⟨ref, good, fresh, rfl⟩ := puts own new
    refine .inr ⟨?_, ref, good, target, ?_⟩
    · intro beside before text' same
      have left : beside ∈ (reconciled entities targetTypes place extracted createdBy table).rows := by
        rw [shape]
        exact List.mem_append_left _ ((keeps beside).mpr ⟨before, fun both => fits (same ▸ both.2)⟩)
      have one : beside = newRow place createdBy ref := OfText.same left inside text' text (same.trans target.symm)
      subst one
      exact fresh (mem_existingRefs.mpr ⟨_, before, rfl, ref.textual, rfl⟩)
    · intro origin
      apply fresh
      refine mem_existingRefs.mpr ⟨row, member, here, textual, ?_⟩
      unfold Reference.extracted
      cases ref with
      | mk aim made proof =>
        cases target
        cases origin
        rfl

theorem Exact.undisturbed : Undisturbed entities targetTypes place extracted table :=
  ⟨fun _ member elsewhere relation source _ wanted => exact_.foreign member elsewhere relation source wanted,
    fun _ member here relation textual => exact_.related member here relation textual⟩

end Exact

end Outcome

/-- The reconciliation does what is claimed of it exactly on undisturbed tables. -/
theorem reconcile_exact_iff (entities : List Entity) (targetTypes : List String) (place : Place) (extracted : List ExtractedRef)
    (createdBy : Option Uuid) (table : Table) :
    Exact entities targetTypes place extracted createdBy table ↔ Undisturbed entities targetTypes place extracted table :=
  ⟨fun exact_ => exact_.undisturbed, fun undisturbed => undisturbed.exact⟩

/-! A row of the other relation in a text's place: it is stored as any reference is, and the next
reconciliation of the text takes it away. -/

def storyDescription : Place := { orgId := 1, sourceType := "story", sourceField := "description", sourceId := 5 }

def createdRow : Reference :=
  { place := storyDescription, target := { targetType := "story", targetId := 6, form := .mention }, relation := .createdFrom }

theorem created_row_removed : ∃ table, insertReference {} createdRow = .ok table ∧ table.rows = [createdRow] ∧
    ¬ Exact [] ENTITY_TYPES storyDescription [] none table := by
  refine ⟨_, rfl, rfl, ?_⟩
  intro exact_
  have others := exact_.others
  revert others
  decide

end Sprintable.References
