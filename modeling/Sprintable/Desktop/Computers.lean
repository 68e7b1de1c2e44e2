import Sprintable.Logic.Readable
import Sprintable.Logic.UuidText

/-! The computers of an organization. A setup belongs to the computer whose id is derived from where it
runs and from who confirmed it. -/

namespace Sprintable.Desktop.Computers
open PyText

structure SetupFacts where
  id : PyText.Uuid
  machineKey : Option String := none
  confirmedBy : Option PyText.Uuid := none
  deviceName : String := ""
  deriving DecidableEq, Repr

/-- Whose a setup is. One whose confirmer is not known is nobody's but its own. -/
def who (row : SetupFacts) : String :=
  match row.confirmedBy with
  | some person => person.text
  | none => "unknown:" ++ row.id.text

section Names
variable {γ : Type} (uuid5 : String → γ) (casefold : String → String) (orgId : PyText.Uuid)

def name (deviceName : String) : String := casefold (strip deviceName)

/-- The machine key, when it counts as one. -/
def keyOf (row : SetupFacts) : Option String := row.machineKey.filter (· ≠ "")

/-- `keys_by_pair`, at the name and the person of a row. -/
def keysByPair (rows : List SetupFacts) (row : SetupFacts) : List String :=
  ((rows.filter fun other => name casefold other.deviceName = name casefold row.deviceName ∧ who other = who row).filterMap
    keyOf).dedup

def placeOf (rows : List SetupFacts) (row : SetupFacts) : String :=
  match keyOf row with
  | some key => "mk:" ++ key
  | none =>
    match keysByPair casefold rows row with
    | [key] => "mk:" ++ key
    | _ => "dn:" ++ name casefold row.deviceName

def computerText (rows : List SetupFacts) (row : SetupFacts) : String :=
  orgId.text ++ "|" ++ placeOf casefold rows row ++ "|" ++ who row

/-- `assign_computers`: the last row of an id decides. -/
def assignComputers (rows : List SetupFacts) (id : PyText.Uuid) : Option γ :=
  (rows.reverse.find? (·.id = id)).map fun row => uuid5 (computerText casefold orgId rows row)

end Names

structure Setups where
  rows : List SetupFacts
  once : (rows.map (·.id)).Nodup

section Texts
variable {row other : SetupFacts}

theorem uuid_free (uuid : PyText.Uuid) : '|' ∉ uuid.text.toList := by
  intro member
  rcases uuidText_chars uuid.number member with dash | hex
  · exact absurd dash (by decide)
  · exact (isHex_not hex).2.2.1 rfl

theorem who_free (row : SetupFacts) : '|' ∉ (who row).toList := by
  unfold who
  cases row.confirmedBy with
  | some person => exact uuid_free person
  | none =>
    intro member
    rw [String.toList_append, List.mem_append] at member
    rcases member with front | back
    · exact absurd front (by decide)
    · exact uuid_free row.id back

/-- The same known confirmer, or the same setup. -/
def SamePerson (first second : SetupFacts) : Prop :=
  (∃ person, first.confirmedBy = some person ∧ second.confirmedBy = some person) ∨
    (first.confirmedBy = none ∧ second.confirmedBy = none ∧ first.id = second.id)

theorem unknown_ne_text (person uuid : PyText.Uuid) : person.text ≠ "unknown:" ++ uuid.text := by
  intro same
  have member : 'u' ∈ person.text.toList := by
    rw [same, String.toList_append]
    exact List.mem_append_left _ (by decide)
  rcases uuidText_chars person.number member with dash | hex
  · exact absurd dash (by decide)
  · exact (isHex_not hex).2.1 rfl

theorem who_eq_iff : who row = who other ↔ SamePerson row other := by
  unfold who SamePerson
  cases first : row.confirmedBy with
  | some person =>
    cases second : other.confirmedBy with
    | some another => simp [PyText.Uuid.text_injective.eq_iff, eq_comm]
    | none => simp [unknown_ne_text]
  | none =>
    cases second : other.confirmedBy with
    | some another => simp [(unknown_ne_text another row.id).symm]
    | none =>
      have heads : "unknown:" ++ row.id.text = "unknown:" ++ other.id.text ↔ row.id = other.id := by
        rw [← String.toList_inj, String.toList_append, String.toList_append, List.append_right_inj, String.toList_inj,
          PyText.Uuid.text_injective.eq_iff]
      simpa using heads

theorem last_bar {first second tail rest : List Char} (left : '|' ∉ tail) (right : '|' ∉ rest)
    (same : first ++ '|' :: tail = second ++ '|' :: rest) : first = second ∧ tail = rest := by
  have reversed : tail.reverse ++ '|' :: first.reverse = rest.reverse ++ '|' :: second.reverse := by
    simpa using congrArg List.reverse same
  have free : ∀ {text : List Char}, '|' ∉ text → ∀ symbol ∈ text.reverse, ¬ symbol = '|' := by
    intro text absent symbol member equal
    exact absent (equal ▸ List.mem_reverse.mp member)
  obtain ⟨tails, heads⟩ := @Readable.before_stop _ (· = '|') _ _ _ _ _ _ rfl rfl (free left) (free right) reversed
  exact ⟨List.reverse_injective (List.cons.inj heads).2, List.reverse_injective tails⟩

end Texts

section Laws
variable {γ : Type} {uuid5 : String → γ} {casefold : String → String} {orgId : PyText.Uuid} {rows : List SetupFacts}
  {row other : SetupFacts}

theorem computerText_eq_iff : computerText casefold orgId rows row = computerText casefold orgId rows other ↔
    placeOf casefold rows row = placeOf casefold rows other ∧ who row = who other := by
  constructor
  · intro same
    have chars := congrArg String.toList same
    simp only [computerText, String.toList_append] at chars
    have bar : "|".toList = ['|'] := rfl
    rw [bar, List.append_assoc, List.append_assoc, List.append_assoc, List.append_assoc, List.append_assoc, List.append_assoc,
      List.append_right_inj, List.append_right_inj] at chars
    obtain ⟨places, persons⟩ := last_bar (who_free row) (who_free other) chars
    exact ⟨String.toList_inj.mp places, String.toList_inj.mp persons⟩
  · rintro ⟨places, persons⟩
    rw [computerText, computerText, places, persons]

theorem keyed_append_inj {first second : String} : "mk:" ++ first = "mk:" ++ second ↔ first = second := by
  rw [← String.toList_inj, String.toList_append, String.toList_append, List.append_right_inj, String.toList_inj]

theorem keyed_ne_named {first second : String} : "mk:" ++ first ≠ "dn:" ++ second := by
  intro same
  have chars := congrArg String.toList same
  rw [String.toList_append, String.toList_append] at chars
  exact absurd (List.cons.inj chars).1 (by decide)

theorem mem_keysByPair {key : String} : key ∈ keysByPair casefold rows row ↔
    ∃ other ∈ rows, keyOf other = some key ∧ name casefold other.deviceName = name casefold row.deviceName ∧
      SamePerson other row := by
  rw [keysByPair, List.mem_dedup, List.mem_filterMap]
  constructor
  · rintro ⟨other, listed, carries⟩
    obtain ⟨member, both⟩ := List.mem_filter.mp listed
    obtain ⟨names, persons⟩ := of_decide_eq_true both
    exact ⟨other, member, carries, names, who_eq_iff.mp persons⟩
  · rintro ⟨other, member, carries, names, persons⟩
    exact ⟨other, List.mem_filter.mpr ⟨member, decide_eq_true ⟨names, who_eq_iff.mpr persons⟩⟩, carries⟩

theorem keysByPair_single {key : String} : keysByPair casefold rows row = [key] ↔
    ∀ other, other ∈ keysByPair casefold rows row ↔ other = key := by
  constructor
  · intro single other
    rw [single, List.mem_singleton]
  · intro only
    have member : key ∈ keysByPair casefold rows row := (only key).mpr rfl
    have once : (keysByPair casefold rows row).Nodup := List.nodup_dedup _
    cases shape : keysByPair casefold rows row with
    | nil =>
      rw [shape] at member
      exact absurd member List.not_mem_nil
    | cons first rest =>
      rw [shape] at only once
      have same : first = key := (only first).mp List.mem_cons_self
      cases rest with
      | nil => rw [same]
      | cons second rest =>
        have again : second = key := (only second).mp (List.mem_cons_of_mem _ List.mem_cons_self)
        exact absurd (same.trans again.symm) (List.ne_of_not_mem_cons (List.nodup_cons.mp once).1)

theorem placeOf_keyed_iff {key : String} : placeOf casefold rows row = "mk:" ++ key ↔
    keyOf row = some key ∨ (keyOf row = none ∧ keysByPair casefold rows row = [key]) := by
  unfold placeOf
  cases own : keyOf row with
  | some carried => simp
  | none =>
    dsimp only
    split
    next single shape => simp [shape]
    next several =>
      simp only [reduceCtorEq, false_or, true_and]
      constructor
      · intro same
        exact absurd same.symm keyed_ne_named
      · intro single
        exact absurd single (several key)

theorem keysByPair_perm {others : List SetupFacts} (perm : rows.Perm others) :
    (keysByPair casefold rows row).Perm (keysByPair casefold others row) :=
  ((perm.filter _).filterMap _).dedup

theorem placeOf_perm {others : List SetupFacts} (perm : rows.Perm others) : placeOf casefold rows row = placeOf casefold others row := by
  have keys : (keysByPair casefold rows row).Perm (keysByPair casefold others row) := keysByPair_perm perm
  unfold placeOf
  cases keyOf row with
  | some key => rfl
  | none =>
    dsimp only
    split
    next single shape =>
      rw [shape] at keys
      rw [← List.singleton_perm.mp keys]
    next several =>
      split
      next single shape =>
        rw [shape] at keys
        exact absurd (List.perm_singleton.mp keys) (several single)
      next => rfl

theorem find_once (once : (rows.map (·.id)).Nodup) (member : row ∈ rows) : rows.find? (·.id = row.id) = some row := by
  induction rows with
  | nil => cases member
  | cons first rest ih =>
    obtain ⟨absent, later⟩ := List.nodup_cons.mp once
    rcases List.mem_cons.mp member with rfl | listed
    · simp
    · have other : first.id ≠ row.id := by
        intro same
        apply absent
        dsimp only
        rw [same]
        exact List.mem_map_of_mem listed
      rw [List.find?_cons_of_neg (by simpa using other)]
      exact ih later listed

theorem assign_row (setups : Setups) (member : row ∈ setups.rows) :
    assignComputers uuid5 casefold orgId setups.rows row.id = some (uuid5 (computerText casefold orgId setups.rows row)) := by
  have once : (setups.rows.reverse.map (·.id)).Nodup := by
    rw [List.map_reverse, List.nodup_reverse]
    exact setups.once
  rw [assignComputers, find_once once (List.mem_reverse.mpr member)]
  rfl

theorem assign_absent {id : PyText.Uuid} (absent : id ∉ rows.map (·.id)) : assignComputers uuid5 casefold orgId rows id = none := by
  rw [assignComputers, Option.map_eq_none_iff, List.find?_eq_none]
  intro row member same
  exact absent (of_decide_eq_true same ▸ List.mem_map_of_mem (List.mem_reverse.mp member))

theorem shares_iff (collisionFree : Function.Injective uuid5) (setups : Setups) (first : row ∈ setups.rows)
    (second : other ∈ setups.rows) :
    assignComputers uuid5 casefold orgId setups.rows row.id = assignComputers uuid5 casefold orgId setups.rows other.id ↔
      placeOf casefold setups.rows row = placeOf casefold setups.rows other ∧ SamePerson row other := by
  rw [assign_row setups first, assign_row setups second, Option.some.injEq, collisionFree.eq_iff, computerText_eq_iff, who_eq_iff]

end Laws

/-- A setup with the name and the person of this one has the key. -/
def Carried (casefold : String → String) (rows : List SetupFacts) (row : SetupFacts) (key : String) : Prop :=
  ∃ other ∈ rows, keyOf other = some key ∧ name casefold other.deviceName = name casefold row.deviceName ∧ SamePerson other row

/-- How the setups of an organization are grouped into computers. -/
structure Grouped {γ : Type} (uuid5 : String → γ) (casefold : String → String) (orgId : PyText.Uuid) (setups : Setups) : Prop where
  order : ∀ other : Setups, setups.rows.Perm other.rows → ∀ id,
    assignComputers uuid5 casefold orgId setups.rows id = assignComputers uuid5 casefold orgId other.rows id
  total : ∀ row ∈ setups.rows, (assignComputers uuid5 casefold orgId setups.rows row.id).isSome
  people : ∀ row ∈ setups.rows, ∀ other ∈ setups.rows,
    assignComputers uuid5 casefold orgId setups.rows row.id = assignComputers uuid5 casefold orgId setups.rows other.id →
      SamePerson row other
  keyed : ∀ row ∈ setups.rows, ∀ other ∈ setups.rows, ∀ key another, keyOf row = some key → keyOf other = some another →
    (assignComputers uuid5 casefold orgId setups.rows row.id = assignComputers uuid5 casefold orgId setups.rows other.id ↔
      key = another ∧ SamePerson row other)
  keyless : ∀ row ∈ setups.rows, ∀ other ∈ setups.rows, ∀ key, keyOf row = none → keyOf other = some key →
    (assignComputers uuid5 casefold orgId setups.rows row.id = assignComputers uuid5 casefold orgId setups.rows other.id ↔
      (∀ carried, Carried casefold setups.rows row carried ↔ carried = key) ∧ SamePerson row other)

/-- The grouping does not depend on the order of the rows, and never joins two people: setups with keys share a
computer by key and person, and one without a key joins the only key of its name and person. -/
theorem grouping_keeps_people_apart {γ : Type} (uuid5 : String → γ) (collisionFree : Function.Injective uuid5)
    (casefold : String → String) (orgId : PyText.Uuid) (setups : Setups) : Grouped uuid5 casefold orgId setups := by
  constructor
  · intro other perm id
    by_cases listed : id ∈ setups.rows.map (·.id)
    · obtain ⟨row, member, rfl⟩ := List.mem_map.mp listed
      rw [assign_row setups member, assign_row other (perm.subset member), computerText, computerText, placeOf_perm perm]
    · have absent : id ∉ other.rows.map (·.id) := fun member => listed ((perm.map (·.id)).symm.subset member)
      rw [assign_absent listed, assign_absent absent]
  · intro row member
    rw [assign_row setups member]
    rfl
  · intro row first other second same
    exact ((shares_iff collisionFree setups first second).mp same).2
  · intro row first other second key another keyed keyedToo
    rw [shares_iff collisionFree setups first second]
    apply and_congr_left'
    rw [placeOf, placeOf, keyed, keyedToo]
    exact keyed_append_inj
  · intro row first other second key keyless keyed
    rw [shares_iff collisionFree setups first second]
    apply and_congr_left'
    have there : placeOf casefold setups.rows other = "mk:" ++ key := by rw [placeOf, keyed]
    rw [there, placeOf_keyed_iff, keyless]
    simp only [reduceCtorEq, false_or, true_and]
    rw [keysByPair_single]
    apply forall_congr'
    intro carried
    rw [mem_keysByPair, Carried]

/-- A keyed laptop, the same laptop by name without its key, and a setup of a person who is not known. -/
def officeSetups : Setups where
  rows := [{ id := ⟨4, by decide⟩, machineKey := some "k", confirmedBy := some ⟨9, by decide⟩, deviceName := " Mac " },
    { id := ⟨6, by decide⟩, confirmedBy := some ⟨9, by decide⟩, deviceName := "Mac" },
    { id := ⟨3, by decide⟩, machineKey := some "k", deviceName := "Mac" }]
  once := by decide

/-- An injective hash, which is the source's on the two computers of the office: texts and ids change places. -/
def officeIds (text : String) : String :=
  Equiv.swap "00000000-0000-0000-0000-000000000005|mk:k|00000000-0000-0000-0000-000000000009" "fefd3cd7-d2b7-52d5-91f1-7e34576aaaeb"
    (Equiv.swap "00000000-0000-0000-0000-000000000005|mk:k|unknown:00000000-0000-0000-0000-000000000003"
      "d46533b1-5cb2-55b4-b881-91f8f83e1aec" text)

theorem grouping_keeps_people_apart_sample :
    Function.Injective officeIds ∧ Grouped officeIds PyText.lower ⟨5, by decide⟩ officeSetups := by
  have injective : Function.Injective officeIds := (Equiv.injective _).comp (Equiv.injective _)
  exact ⟨injective, grouping_keeps_people_apart _ injective _ _ _⟩

end Sprintable.Desktop.Computers
