import Sprintable.Toolsets.Boundaries

/-! The scope of a key when its agent takes on a role: what both allow. A list that names no group allows
every one, so an intersection that is empty cannot be written down. -/

namespace Sprintable.Toolsets

def legacyScopes : List String := ["read", "write"]

/-- What a scope list says: its groups if it names any, and the tokens that are kept as they were written. -/
structure ScopeReading where
  groups : Option (List String)
  destructive : Bool
  legacy : List String
  raw : List String
  deriving DecidableEq, Repr

section Narrowing
variable (lower : String → String) (current role : Option (List String))

def explicitGroups (scope : Option (List String)) : List String :=
  (scopeTokens lower scope).filter fun token => token ∈ allGroups ∨ token = "admin"

def readScope (scope : Option (List String)) : ScopeReading where
  groups := if (explicitGroups lower scope).isEmpty then none else some (explicitGroups lower scope)
  destructive := (scopeTokens lower scope).any (· ∈ destructiveScopes)
  legacy := (scope.getD []).filter (· ∈ legacyScopes)
  raw := scope.getD []

/-- The role's tokens that are not tool groups. -/
def strayTokens : List String := sorted ((scopeTokens lower role).filter (· ∉ allGroups))

def sharedGroups (first second : Option (List String)) : List String :=
  match first, second with
  | none, groups => groups.getD []
  | some groups, none => groups
  | some groups, some others => groups.filter (· ∈ others)

/-- `narrowed_scope`; the error names the stray tokens. -/
def narrowedScope : Except (List String) (Option (List String)) :=
  let cur := readScope lower current
  let rol := readScope lower role
  let destructive := cur.destructive && rol.destructive
  if !(strayTokens lower role).isEmpty then .error (strayTokens lower role)
  else if cur.groups.isNone && rol.groups.isNone then
    if destructive == cur.destructive then .ok (some cur.raw)
    else .ok (some (cur.raw.filter fun token => lower (PyText.strip token) ∉ destructiveScopes))
  else
    let shared := sharedGroups cur.groups rol.groups
    let groups := if "admin" ∈ shared ∧ !destructive then shared.filter (· ≠ "admin") else shared
    if groups.isEmpty then .ok none
    else
      let tokens := sorted groups ++ sorted cur.legacy
      .ok (some (if destructive ∧ "admin" ∉ groups then tokens ++ ["destructive"] else tokens))

end Narrowing

/-- The scope names the group, or names no group at all. -/
def Opens (lower : String → String) (scope : Option (List String)) (group : String) : Prop :=
  group ∈ scopeTokens lower scope ∨ explicitGroups lower scope = []

def Grants (lower : String → String) (scope : Option (List String)) : Prop :=
  ∃ token ∈ scopeTokens lower scope, token ∈ destructiveScopes

section Reading
variable {lower : String → String} {scope : Option (List String)} {group toolName path : String}

theorem mem_explicit : group ∈ explicitGroups lower scope ↔ group ∈ scopeTokens lower scope ∧ (group ∈ allGroups ∨ group = "admin") := by
  simp [explicitGroups]

theorem toolGroup_known (lower : String → String) (toolName : String) :
    toolGroup lower toolName ∈ allGroups ∨ toolGroup lower toolName = "admin" := by
  have table : ∀ entry ∈ groupKeywords, entry.1 ∈ allGroups ∨ entry.1 = "admin" := by decide
  unfold toolGroup
  dsimp only
  split
  next found => exact table _ (List.mem_of_find?_eq_some found)
  next => exact .inl (by decide)

theorem tool_allowed_iff : isToolAllowed lower scope toolName = true ↔
    toolName ∈ alwaysAllowed ∨
      (Opens lower scope (toolGroup lower toolName) ∧ (isDestructive lower toolName → Grants lower scope)) := by
  unfold isToolAllowed
  by_cases always : toolName ∈ alwaysAllowed
  · simp [always]
  · rw [if_neg always]
    have open_ : ((explicitGroups lower scope).isEmpty || decide (toolGroup lower toolName ∈ scopeTokens lower scope) ||
        (toolGroup lower toolName == "admin" && decide ("admin" ∈ scopeTokens lower scope))) = true ↔
        Opens lower scope (toolGroup lower toolName) := by
      simp only [Bool.or_eq_true, List.isEmpty_iff, decide_eq_true_eq, Bool.and_eq_true, beq_iff_eq, Opens]
      constructor
      · rintro ((empty | named) | ⟨same, named⟩)
        · exact .inr empty
        · exact .inl named
        · exact .inl (same ▸ named)
      · rintro (named | empty)
        · exact .inl (.inr named)
        · exact .inl (.inl empty)
    have granted : (scopeTokens lower scope).any (· ∈ destructiveScopes) = true ↔ Grants lower scope := by
      simp [Grants]
    simp only [always, false_or]
    rw [← open_, ← granted]
    simp only [explicitGroups]
    cases isDestructive lower toolName <;> simp

theorem Opens.published (opens : Opens lower scope group) (known : group ∈ allGroups) :
    group ∈ (resolvePolicy lower scope).allowedGroups := by
  apply mem_allowed.mpr
  rcases opens with named | empty
  · exact ⟨known, .inl named⟩
  · refine ⟨known, .inr fun other listed token => ?_⟩
    have member : other ∈ explicitGroups lower scope := mem_explicit.mpr ⟨token, .inl listed⟩
    rw [empty] at member
    exact List.not_mem_nil member

end Reading

section Results
variable {lower : String → String} {current role : Option (List String)} {group : String}

/-- The groups that both scopes open, as far as one of them names any. -/
def keptGroups (lower : String → String) (current role : Option (List String)) : List String :=
  (sharedGroups (readScope lower current).groups (readScope lower role).groups).filter (· ≠ "admin")

theorem role_groups (clean : (strayTokens lower role).isEmpty) : ∀ token ∈ scopeTokens lower role, token ∈ allGroups := by
  intro token member
  by_contra stray
  have listed : token ∈ strayTokens lower role := by
    rw [strayTokens, mem_sorted]
    exact List.mem_filter.mpr ⟨member, decide_eq_true stray⟩
  rw [List.isEmpty_iff.mp clean] at listed
  exact List.not_mem_nil listed

theorem role_harmless (clean : (strayTokens lower role).isEmpty) : (readScope lower role).destructive = false := by
  have apart : ∀ token ∈ allGroups, token ∉ destructiveScopes := by decide
  rw [readScope, List.any_eq_false]
  intro token member grants
  exact apart token (role_groups clean token member) (of_decide_eq_true grants)

theorem narrowed_eq (clean : (strayTokens lower role).isEmpty) : narrowedScope lower current role =
    if explicitGroups lower current = [] ∧ explicitGroups lower role = [] then
      .ok (some (if (readScope lower current).destructive then
        (current.getD []).filter fun token => lower (PyText.strip token) ∉ destructiveScopes else current.getD []))
    else if keptGroups lower current role = [] then .ok none
    else .ok (some (sorted (keptGroups lower current role) ++ sorted (readScope lower current).legacy)) := by
  have named : ∀ scope, (readScope lower scope).groups.isNone = true ↔ explicitGroups lower scope = [] := by
    intro scope
    unfold readScope
    by_cases empty : explicitGroups lower scope = []
    · simp [empty]
    · simp [empty]
  have dropped : ∀ groups : List String,
      (if "admin" ∈ groups ∧ !false then groups.filter (· ≠ "admin") else groups) = groups.filter (· ≠ "admin") := by
    intro groups
    by_cases admin : "admin" ∈ groups
    · simp [admin]
    · have same : groups.filter (· ≠ "admin") = groups := by
        apply List.filter_eq_self.mpr
        intro group member
        exact decide_eq_true fun equal => admin (equal ▸ member)
      rw [if_neg fun both => admin both.1, same]
  have raw : (readScope lower current).raw = current.getD [] := rfl
  unfold narrowedScope
  simp only [clean, role_harmless clean, Bool.and_false, dropped, raw, Bool.not_true, Bool.false_eq_true, if_false, false_and,
    Bool.and_eq_true, named, List.isEmpty_iff]
  rw [keptGroups]
  by_cases both : explicitGroups lower current = [] ∧ explicitGroups lower role = []
  · rw [if_pos both, if_pos both]
    cases (readScope lower current).destructive <;> rfl
  · rw [if_neg both, if_neg both]

theorem opens_named (named : explicitGroups lower current ≠ []) : Opens lower current group ↔ group ∈ scopeTokens lower current :=
  ⟨fun opens => opens.resolve_right named, .inl⟩

theorem mem_kept (named : ¬ (explicitGroups lower current = [] ∧ explicitGroups lower role = [])) :
    group ∈ keptGroups lower current role ↔ group ∈ allGroups ∧ Opens lower current group ∧ Opens lower role group := by
  have listed : ∀ scope, group ∈ explicitGroups lower scope ∧ group ≠ "admin" ↔ group ∈ scopeTokens lower scope ∧ group ∈ allGroups := by
    intro scope
    rw [mem_explicit]
    constructor
    · rintro ⟨⟨token, known | admin⟩, other⟩
      · exact ⟨token, known⟩
      · exact absurd admin other
    · rintro ⟨token, known⟩
      refine ⟨⟨token, .inl known⟩, ?_⟩
      rintro rfl
      exact admin_unlisted known
  rw [keptGroups, List.mem_filter, decide_eq_true_eq]
  by_cases first : explicitGroups lower current = []
  · have second : explicitGroups lower role ≠ [] := fun empty => named ⟨first, empty⟩
    have shape : sharedGroups (readScope lower current).groups (readScope lower role).groups = explicitGroups lower role := by
      simp [readScope, first, second, sharedGroups]
    rw [shape, listed role, opens_named second]
    exact ⟨fun both => ⟨both.2, .inr first, both.1⟩, fun all => ⟨all.2.2, all.1⟩⟩
  · by_cases second : explicitGroups lower role = []
    · have shape : sharedGroups (readScope lower current).groups (readScope lower role).groups = explicitGroups lower current := by
        simp [readScope, first, second, sharedGroups]
      rw [shape, listed current, opens_named first]
      exact ⟨fun both => ⟨both.2, both.1, .inr second⟩, fun all => ⟨all.2.1, all.1⟩⟩
    · have shape : sharedGroups (readScope lower current).groups (readScope lower role).groups =
          (explicitGroups lower current).filter (· ∈ explicitGroups lower role) := by
        simp [readScope, first, second, sharedGroups]
      rw [shape, List.mem_filter, decide_eq_true_eq, opens_named first, opens_named second]
      have left := listed current
      have right := listed role
      constructor
      · rintro ⟨⟨cur, rol⟩, other⟩
        exact ⟨(left.mp ⟨cur, other⟩).2, (left.mp ⟨cur, other⟩).1, (right.mp ⟨rol, other⟩).1⟩
      · rintro ⟨known, cur, rol⟩
        exact ⟨⟨(left.mpr ⟨cur, known⟩).1, (right.mpr ⟨rol, known⟩).1⟩, (left.mpr ⟨cur, known⟩).2⟩

/-- The tokens that are the same when they are stripped and lowered. -/
def plainTokens : List String := allGroups ++ legacyScopes

theorem plain_token (lowers : LowersNames lower) {token : String} (plain : token ∈ plainTokens) :
    PyText.notBlank (some token) = true ∧ lower (PyText.strip token) = token := by
  have table : ∀ token ∈ plainTokens, PyText.notBlank (some token) = true ∧ PyText.strip token = token ∧
      PyText.lower token = token ∧ token.toList.all (·.toNat < 128) := by decide +kernel
  obtain ⟨written, stripped, lowered, ascii⟩ := table token plain
  have ascii : ∀ c ∈ token.toList, c.toNat < 128 := by simpa using ascii
  rw [stripped, lowers token ascii, lowered]
  exact ⟨written, rfl⟩

theorem tokens_plain (lowers : LowersNames lower) {tokens : List String} (plain : ∀ token ∈ tokens, token ∈ plainTokens) :
    scopeTokens lower (some tokens) = tokens := by
  induction tokens with
  | nil => rfl
  | cons token rest ih =>
    obtain ⟨written, same⟩ := plain_token lowers (plain token List.mem_cons_self)
    have later : scopeTokens lower (some rest) = rest := ih fun other member => plain other (List.mem_cons_of_mem token member)
    simp only [scopeTokens, Option.getD_some, List.filter_cons, written, if_true, List.map_cons, same] at later ⊢
    rw [later]

theorem sorted_plain (current role : Option (List String)) (named : ¬ (explicitGroups lower current = [] ∧ explicitGroups lower role = [])) :
    ∀ token ∈ sorted (keptGroups lower current role) ++ sorted (readScope lower current).legacy, token ∈ plainTokens := by
  intro token member
  rcases List.mem_append.mp member with group | legacy
  · exact List.mem_append_left _ ((mem_kept named).mp (mem_sorted.mp group)).1
  · have listed := (List.mem_filter.mp (mem_sorted.mp legacy)).2
    exact List.mem_append_right _ (of_decide_eq_true listed)

theorem mem_legacy_sorted {token : String} (member : token ∈ sorted (readScope lower current).legacy) : token ∈ legacyScopes :=
  of_decide_eq_true (List.mem_filter.mp (mem_sorted.mp member)).2

theorem mem_tokens_filter {keep : String → Bool} {token : String}
    (member : token ∈ scopeTokens lower (some ((current.getD []).filter keep))) :
    ∃ written ∈ current.getD [], keep written = true ∧ token = lower (PyText.strip written) ∧ token ∈ scopeTokens lower current := by
  obtain ⟨written, listed, rfl⟩ := List.mem_map.mp member
  obtain ⟨kept, notBlank⟩ := List.mem_filter.mp listed
  obtain ⟨inside, passes⟩ := List.mem_filter.mp kept
  exact ⟨written, inside, passes, rfl, List.mem_map_of_mem (List.mem_filter.mpr ⟨inside, notBlank⟩)⟩

/-- What a narrowed scope opens both scopes open, and it grants nothing that destroys. -/
structure Within (lower : String → String) (current role : Option (List String)) (result : List String) : Prop where
  opens : ∀ group, group ∈ allGroups ∨ group = "admin" → Opens lower (some result) group →
    Opens lower current group ∧ Opens lower role group
  published : ∀ group ∈ (resolvePolicy lower (some result)).allowedGroups, Opens lower current group ∧ Opens lower role group
  harmless : ¬ Grants lower (some result)

/-- Neither names a group: the key keeps its tokens, but for a grant that the role does not have. -/
theorem within_unnamed {keep : String → Bool} (first : explicitGroups lower current = []) (second : explicitGroups lower role = [])
    (harmless : ¬ Grants lower (some ((current.getD []).filter keep))) :
    Within lower current role ((current.getD []).filter keep) :=
  ⟨fun _ _ _ => ⟨.inr first, .inr second⟩, fun _ _ => ⟨.inr first, .inr second⟩, harmless⟩

theorem within_kept (lowers : LowersNames lower) (named : ¬ (explicitGroups lower current = [] ∧ explicitGroups lower role = []))
    (some_ : keptGroups lower current role ≠ []) :
    Within lower current role (sorted (keptGroups lower current role) ++ sorted (readScope lower current).legacy) := by
  have apart : ∀ token ∈ legacyScopes, token ∉ allGroups ∧ token ≠ "admin" ∧ token ∉ destructiveScopes := by decide
  have unlisted : ∀ token ∈ allGroups, token ∉ destructiveScopes := by decide
  have tokens := tokens_plain lowers (sorted_plain current role named)
  obtain ⟨kept, keeps⟩ := List.exists_mem_of_ne_nil _ some_
  have known := (mem_kept named).mp keeps
  have there : kept ∈ sorted (keptGroups lower current role) ++ sorted (readScope lower current).legacy :=
    List.mem_append_left _ (mem_sorted.mpr keeps)
  have opened : ∀ group, group ∈ allGroups ∨ group = "admin" →
      group ∈ sorted (keptGroups lower current role) ++ sorted (readScope lower current).legacy →
        Opens lower current group ∧ Opens lower role group := by
    intro group listed member
    rcases List.mem_append.mp member with group | legacy
    · exact ((mem_kept named).mp (mem_sorted.mp group)).2
    · have other := apart _ (mem_legacy_sorted legacy)
      rcases listed with group | admin
      · exact absurd group other.1
      · exact absurd admin other.2.1
  constructor
  · intro group listed opens
    rcases opens with token | empty
    · rw [tokens] at token
      exact opened group listed token
    · have member : kept ∈ explicitGroups lower (some (sorted (keptGroups lower current role) ++ sorted (readScope lower current).legacy)) := by
        rw [mem_explicit, tokens]
        exact ⟨there, .inl known.1⟩
      rw [empty] at member
      exact absurd member List.not_mem_nil
  · intro group allowed
    obtain ⟨listed, token | unnamed⟩ := mem_allowed.mp allowed
    · rw [tokens] at token
      exact opened group (.inl listed) token
    · rw [tokens] at unnamed
      exact absurd there (unnamed kept known.1)
  · rintro ⟨token, member, destroys⟩
    rw [tokens] at member
    rcases List.mem_append.mp member with group | legacy
    · exact unlisted token ((mem_kept named).mp (mem_sorted.mp group)).1 destroys
    · exact (apart token (mem_legacy_sorted legacy)).2.2 destroys

theorem unnamed_harmless (lower : String → String) (current : Option (List String)) : ∃ keep : String → Bool,
    (if (readScope lower current).destructive then (current.getD []).filter fun token => lower (PyText.strip token) ∉ destructiveScopes
      else current.getD []) = (current.getD []).filter keep ∧ ¬ Grants lower (some ((current.getD []).filter keep)) := by
  by_cases destructive : (readScope lower current).destructive
  · refine ⟨fun token => lower (PyText.strip token) ∉ destructiveScopes, if_pos destructive, ?_⟩
    rintro ⟨token, member, destroys⟩
    obtain ⟨written, _, passes, rfl, _⟩ := mem_tokens_filter member
    exact absurd destroys (of_decide_eq_true passes)
  · have all : (current.getD []).filter (fun _ => true) = current.getD [] := List.filter_eq_self.mpr fun _ _ => rfl
    refine ⟨fun _ => true, by rw [if_neg destructive, all], ?_⟩
    rintro ⟨token, member, destroys⟩
    obtain ⟨_, _, _, _, listed⟩ := mem_tokens_filter member
    apply destructive
    exact List.any_eq_true.mpr ⟨token, listed, decide_eq_true destroys⟩

theorem clean_of_ok {out : Option (List String)} (narrowed : narrowedScope lower current role = .ok out) :
    (strayTokens lower role).isEmpty := by
  by_cases clean : (strayTokens lower role).isEmpty
  · exact clean
  · have stray : narrowedScope lower current role = .error (strayTokens lower role) := by
      simp [narrowedScope, clean]
    rw [stray] at narrowed
    cases narrowed

theorem narrowed_within (lowers : LowersNames lower) {result : List String} (narrowed : narrowedScope lower current role = .ok (some result)) :
    Within lower current role result := by
  rw [narrowed_eq (clean_of_ok narrowed)] at narrowed
  by_cases both : explicitGroups lower current = [] ∧ explicitGroups lower role = []
  · rw [if_pos both] at narrowed
    obtain ⟨keep, same, harmless⟩ := unnamed_harmless lower current
    rw [same] at narrowed
    cases narrowed
    exact within_unnamed both.1 both.2 harmless
  · rw [if_neg both] at narrowed
    split at narrowed
    · cases narrowed
    next some_ =>
      cases narrowed
      exact within_kept lowers both some_

theorem sorted_ext {first second : List String} (same : ∀ name, name ∈ first ↔ name ∈ second) : sorted first = sorted second := by
  have perm : first.dedup.Perm second.dedup := by
    rw [List.perm_ext_iff_of_nodup first.nodup_dedup second.nodup_dedup]
    intro name
    rw [List.mem_dedup, List.mem_dedup, same]
  have sorts : (sorted first).Perm (sorted second) :=
    ((List.perm_insertionSort _ _).trans perm).trans (List.perm_insertionSort _ _).symm
  exact sorts.eq_of_pairwise (fun _ _ _ _ below above => String.le_antisymm below above) (List.pairwise_insertionSort _ _)
    (List.pairwise_insertionSort _ _)

theorem kept_again (lowers : LowersNames lower) (clean : (strayTokens lower role).isEmpty)
    (named : ¬ (explicitGroups lower current = [] ∧ explicitGroups lower role = []))
    (some_ : keptGroups lower current role ≠ []) :
    narrowedScope lower (some (sorted (keptGroups lower current role) ++ sorted (readScope lower current).legacy)) role =
      narrowedScope lower current role := by
  have apart : ∀ token ∈ legacyScopes, token ∉ allGroups := by decide
  have within := within_kept lowers named some_
  generalize shape : sorted (keptGroups lower current role) ++ sorted (readScope lower current).legacy = result at within ⊢
  have tokens : scopeTokens lower (some result) = result := by
    rw [← shape]
    exact tokens_plain lowers (sorted_plain current role named)
  have listed : ∀ group ∈ allGroups, group ∈ result ↔ group ∈ keptGroups lower current role := by
    intro group known
    rw [← shape, List.mem_append, mem_sorted]
    exact or_iff_left fun legacy => apart group (mem_legacy_sorted legacy) known
  obtain ⟨kept, keeps⟩ := List.exists_mem_of_ne_nil _ some_
  have known := ((mem_kept named).mp keeps).1
  have there : explicitGroups lower (some result) ≠ [] := by
    apply List.ne_nil_of_mem (a := kept)
    rw [mem_explicit, tokens]
    exact ⟨(listed kept known).mpr keeps, .inl known⟩
  have again : ∀ group, group ∈ keptGroups lower (some result) role ↔ group ∈ keptGroups lower current role := by
    intro group
    rw [mem_kept fun both => there both.1, mem_kept named, opens_named there, tokens]
    constructor
    · rintro ⟨inside, token, _⟩
      exact (mem_kept named).mp ((listed group inside).mp token)
    · rintro ⟨inside, cur, rol⟩
      exact ⟨inside, (listed group inside).mpr ((mem_kept named).mpr ⟨inside, cur, rol⟩), rol⟩
  have legacy : ∀ token, token ∈ (readScope lower (some result)).legacy ↔ token ∈ (readScope lower current).legacy := by
    intro token
    have unfolded : (readScope lower (some result)).legacy = result.filter (· ∈ legacyScopes) := rfl
    rw [unfolded, List.mem_filter, decide_eq_true_eq, ← shape, List.mem_append, mem_sorted, mem_sorted]
    constructor
    · rintro ⟨group | legacy, word⟩
      · exact absurd ((mem_kept named).mp group).1 (apart token word)
      · exact legacy
    · intro legacy
      exact ⟨.inr legacy, of_decide_eq_true (List.mem_filter.mp legacy).2⟩
  have left : keptGroups lower (some result) role ≠ [] := List.ne_nil_of_mem ((again kept).mpr keeps)
  rw [narrowed_eq clean, narrowed_eq clean, if_neg fun both => there both.1, if_neg named, if_neg left, if_neg some_,
    sorted_ext again, sorted_ext legacy]

theorem narrowed_again (lowers : LowersNames lower) {result : List String} (narrowed : narrowedScope lower current role = .ok (some result)) :
    narrowedScope lower (some result) role = .ok (some result) := by
  have clean := clean_of_ok narrowed
  have shape := narrowed
  rw [narrowed_eq clean] at shape
  by_cases both : explicitGroups lower current = [] ∧ explicitGroups lower role = []
  · rw [if_pos both] at shape
    obtain ⟨keep, same, harmless⟩ := unnamed_harmless lower current
    rw [same] at shape
    cases shape
    have unnamed : explicitGroups lower (some ((current.getD []).filter keep)) = [] := by
      apply List.eq_nil_iff_forall_not_mem.mpr
      intro token member
      obtain ⟨listed, group⟩ := mem_explicit.mp member
      obtain ⟨_, _, _, _, written⟩ := mem_tokens_filter listed
      have there : token ∈ explicitGroups lower current := mem_explicit.mpr ⟨written, group⟩
      rw [both.1] at there
      exact List.not_mem_nil there
    have grantless : (readScope lower (some ((current.getD []).filter keep))).destructive = false := by
      rw [readScope, List.any_eq_false]
      intro token member destroys
      exact harmless ⟨token, member, of_decide_eq_true destroys⟩
    rw [narrowed_eq clean, if_pos ⟨unnamed, both.2⟩, grantless]
    rfl
  · rw [if_neg both] at shape
    split at shape
    · cases shape
    next some_ =>
      cases shape
      exact (kept_again lowers clean both some_).trans narrowed

theorem narrowed_none_iff (clean : (strayTokens lower role).isEmpty) : narrowedScope lower current role = .ok none ↔
    ∀ group ∈ allGroups, ¬ (Opens lower current group ∧ Opens lower role group) := by
  rw [narrowed_eq clean]
  by_cases both : explicitGroups lower current = [] ∧ explicitGroups lower role = []
  · rw [if_pos both]
    constructor
    · intro same
      cases same
    · intro apart
      exact absurd ⟨.inr both.1, .inr both.2⟩ (apart core (by decide))
  · rw [if_neg both]
    by_cases empty : keptGroups lower current role = []
    · rw [if_pos empty]
      refine ⟨fun _ group known opens => ?_, fun _ => rfl⟩
      have member := (mem_kept both).mpr ⟨known, opens⟩
      rw [empty] at member
      exact List.not_mem_nil member
    · rw [if_neg empty]
      constructor
      · intro same
        cases same
      · intro apart
        obtain ⟨group, member⟩ := List.exists_mem_of_ne_nil _ empty
        obtain ⟨known, opens⟩ := (mem_kept both).mp member
        exact absurd opens (apart group known)

theorem narrowed_legacy (lowers : LowersNames lower) (unnamed : explicitGroups lower current = []) {out : Option (List String)}
    (narrowed : narrowedScope lower current role = .ok out) : ∃ result, out = some result ∧ ∀ group,
      group ∈ (resolvePolicy lower (some result)).allowedGroups ↔ group ∈ (resolvePolicy lower role).allowedGroups := by
  have clean := clean_of_ok narrowed
  cases out with
  | none =>
    obtain ⟨group, known, opens⟩ : ∃ group ∈ allGroups, Opens lower role group := by
      by_cases empty : explicitGroups lower role = []
      · exact ⟨core, by decide, .inr empty⟩
      · obtain ⟨token, member⟩ := List.exists_mem_of_ne_nil _ empty
        have listed := (mem_explicit.mp member).1
        exact ⟨token, role_groups clean token listed, .inl listed⟩
    exact absurd ⟨.inr unnamed, opens⟩ ((narrowed_none_iff clean).mp narrowed group known)
  | some result =>
    refine ⟨result, rfl, fun group => ⟨fun allowed => ?_, fun allowed => ?_⟩⟩
    · have known := (mem_allowed.mp allowed).1
      exact ((narrowed_within lowers narrowed).published group allowed).2.published known
    · obtain ⟨known, opens⟩ := mem_allowed.mp allowed
      rw [narrowed_eq clean] at narrowed
      by_cases empty : explicitGroups lower role = []
      · rw [if_pos ⟨unnamed, empty⟩] at narrowed
        obtain ⟨keep, same, -⟩ := unnamed_harmless lower current
        rw [same] at narrowed
        cases narrowed
        apply mem_allowed.mpr
        refine ⟨known, .inr fun other listed token => ?_⟩
        obtain ⟨_, _, _, _, written⟩ := mem_tokens_filter token
        have there : other ∈ explicitGroups lower current := mem_explicit.mpr ⟨written, .inl listed⟩
        rw [unnamed] at there
        exact List.not_mem_nil there
      · have both : ¬ (explicitGroups lower current = [] ∧ explicitGroups lower role = []) := fun both => empty both.2
        rw [if_neg both] at narrowed
        split at narrowed
        · cases narrowed
        next some_ =>
          cases narrowed
          have token : group ∈ scopeTokens lower role := by
            rcases opens with token | absent
            · exact token
            · obtain ⟨other, member⟩ := List.exists_mem_of_ne_nil _ empty
              have listed := (mem_explicit.mp member).1
              exact absurd listed (absent other (role_groups clean other listed))
          apply mem_allowed.mpr
          refine ⟨known, .inl ?_⟩
          rw [tokens_plain lowers (sorted_plain current role both)]
          apply List.mem_append_left
          exact mem_sorted.mpr ((mem_kept both).mpr ⟨known, .inr unnamed, .inl token⟩)

end Results

/-- A narrowed scope allows what both allow, and nothing more. -/
structure NeverWidens (lower : String → String) (current role : Option (List String)) : Prop where
  tools : ∀ result, narrowedScope lower current role = .ok (some result) → ∀ toolName,
    isToolAllowed lower (some result) toolName → isToolAllowed lower current toolName ∧ isToolAllowed lower role toolName
  paths : ∀ result, narrowedScope lower current role = .ok (some result) → ∀ path,
    pathAllowedForScope lower path (some result) → pathAllowedForScope lower path current ∧ pathAllowedForScope lower path role
  nothing : narrowedScope lower current role = .ok none → ∀ group ∈ allGroups, ¬ (Opens lower current group ∧ Opens lower role group)
  legacy : explicitGroups lower current = [] → ∀ out, narrowedScope lower current role = .ok out → ∃ result, out = some result ∧
    (∀ group, group ∈ (resolvePolicy lower (some result)).allowedGroups ↔ group ∈ (resolvePolicy lower role).allowedGroups) ∧
      (resolvePolicy lower (some result)).destructiveAllowed = false
  again : ∀ result, narrowedScope lower current role = .ok (some result) →
    narrowedScope lower (some result) role = .ok (some result)

theorem narrowing_never_widens (lower : String → String) (lowers : LowersNames lower) (current role : Option (List String)) :
    NeverWidens lower current role := by
  constructor
  · intro result narrowed toolName allowed
    have within := narrowed_within lowers narrowed
    rcases tool_allowed_iff.mp allowed with always | ⟨opens, destroys⟩
    · exact ⟨tool_allowed_iff.mpr (.inl always), tool_allowed_iff.mpr (.inl always)⟩
    · obtain ⟨cur, rol⟩ := within.opens _ (toolGroup_known lower toolName) opens
      have harmless : ∀ scope, isDestructive lower toolName → Grants lower scope :=
        fun _ destructive => absurd (destroys destructive) within.harmless
      exact ⟨tool_allowed_iff.mpr (.inr ⟨cur, harmless _⟩), tool_allowed_iff.mpr (.inr ⟨rol, harmless _⟩)⟩
  · intro result narrowed path allowed
    have within := narrowed_within lowers narrowed
    cases found : pathToToolGroup path with
    | none => simp [pathAllowedForScope, found]
    | some group =>
      have known := path_group_known found
      obtain ⟨cur, rol⟩ := within.published group ((path_allowed found).mp allowed)
      exact ⟨(path_allowed found).mpr (cur.published known), (path_allowed found).mpr (rol.published known)⟩
  · intro narrowed
    exact (narrowed_none_iff (clean_of_ok narrowed)).mp narrowed
  · intro unnamed out narrowed
    obtain ⟨result, rfl, groups⟩ := narrowed_legacy lowers unnamed narrowed
    refine ⟨result, rfl, groups, ?_⟩
    have harmless := (narrowed_within lowers narrowed).harmless
    rw [resolvePolicy, List.any_eq_false]
    intro token member destroys
    exact harmless ⟨token, member, of_decide_eq_true destroys⟩
  · intro result narrowed
    exact narrowed_again lowers narrowed

theorem narrowing_never_widens_sample : LowersNames PyText.lower ∧
    NeverWidens PyText.lower (some ["read", " Docs ", "admin"]) (some ["docs", "chat"]) :=
  ⟨fun _ _ => rfl, narrowing_never_widens PyText.lower (fun _ _ => rfl) _ _⟩

/-- A key for "admin" alone and a role without a scope both allow the tools of that group, but nothing is left. -/
theorem admin_key_left_with_nothing :
    toolGroup PyText.lower "sprintable_emit_event" = "admin" ∧
      isToolAllowed PyText.lower (some ["admin"]) "sprintable_emit_event" = true ∧
      isToolAllowed PyText.lower none "sprintable_emit_event" = true ∧
      narrowedScope PyText.lower (some ["admin"]) none = .ok none := by
  decide +kernel

end Sprintable.Toolsets
