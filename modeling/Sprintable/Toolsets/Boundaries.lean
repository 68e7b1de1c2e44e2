import Sprintable.Toolsets.Policy

/-! The two boundaries of a key, that of the tools and that of the paths. They ask the same tokens for
the groups that are named, but only the tools know the word "admin" as one. -/

namespace Sprintable.Toolsets

/-- What `str.lower` does to names in ASCII. -/
def LowersNames (lower : String → String) : Prop :=
  ∀ name : String, (∀ c ∈ name.toList, c.toNat < 128) → lower name = PyText.lower name

/-- The tool asks its group alone: it is not destructive, and not allowed to everybody. -/
structure Ordinary (lower : String → String) (group toolName : String) : Prop where
  group : toolGroup lower toolName = group
  harmless : isDestructive lower toolName = false
  asked : toolName ∉ alwaysAllowed

/-- The paths and the tools of a group are allowed together, and the published groups are the allowed ones. -/
structure Agreed (lower : String → String) (scope : Option (List String)) : Prop where
  boundary : ∀ path group, pathToToolGroup path = some group → ∀ toolName, Ordinary lower group toolName →
    (pathAllowedForScope lower path scope = true ↔ isToolAllowed lower scope toolName = true)
  published : ∀ group ∈ allGroups, ∀ toolName, Ordinary lower group toolName →
    (group ∈ (resolvePolicy lower scope).allowedGroups ↔ isToolAllowed lower scope toolName = true)
  known : ∀ group ∈ (resolvePolicy lower scope).allowedGroups, group ∈ allGroups

/-- The scope says "admin" and names no group. -/
def AdminAlone (lower : String → String) (scope : Option (List String)) : Prop :=
  "admin" ∈ scopeTokens lower scope ∧ ∀ group ∈ allGroups, group ∉ scopeTokens lower scope

section Tables

theorem admin_unlisted : "admin" ∉ allGroups := by decide

theorem prefix_groups_known : ∀ entry ∈ pathGroupPrefixes, entry.2 ∈ allGroups := by decide

theorem segment_groups_known : ∀ entry ∈ orgScopedPathGroupSegments, entry.2 ∈ allGroups := by decide

theorem org_scoped_known {path group : String} (found : orgScopedContentGroup path = some group) : group ∈ allGroups := by
  unfold orgScopedContentGroup at found
  split at found
  · obtain ⟨entry, selected, rfl⟩ := Option.map_eq_some_iff.mp found
    exact segment_groups_known entry (List.mem_of_find?_eq_some selected)
  · cases found

theorem path_group_known {path group : String} (found : pathToToolGroup path = some group) : group ∈ allGroups := by
  unfold pathToToolGroup at found
  split at found
  · cases found
  · rcases Option.or_eq_some_iff.mp found with listed | ⟨_, segment⟩
    · obtain ⟨entry, selected, rfl⟩ := Option.map_eq_some_iff.mp listed
      exact prefix_groups_known entry (List.mem_of_find?_eq_some selected)
    · exact org_scoped_known segment

theorem mem_sorted {names : List String} {name : String} : name ∈ sorted names ↔ name ∈ names := by
  rw [sorted, List.mem_insertionSort, List.mem_dedup]

end Tables

section Tokens
variable {lower : String → String} {scope : Option (List String)} {group toolName path : String}

theorem mem_allowed : group ∈ (resolvePolicy lower scope).allowedGroups ↔
    group ∈ allGroups ∧ (group ∈ scopeTokens lower scope ∨ ∀ named ∈ allGroups, named ∉ scopeTokens lower scope) := by
  unfold resolvePolicy
  dsimp only
  split
  next none_ =>
    have unnamed : ∀ named ∈ allGroups, named ∉ scopeTokens lower scope := by
      intro named known token
      have member : named ∈ (scopeTokens lower scope).filter (· ∈ allGroups) :=
        List.mem_filter.mpr ⟨token, decide_eq_true known⟩
      rw [List.isEmpty_iff.mp none_] at member
      exact List.not_mem_nil member
    rw [mem_sorted]
    exact ⟨fun known => ⟨known, .inr unnamed⟩, And.left⟩
  next some_ =>
    rw [mem_sorted, List.mem_filter, decide_eq_true_eq]
    refine ⟨fun both => ⟨both.2, .inl both.1⟩, fun both => ⟨both.2.resolve_right fun unnamed => some_ ?_, both.1⟩⟩
    rw [List.isEmpty_iff, List.filter_eq_nil_iff]
    intro token member known
    exact unnamed token (of_decide_eq_true known) member

/-- A tool that asks its group alone is allowed when the group is named, or when neither a group nor "admin" is. -/
theorem ordinary_allowed (ordinary : Ordinary lower group toolName) (known : group ∈ allGroups) :
    isToolAllowed lower scope toolName = true ↔
      group ∈ scopeTokens lower scope ∨
        ((∀ named ∈ allGroups, named ∉ scopeTokens lower scope) ∧ "admin" ∉ scopeTokens lower scope) := by
  have other : group ≠ "admin" := fun same => admin_unlisted (same ▸ known)
  unfold isToolAllowed
  rw [if_neg ordinary.asked]
  simp only [ordinary.group, ordinary.harmless, Bool.false_and, Bool.false_eq_true, if_false]
  have unnamed : ((scopeTokens lower scope).filter fun token => token ∈ allGroups ∨ token = "admin").isEmpty = true ↔
      (∀ named ∈ allGroups, named ∉ scopeTokens lower scope) ∧ "admin" ∉ scopeTokens lower scope := by
    rw [List.isEmpty_iff, List.filter_eq_nil_iff]
    constructor
    · intro empty
      refine ⟨fun named known token => ?_, fun token => ?_⟩
      · exact empty named token (decide_eq_true (.inl known))
      · exact empty "admin" token (decide_eq_true (.inr rfl))
    · rintro ⟨groups, admin⟩ token member chosen
      rcases of_decide_eq_true chosen with known | same
      · exact groups token known member
      · exact admin (same ▸ member)
  rw [← unnamed]
  simp [other, or_comm]

theorem path_allowed (found : pathToToolGroup path = some group) :
    pathAllowedForScope lower path scope = true ↔ group ∈ (resolvePolicy lower scope).allowedGroups := by
  unfold pathAllowedForScope
  rw [found]
  dsimp only
  rw [if_pos (path_group_known found), decide_eq_true_eq]

/-- Where the scope is not "admin" alone, a group is published exactly when its ordinary tools are allowed. -/
theorem published_allowed (mixed : ¬ AdminAlone lower scope) (ordinary : Ordinary lower group toolName)
    (known : group ∈ allGroups) :
    group ∈ (resolvePolicy lower scope).allowedGroups ↔ isToolAllowed lower scope toolName = true := by
  rw [mem_allowed, ordinary_allowed ordinary known]
  constructor
  · rintro ⟨_, named | unnamed⟩
    · exact .inl named
    · exact .inr ⟨unnamed, fun admin => mixed ⟨admin, unnamed⟩⟩
  · rintro (named | ⟨unnamed, _⟩)
    · exact ⟨known, .inl named⟩
    · exact ⟨known, .inr unnamed⟩

theorem stories_ordinary (lowers : LowersNames lower) : Ordinary lower "stories" "sprintable_list_stories" := by
  have same : lower "sprintable_list_stories" = PyText.lower "sprintable_list_stories" := lowers _ (by simp)
  refine ⟨?_, ?_, by decide⟩
  · rw [toolGroup, same]
    decide +kernel
  · rw [isDestructive, same]
    decide +kernel

end Tokens

/-- The boundaries of the tools and of the paths agree on every scope but one that says "admin" and names no group. -/
theorem boundaries_agree_iff (lower : String → String) (lowers : LowersNames lower) (scope : Option (List String)) :
    Agreed lower scope ↔ ¬ AdminAlone lower scope := by
  constructor
  · rintro agreed ⟨admin, unnamed⟩
    have ordinary := stories_ordinary lowers
    have path : pathToToolGroup "/api/v2/stories" = some "stories" := by decide +kernel
    have known := path_group_known path
    have published : "stories" ∈ (resolvePolicy lower scope).allowedGroups := mem_allowed.mpr ⟨known, .inr unnamed⟩
    have allowed := (agreed.published "stories" known _ ordinary).mp published
    rcases (ordinary_allowed ordinary known).mp allowed with named | ⟨_, absent⟩
    · exact unnamed "stories" known named
    · exact absent admin
  · intro mixed
    refine ⟨fun path group found toolName ordinary => ?_, fun group known toolName ordinary => ?_, fun group listed => ?_⟩
    · rw [path_allowed found]
      exact published_allowed mixed ordinary (path_group_known found)
    · exact published_allowed mixed ordinary known
    · exact (mem_allowed.mp listed).1

theorem boundaries_agree_sample : Agreed PyText.lower (some [" Stories ", "admin", "", "unheard"]) ↔
    ¬ AdminAlone PyText.lower (some [" Stories ", "admin", "", "unheard"]) :=
  boundaries_agree_iff PyText.lower (fun _ _ => rfl) _

/-- A key for "admin" alone may not list stories with the tool, but may read their path. -/
theorem admin_scope_reads_stories :
    isToolAllowed PyText.lower (some ["admin"]) "sprintable_list_stories" = false ∧
      pathAllowedForScope PyText.lower "/api/v2/stories" (some ["admin"]) = true ∧
      ¬ Agreed PyText.lower (some ["admin"]) := by
  have refused : isToolAllowed PyText.lower (some ["admin"]) "sprintable_list_stories" = false := by decide +kernel
  have accepted : pathAllowedForScope PyText.lower "/api/v2/stories" (some ["admin"]) = true := by decide +kernel
  refine ⟨refused, accepted, fun agreed => ?_⟩
  have path : pathToToolGroup "/api/v2/stories" = some "stories" := by decide +kernel
  have allowed := (agreed.boundary _ _ path _ (stories_ordinary fun _ _ => rfl)).mp accepted
  exact absurd (refused.symm.trans allowed) Bool.false_ne_true

end Sprintable.Toolsets
