import Mathlib.Data.List.Nodup
import Sprintable.Logic.Keyed

/-! Dictionaries that keep the order in which their keys came, and their merge, where the second one's
value of a key counts. -/

structure Dict (κ ν : Type) [DecidableEq κ] where
  entries : List (κ × ν)
  unique : (entries.map Prod.fst).Nodup

namespace Dict

variable {κ ν : Type} [DecidableEq κ]

def empty : Dict κ ν := ⟨[], List.nodup_nil⟩

def single (key : κ) (value : ν) : Dict κ ν := ⟨[(key, value)], List.nodup_singleton key⟩

def lookup (dict : Dict κ ν) (key : κ) : Option ν := (Keyed.find Prod.fst dict.entries key).map Prod.snd

def mergedEntries (first second : Dict κ ν) : List (κ × ν) :=
  first.entries.map (fun entry => (entry.1, (second.lookup entry.1).getD entry.2)) ++
    second.entries.filter fun entry => first.lookup entry.1 |>.isNone

section Lookups
variable {dict : Dict κ ν} {key : κ} {value : ν}

theorem lookup_none : dict.lookup key = none ↔ key ∉ dict.entries.map Prod.fst := by
  rw [lookup, Option.map_eq_none_iff]
  constructor
  · intro missing member
    obtain ⟨entry, listed, same⟩ := List.mem_map.mp member
    exact Keyed.find_none missing entry listed same
  · intro absent
    apply List.find?_eq_none.mpr
    intro entry listed same
    exact absent (List.mem_map.mpr ⟨entry, listed, of_decide_eq_true same⟩)

theorem merged_unique (first second : Dict κ ν) : ((mergedEntries first second).map Prod.fst).Nodup := by
  have keys : (first.entries.map fun entry => (entry.1, (second.lookup entry.1).getD entry.2)).map Prod.fst =
      first.entries.map Prod.fst := by
    rw [List.map_map]
    rfl
  rw [mergedEntries, List.map_append, keys]
  apply List.Nodup.append first.unique
  · exact second.unique.sublist (List.Sublist.map Prod.fst List.filter_sublist)
  · intro key old new
    obtain ⟨entry, kept, rfl⟩ := List.mem_map.mp new
    have missing := (List.mem_filter.mp kept).2
    rw [Option.isNone_iff_eq_none] at missing
    exact lookup_none.mp missing old

/-- `{**first, **second}`. -/
def merge (first second : Dict κ ν) : Dict κ ν := ⟨mergedEntries first second, merged_unique first second⟩

theorem lookup_merge (first second : Dict κ ν) (key : κ) : (merge first second).lookup key = (second.lookup key).or (first.lookup key) := by
  have firsts : (first.entries.map fun entry => (entry.1, (second.lookup entry.1).getD entry.2)).find? (fun entry => decide (entry.1 = key)) =
      (first.entries.find? fun entry => decide (entry.1 = key)).map fun entry => (entry.1, (second.lookup entry.1).getD entry.2) := by
    rw [List.find?_map]
    rfl
  have entries : (merge first second).entries = mergedEntries first second := rfl
  rw [lookup, Keyed.find, entries, mergedEntries, List.find?_append, firsts]
  cases old : first.entries.find? fun entry => decide (entry.1 = key) with
  | some entry =>
    have same : entry.1 = key := Keyed.find_key old
    have held : first.lookup key = some entry.2 := by rw [lookup, Keyed.find, old, Option.map_some]
    rw [held, Option.map_some, Option.some_or, Option.map_some, same]
    cases second.lookup key with
    | none => rfl
    | some value => rfl
  | none =>
    have missing : first.lookup key = none := by rw [lookup, Keyed.find, old, Option.map_none]
    rw [missing, Option.map_none, Option.none_or, Option.or_none, List.find?_filter, lookup, Keyed.find]
    congr 1
    apply Keyed.find_agree
    intro entry _
    by_cases same : entry.1 = key
    · simp [same, missing]
    · simp [same]

theorem merge_keeps (first second : Dict κ ν) (held : first.lookup key ≠ none) : (merge first second).lookup key ≠ none := by
  rw [lookup_merge]
  intro missing
  exact held (Option.or_eq_none_iff.mp missing).2

/-- The order of two merges without a common key makes no difference. -/
theorem merge_either (dict first second : Dict κ ν) (disjoint : ∀ key, first.lookup key = none ∨ second.lookup key = none) (key : κ) :
    (merge (merge dict first) second).lookup key = (merge (merge dict second) first).lookup key := by
  rw [lookup_merge, lookup_merge, lookup_merge, lookup_merge]
  rcases disjoint key with missing | missing
  · rw [missing, Option.none_or, Option.none_or]
  · rw [missing, Option.none_or, Option.none_or]

end Lookups

end Dict
