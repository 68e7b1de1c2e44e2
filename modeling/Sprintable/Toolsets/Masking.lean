import Sprintable.Logic.JsonDump

/-! What is recorded of the inputs of a tool call: path, query and body, without the values of keys that
name a secret, with long strings cut, down to a depth, and not at all beyond a size. -/

namespace Sprintable.Toolsets

open CodePoints JsonDump

abbrev Input := Value Number

abbrev Entries := List (Text × Input)

def denylistSubstrings : List Text :=
  [lit "token", lit "key", lit "secret", lit "password", lit "authorization", lit "cookie"]

def valueMaxLen : Nat := 120

def summaryMaxBytes : Nat := 2048

def redacted : Text := lit "[REDACTED]"

def maxDepth : Nat := 20

def truncated : Text := lit "[truncated]"

def ellipsis : Text := lit "…"

/-- `sub in text`. -/
def occursIn (sub text : Text) : Bool := text.tails.any fun tail => sub.isPrefixOf tail

def cutValue (value : Text) : Text := if value.length ≤ valueMaxLen then value else value.take valueMaxLen ++ ellipsis

/-- The summary has no bytes in UTF-8. -/
inductive SummaryError where
  | unicodeEncode
  deriving DecidableEq, Repr

section Mask
variable (lower : Text → Text)

def isDenylistedKey (key : Text) : Bool := denylistSubstrings.any fun sub => occursIn sub (lower key)

mutual

def maskRecursive (depth : Nat) (value : Input) : Input :=
  if maxDepth < depth then .text truncated
  else
    match value with
    | .text value => .text (cutValue value)
    | .dict entries => .dict (maskEntries depth entries)
    | .list items => .list (maskItems depth items)
    | other => other

def maskEntries (depth : Nat) : Entries → Entries
  | [] => []
  | (key, value) :: rest =>
    (key, if isDenylistedKey lower key then .text redacted else maskRecursive (depth + 1) value) :: maskEntries depth rest

def maskItems (depth : Nat) : List Input → List Input
  | [] => []
  | item :: rest => maskRecursive (depth + 1) item :: maskItems depth rest

end

def maskMapping (data : Entries) : Input := maskRecursive lower 0 (.dict data)

/-- What a request carries. A missing part and an empty one are the same to the summary. -/
structure CallInputs where
  pathParams : Option Entries := none
  queryParams : Entries
  body : Option Entries

/-- A part of the summary, unless there is nothing in it. -/
def summaryPart (name : Text) (data : Option Entries) : Entries :=
  match data with
  | none | some [] => []
  | some data => [(name, maskMapping lower data)]

def summaryOf (inputs : CallInputs) : Entries :=
  summaryPart lower (lit "path") inputs.pathParams ++ summaryPart lower (lit "query") (some inputs.queryParams) ++
    summaryPart lower (lit "body") inputs.body

def truncationMark : Input := .dict [(lit "_truncated", .bool true)]

def buildInputSummary (inputs : CallInputs) : Except SummaryError (Option Input) :=
  let summary := summaryOf lower inputs
  if summary.isEmpty then .ok none
  else
    match encode (dumps Number.write false (.dict summary)) with
    | none => .error .unicodeEncode
    | some octets => .ok (some (if summaryMaxBytes < octets.length then truncationMark else .dict summary))

end Mask

section Hidden
variable (lower : Text → Text)

mutual

/-- The value without what stands under denylisted keys. -/
def hide : Input → Input
  | .dict entries => .dict (hideEntries entries)
  | .list items => .list (hideItems items)
  | value => value

def hideEntries : Entries → Entries
  | [] => []
  | (key, value) :: rest => (key, if isDenylistedKey lower key then .null else hide value) :: hideEntries rest

def hideItems : List Input → List Input
  | [] => []
  | item :: rest => hide item :: hideItems rest

end

/-- Two requests are equal except for values that stand under denylisted keys. -/
def AgreeOutside (first second : CallInputs) : Prop :=
  first.pathParams.map (hideEntries lower) = second.pathParams.map (hideEntries lower) ∧
    hideEntries lower first.queryParams = hideEntries lower second.queryParams ∧
    first.body.map (hideEntries lower) = second.body.map (hideEntries lower)

mutual

/-- A lone surrogate stands in a key, or in the part of a string, that the summary keeps. -/
def surrogateShown (depth : Nat) (value : Input) : Bool :=
  if maxDepth < depth then false
  else
    match value with
    | .text value => hasSurrogate (value.take valueMaxLen)
    | .dict entries => surrogateShownEntries depth entries
    | .list items => surrogateShownItems depth items
    | _ => false

def surrogateShownEntries (depth : Nat) : Entries → Bool
  | [] => false
  | (key, value) :: rest =>
    hasSurrogate key || (!isDenylistedKey lower key && surrogateShown (depth + 1) value) || surrogateShownEntries depth rest

def surrogateShownItems (depth : Nat) : List Input → Bool
  | [] => false
  | item :: rest => surrogateShown (depth + 1) item || surrogateShownItems depth rest

end

end Hidden

section Maps
variable {lower : Text → Text}

@[simp] theorem mask_entries (depth : Nat) (entries : Entries) :
    maskEntries lower depth entries = entries.map fun entry =>
      (entry.1, if isDenylistedKey lower entry.1 then .text redacted else maskRecursive lower (depth + 1) entry.2) := by
  induction entries with
  | nil => rfl
  | cons entry rest ih => rw [maskEntries, ih, List.map_cons]

@[simp] theorem mask_items (depth : Nat) (items : List Input) :
    maskItems lower depth items = items.map (maskRecursive lower (depth + 1)) := by
  induction items with
  | nil => rfl
  | cons item rest ih => rw [maskItems, ih, List.map_cons]

@[simp] theorem hide_entries (entries : Entries) :
    hideEntries lower entries = entries.map fun entry =>
      (entry.1, if isDenylistedKey lower entry.1 then .null else hide lower entry.2) := by
  induction entries with
  | nil => rfl
  | cons entry rest ih => rw [hideEntries, ih, List.map_cons]

@[simp] theorem hide_items (items : List Input) : hideItems lower items = items.map (hide lower) := by
  induction items with
  | nil => rfl
  | cons item rest ih => rw [hideItems, ih, List.map_cons]

@[simp] theorem shown_entries (depth : Nat) (entries : Entries) :
    surrogateShownEntries lower depth entries = entries.any fun entry =>
      hasSurrogate entry.1 || (!isDenylistedKey lower entry.1 && surrogateShown lower (depth + 1) entry.2) := by
  induction entries with
  | nil => rfl
  | cons entry rest ih => rw [surrogateShownEntries, ih, List.any_cons]

@[simp] theorem shown_items (depth : Nat) (items : List Input) :
    surrogateShownItems lower depth items = items.any (surrogateShown lower (depth + 1)) := by
  induction items with
  | nil => rfl
  | cons item rest ih => rw [surrogateShownItems, ih, List.any_cons]

theorem mask_deep {depth : Nat} (deep : maxDepth < depth) (value : Input) :
    maskRecursive lower depth value = .text truncated := by
  unfold maskRecursive
  rw [if_pos deep]

variable {depth : Nat}

theorem mask_list (shallow : ¬ maxDepth < depth) (items : List Input) :
    maskRecursive lower depth (.list items) = .list (items.map (maskRecursive lower (depth + 1))) := by
  rw [maskRecursive, if_neg shallow, mask_items]

theorem mask_dict (shallow : ¬ maxDepth < depth) (entries : Entries) :
    maskRecursive lower depth (.dict entries) = .dict (entries.map fun entry =>
      (entry.1, if isDenylistedKey lower entry.1 then .text redacted else maskRecursive lower (depth + 1) entry.2)) := by
  rw [maskRecursive, if_neg shallow, mask_entries]

theorem mask_text (shallow : ¬ maxDepth < depth) (value : Text) :
    maskRecursive lower depth (.text value) = .text (cutValue value) := by
  rw [maskRecursive, if_neg shallow]

theorem mask_scalar (shallow : ¬ maxDepth < depth) {value : Input} (flat : value.isScalar = true) :
    maskRecursive lower depth value = value := by
  unfold maskRecursive
  rw [if_neg shallow]
  cases value <;> first | rfl | cases flat

theorem hide_scalar {value : Input} (flat : value.isScalar = true) : hide lower value = value := by
  cases value <;> first | rfl | cases flat

theorem shown_deep (deep : maxDepth < depth) (value : Input) : surrogateShown lower depth value = false := by
  unfold surrogateShown
  rw [if_pos deep]

theorem shown_scalar {value : Input} (flat : value.isScalar = true) : surrogateShown lower depth value = false := by
  unfold surrogateShown
  split
  · rfl
  · cases value <;> first | rfl | cases flat

end Maps

/-- Induction on a value at a depth, as masking goes down into it. -/
@[elab_as_elim]
theorem masked_parts {motive : Nat → Input → Prop} (deep : ∀ depth value, maxDepth < depth → motive depth value)
    (scalar : ∀ depth value, ¬ maxDepth < depth → value.isScalar = true → motive depth value)
    (text : ∀ depth value, ¬ maxDepth < depth → motive depth (.text value))
    (list : ∀ depth items, ¬ maxDepth < depth → (∀ item ∈ items, motive (depth + 1) item) → motive depth (.list items))
    (dict : ∀ depth entries, ¬ maxDepth < depth → (∀ entry ∈ entries, motive (depth + 1) entry.2) →
      motive depth (.dict entries)) (depth : Nat) (value : Input) : motive depth value := by
  induction value using Value.parts generalizing depth with
  | scalar value flat =>
    by_cases below : maxDepth < depth
    · exact deep depth value below
    · exact scalar depth value below flat
  | text value =>
    by_cases below : maxDepth < depth
    · exact deep depth _ below
    · exact text depth value below
  | list items ih =>
    by_cases below : maxDepth < depth
    · exact deep depth _ below
    · exact list depth items below fun item member => ih item member (depth + 1)
  | dict entries ih =>
    by_cases below : maxDepth < depth
    · exact deep depth _ below
    · exact dict depth entries below fun entry member => ih entry member (depth + 1)

section Masked
variable {lower : Text → Text}

theorem mask_hide (depth : Nat) (value : Input) :
    maskRecursive lower depth (hide lower value) = maskRecursive lower depth value := by
  induction depth, value using masked_parts with
  | deep depth value below => rw [mask_deep below, mask_deep below]
  | scalar depth value shallow flat => rw [hide_scalar flat]
  | text depth value shallow => rfl
  | list depth items shallow ih =>
    rw [hide, hide_items, mask_list shallow, mask_list shallow, List.map_map]
    congr 1
    apply List.map_congr_left
    intro item member
    exact ih item member
  | dict depth entries shallow ih =>
    rw [hide, hide_entries, mask_dict shallow, mask_dict shallow, List.map_map]
    congr 1
    apply List.map_congr_left
    intro entry member
    simp only [Function.comp_apply]
    split
    · rfl
    · rw [ih entry member]

theorem cut_value_length (value : Text) : (cutValue value).length ≤ valueMaxLen + 1 := by
  unfold cutValue
  split
  · omega
  · rw [List.length_append, List.length_take]
    have mark : ellipsis.length = 1 := by decide
    omega

theorem cut_value_again (value : Text) : cutValue (cutValue value) = cutValue value := by
  by_cases short : value.length ≤ valueMaxLen
  · have kept : cutValue value = value := if_pos short
    rw [kept, kept]
  · have cut : cutValue value = value.take valueMaxLen ++ ellipsis := if_neg short
    have front : (value.take valueMaxLen).length = valueMaxLen := by
      rw [List.length_take]
      omega
    have mark : ellipsis.length = 1 := by decide
    rw [cut]
    unfold cutValue
    rw [if_neg (by rw [List.length_append, front, mark]; omega), List.take_left' front]

theorem cut_value_surrogate (value : Text) : hasSurrogate (cutValue value) = hasSurrogate (value.take valueMaxLen) := by
  unfold cutValue
  split
  next short => rw [List.take_of_length_le short]
  next long =>
    have mark : hasSurrogate ellipsis = false := by decide
    rw [surrogate_append, mark, Bool.or_false]

theorem mask_again (depth : Nat) (value : Input) :
    maskRecursive lower depth (maskRecursive lower depth value) = maskRecursive lower depth value := by
  induction depth, value using masked_parts with
  | deep depth value below => rw [mask_deep below, mask_deep below]
  | scalar depth value shallow flat => rw [mask_scalar shallow flat, mask_scalar shallow flat]
  | text depth value shallow => rw [mask_text shallow, mask_text shallow, cut_value_again]
  | list depth items shallow ih =>
    rw [mask_list shallow, mask_list shallow, List.map_map]
    congr 1
    apply List.map_congr_left
    intro item member
    exact ih item member
  | dict depth entries shallow ih =>
    rw [mask_dict shallow, mask_dict shallow, List.map_map]
    congr 1
    apply List.map_congr_left
    intro entry member
    simp only [Function.comp_apply]
    split
    · rfl
    · rw [ih entry member]

theorem mask_strings (depth : Nat) (value : Input) :
    ∀ text ∈ strings (maskRecursive lower depth value), text.length ≤ valueMaxLen + 1 := by
  have marks : truncated.length ≤ valueMaxLen + 1 ∧ redacted.length ≤ valueMaxLen + 1 := by decide
  induction depth, value using masked_parts with
  | deep depth value below =>
    intro text member
    rw [mask_deep below] at member
    rw [List.mem_singleton.mp member]
    exact marks.1
  | scalar depth value shallow flat =>
    intro text member
    rw [mask_scalar shallow flat, strings_scalar flat] at member
    cases member
  | text depth value shallow =>
    intro text member
    rw [mask_text shallow] at member
    rw [List.mem_singleton.mp member]
    exact cut_value_length value
  | list depth items shallow ih =>
    intro text member
    rw [mask_list shallow, strings, strings_of_items, List.flatMap_map] at member
    obtain ⟨item, inside, member⟩ := List.mem_flatMap.mp member
    exact ih item inside text member
  | dict depth entries shallow ih =>
    intro text member
    rw [mask_dict shallow, strings, strings_of_entries, List.flatMap_map] at member
    obtain ⟨entry, inside, member⟩ := List.mem_flatMap.mp member
    dsimp only at member
    split at member
    · rw [List.mem_singleton.mp member]
      exact marks.2
    · exact ih entry inside text member

theorem mask_surrogate (depth : Nat) (value : Input) :
    surrogateIn (maskRecursive lower depth value) = surrogateShown lower depth value := by
  have marks : hasSurrogate truncated = false ∧ hasSurrogate redacted = false := by decide
  induction depth, value using masked_parts with
  | deep depth value below =>
    rw [mask_deep below, shown_deep below]
    exact marks.1
  | scalar depth value shallow flat => rw [mask_scalar shallow flat, surrogate_scalar flat, shown_scalar flat]
  | text depth value shallow =>
    rw [mask_text shallow, surrogateShown, if_neg shallow]
    exact cut_value_surrogate value
  | list depth items shallow ih =>
    rw [mask_list shallow, surrogateIn, surrogate_items, List.any_map, surrogateShown, if_neg shallow, shown_items]
    exact any_agree ih
  | dict depth entries shallow ih =>
    rw [mask_dict shallow, surrogateIn, surrogate_entries, List.any_map, surrogateShown, if_neg shallow, shown_entries]
    apply any_agree
    intro entry member
    simp only [Function.comp_apply]
    cases denied : isDenylistedKey lower entry.1 with
    | true =>
      have mark : surrogateIn (.text redacted : Input) = false := marks.2
      simp [mark]
    | false => simp [ih entry member]

end Masked

section Summary
variable {lower : Text → Text}

/-- A lone surrogate stands in some part that the summary keeps. -/
def CallInputs.surrogateShown (lower : Text → Text) (inputs : CallInputs) : Bool :=
  let shown (data : Entries) := Toolsets.surrogateShown lower 0 (.dict data)
  inputs.pathParams.any shown || shown inputs.queryParams || inputs.body.any shown

/-- What may be recorded: nothing, the mark of a long summary, or a summary of bounded size and strings. -/
def Recordable : Option Input → Prop
  | none => True
  | some summary =>
    summary = truncationMark ∨
      ∃ octets, encode (dumps Number.write false summary) = some octets ∧ octets.length ≤ summaryMaxBytes ∧
        ∀ text ∈ strings summary, text.length ≤ valueMaxLen + 1

/-- What the record of a request owes: it shows nothing of hidden values, it is bounded, and masking is
done once. -/
structure SummarySound (lower : Text → Text) (inputs : CallInputs) : Prop where
  hidden : ∀ other, AgreeOutside lower inputs other → buildInputSummary lower inputs = buildInputSummary lower other
  recorded : ∃ result, buildInputSummary lower inputs = .ok result ∧ Recordable result
  stable : ∀ depth value, maskRecursive lower depth (maskRecursive lower depth value) = maskRecursive lower depth value

theorem mask_mapping_hide (data : Entries) : maskMapping lower (hideEntries lower data) = maskMapping lower data :=
  mask_hide 0 (.dict data)

theorem part_hide (name : Text) (data : Option Entries) :
    summaryPart lower name (data.map (hideEntries lower)) = summaryPart lower name data := by
  cases data with
  | none => rfl
  | some data =>
    cases data with
    | nil => rfl
    | cons entry rest =>
      have masked : maskMapping lower (hideEntries lower (entry :: rest)) = maskMapping lower (entry :: rest) :=
        mask_mapping_hide _
      unfold summaryPart
      simp only [Option.map_some, hideEntries] at masked ⊢
      rw [masked]

theorem summary_agree {first second : CallInputs} (agree : AgreeOutside lower first second) :
    summaryOf lower first = summaryOf lower second := by
  obtain ⟨path, query, body⟩ := agree
  have query : (some first.queryParams).map (hideEntries lower) = (some second.queryParams).map (hideEntries lower) :=
    congrArg some query
  unfold summaryOf
  rw [← part_hide _ first.pathParams, ← part_hide _ (some first.queryParams), ← part_hide _ first.body, path, query, body,
    part_hide, part_hide, part_hide]

theorem part_strings (name : Text) (data : Option Entries) :
    ∀ text ∈ stringsOfEntries (summaryPart lower name data), text.length ≤ valueMaxLen + 1 := by
  intro text member
  unfold summaryPart at member
  split at member
  · cases member
  · cases member
  · rw [strings_of_entries, List.flatMap_singleton] at member
    exact mask_strings 0 _ text member

theorem summary_strings (inputs : CallInputs) :
    ∀ text ∈ strings (.dict (summaryOf lower inputs)), text.length ≤ valueMaxLen + 1 := by
  intro text member
  rw [strings, summaryOf, strings_of_entries, List.flatMap_append, List.flatMap_append, List.mem_append, List.mem_append] at member
  simp only [← strings_of_entries] at member
  rcases member with (path | query) | body
  · exact part_strings _ _ text path
  · exact part_strings _ _ text query
  · exact part_strings _ _ text body

theorem part_surrogate (name : Text) (data : Option Entries) (plain : hasSurrogate name = false) :
    surrogateInEntries (summaryPart lower name data) = data.any fun data => surrogateShown lower 0 (.dict data) := by
  unfold summaryPart
  split
  · rfl
  · rfl
  next data _ =>
    have masked : surrogateIn (maskMapping lower data) = surrogateShown lower 0 (.dict data) := mask_surrogate 0 _
    simp [masked, plain]

theorem summary_surrogate (inputs : CallInputs) :
    surrogateIn (.dict (summaryOf lower inputs)) = inputs.surrogateShown lower := by
  have names : hasSurrogate (lit "path") = false ∧ hasSurrogate (lit "query") = false ∧ hasSurrogate (lit "body") = false := by
    decide
  rw [surrogateIn, summaryOf, surrogate_entries, List.any_append, List.any_append]
  simp only [← surrogate_entries]
  rw [part_surrogate _ _ names.1, part_surrogate _ _ names.2.1, part_surrogate _ _ names.2.2]
  rfl

/-- The record of a call is sound exactly where the summary keeps no lone surrogate. -/
theorem summary_sound_iff (lower : Text → Text) (inputs : CallInputs) :
    SummarySound lower inputs ↔ inputs.surrogateShown lower = false := by
  have written : hasSurrogate (dumps Number.write false (.dict (summaryOf lower inputs))) = inputs.surrogateShown lower := by
    rw [dumps_surrogate number_plain, summary_surrogate]
  constructor
  · intro sound
    obtain ⟨result, built, -⟩ := sound.recorded
    rw [← written]
    by_contra shown
    rw [Bool.not_eq_false] at shown
    unfold buildInputSummary at built
    dsimp only at built
    split at built
    next empty =>
      rw [List.isEmpty_iff.mp empty] at shown
      revert shown
      change ¬ hasSurrogate (dumps Number.write false (.dict [])) = true
      decide
    · simp only [encode, if_pos shown] at built
      cases built
  · intro clear
    rw [← written] at clear
    refine ⟨fun other agree => ?_, ?_, mask_again⟩
    · unfold buildInputSummary
      rw [summary_agree agree]
    · unfold buildInputSummary
      dsimp only
      split
      · exact ⟨none, rfl, True.intro⟩
      cases encoded : encode (dumps Number.write false (.dict (summaryOf lower inputs))) with
      | none =>
        simp [encode, clear] at encoded
      | some octets =>
        refine ⟨_, rfl, ?_⟩
        dsimp only [Recordable]
        split
        · exact .inl rfl
        next fits => exact .inr ⟨octets, encoded, by omega, summary_strings inputs⟩

/-- A body with a lone surrogate, as the decoder of JSON reads it from an escape. -/
def CallInputs.lone : CallInputs where
  queryParams := []
  body := some [(lit "title", .text [0xd800])]

/-- The summary of that body has no bytes, and the call ends with an error. -/
theorem lone_not_recorded : ¬ SummarySound id .lone := by
  rintro ⟨-, ⟨result, built, -⟩, -⟩
  have raised : (buildInputSummary id .lone).toOption.isSome = false := by decide +kernel
  rw [built] at raised
  cases raised

end Summary

end Sprintable.Toolsets
