import Sprintable.Logic.Links
import Sprintable.Logic.Percent

/-! The UTM parameters of a link that is published. The query is read into names and values and written
anew, and what it was written of before is kept only where that is how it was written. -/

namespace Sprintable.Publications.Utm

open CodePoints Links Percent

structure Tags where
  source : Text
  medium : Text
  campaign : Text
  content : Option Text := none

def Tags.pairs (tags : Tags) : List (Text × Text) :=
  [(lit "utm_source", tags.source), (lit "utm_medium", tags.medium), (lit "utm_campaign", tags.campaign)] ++
    tags.content.elim [] fun content => [(lit "utm_content", content)]

/-- `any(k.startswith("utm_") for k, _ in query)`. -/
def hasUtm (query : List (Text × Text)) : Bool := query.any fun pair => (lit "utm_").isPrefixOf pair.1

/-- The tagged link, or what `urlsplit` or `urlencode` raises. -/
def attachUtm (hosts : Hosts) (url : Text) (tags : Tags) : Option Text :=
  (urlsplit hosts url).bind fun parsed =>
    let query := parseQsl parsed.query
    if hasUtm query then some url
    else (urlencode (query ++ tags.pairs)).map fun written => urlunsplit { parsed with query := written }

section Laws

def IsTagged (hosts : Hosts) (url : Text) : Prop := ∃ parsed, urlsplit hosts url = some parsed ∧ hasUtm (parseQsl parsed.query) = true

/-- Scheme, host, path, fragment and every parameter as they are written, with the given tags behind them. -/
structure Attached (tags : Tags) (url result : Text) : Prop where
  front : rawFront result = rawFront url
  tail : rawTail result = rawTail url
  query : pieces (rawQuery result) = pieces (rawQuery url) ++ tags.pairs.map writtenPair
  read : parseQsl (rawQuery result) = parseQsl (rawQuery url) ++ tags.pairs

/-- A link is tagged once, and a tagged one is left alone. -/
def IsKept (hosts : Hosts) (tags : Tags) (url : Text) : Prop :=
  ∃ result, attachUtm hosts url tags = some result ∧ (∀ others, attachUtm hosts result others = some result) ∧
    (IsTagged hosts url → result = url) ∧ (¬ IsTagged hosts url → Attached tags url result)

/-- A link that is written as the library writes it. -/
structure IsPlain (tags : Tags) (url : Text) : Prop where
  opens : ∀ c, (rawFront url).head? = some c → isBlank c = false
  front : ∀ c ∈ rawFront url, isBreak c = false
  joined : IsJoined (rawFront url)
  tail : ∀ c ∈ rawTail url, isBreak c = false
  marked : rawTail url ≠ [hash]
  written : ∀ piece ∈ pieces (rawQuery url), IsWritten piece
  tags : ∀ pair ∈ tags.pairs, PlainPair pair

variable {hosts : Hosts} {tags : Tags}

theorem pairs_tagged (query : List (Text × Text)) (tags : Tags) : hasUtm (query ++ tags.pairs) = true := by
  apply List.any_eq_true.mpr
  exact ⟨(lit "utm_source", tags.source), List.mem_append_right _ List.mem_cons_self, rfl⟩

theorem pairs_some (query : List (Text × Text)) (tags : Tags) : query ++ tags.pairs ≠ [] :=
  List.append_ne_nil_of_right_ne_nil _ (List.cons_ne_nil _ _)

theorem written_some {query : List (Text × Text)} (some_ : query ≠ []) : writtenQuery query ≠ [] := by
  intro none_
  have empty := pieces_written query
  rw [none_] at empty
  exact some_ (List.map_eq_nil_iff.mp empty.symm)

theorem written_unbroken {query : List (Text × Text)} {c : CodePoint} (member : c ∈ writtenQuery query) : isBreak c = false ∧ c ≠ hash := by
  rcases writtenQuery_char member with form | rfl | rfl
  · obtain ⟨-, -, -, noHash, beyond, -⟩ := form_char form
    refine ⟨?_, fun same => noHash (congrArg Fin.val same)⟩
    simp only [isBreak, Bool.or_eq_false_iff, decide_eq_false_iff_not]
    omega
  · decide
  · decide

theorem pieces_unbroken {query : Text} (written : ∀ piece ∈ pieces query, IsWritten piece) : scrub query = query := by
  apply scrub_same.mpr
  intro c member
  rcases query_char member with rfl | ⟨piece, listed, inner⟩
  · rfl
  · obtain ⟨pair, -, rfl⟩ := written piece listed
    have single : c ∈ writtenQuery [pair] := by
      rw [writtenQuery, List.map_singleton, List.intercalate_singleton]
      exact inner
    exact (written_unbroken single).1

theorem query_kept_iff {query : Text} (plain : ∀ pair ∈ parseQsl (scrub query), PlainPair pair) :
    (parseQsl (scrub query)).map writtenPair = pieces query ↔ ∀ piece ∈ pieces query, IsWritten piece := by
  constructor
  · intro same piece member
    rw [← same] at member
    obtain ⟨pair, listed, rfl⟩ := List.mem_map.mp member
    exact ⟨pair, plain pair listed, rfl⟩
  · intro written
    rw [pieces_unbroken written, parseQsl, List.map_map]
    exact (List.map_congr_left fun piece member => (written_again (written piece member)).1).trans (List.map_id _)

theorem parsed_plain {query : Text} (written : ∀ piece ∈ pieces query, IsWritten piece) : ∀ pair ∈ parseQsl query, PlainPair pair := by
  intro pair member
  obtain ⟨piece, listed, rfl⟩ := List.mem_map.mp member
  exact (written_again (written piece listed)).2

end Laws

section Links
variable {hosts : Hosts} {tags : Tags} {front : Text} {query fragment : Option Text}

theorem tagged_iff (isFront : IsFront front) (isQuery : IsQuery query) (accepted : acceptsNetloc hosts (frontNetloc (clean front)) = true) :
    IsTagged hosts (compose front query fragment) ↔ hasUtm (parseQsl (scrub (query.getD []))) = true := by
  rw [IsTagged, urlsplit_compose hosts isFront isQuery, if_pos accepted]
  constructor
  · rintro ⟨parsed, same, tagged⟩
    obtain rfl := Option.some.inj same
    exact tagged
  · exact fun tagged => ⟨_, rfl, tagged⟩

theorem attach_tagged {url : Text} (tagged : IsTagged hosts url) (tags : Tags) : attachUtm hosts url tags = some url := by
  obtain ⟨parsed, split_, has⟩ := tagged
  rw [attachUtm, split_, Option.bind_some]
  exact if_pos has

/-- What is written of a link without a tag. -/
def rewritten (tags : Tags) (front : Text) (query fragment : Option Text) : Text :=
  compose (joinFront (frontScheme (clean front)) (frontNetloc (clean front)) (frontPath (clean front)))
    (some (writtenQuery (parseQsl (scrub (query.getD [])) ++ tags.pairs))) (part (scrub (fragment.getD [])))

theorem attach_untagged (isFront : IsFront front) (isQuery : IsQuery query)
    (accepted : acceptsNetloc hosts (frontNetloc (clean front)) = true) (untagged : hasUtm (parseQsl (scrub (query.getD []))) = false)
    {result : Text} :
    attachUtm hosts (compose front query fragment) tags = some result ↔
      (∀ pair ∈ parseQsl (scrub (query.getD [])) ++ tags.pairs, PlainPair pair) ∧ result = rewritten tags front query fragment := by
  have kept : part (writtenQuery (parseQsl (scrub (query.getD [])) ++ tags.pairs)) =
      some (writtenQuery (parseQsl (scrub (query.getD [])) ++ tags.pairs)) := if_pos (written_some (pairs_some _ tags))
  rw [attachUtm, urlsplit_compose hosts isFront isQuery, if_pos accepted, Option.bind_some]
  dsimp only
  rw [untagged, if_neg Bool.false_ne_true, Option.map_eq_some_iff]
  constructor
  · rintro ⟨written, encoded, rfl⟩
    obtain ⟨plain, rfl⟩ := urlencode_iff.mp encoded
    refine ⟨plain, ?_⟩
    rw [unsplit_compose]
    dsimp only
    rw [kept, rewritten]
  · rintro ⟨plain, rfl⟩
    refine ⟨_, urlencode_iff.mpr ⟨plain, rfl⟩, ?_⟩
    rw [unsplit_compose]
    dsimp only
    rw [kept, rewritten]

theorem rewritten_query (pairs : List (Text × Text)) : IsQuery (some (writtenQuery pairs)) := by
  intro text same member
  obtain rfl := Option.some.inj same
  exact (written_unbroken member).2 rfl

theorem plain_iff (isFront : IsFront front) (isQuery : IsQuery query) :
    IsPlain tags (compose front query fragment) ↔
      ((clean front = front ∧ IsJoined front) ∧
        (part (scrub (fragment.getD []))).elim [] (hash :: ·) = fragment.elim [] (hash :: ·) ∧
        ∀ piece ∈ pieces (query.getD []), IsWritten piece) ∧ ∀ pair ∈ tags.pairs, PlainPair pair := by
  have front_ : rawFront (compose front query fragment) = front := compose_front isFront
  have tail : rawTail (compose front query fragment) = fragment.elim [] (hash :: ·) := compose_tail isFront isQuery
  have query_ : rawQuery (compose front query fragment) = query.getD [] := compose_query isFront isQuery
  constructor
  · intro plain
    have opens := plain.opens
    have unbroken := plain.front
    have joined := plain.joined
    have ends := plain.tail
    have marked := plain.marked
    have written := plain.written
    rw [front_] at opens unbroken joined
    rw [tail] at ends marked
    rw [query_] at written
    exact ⟨⟨⟨clean_same.mpr ⟨opens, unbroken⟩, joined⟩, (tail_kept_iff fragment).mpr ⟨ends, marked⟩, written⟩, plain.tags⟩
  · rintro ⟨⟨⟨cleaned, joined⟩, tailed, written⟩, pairs⟩
    obtain ⟨opens, unbroken⟩ := clean_same.mp cleaned
    obtain ⟨ends, marked⟩ := (tail_kept_iff fragment).mp tailed
    constructor
    · rw [front_]
      exact opens
    · rw [front_]
      exact unbroken
    · rw [front_]
      exact joined
    · rw [tail]
      exact ends
    · rw [tail]
      exact marked
    · rw [query_]
      exact written
    · exact pairs

theorem attached_iff (isFront : IsFront front) (isQuery : IsQuery query)
    (plain : ∀ pair ∈ parseQsl (scrub (query.getD [])) ++ tags.pairs, PlainPair pair) :
    Attached tags (compose front query fragment) (rewritten tags front query fragment) ↔
      (clean front = front ∧ IsJoined front) ∧
        (part (scrub (fragment.getD []))).elim [] (hash :: ·) = fragment.elim [] (hash :: ·) ∧
        ∀ piece ∈ pieces (query.getD []), IsWritten piece := by
  have joined := joined_front isFront.clean
  have front_ : rawFront (rewritten tags front query fragment) = _ := compose_front joined
  have tail : rawTail (rewritten tags front query fragment) = _ := compose_tail joined (rewritten_query _)
  have query_ : rawQuery (rewritten tags front query fragment) = _ := compose_query joined (rewritten_query _)
  have before : ∀ pair ∈ parseQsl (scrub (query.getD [])), PlainPair pair := fun pair listed => plain pair (List.mem_append_left _ listed)
  rw [Option.getD_some] at query_
  rw [← front_kept_iff isFront, ← query_kept_iff before]
  constructor
  · intro attached
    have fronts := attached.front
    have tails := attached.tail
    have queries := attached.query
    rw [front_, compose_front isFront] at fronts
    rw [tail, compose_tail isFront isQuery] at tails
    rw [query_, compose_query isFront isQuery, pieces_written, List.map_append] at queries
    exact ⟨fronts, tails, List.append_cancel_right queries⟩
  · rintro ⟨fronts, tails, queries⟩
    have written := (query_kept_iff before).mp queries
    constructor
    · rw [front_, compose_front isFront]
      exact fronts
    · rw [tail, compose_tail isFront isQuery]
      exact tails
    · rw [query_, compose_query isFront isQuery, pieces_written, List.map_append, queries]
    · rw [query_, compose_query isFront isQuery, parse_written plain, pieces_unbroken written]

theorem rewritten_tagged (isFront : IsFront front) (accepted : acceptsNetloc hosts (frontNetloc (clean front)) = true)
    (kept : clean front = front ∧ IsJoined front) (plain : ∀ pair ∈ parseQsl (scrub (query.getD [])) ++ tags.pairs, PlainPair pair) :
    IsTagged hosts (rewritten tags front query fragment) := by
  have same := (front_kept_iff isFront).mpr kept
  rw [rewritten, same]
  apply (tagged_iff isFront (rewritten_query _) accepted).mpr
  have unbroken : scrub (writtenQuery (parseQsl (scrub (query.getD [])) ++ tags.pairs)) = writtenQuery (parseQsl (scrub (query.getD [])) ++ tags.pairs) :=
    scrub_same.mpr fun c member => (written_unbroken member).1
  rw [Option.getD_some, unbroken, parse_written plain]
  exact pairs_tagged _ tags

/-- A link is kept exactly if the library reads it and it is tagged, or it is written as the library writes it. -/
theorem link_kept_iff (hosts : Hosts) (tags : Tags) (url : Text) :
    IsKept hosts tags url ↔ (urlsplit hosts url).isSome = true ∧ (IsTagged hosts url ∨ IsPlain tags url) := by
  obtain ⟨front, query, fragment, isFront, isQuery, rfl⟩ := exists_compose url
  have split_ : urlsplit hosts (compose front query fragment) = _ := urlsplit_compose hosts isFront isQuery
  by_cases accepted : acceptsNetloc hosts (frontNetloc (clean front)) = true
  · rw [if_pos accepted] at split_
    have read : (urlsplit hosts (compose front query fragment)).isSome = true := by
      rw [split_]
      rfl
    by_cases tagged : IsTagged hosts (compose front query fragment)
    · refine ⟨fun _ => ⟨read, .inl tagged⟩, fun _ => ?_⟩
      exact ⟨_, attach_tagged tagged tags, attach_tagged tagged, fun _ => rfl, fun untagged => absurd tagged untagged⟩
    · have untagged : hasUtm (parseQsl (scrub (query.getD []))) = false := by
        rw [Bool.eq_false_iff]
        exact fun has => tagged ((tagged_iff isFront isQuery accepted).mpr has)
      constructor
      · rintro ⟨result, attached, -, -, kept⟩
        obtain ⟨plain, rfl⟩ := (attach_untagged isFront isQuery accepted untagged).mp attached
        have parts := (attached_iff isFront isQuery plain).mp (kept tagged)
        exact ⟨read, .inr ((plain_iff isFront isQuery).mpr ⟨parts, fun pair listed => plain pair (List.mem_append_right _ listed)⟩)⟩
      · rintro ⟨-, has | plainLink⟩
        · exact absurd has tagged
        · obtain ⟨parts, pairs⟩ := (plain_iff isFront isQuery).mp plainLink
          have plain : ∀ pair ∈ parseQsl (scrub (query.getD [])) ++ tags.pairs, PlainPair pair := by
            intro pair member
            rcases List.mem_append.mp member with before | added
            · rw [pieces_unbroken parts.2.2] at before
              exact parsed_plain parts.2.2 pair before
            · exact pairs pair added
          refine ⟨rewritten tags front query fragment, (attach_untagged isFront isQuery accepted untagged).mpr ⟨plain, rfl⟩, ?_, ?_, ?_⟩
          · exact attach_tagged (rewritten_tagged isFront accepted parts.1 plain)
          · exact fun has => absurd has tagged
          · exact fun _ => (attached_iff isFront isQuery plain).mpr parts
  · rw [if_neg accepted] at split_
    rw [split_]
    constructor
    · rintro ⟨result, attached, -⟩
      rw [attachUtm, split_] at attached
      cases attached
    · rintro ⟨read, -⟩
      cases read

end Links

section Bytes

def plainHosts : Hosts where
  nfkc := id
  isAddress _ := false

def socialTags : Tags where
  source := lit "threads"
  medium := lit "social"
  campaign := lit "post"

/-- A value whose bytes are no UTF-8. -/
def legacyLink : Text := lit "https://example.com/x?q=%B0%A1"

theorem legacy_attached :
    attachUtm plainHosts legacyLink socialTags =
      some (lit "https://example.com/x?q=%EF%BF%BD%EF%BF%BD&utm_source=threads&utm_medium=social&utm_campaign=post") := by decide

theorem legacy_untagged : ¬ IsTagged plainHosts legacyLink := by
  rintro ⟨parsed, split_, has⟩
  have same : urlsplit plainHosts legacyLink =
      some ⟨lit "https", lit "example.com", lit "/x", lit "q=%B0%A1", []⟩ := by decide
  rw [same] at split_
  obtain rfl := Option.some.inj split_
  revert has
  decide

/-- Both bytes of the value are replaced. -/
theorem legacy_value_replaced : ¬ IsKept plainHosts socialTags legacyLink := by
  rintro ⟨result, attached, -, -, kept⟩
  rw [legacy_attached] at attached
  obtain rfl := Option.some.inj attached
  have query := (kept legacy_untagged).query
  revert query
  decide

end Bytes

end Sprintable.Publications.Utm
