import Mathlib.Data.List.Dedup
import Sprintable.Basic
import Sprintable.Logic.Dicts
import Sprintable.Logic.JsonDump
import Sprintable.Logic.PyText
import Sprintable.Logic.Searching

/-! Which story a pull request belongs to. A stored link answers first, then the story whose title the
texts repeat, then a tag in them. What a delivery finds is stored as the link of the pull request. -/

namespace Sprintable.PullRequests

open CodePoints Backtracking JsonDump

/-- What the language knows of characters. -/
structure Language where
  lower : Text → Text
  digit : CodePoint → Option Nat
  isSpace : CodePoint → Bool

section Texts
variable (language : Language)

/-- `(repo or "").strip().lower()`. -/
def normalizeRepo (repo : Text) : Text :=
  language.lower ((repo.dropWhile language.isSpace).reverse.dropWhile language.isSpace).reverse

/-- `[a-z0-9]`. -/
def isTokenChar (c : CodePoint) : Bool := (0x61 ≤ c.val && c.val ≤ 0x7a) || (0x30 ≤ c.val && c.val ≤ 0x39)

/-- `_TOKEN_RE.findall(text.lower())`. -/
def runsOf (text : Text) : List Text :=
  (finditer (some_ (oneOf isTokenChar)) (language.lower text)).map fun found => found.value.map Subtype.val

def STOP : List Text := ["feat", "fix", "chore", "refactor", "test", "docs", "the", "and", "for", "wip", "pr", "sid"].map lit

def tokens (text : Text) : List Text := ((runsOf language text).filter fun token => !STOP.contains token && 3 ≤ token.length).dedup

def slugify (text : Text) : Text := (lit "-").intercalate (runsOf language text)

/-- A letter whatever its case, as `re.IGNORECASE` has it. -/
def letter (variants : List Nat) (c : CodePoint) : Bool := variants.contains c.val

def sidLetters : List (CodePoint → Bool) := [letter [0x53, 0x73, 0x17f], letter [0x49, 0x69, 0x130, 0x131], letter [0x44, 0x64]]

def fixLetters : List (CodePoint → Bool) := [letter [0x46, 0x66], letter [0x49, 0x69, 0x130, 0x131], letter [0x58, 0x78]]

/-- `[0-9a-f\-]`, whatever the case. -/
def isIdChar (c : CodePoint) : Bool :=
  (0x30 ≤ c.val && c.val ≤ 0x39) || (0x61 ≤ c.val && c.val ≤ 0x66) || (0x41 ≤ c.val && c.val ≤ 0x46) || c.val == 0x2d

def idChars : Pattern CodePoint Text := spelled (List.replicate 36 isIdChar)

/-- `_SID_RE`. -/
def sidTag : Pattern CodePoint Text :=
  convert (Sum.elim (fun found => found.2.1) fun found => found.2)
    (either (andThen (spelled (letter [0x5b] :: sidLetters ++ [letter [0x3a]])) (andThen idChars (spelled [letter [0x5d]])))
      (andThen (spelled (sidLetters ++ [letter [0x2d, 0x5f, 0x2f]])) idChars))

/-- `\d{1,6}`. -/
def digits : Pattern CodePoint Text :=
  convert (fun found => found.1.val :: found.2.map Subtype.val)
    (andThen (oneOf fun c => (language.digit c).isSome) (manyWithin (oneOf fun c => (language.digit c).isSome) 5))

/-- `_SID_NUMBER_RE`. -/
def numberTag : Pattern CodePoint Text :=
  convert (Sum.elim (fun found => found.2.2.1) fun found => found.2.1)
    (either
      (andThen (spelled (letter [0x5b] :: sidLetters ++ [letter [0x3a]]))
        (andThen (many (oneOf language.isSpace)) (andThen (digits language) (spelled [letter [0x5d]]))))
      (andThen (spelled (fixLetters ++ [letter [0x28], letter [0x23]])) (andThen (digits language) (spelled [letter [0x29], letter [0x3a]]))))

/-- `pattern.search(text)`. -/
def search (pattern : Pattern CodePoint Text) (text : Text) : Option Text := (finditer pattern text).head?.map Match.value

def parseStoryId (text : Text) : Option Uuid :=
  (search sidTag text).bind fun id => PyText.uuidOf (String.ofList (id.map fun c => Char.ofNat c.val))

def parseStoryNumber (text : Text) : Option Nat :=
  (search (numberTag language) text).map fun number => number.foldl (fun n c => 10 * n + (language.digit c).getD 0) 0

/-- The number of the first text that has one; a zero is none. -/
def firstNumber (texts : List Text) : Option Nat := texts.findSome? fun text => (parseStoryNumber language text).filter (· ≠ 0)

end Texts

inductive LinkSource where
  | explicit | autoMatch | sid | text
  deriving DecidableEq, Repr

inductive Confidence where
  | high | medium | low
  deriving DecidableEq, Repr

inductive Reason where
  | storedExplicit | storedLink | autoTitleSlugExact | autoAmbiguousExact | autoPartialToken | sidExact | sidExactByNumber
  | storyNotFound | storyNumberAmbiguous | storyNumberNotFound | storyNumberRequiresOrgScope | noSidTag
  deriving DecidableEq, Repr

abbrev Evidence := Dict String (Value Nat)

structure Story where
  id : Uuid
  orgId : Uuid
  number : Nat
  title : Text
  status : String
  deletedAt : Option Nat := none
  deriving DecidableEq

/-- A pull request of an organisation, by its normalized repository. -/
structure PrKey where
  orgId : Uuid
  repo : Text
  number : Nat
  deriving DecidableEq

structure Link where
  key : PrKey
  storyId : Uuid
  source : LinkSource
  confidence : Confidence
  createdBy : Option Uuid := none
  evidence : Evidence
  deletedAt : Option Nat := none

structure ResolvedLink where
  storyId : Option Uuid
  orgId : Option Uuid
  source : Option LinkSource
  confidence : Option Confidence
  shouldAutoClose : Bool
  reason : Reason
  evidence : Evidence := Dict.empty

structure World where
  stories : List Story
  links : List Link

namespace World
variable (language : Language) (world : World)

def linkOf (key : PrKey) : Option Link := Keyed.find Link.key world.links key

def scopedStory (storyId orgId : Uuid) : Option Story :=
  world.stories.find? fun story => story.id == storyId && story.orgId == orgId && story.deletedAt.isNone

def globalStory (storyId : Uuid) : Option Story := world.stories.find? fun story => story.id == storyId && story.deletedAt.isNone

def storiesByNumber (orgId : Uuid) (number : Nat) : List Story :=
  world.stories.filter fun story => story.orgId == orgId && story.number == number && story.deletedAt.isNone

def openStories (orgId : Uuid) : List Story :=
  world.stories.filter fun story => story.orgId == orgId && story.deletedAt.isNone && story.status != "done"

/-- The title says what one of the texts says. -/
def titled (texts : List Text) (story : Story) : Bool :=
  slugify language story.title ≠ [] && (texts.map (slugify language)).contains (slugify language story.title)

/-- How many words the title has in common with the texts. -/
def overlap (texts : List Text) (story : Story) : Nat :=
  ((tokens language story.title).filter fun token => (texts.flatMap (tokens language)).contains token).length

def autoMatch (orgId : Uuid) (texts : List Text) : Option ResolvedLink :=
  if texts.flatMap (tokens language) = [] then none
  else
    match (world.openStories orgId).filter (titled language texts) with
    | [story] => some {
        storyId := some story.id, orgId := some orgId, source := some .autoMatch, confidence := some .high, shouldAutoClose := true,
        reason := .autoTitleSlugExact,
        evidence := ((Dict.single "matched" (.text (lit "title_slug"))).merge (Dict.single "candidate_count" (.number 1))).merge
          (Dict.single "story_title" (.text story.title)) }
    | first :: second :: more => some {
        storyId := none, orgId := some orgId, source := some .autoMatch, confidence := some .low, shouldAutoClose := false,
        reason := .autoAmbiguousExact,
        evidence := (Dict.single "matched" (.text (lit "title_slug"))).merge
          (Dict.single "candidate_count" (.number (first :: second :: more).length)) }
    | [] =>
      let others := (world.openStories orgId).filter fun story => !titled language texts story
      let scored := ((others.map (overlap language texts)).filter (0 < ·)).mergeSort fun left right => right ≤ left
      match scored with
      | [] => none
      | top :: rest => some {
          storyId := none, orgId := some orgId, source := some .autoMatch,
          confidence := some (if rest.head? = some top ∨ top < 2 then .low else .medium), shouldAutoClose := false,
          reason := .autoPartialToken,
          evidence := ((Dict.single "matched" (.text (lit "token_overlap"))).merge (Dict.single "overlap" (.number top))).merge
            (Dict.single "candidate_count" (.number scored.length)) }

def storedAnswer (orgId : Option Uuid) (repo : Text) (number : Nat) : Option ResolvedLink :=
  match orgId with
  | none => none
  | some org =>
    if repo = [] ∨ number = 0 then none
    else
      match (world.linkOf ⟨org, repo, number⟩).filter fun link => link.deletedAt.isNone with
      | none => none
      | some link =>
        (world.scopedStory link.storyId org).map fun story => {
          storyId := some story.id, orgId := some org, source := some link.source, confidence := some link.confidence,
          shouldAutoClose := link.source == .explicit ||
            ((link.source == .autoMatch || link.source == .sid) && link.confidence == .high),
          reason := if link.source = .explicit then .storedExplicit else .storedLink,
          evidence := link.evidence }

def taggedStory (orgId : Option Uuid) (id : Uuid) : Option Story :=
  match orgId with
  | some org => world.scopedStory id org
  | none => world.globalStory id

def unresolved (reason : Reason) : ResolvedLink :=
  { storyId := none, orgId := none, source := none, confidence := none, shouldAutoClose := false, reason }

/-- What the tags of the texts give below a suggestion. -/
def taggedAnswer (orgId : Option Uuid) (texts : List Text) (suggestion : Option ResolvedLink) : ResolvedLink :=
  match texts.findSome? parseStoryId with
  | some id =>
    match world.taggedStory orgId id with
    | some story => {
        storyId := some story.id, orgId := some story.orgId, source := some .sid, confidence := some .high, shouldAutoClose := true,
        reason := .sidExact, evidence := Dict.single "sid" (.text (lit (PyText.uuidText id))) }
    | none => suggestion.getD { unresolved .storyNotFound with orgId := orgId }
  | none =>
    match orgId with
    | none =>
      suggestion.getD (unresolved (if texts.any fun text => (parseStoryNumber language text).any (· ≠ 0) then .storyNumberRequiresOrgScope
        else .noSidTag))
    | some org =>
      match firstNumber language texts with
      | none => suggestion.getD { unresolved .noSidTag with orgId := some org }
      | some number =>
        match world.storiesByNumber org number with
        | [story] => {
            storyId := some story.id, orgId := some story.orgId, source := some .sid, confidence := some .high, shouldAutoClose := true,
            reason := .sidExactByNumber, evidence := Dict.single "story_number" (.number number) }
        | [] => suggestion.getD { unresolved .storyNumberNotFound with orgId := some org }
        | _ :: _ :: _ => suggestion.getD { unresolved .storyNumberAmbiguous with orgId := some org }

def guessedAnswer (orgId : Option Uuid) (texts : List Text) : ResolvedLink :=
  match orgId.bind fun org => world.autoMatch language org texts with
  | none => world.taggedAnswer language orgId texts none
  | some found =>
    if found.storyId ≠ none ∧ found.confidence = some .high then found else world.taggedAnswer language orgId texts (some found)

def resolveStoryForPr (orgId : Option Uuid) (repoFullName : Text) (prNumber : Nat) (texts : List Text) : ResolvedLink :=
  (world.storedAnswer orgId (normalizeRepo language repoFullName) prNumber).getD (world.guessedAnswer language orgId texts)

end World

end Sprintable.PullRequests
