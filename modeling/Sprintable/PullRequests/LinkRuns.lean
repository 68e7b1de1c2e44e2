import Sprintable.Logic.Runs
import Sprintable.PullRequests.StoryLink

/-! The links of pull requests over deliveries and the requests of persons. What a person has linked or
removed is to stand against what the texts of a later delivery say. -/

namespace Sprintable.PullRequests

open CodePoints JsonDump Runs

namespace World
variable (world : World)

/-- Write a row: over the row of its pull request, or as a new one. -/
def save (link : Link) : World :=
  match world.linkOf link.key with
  | some _ => { world with links := Keyed.put Link.key world.links link }
  | none => { world with links := world.links ++ [link] }

def upsertLink (key : PrKey) (storyId : Uuid) (source : LinkSource) (confidence : Confidence) (createdBy : Option Uuid)
    (evidence : Evidence) : World :=
  match world.linkOf key with
  | some existing => world.save { existing with storyId, source, confidence, createdBy, evidence := existing.evidence.merge evidence, deletedAt := none }
  | none => world.save { key, storyId, source, confidence, createdBy, evidence := Dict.empty.merge evidence }

def mergeLinkEvidence (key : PrKey) (storyId : Uuid) (source : LinkSource) (confidence : Confidence) (patch : Evidence) : World :=
  match world.linkOf key with
  | some existing => world.save { existing with evidence := existing.evidence.merge patch, deletedAt := none }
  | none => world.save { key, storyId, source, confidence, evidence := Dict.empty.merge patch }

end World

structure PullRequest (language : Language) where
  repo : Text
  number : Nat
  given : repo ≠ []
  named : normalizeRepo language repo ≠ []
  numbered : 0 < number

structure Delivery (language : Language) where
  orgId : Option Uuid
  pr : PullRequest language
  texts : List Text
  merged : Bool
  /-- What the check of the declared scope finds, where it is made. -/
  scopeCheck : Option (Value Nat) := none
  recordedAt : Value Nat := .null

structure Connection where
  orgId : Uuid
  storyId : Uuid
  repo : Text
  number : Nat
  caller : Option Uuid
  permitted : Bool

inductive Event (language : Language) where
  | deliver (delivery : Delivery language)
  | connect (connection : Connection)
  | remove (key : PrKey) (permitted : Bool) (now : Nat)
  | change (stories : List Story)

section Steps
variable {language : Language} (world : World)

def Delivery.answer (delivery : Delivery language) : ResolvedLink :=
  world.resolveStoryForPr language delivery.orgId delivery.pr.repo delivery.pr.number delivery.texts

def Delivery.key (delivery : Delivery language) (orgId : Uuid) : PrKey := ⟨orgId, normalizeRepo language delivery.pr.repo, delivery.pr.number⟩

/-- An answer that is not stored yet is stored. -/
def keepAnswer (delivery : Delivery language) (answer : ResolvedLink) (key : PrKey) (storyId : Uuid) : World :=
  if delivery.pr.repo ≠ [] ∧ 0 < delivery.pr.number ∧ answer.reason ≠ .storedExplicit ∧ answer.reason ≠ .storedLink then
    world.upsertLink key storyId (answer.source.getD .autoMatch) (answer.confidence.getD .medium) none answer.evidence
  else world

def keepScopeCheck (delivery : Delivery language) (answer : ResolvedLink) (key : PrKey) (storyId : Uuid) : World :=
  match delivery.scopeCheck with
  | some found =>
    if answer.shouldAutoClose then
      world.mergeLinkEvidence key storyId (answer.source.getD .autoMatch) (answer.confidence.getD .low) (Dict.single "scope_check" found)
    else world
  | none => world

def keepMerge (delivery : Delivery language) (answer : ResolvedLink) (key : PrKey) (storyId : Uuid) : World :=
  if delivery.merged then
    world.mergeLinkEvidence key storyId (answer.source.getD .autoMatch) (answer.confidence.getD .low)
      (Dict.single "webhook_merge" (.dict [(lit "recorded_at", delivery.recordedAt)]))
  else world

def deliver (delivery : Delivery language) : World :=
  let answer := delivery.answer world
  match answer.storyId, answer.orgId with
  | some storyId, some orgId =>
    let key := delivery.key orgId
    let stored := keepAnswer world delivery answer key storyId
    let checked := keepScopeCheck stored delivery answer key storyId
    keepMerge checked delivery answer key storyId
  | _, _ => world

def createExplicitLink (language : Language) (connection : Connection) : World :=
  if ((connection.repo.dropWhile language.isSpace).isEmpty || !connection.repo.contains 0x2f || connection.number == 0) = true then world
  else if (world.scopedStory connection.storyId connection.orgId).isNone = true ∨ connection.permitted = false then world
  else
    world.upsertLink ⟨connection.orgId, normalizeRepo language connection.repo, connection.number⟩ connection.storyId .explicit .high
      connection.caller (Dict.single "by" (.text (lit "explicit_api")))

def deleteLink (key : PrKey) (permitted : Bool) (now : Nat) : World :=
  match (world.linkOf key).filter fun link => link.deletedAt.isNone with
  | none => world
  | some link =>
    if (world.stories.any fun story => story.id == link.storyId) && permitted then world.save { link with deletedAt := some now } else world

def step (language : Language) (world : World) : Event language → World
  | .deliver delivery => deliver world delivery
  | .connect connection => createExplicitLink world language connection
  | .remove key permitted now => deleteLink world key permitted now
  | .change stories => { world with stories }

end Steps

def Removed (world : World) (key : PrKey) : Prop := ∃ link, world.linkOf key = some link ∧ link.deletedAt ≠ none

/-- The pull request has a link of this source to the story. -/
def Holds (world : World) (key : PrKey) (source : LinkSource) (storyId : Uuid) : Prop :=
  ∃ link, world.linkOf key = some link ∧ link.deletedAt = none ∧ link.source = source ∧ link.storyId = storyId

/-- A person has linked the pull request to the story. -/
def Explicit (world : World) (key : PrKey) (storyId : Uuid) : Prop := Holds world key .explicit storyId

/-- The event is a person's link of the pull request. -/
def Event.connects {language : Language} (key : PrKey) : Event language → Prop
  | .connect connection => (⟨connection.orgId, normalizeRepo language connection.repo, connection.number⟩ : PrKey) = key
  | _ => False

/-- What an automatic close may rest on: a stored link that is explicit or of high confidence, the one story
whose title a text repeats, the story that a tag names by its id, or the one story of a tag's number. -/
inductive Grounds {language : Language} (world : World) (delivery : Delivery language) (answer : ResolvedLink) : Prop where
  | stored (orgId : Uuid) (link : Link) (known : delivery.orgId = some orgId) (found : world.linkOf (delivery.key orgId) = some link)
      (live : link.deletedAt = none) (strong : link.source = .explicit ∨ link.confidence = .high) (same : answer.storyId = some link.storyId)
  | titled (orgId : Uuid) (story : Story) (known : delivery.orgId = some orgId)
      (only : (world.openStories orgId).filter (World.titled language delivery.texts) = [story]) (same : answer.storyId = some story.id)
  | tagged (text : Text) (id : Uuid) (story : Story) (inTexts : text ∈ delivery.texts) (parsed : parseStoryId text = some id)
      (found : world.taggedStory delivery.orgId id = some story) (same : answer.storyId = some story.id)
      (high : answer.confidence = some .high)
  | numbered (orgId : Uuid) (text : Text) (number : Nat) (story : Story) (known : delivery.orgId = some orgId)
      (inTexts : text ∈ delivery.texts) (parsed : parseStoryNumber language text = some number)
      (only : world.storiesByNumber orgId number = [story]) (same : answer.storyId = some story.id)

/-- What an event does as it should. -/
structure Honours {language : Language} (world : World) (event : Event language) : Prop where
  closes : ∀ delivery, event = .deliver delivery → (delivery.answer world).shouldAutoClose = true → Grounds world delivery (delivery.answer world)
  explicit : ∀ delivery orgId storyId, event = .deliver delivery → (delivery.answer world).orgId = some orgId →
    (delivery.answer world).storyId ≠ none → Explicit world (delivery.key orgId) storyId →
      (delivery.answer world).storyId = some storyId ∧ Explicit (step language world event) (delivery.key orgId) storyId
  removed : ∀ key, Removed world key → ¬ event.connects key → Removed (step language world event) key
  keeps : ∀ key link, world.linkOf key = some link → ∃ after, (step language world event).linkOf key = some after ∧
    ∀ name, link.evidence.lookup name ≠ none → after.evidence.lookup name ≠ none

/-- The stored link does not answer, and the texts point to a story of the organisation. -/
def Delivery.Guesses {language : Language} (delivery : Delivery language) (world : World) (orgId : Uuid) : Prop :=
  world.storedAnswer delivery.orgId (normalizeRepo language delivery.pr.repo) delivery.pr.number = none ∧
    (world.guessedAnswer language delivery.orgId delivery.texts).storyId ≠ none ∧
    (world.guessedAnswer language delivery.orgId delivery.texts).orgId = some orgId

/-- No delivery is resolved from its texts to an organisation in which a person has linked the pull request
or removed its link. -/
def Careful {language : Language} (world : World) : Event language → Prop
  | .deliver delivery => ∀ orgId, delivery.Guesses world orgId →
      ∀ link, world.linkOf (delivery.key orgId) = some link → link.deletedAt = none ∧ link.source ≠ .explicit
  | _ => True

section Rows
variable {world after final_ : World} {key other : PrKey} {link : Link} {source : LinkSource} {storyId : Uuid}

private theorem save_same (world : World) (link : Link) : (world.save link).linkOf link.key = some link := by
  rw [World.save]
  cases found : world.linkOf link.key with
  | some old => exact Keyed.find_put_same found
  | none => exact Keyed.find_append_new found rfl

private theorem save_other (different : link.key ≠ other) : (world.save link).linkOf other = world.linkOf other := by
  rw [World.save]
  cases world.linkOf link.key with
  | some old => exact Keyed.find_put_other different
  | none => exact Keyed.find_append_other different

/-- The rows of other pull requests stay, and no row loses a key of its evidence. -/
structure Grown (key : PrKey) (world after : World) : Prop where
  elsewhere : ∀ other, other ≠ key → after.linkOf other = world.linkOf other
  keeps : ∀ link, world.linkOf key = some link → ∃ next, after.linkOf key = some next ∧
    ∀ name, link.evidence.lookup name ≠ none → next.evidence.lookup name ≠ none

theorem Grown.refl (key : PrKey) (world : World) : Grown key world world :=
  ⟨fun _ _ => rfl, fun link found => ⟨link, found, fun _ held => held⟩⟩

theorem Grown.trans (first : Grown key world after) (second : Grown key after final_) : Grown key world final_ where
  elsewhere other different := (second.elsewhere other different).trans (first.elsewhere other different)
  keeps link found := by
    obtain ⟨next, later, grown⟩ := first.keeps link found
    obtain ⟨last, latest, more⟩ := second.keeps next later
    exact ⟨last, latest, fun name held => more name (grown name held)⟩

private theorem save_grown (same : link.key = key)
    (more : ∀ old, world.linkOf key = some old → ∀ name, old.evidence.lookup name ≠ none → link.evidence.lookup name ≠ none) :
    Grown key world (world.save link) where
  elsewhere other different := save_other fun equal => different (equal.symm.trans same)
  keeps old found := ⟨link, by rw [← same]; exact save_same world link, more old found⟩

private theorem upsert_grown (world : World) (key : PrKey) (storyId : Uuid) (source : LinkSource) (confidence : Confidence)
    (createdBy : Option Uuid) (evidence : Evidence) : Grown key world (world.upsertLink key storyId source confidence createdBy evidence) := by
  rw [World.upsertLink]
  split
  next existing found =>
    have same : existing.key = key := Keyed.find_key found
    refine save_grown same ?_
    intro old listed name held
    cases found.symm.trans listed
    exact Dict.merge_keeps _ _ held
  next missing =>
    refine save_grown rfl ?_
    intro old listed
    cases missing.symm.trans listed

private theorem upsert_holds (world : World) (key : PrKey) (storyId : Uuid) (source : LinkSource) (confidence : Confidence)
    (createdBy : Option Uuid) (evidence : Evidence) : Holds (world.upsertLink key storyId source confidence createdBy evidence) key source storyId := by
  rw [World.upsertLink]
  split
  next existing found =>
    have same : existing.key = key := Keyed.find_key found
    rw [← same]
    exact ⟨_, save_same world _, rfl, rfl, rfl⟩
  next => exact ⟨_, save_same world _, rfl, rfl, rfl⟩

private theorem merge_grown (world : World) (key : PrKey) (storyId : Uuid) (source : LinkSource) (confidence : Confidence) (patch : Evidence) :
    Grown key world (world.mergeLinkEvidence key storyId source confidence patch) := by
  rw [World.mergeLinkEvidence]
  split
  next existing found =>
    have same : existing.key = key := Keyed.find_key found
    refine save_grown same ?_
    intro old listed name held
    cases found.symm.trans listed
    exact Dict.merge_keeps _ _ held
  next missing =>
    refine save_grown rfl ?_
    intro old listed
    cases missing.symm.trans listed

private theorem merge_holds (held : Holds world key source storyId) (story : Uuid) (other : LinkSource) (confidence : Confidence) (patch : Evidence) :
    Holds (world.mergeLinkEvidence key story other confidence patch) key source storyId := by
  obtain ⟨link, found, live, sourced, storied⟩ := held
  have same : link.key = key := Keyed.find_key found
  rw [World.mergeLinkEvidence, found]
  refine ⟨{ link with evidence := link.evidence.merge patch, deletedAt := none }, ?_, rfl, sourced, storied⟩
  rw [← same]
  exact save_same world _

end Rows

theorem Grounds.story {language : Language} {world : World} {delivery : Delivery language} {answer : ResolvedLink}
    (grounds : Grounds world delivery answer) : ∃ storyId, answer.storyId = some storyId := by
  cases grounds with
  | stored _ link _ _ _ _ same => exact ⟨link.storyId, same⟩
  | titled _ story _ _ same => exact ⟨story.id, same⟩
  | tagged _ _ story _ _ _ same _ => exact ⟨story.id, same⟩
  | numbered _ _ _ story _ _ _ _ same => exact ⟨story.id, same⟩

section Answers
variable {language : Language} {world : World} {delivery : Delivery language} {answer : ResolvedLink}

/-- An answer that the texts give: no story, or one with grounds, of an organisation and not a person's. -/
def Fair (world : World) (delivery : Delivery language) (answer : ResolvedLink) : Prop :=
  (answer.storyId = none ∧ answer.shouldAutoClose = false) ∨
    (Grounds world delivery answer ∧ answer.orgId ≠ none ∧ answer.source.getD .autoMatch ≠ .explicit ∧
      answer.reason ≠ .storedExplicit ∧ answer.reason ≠ .storedLink)

private theorem autoMatch_fair {orgId : Uuid} (known : delivery.orgId = some orgId)
    (found : world.autoMatch language orgId delivery.texts = some answer) : Fair world delivery answer := by
  rw [World.autoMatch] at found
  split at found
  · cases found
  · split at found
    next story only =>
      cases found
      exact .inr ⟨.titled orgId story known only rfl, by simp, by simp, by simp, by simp⟩
    next =>
      cases found
      exact .inl ⟨rfl, rfl⟩
    next =>
      dsimp only at found
      split at found
      · cases found
      · cases found
        exact .inl ⟨rfl, rfl⟩

private theorem suggestion_fair {suggestion : Option ResolvedLink} (fair : ∀ found, suggestion = some found → Fair world delivery found)
    {other : ResolvedLink} (none_ : other.storyId = none) (open_ : other.shouldAutoClose = false) :
    Fair world delivery (suggestion.getD other) := by
  cases suggestion with
  | none => exact .inl ⟨none_, open_⟩
  | some found => exact fair found rfl

private theorem taggedAnswer_fair {suggestion : Option ResolvedLink} (fair : ∀ found, suggestion = some found → Fair world delivery found) :
    Fair world delivery (world.taggedAnswer language delivery.orgId delivery.texts suggestion) := by
  unfold World.taggedAnswer
  split
  next id tag =>
    obtain ⟨text, inTexts, parsed⟩ := List.exists_of_findSome?_eq_some tag
    split
    next story found => exact .inr ⟨.tagged text id story inTexts parsed found rfl rfl, by simp, by simp, by simp, by simp⟩
    next => exact suggestion_fair fair rfl rfl
  next =>
    split
    next => exact suggestion_fair fair rfl rfl
    next orgId known =>
      split
      next => exact suggestion_fair fair rfl rfl
      next number first =>
        obtain ⟨text, inTexts, parsed⟩ := List.exists_of_findSome?_eq_some first
        have numbered : parseStoryNumber language text = some number := (Option.filter_eq_some_iff.mp parsed).1
        split
        next story only => exact .inr ⟨.numbered orgId text number story known inTexts numbered only rfl, by simp, by simp, by simp, by simp⟩
        next => exact suggestion_fair fair rfl rfl
        next => exact suggestion_fair fair rfl rfl

private theorem guessedAnswer_fair (world : World) (delivery : Delivery language) :
    Fair world delivery (world.guessedAnswer language delivery.orgId delivery.texts) := by
  rw [World.guessedAnswer]
  split
  next => exact taggedAnswer_fair fun found some_ => by cases some_
  next found matched =>
    obtain ⟨orgId, known, auto⟩ := Option.bind_eq_some_iff.mp matched
    have fair := autoMatch_fair known auto
    split
    · exact fair
    · apply taggedAnswer_fair
      intro other same
      cases same
      exact fair

private theorem storedAnswer_link (found : world.storedAnswer delivery.orgId (normalizeRepo language delivery.pr.repo) delivery.pr.number = some answer) :
    ∃ orgId link, delivery.orgId = some orgId ∧ world.linkOf (delivery.key orgId) = some link ∧ link.deletedAt = none ∧
      answer.storyId = some link.storyId ∧ answer.orgId = some orgId ∧
      (answer.reason = .storedExplicit ∨ answer.reason = .storedLink) ∧
      (answer.shouldAutoClose = true → link.source = .explicit ∨ link.confidence = .high) := by
  unfold World.storedAnswer at found
  split at found
  · cases found
  next orgId known =>
    split at found
    · cases found
    · split at found
      · cases found
      next link row =>
        obtain ⟨listed, live⟩ := Option.filter_eq_some_iff.mp row
        obtain ⟨story, located, rfl⟩ := Option.map_eq_some_iff.mp found
        have same : story.id = link.storyId := by
          have checked := List.find?_some located
          simp only [Bool.and_eq_true, beq_iff_eq] at checked
          exact checked.1.1
        refine ⟨orgId, link, known, listed, Option.isNone_iff_eq_none.mp live, congrArg some same, rfl, ?_, ?_⟩
        · dsimp only
          split
          · exact .inl rfl
          · exact .inr rfl
        · intro closes
          simp only [Bool.or_eq_true, Bool.and_eq_true, beq_iff_eq] at closes
          rcases closes with explicit | ⟨-, high⟩
          · exact .inl explicit
          · exact .inr high

end Answers

section Deliveries
variable {language : Language} {world : World} {delivery : Delivery language} {orgId storyId : Uuid} {source : LinkSource}

private theorem keepAnswer_grown (world : World) (delivery : Delivery language) (answer : ResolvedLink) (key : PrKey) (storyId : Uuid) :
    Grown key world (keepAnswer world delivery answer key storyId) := by
  rw [keepAnswer]
  split
  · exact upsert_grown world key storyId _ _ _ _
  · exact Grown.refl key world

private theorem keepScopeCheck_grown (world : World) (delivery : Delivery language) (answer : ResolvedLink) (key : PrKey) (storyId : Uuid) :
    Grown key world (keepScopeCheck world delivery answer key storyId) := by
  rw [keepScopeCheck]
  split
  · split
    · exact merge_grown world key storyId _ _ _
    · exact Grown.refl key world
  · exact Grown.refl key world

private theorem keepMerge_grown (world : World) (delivery : Delivery language) (answer : ResolvedLink) (key : PrKey) (storyId : Uuid) :
    Grown key world (keepMerge world delivery answer key storyId) := by
  rw [keepMerge]
  split
  · exact merge_grown world key storyId _ _ _
  · exact Grown.refl key world

private theorem keepScopeCheck_holds {key : PrKey} (held : Holds world key source storyId) (answer : ResolvedLink) (story : Uuid) :
    Holds (keepScopeCheck world delivery answer key story) key source storyId := by
  rw [keepScopeCheck]
  split
  · split
    · exact merge_holds held story _ _ _
    · exact held
  · exact held

private theorem keepMerge_holds {key : PrKey} (held : Holds world key source storyId) (answer : ResolvedLink) (story : Uuid) :
    Holds (keepMerge world delivery answer key story) key source storyId := by
  rw [keepMerge]
  split
  · exact merge_holds held story _ _ _
  · exact held

private theorem deliver_found (storied : (delivery.answer world).storyId = some storyId) (organised : (delivery.answer world).orgId = some orgId) :
    deliver world delivery = keepMerge (keepScopeCheck (keepAnswer world delivery (delivery.answer world) (delivery.key orgId) storyId)
      delivery (delivery.answer world) (delivery.key orgId) storyId) delivery (delivery.answer world) (delivery.key orgId) storyId := by
  simp only [deliver, storied, organised]

private theorem deliver_unresolved (none_ : (delivery.answer world).storyId = none) : deliver world delivery = world := by
  simp only [deliver, none_]

private theorem deliver_grown (storied : (delivery.answer world).storyId = some storyId) (organised : (delivery.answer world).orgId = some orgId) :
    Grown (delivery.key orgId) world (deliver world delivery) := by
  rw [deliver_found storied organised]
  exact ((keepAnswer_grown world delivery _ _ storyId).trans (keepScopeCheck_grown _ delivery _ _ storyId)).trans
    (keepMerge_grown _ delivery _ _ storyId)

private theorem deliver_stored (storied : (delivery.answer world).storyId = some storyId) (organised : (delivery.answer world).orgId = some orgId)
    (stored : (delivery.answer world).reason = .storedExplicit ∨ (delivery.answer world).reason = .storedLink) {story : Uuid}
    (held : Holds world (delivery.key orgId) source story) : Holds (deliver world delivery) (delivery.key orgId) source story := by
  have same : keepAnswer world delivery (delivery.answer world) (delivery.key orgId) storyId = world := by
    rw [keepAnswer, if_neg]
    rintro ⟨-, -, explicit, link⟩
    exact stored.elim explicit link
  rw [deliver_found storied organised, same]
  exact keepMerge_holds (keepScopeCheck_holds held _ _) _ _

private theorem deliver_guessed (storied : (delivery.answer world).storyId = some storyId) (organised : (delivery.answer world).orgId = some orgId)
    (guessed : (delivery.answer world).reason ≠ .storedExplicit ∧ (delivery.answer world).reason ≠ .storedLink) :
    Holds (deliver world delivery) (delivery.key orgId) ((delivery.answer world).source.getD .autoMatch) storyId := by
  have kept : Holds (keepAnswer world delivery (delivery.answer world) (delivery.key orgId) storyId) (delivery.key orgId)
      ((delivery.answer world).source.getD .autoMatch) storyId := by
    rw [keepAnswer, if_pos ⟨delivery.pr.given, delivery.pr.numbered, guessed.1, guessed.2⟩]
    exact upsert_holds world _ storyId _ _ _ _
  rw [deliver_found storied organised]
  exact keepMerge_holds (keepScopeCheck_holds kept _ _) _ _

private theorem answer_stored {answer : ResolvedLink}
    (found : world.storedAnswer delivery.orgId (normalizeRepo language delivery.pr.repo) delivery.pr.number = some answer) :
    delivery.answer world = answer := by
  rw [Delivery.answer, World.resolveStoryForPr, found, Option.getD_some]

private theorem answer_guessed (silent : world.storedAnswer delivery.orgId (normalizeRepo language delivery.pr.repo) delivery.pr.number = none) :
    delivery.answer world = world.guessedAnswer language delivery.orgId delivery.texts := by
  rw [Delivery.answer, World.resolveStoryForPr, silent, Option.getD_none]

private theorem not_removed {link : Link} {key : PrKey} (found : world.linkOf key = some link) (live : link.deletedAt = none) : ¬ Removed world key := by
  rintro ⟨other, listed, gone⟩
  cases found.symm.trans listed
  exact gone live

private theorem removed_same {after : World} {key : PrKey} (same : after.linkOf key = world.linkOf key) (removed : Removed world key) :
    Removed after key := by
  obtain ⟨link, found, gone⟩ := removed
  exact ⟨link, same.trans found, gone⟩

theorem Grown.keepsAll {after : World} {key : PrKey} (grown : Grown key world after) (other : PrKey) (link : Link)
    (found : world.linkOf other = some link) :
    ∃ next, after.linkOf other = some next ∧ ∀ name, link.evidence.lookup name ≠ none → next.evidence.lookup name ≠ none := by
  by_cases same : other = key
  · subst same
    exact grown.keeps link found
  · exact ⟨link, (grown.elsewhere other same).trans found, fun _ held => held⟩

private theorem careful_of_honours (honours : Honours world (.deliver delivery)) : Careful world (.deliver delivery) := by
  rintro orgId ⟨silent, storied, organised⟩ link found
  have fair := guessedAnswer_fair world delivery
  rw [← answer_guessed silent] at fair storied organised
  obtain ⟨storyId, named⟩ := Option.ne_none_iff_exists'.mp storied
  rcases fair with ⟨none_, -⟩ | ⟨-, -, source, reasons⟩
  · exact absurd none_ storied
  obtain ⟨next, later, alive, sourced, -⟩ := deliver_guessed named organised reasons
  have live : link.deletedAt = none := by
    by_contra gone
    exact not_removed later alive (honours.removed _ ⟨link, found, gone⟩ fun connects => connects)
  refine ⟨live, fun explicit => ?_⟩
  obtain ⟨-, other, also, -, stays, -⟩ := honours.explicit delivery orgId link.storyId rfl organised storied ⟨link, found, live, explicit, rfl⟩
  cases later.symm.trans also
  exact source (sourced.symm.trans stays)

private theorem stored_honours {answer : ResolvedLink}
    (found : world.storedAnswer delivery.orgId (normalizeRepo language delivery.pr.repo) delivery.pr.number = some answer) :
    Honours world (.deliver delivery) := by
  obtain ⟨orgId, link, known, row, live, storied, organised, reason, closes⟩ := storedAnswer_link found
  rw [← answer_stored found] at storied organised reason closes
  have grown := deliver_grown storied organised
  constructor
  · intro other same close
    cases same
    exact .stored orgId link known row live (closes close) storied
  · intro other org story same also _ explicit
    cases same
    cases organised.symm.trans also
    refine ⟨?_, deliver_stored storied organised reason explicit⟩
    obtain ⟨listed, there, -, -, rfl⟩ := explicit
    cases row.symm.trans there
    exact storied
  · intro key removed _
    by_cases same : key = delivery.key orgId
    · subst same
      exact absurd removed (not_removed row live)
    · exact removed_same (grown.elsewhere key same) removed
  · exact grown.keepsAll

private theorem guessed_honours (silent : world.storedAnswer delivery.orgId (normalizeRepo language delivery.pr.repo) delivery.pr.number = none)
    (careful : Careful world (.deliver delivery)) : Honours world (.deliver delivery) := by
  have same := answer_guessed silent
  have fair := guessedAnswer_fair world delivery
  rw [← same] at fair
  rcases fair with ⟨none_, open_⟩ | ⟨grounds, some_, -, -⟩
  · have unchanged := deliver_unresolved none_
    constructor
    · intro other equal close
      cases equal
      exact absurd (open_.symm.trans close) Bool.false_ne_true
    · intro other org story equal _ storied
      cases equal
      exact absurd none_ storied
    · intro key removed _
      rw [step, unchanged]
      exact removed
    · intro key link row
      rw [step, unchanged]
      exact ⟨link, row, fun _ held => held⟩
  · obtain ⟨orgId, organised⟩ := Option.ne_none_iff_exists'.mp some_
    obtain ⟨storyId, storied⟩ := grounds.story
    have guesses : delivery.Guesses world orgId := ⟨silent, by rw [← same, storied]; simp, by rw [← same]; exact organised⟩
    have grown := deliver_grown storied organised
    constructor
    · intro other equal _
      cases equal
      exact grounds
    · intro other org story equal also _ explicit
      cases equal
      cases organised.symm.trans also
      obtain ⟨link, row, -, source, -⟩ := explicit
      exact absurd source (careful orgId guesses link row).2
    · intro key removed _
      by_cases equal : key = delivery.key orgId
      · subst equal
        obtain ⟨link, row, gone⟩ := removed
        exact absurd (careful orgId guesses link row).1 gone
      · exact removed_same (grown.elsewhere key equal) removed
    · exact grown.keepsAll

private theorem person_honours (event : Event language) (person : ∀ delivery, event ≠ .deliver delivery) : Honours world event := by
  have quiet {after : World} {key : PrKey} (grown : Grown key world after) (stepped : step language world event = after)
      (own : Removed world key → ¬ event.connects key → Removed after key) : Honours world event := by
    constructor
    · exact fun delivery same => absurd same (person delivery)
    · exact fun delivery _ _ same => absurd same (person delivery)
    · intro other removed free
      rw [stepped]
      by_cases same : other = key
      · subst same
        exact own removed free
      · exact removed_same (grown.elsewhere other same) removed
    · rw [stepped]
      exact grown.keepsAll
  cases event with
  | deliver delivery => exact absurd rfl (person delivery)
  | connect connection =>
    have unchanged := Grown.refl (⟨connection.orgId, normalizeRepo language connection.repo, connection.number⟩ : PrKey) world
    by_cases refused : step language world (.connect connection) = world
    · exact quiet unchanged refused fun removed _ => removed
    · have grown : Grown (⟨connection.orgId, normalizeRepo language connection.repo, connection.number⟩ : PrKey) world
          (createExplicitLink world language connection) := by
        rw [createExplicitLink]
        split
        · exact unchanged
        · split
          · exact unchanged
          · exact upsert_grown world _ _ _ _ _ _
      exact quiet grown rfl fun _ free => absurd rfl free
  | remove key permitted now =>
    have unchanged := Grown.refl key world
    have grown : Grown key world (deleteLink world key permitted now) := by
      rw [deleteLink]
      split
      · exact unchanged
      next link row =>
        have found := (Option.filter_eq_some_iff.mp row).1
        have same : link.key = key := Keyed.find_key found
        split
        · refine save_grown same fun old listed name held => ?_
          cases found.symm.trans listed
          exact held
        · exact unchanged
    refine quiet grown rfl fun removed _ => ?_
    · obtain ⟨link, found, gone⟩ := removed
      have hidden : (world.linkOf key).filter (fun link => link.deletedAt.isNone) = none := by
        rw [found]
        apply Option.filter_eq_none_iff.mpr
        intro other same live
        cases same
        exact gone (Option.isNone_iff_eq_none.mp live)
      rw [deleteLink, hidden]
      exact ⟨link, found, gone⟩
  | change stories =>
    have grown : Grown (⟨0, [], 0⟩ : PrKey) world { world with stories } := ⟨fun _ _ => rfl, fun link found => ⟨link, found, fun _ held => held⟩⟩
    exact quiet grown rfl fun removed _ => removed

private theorem honours_iff (world : World) (event : Event language) : Honours world event ↔ Careful world event := by
  by_cases person : ∀ delivery, event ≠ .deliver delivery
  · have careful : Careful world event := by
      cases event with
      | deliver delivery => exact absurd rfl (person delivery)
      | connect _ => exact True.intro
      | remove _ _ _ => exact True.intro
      | change _ => exact True.intro
    exact ⟨fun _ => careful, fun _ => person_honours event person⟩
  · push Not at person
    obtain ⟨delivery, rfl⟩ := person
    refine ⟨careful_of_honours, fun careful => ?_⟩
    cases found : world.storedAnswer delivery.orgId (normalizeRepo language delivery.pr.repo) delivery.pr.number with
    | some answer => exact stored_honours found
    | none => exact guessed_honours found careful

end Deliveries

/-- A link that a person has removed stays removed until a person links the pull request again. -/
def StaysRemoved (language : Language) (world : World) (events : List (Event language)) : Prop :=
  ∀ before middle after key, events = before ++ middle ++ after → (∀ event ∈ middle, ¬ event.connects key) →
    Removed (final (step language) world before) key → Removed (final (step language) world (before ++ middle)) key

private theorem stays_removed {language : Language} {world : World} {events : List (Event language)} {key : PrKey}
    (honours : Throughout (step language) Honours world events) (quiet : ∀ event ∈ events, ¬ event.connects key)
    (removed : Removed world key) : Removed (final (step language) world events) key := by
  induction events generalizing world with
  | nil => exact removed
  | cons event rest ih =>
    have next := honours.1.removed key removed (quiet event List.mem_cons_self)
    exact ih honours.2 (fun other member => quiet other (List.mem_cons_of_mem event member)) next

/-- Over a run every delivery is answered as it should, a removed link stays removed, and no merge loses
evidence, exactly when no delivery guesses where a person has decided. -/
theorem own_story_iff (language : Language) (world : World) (events : List (Event language)) :
    (Throughout (step language) Honours world events ∧ StaysRemoved language world events ∧
      ∀ evidence first second : Evidence, (∀ name, first.lookup name = none ∨ second.lookup name = none) →
        ∀ name, ((evidence.merge first).merge second).lookup name = ((evidence.merge second).merge first).lookup name) ↔
      Throughout (step language) Careful world events := by
  have same : Throughout (step language) Honours world events ↔ Throughout (step language) Careful world events :=
    ⟨fun honours => honours.weaken fun state event => (honours_iff state event).mp,
      fun careful => careful.weaken fun state event => (honours_iff state event).mpr⟩
  rw [← same]
  constructor
  · exact fun all => all.1
  · intro honours
    refine ⟨honours, ?_, fun evidence first second disjoint => Dict.merge_either evidence first second disjoint⟩
    rintro before middle after key rfl quiet removed
    rw [final_append]
    exact stays_removed (Throughout.append.mp (Throughout.append.mp honours).1).2 quiet removed

section Removal

/-- The small letters and digits of ASCII. -/
def ascii : Language where
  lower text := text.map fun c => if 0x41 ≤ c.val ∧ c.val ≤ 0x5a then c + 0x20 else c
  digit c := if 0x30 ≤ c.val ∧ c.val ≤ 0x39 then some (c.val - 0x30) else none
  isSpace c := c.val == 0x20

def titleStory : Story := { id := 10, orgId := 1, number := 3, title := lit "Login", status := "in-progress" }

def titleDelivery : Delivery ascii where
  orgId := some 1
  pr := ⟨lit "a/b", 7, by decide, by decide, by decide⟩
  texts := [lit "login"]
  merged := true

/-- The link that a title gave, removed by a person, and matched again at the merge. -/
def matchedAgain : List (Event ascii) := [.deliver titleDelivery, .remove ⟨1, lit "a/b", 7⟩ true 5, .deliver titleDelivery]

theorem removed_link_returns : ¬ StaysRemoved ascii ⟨[titleStory], []⟩ matchedAgain ∧
    (titleDelivery.answer (final (step ascii) ⟨[titleStory], []⟩ (matchedAgain.take 2))).shouldAutoClose = true := by
  have gone : ((final (step ascii) ⟨[titleStory], []⟩ (matchedAgain.take 2)).linkOf ⟨1, lit "a/b", 7⟩).map Link.deletedAt = some (some 5) := by
    decide +kernel
  have back : ((final (step ascii) ⟨[titleStory], []⟩ matchedAgain).linkOf ⟨1, lit "a/b", 7⟩).map Link.deletedAt = some none := by
    decide +kernel
  refine ⟨?_, by decide +kernel⟩
  intro stays
  obtain ⟨link, found, deletedAt⟩ := Option.map_eq_some_iff.mp gone
  have removed : Removed (final (step ascii) ⟨[titleStory], []⟩ (matchedAgain.take 2)) ⟨1, lit "a/b", 7⟩ :=
    ⟨link, found, by rw [deletedAt]; simp⟩
  have quiet : ∀ event ∈ [Event.deliver titleDelivery], ¬ event.connects ⟨1, lit "a/b", 7⟩ := by
    intro event member
    rw [List.mem_singleton.mp member]
    exact fun connects => connects
  obtain ⟨again, there, dead⟩ := stays (matchedAgain.take 2) [.deliver titleDelivery] [] ⟨1, lit "a/b", 7⟩ rfl quiet removed
  have final_ : matchedAgain.take 2 ++ [.deliver titleDelivery] = matchedAgain := rfl
  rw [final_] at there
  rw [there, Option.map_some] at back
  exact dead (Option.some.inj back)

end Removal

end Sprintable.PullRequests
