import Sprintable.Publications.Commands

/-! Publishing a thread on X. Each segment is a post of its own, in reply to the one before it,
and has a publication row of its own; an attempt sends what the rows do not show as published.
An answer may be lost, and the attempt may end between any two rows. -/

namespace Sprintable.Publications.XThread

inductive PublicationStatus where
  | containerCreated | published | failed
  deriving DecidableEq, Repr

/-- The publication row of one segment of a version, under one gate. -/
structure ChannelPublication where
  sequence : Nat
  status : PublicationStatus := .containerCreated
  externalId : Option String := none
  permalink : Option String := none
  publishedAt : Option Nat := none
  errorCode : Option String := none
  lastError : Option String := none
  deriving DecidableEq, Repr

structure ThreadsPublishError where
  code : String
  message : String
  deriving DecidableEq, Repr

/-- What becomes of one post: `post_tweet`, and then `get_tweet_permalink`, whose refusal does
no harm. A lost answer is any exception but the provider's own. -/
inductive TweetAnswer where
  | posted (tweetId : String) (permalink : Option String)
  | refused (error : ThreadsPublishError)
  | lost
  deriving DecidableEq, Repr

structure Tweet where
  text : String
  mediaId : Option String
  inReplyToTweetId : Option String
  deriving DecidableEq, Repr

structure Segment where
  externalId : String
  permalink : Option String
  deriving DecidableEq, Repr

/-- How `publish_x_thread` ends. Its error carries the segments that were posted before it. -/
inductive Posted where
  | returned (segments : List Segment)
  | raised (segments : List Segment) (error : ThreadsPublishError)
  | escaped
  deriving DecidableEq, Repr

namespace Posted

def cons (segment : Segment) : Posted → Posted
  | .returned segments => .returned (segment :: segments)
  | .raised segments error => .raised (segment :: segments) error
  | .escaped => .escaped

def segments : Posted → List Segment
  | .returned segments | .raised segments _ => segments
  | .escaped => []

end Posted

/-- `publish_x_thread`: the requests that it makes, and how it ends. -/
def publishXThread (answer : Nat → TweetAnswer) (index : Nat) (texts : List String) (mediaId : Option String)
    (replyTo : Option String) : List Tweet × Posted :=
  match texts with
  | [] => ([], .returned [])
  | text :: rest =>
    let tweet : Tweet := { text, mediaId, inReplyToTweetId := replyTo }
    match answer index with
    | .posted tweetId permalink =>
      let later := publishXThread answer (index + 1) rest none (some tweetId)
      (tweet :: later.1, later.2.cons ⟨tweetId, permalink⟩)
    | .refused error => ([tweet], .raised [] error)
    | .lost => ([tweet], .escaped)

/-- What one attempt meets: whether a check refuses it beforehand, the head with its link, the
head's image, the cost of a post and what the budget still allows, the provider, and after how
many saved rows the attempt ends early, if it does. -/
structure Attempt where
  refused : Bool := false
  headText : String
  imagePublicUrl : Option String := none
  xUnitCostMinor : Option Nat := none
  budgetLeft : Nat := 0
  answer : Nat → TweetAnswer
  classify : ThreadsPublishError → String := ThreadsPublishError.code
  interrupted : Option Nat := none
  now : Nat

section Rows
variable (rows : List ChannelPublication)

def lastPublishedSeq : Nat := ((rows.filter (·.status = .published)).map ChannelPublication.sequence).foldr max 0

/-- The row of a failed earlier attempt at the next segment. -/
def resumeRow : Option ChannelPublication :=
  rows.find? fun row => row.sequence == lastPublishedSeq rows + 1 && row.status == .failed

/-- Write the row of a segment: the failed one of an earlier attempt, or a new one. -/
def write (resume : Option ChannelPublication) (sequence : Nat) (change : ChannelPublication → ChannelPublication) :
    List ChannelPublication :=
  if resume.any (·.sequence == sequence) then rows.map fun row => if row.sequence = sequence then change row else row
  else rows ++ [change { sequence }]

/-- One row after the other becomes published. -/
def savePublished (rows : List ChannelPublication) (resume : Option ChannelPublication) (now : Nat) :
    Nat → List Segment → List ChannelPublication
  | _, [] => rows
  | sequence, segment :: rest =>
    savePublished (write rows resume sequence fun row =>
      { row with
        status := .published, externalId := some segment.externalId, permalink := segment.permalink
        publishedAt := some now, errorCode := none, lastError := none }) resume now (sequence + 1) rest

end Rows

/-- `_publish_x_thread_draft`: the requests that it makes, and the rows that it leaves. -/
def publishXThreadDraft (thread : List String) (rows : List ChannelPublication) (attempt : Attempt) :
    List Tweet × List ChannelPublication :=
  let allTexts := attempt.headText :: thread
  let lastPublished := lastPublishedSeq rows
  let remainingTexts := allTexts.drop lastPublished
  if attempt.refused then ([], rows)
  else if rows.length = allTexts.length ∧ rows.all (·.status == .published) then ([], rows)
  else if attempt.xUnitCostMinor.any fun unit => attempt.budgetLeft < unit * remainingTexts.length then ([], rows)
  else
    let prevExternalId := (rows.find? fun row => row.sequence == lastPublished).bind ChannelPublication.externalId
    let (tweets, posted) := publishXThread attempt.answer 0 remainingTexts
      (if lastPublished = 0 then attempt.imagePublicUrl else none) (if lastPublished = 0 then none else prevExternalId)
    let save := savePublished rows (resumeRow rows) attempt.now (lastPublished + 1)
    match attempt.interrupted with
    | some saved => (tweets, save (posted.segments.take saved))
    | none =>
      match posted with
      | .returned segments => (tweets, save segments)
      | .raised segments error =>
        (tweets, write (save segments) (resumeRow rows) (lastPublished + 1 + segments.length) fun row =>
          { row with status := .failed, errorCode := some (attempt.classify error), lastError := some error.message })
      | .escaped => (tweets, rows)

/-- `_local_publication_complete`, with the rows and the thread of the command's version. -/
def localPublicationComplete (command : Command) (thread : List String) (rows : List ChannelPublication) : Bool :=
  if command.contentKind ≠ .channelPost ∨ command.operation ≠ "publish" then false
  else if rows.isEmpty || rows.any (·.status != .published) then false
  else decide (1 + thread.length ≤ rows.length)

/-! The rows between attempts. -/

/-- The sequence and status of a row. -/
def mark (row : ChannelPublication) : Nat × PublicationStatus := (row.sequence, row.status)

/-- Segments 1 to `count` are published, and the next one has failed or has no row. -/
def Prefix (count : Nat) (failed : Bool) (rows : List ChannelPublication) : Prop :=
  rows.map mark = ((List.range' 1 count).map fun sequence => (sequence, PublicationStatus.published)) ++
    if failed then [(count + 1, .failed)] else []

structure Sound (thread : List String) (count : Nat) (failed : Bool) (rows : List ChannelPublication) : Prop where
  marks : Prefix count failed rows
  total : count + (if failed then 1 else 0) ≤ 1 + thread.length
  named : ∀ row ∈ rows, row.status = .published → row.externalId.isSome = true

section Prefixes
variable {count : Nat} {failed : Bool} {rows : List ChannelPublication}

theorem Prefix.sequences (shape : Prefix count failed rows) :
    (rows.filter (·.status = .published)).map ChannelPublication.sequence = List.range' 1 count := by
  have through : (rows.filter (·.status = .published)).map ChannelPublication.sequence =
      ((rows.map mark).filter fun pair => decide (pair.2 = .published)).map Prod.fst := by
    rw [List.filter_map, List.map_map]
    rfl
  rw [through, shape, List.filter_append, List.filter_map]
  cases failed <;> simp [Function.comp_def]

private theorem foldr_max_range' (start count : Nat) : (List.range' start count).foldr max 0 = if count = 0 then 0 else start + count - 1 := by
  induction count generalizing start with
  | zero => rfl
  | succ count ih =>
    rw [List.range'_succ, List.foldr_cons, ih]
    split
    · simp_all
    · rw [if_neg (Nat.succ_ne_zero count)]
      omega

theorem Prefix.last (shape : Prefix count failed rows) : lastPublishedSeq rows = count := by
  unfold lastPublishedSeq
  rw [shape.sequences, foldr_max_range']
  split
  · omega
  · omega

theorem Prefix.length (shape : Prefix count failed rows) : rows.length = count + if failed then 1 else 0 := by
  have lengths := congrArg List.length shape
  cases failed <;> simpa using lengths

theorem Prefix.mem (shape : Prefix count failed rows) {row : ChannelPublication} (inside : row ∈ rows) :
    (1 ≤ row.sequence ∧ row.sequence ≤ count ∧ row.status = .published) ∨
      (failed = true ∧ row.sequence = count + 1 ∧ row.status = .failed) := by
  have marked : mark row ∈ rows.map mark := List.mem_map_of_mem inside
  rw [shape, List.mem_append] at marked
  rcases marked with published | next
  · obtain ⟨sequence, within, same⟩ := List.mem_map.mp published
    rw [List.mem_range'_1] at within
    have named : sequence = row.sequence := congrArg Prod.fst same
    have settled : PublicationStatus.published = row.status := congrArg Prod.snd same
    exact .inl ⟨by omega, by omega, settled.symm⟩
  · cases failed with
    | false => cases next
    | true =>
      have same := List.mem_singleton.mp next
      exact .inr ⟨rfl, congrArg Prod.fst same, congrArg Prod.snd same⟩

theorem Prefix.row (shape : Prefix count failed rows) {sequence : Nat} (started : 1 ≤ sequence)
    (within : sequence ≤ count) : ∃ row ∈ rows, row.sequence = sequence := by
  have marked : (sequence, PublicationStatus.published) ∈ rows.map mark := by
    rw [shape]
    apply List.mem_append_left
    apply List.mem_map.mpr
    exact ⟨sequence, List.mem_range'_1.mpr ⟨started, by omega⟩, rfl⟩
  obtain ⟨row, inside, same⟩ := List.mem_map.mp marked
  exact ⟨row, inside, congrArg Prod.fst same⟩

theorem Prefix.complete (shape : Prefix count failed rows) :
    (rows.isEmpty || rows.any (·.status != .published)) = false ↔ 0 < count ∧ failed = false := by
  rw [Bool.or_eq_false_iff]
  constructor
  · rintro ⟨some_, whole⟩
    have open_ : failed = false := by
      by_contra ended
      have next : failed = true := by simpa using ended
      have marked : (count + 1, PublicationStatus.failed) ∈ rows.map mark := by
        rw [shape, next]
        simp
      obtain ⟨row, inside, same⟩ := List.mem_map.mp marked
      have status : row.status = .failed := congrArg Prod.snd same
      have published := List.any_eq_false.mp whole row inside
      simp [status] at published
    have length := shape.length
    rw [open_] at length
    refine ⟨?_, open_⟩
    have nonempty : rows ≠ [] := by simpa using some_
    have positive := List.length_pos_iff.mpr nonempty
    simp only [Bool.false_eq_true, if_false] at length
    omega
  · rintro ⟨positive, rfl⟩
    obtain ⟨row, inside, _⟩ := shape.row (Nat.le_refl 1) positive
    constructor
    · cases rows with
      | nil => cases inside
      | cons => rfl
    · apply List.any_eq_false.mpr
      intro row inside
      rcases shape.mem inside with ⟨_, _, published⟩ | ⟨ended, _⟩
      · simp [published]
      · cases ended

end Prefixes

/-! What one attempt does to the rows. -/

/-- The row that an attempt resumes is the failed one after the prefix, as long as it stands
there, and is of no later segment. -/
def Resumes (resume : Option ChannelPublication) (count : Nat) (failed : Bool) : Prop :=
  if failed then ∃ row, resume = some row ∧ row.sequence = count + 1
  else ∀ row, resume = some row → row.sequence ≤ count

section Attempts
variable {thread : List String} {count : Nat} {failed : Bool} {rows : List ChannelPublication}
  {resume : Option ChannelPublication}

theorem Prefix.resumes (shape : Prefix count failed rows) : Resumes (resumeRow rows) count failed := by
  unfold Resumes
  cases failed with
  | true =>
    have marked : (count + 1, PublicationStatus.failed) ∈ rows.map mark := by
      rw [shape]
      simp
    obtain ⟨row, inside, same⟩ := List.mem_map.mp marked
    have named : row.sequence = count + 1 := congrArg Prod.fst same
    have status : row.status = .failed := congrArg Prod.snd same
    rw [if_pos rfl]
    have found : (resumeRow rows).isSome = true := by
      unfold resumeRow
      rw [List.find?_isSome, shape.last]
      exact ⟨row, inside, by simp [named, status]⟩
    obtain ⟨other, eq⟩ := Option.isSome_iff_exists.mp found
    refine ⟨other, eq, ?_⟩
    have meets := List.find?_some eq
    rw [shape.last] at meets
    simp at meets
    exact meets.1
  | false =>
    rw [if_neg Bool.false_ne_true]
    intro row eq
    have meets := List.find?_some eq
    simp at meets
    rcases shape.mem (List.mem_of_find?_eq_some eq) with ⟨_, _, published⟩ | ⟨ended, _⟩
    · rw [published] at meets
      cases meets.2
    · cases ended

private theorem mem_write {sequence : Nat} {change : ChannelPublication → ChannelPublication} {row : ChannelPublication}
    (inside : row ∈ write rows resume sequence change) : row ∈ rows ∨ ∃ before, row = change before := by
  unfold write at inside
  split at inside
  · obtain ⟨before, held, same⟩ := List.mem_map.mp inside
    split at same
    · exact .inr ⟨before, same.symm⟩
    · exact .inl (same ▸ held)
  · rcases List.mem_append.mp inside with held | new
    · exact .inl held
    · exact .inr ⟨_, List.mem_singleton.mp new⟩

theorem Prefix.write (shape : Prefix count failed rows) (resumes : Resumes resume count failed)
    {change : ChannelPublication → ChannelPublication} {status : PublicationStatus}
    (changed : ∀ row, mark (change row) = (row.sequence, status)) :
    (XThread.write rows resume (count + 1) change).map mark =
      ((List.range' 1 count).map fun sequence => (sequence, PublicationStatus.published)) ++ [(count + 1, status)] := by
  unfold XThread.write
  unfold Resumes at resumes
  cases failed with
  | true =>
    rw [if_pos rfl] at resumes
    obtain ⟨row, rfl, named⟩ := resumes
    rw [if_pos (by simp [named])]
    have through : (rows.map fun row => if row.sequence = count + 1 then change row else row).map mark =
        (rows.map mark).map fun pair => if pair.1 = count + 1 then (pair.1, status) else pair := by
      rw [List.map_map, List.map_map]
      apply List.map_congr_left
      intro row _
      by_cases this : row.sequence = count + 1
      · have same := changed row
        rw [this] at same
        simpa [this, mark] using same
      · simp [this, mark]
    rw [through, shape, List.map_append, List.map_map]
    congr 1
    · apply List.map_congr_left
      intro sequence within
      have bound := (List.mem_range'_1.mp within).2
      have other : sequence ≠ count + 1 := by omega
      simp [other]
    · simp
  | false =>
    rw [if_neg Bool.false_ne_true] at resumes
    have other : resume.any (·.sequence == count + 1) = false := by
      cases resume with
      | none => rfl
      | some row =>
        have bound := resumes row rfl
        have distinct : row.sequence ≠ count + 1 := by omega
        simpa using distinct
    rw [if_neg (by simp [other]), List.map_append, shape]
    simp [changed]

theorem Sound.fails (sound : Sound thread count failed rows) (resumes : Resumes resume count failed)
    (more : count < 1 + thread.length) (code message : String) :
    Sound thread count true (XThread.write rows resume (count + 1) fun row =>
      { row with status := .failed, errorCode := some code, lastError := some message }) := by
  constructor
  · apply sound.marks.write resumes
    intro row
    rfl
  · rw [if_pos rfl]
    omega
  · intro row inside published
    rcases mem_write inside with held | ⟨before, rfl⟩
    · exact sound.named row held published
    · cases published

theorem Sound.publishes (sound : Sound thread count failed rows) (resumes : Resumes resume count failed)
    (more : count < 1 + thread.length) (segment : Segment) (now : Nat) :
    Sound thread (count + 1) false (XThread.write rows resume (count + 1) fun row =>
      { row with
        status := .published, externalId := some segment.externalId, permalink := segment.permalink
        publishedAt := some now, errorCode := none, lastError := none }) := by
  constructor
  · apply (sound.marks.write resumes fun row => rfl).trans
    rw [List.range'_concat, List.map_append]
    simp [Nat.add_comm]
  · simp only [Bool.false_eq_true, if_false]
    omega
  · intro row inside published
    rcases mem_write inside with held | ⟨before, rfl⟩
    · exact sound.named row held published
    · rfl

theorem Resumes.advance (resumes : Resumes resume count failed) : Resumes resume (count + 1) false := by
  unfold Resumes at resumes ⊢
  rw [if_neg Bool.false_ne_true]
  intro row same
  cases failed with
  | true =>
    rw [if_pos rfl] at resumes
    obtain ⟨other, eq, named⟩ := resumes
    cases eq.symm.trans same
    omega
  | false =>
    rw [if_neg Bool.false_ne_true] at resumes
    have bound := resumes row same
    omega

theorem Sound.save (segments : List Segment) (now : Nat) (sound : Sound thread count failed rows)
    (resumes : Resumes resume count failed) (fits : count + segments.length ≤ 1 + thread.length) :
    ∃ failed', Sound thread (count + segments.length) failed' (savePublished rows resume now (count + 1) segments) ∧
      Resumes resume (count + segments.length) failed' := by
  induction segments generalizing count failed rows with
  | nil => exact ⟨failed, sound, resumes⟩
  | cons segment rest ih =>
    rw [List.length_cons] at fits ⊢
    have next := sound.publishes resumes (by omega) segment now
    have later := ih next resumes.advance (by omega)
    rw [show count + (rest.length + 1) = count + 1 + rest.length by omega]
    exact later

private theorem mem_write_of_ne {row : ChannelPublication} (inside : row ∈ rows) {sequence : Nat} (other : row.sequence ≠ sequence)
    (change : ChannelPublication → ChannelPublication) : row ∈ write rows resume sequence change := by
  unfold write
  split
  · exact List.mem_map.mpr ⟨row, inside, if_neg other⟩
  · exact List.mem_append_left _ inside

private theorem savePublished_keeps {row : ChannelPublication} (inside : row ∈ rows) {sequence : Nat} (earlier : row.sequence < sequence)
    (now : Nat) (segments : List Segment) : row ∈ savePublished rows resume now sequence segments := by
  induction segments generalizing rows sequence with
  | nil => exact inside
  | cons segment rest ih =>
    rw [savePublished]
    exact ih (mem_write_of_ne inside (Nat.ne_of_lt earlier) _) (Nat.lt_succ_of_lt earlier)

theorem Prefix.written (shape : Prefix count failed rows) (resumes : Resumes resume count failed)
    (change : ChannelPublication → ChannelPublication) :
    ∃ before : ChannelPublication, before.sequence = count + 1 ∧ change before ∈ XThread.write rows resume (count + 1) change := by
  unfold XThread.write
  unfold Resumes at resumes
  cases failed with
  | true =>
    rw [if_pos rfl] at resumes
    obtain ⟨row, rfl, named⟩ := resumes
    have marked : (count + 1, PublicationStatus.failed) ∈ rows.map mark := by
      rw [shape]
      simp
    obtain ⟨held, inside, same⟩ := List.mem_map.mp marked
    have sequence : held.sequence = count + 1 := congrArg Prod.fst same
    rw [if_pos (by simp [named])]
    exact ⟨held, sequence, List.mem_map.mpr ⟨held, inside, if_pos sequence⟩⟩
  | false =>
    rw [if_neg Bool.false_ne_true] at resumes
    have other : resume.any (·.sequence == count + 1) = false := by
      cases resume with
      | none => rfl
      | some row =>
        have bound := resumes row rfl
        have distinct : row.sequence ≠ count + 1 := by omega
        simpa using distinct
    rw [if_neg (by simp [other])]
    exact ⟨{ sequence := count + 1 }, rfl, List.mem_append_right _ (List.mem_singleton_self _)⟩

/-- Each segment that is saved has its row, with the id and the link of its post. -/
theorem Sound.saved {segments : List Segment} (sound : Sound thread count failed rows) (now : Nat)
    (resumes : Resumes resume count failed) (fits : count + segments.length ≤ 1 + thread.length)
    {index : Nat} {segment : Segment} (at_ : segments[index]? = some segment) :
    ∃ row ∈ savePublished rows resume now (count + 1) segments, row.sequence = count + 1 + index ∧
      row.status = .published ∧ row.externalId = some segment.externalId ∧ row.permalink = segment.permalink := by
  induction segments generalizing count failed rows index with
  | nil => cases at_
  | cons first rest ih =>
    rw [List.length_cons] at fits
    rw [savePublished]
    have next := sound.publishes resumes (by omega) first now
    cases index with
    | zero =>
      have same : first = segment := Option.some.inj at_
      subst same
      obtain ⟨before, named, inside⟩ := sound.marks.written resumes fun row =>
        { row with
          status := .published, externalId := some first.externalId, permalink := first.permalink
          publishedAt := some now, errorCode := none, lastError := none }
      exact ⟨_, savePublished_keeps inside (Nat.lt_succ_of_le named.le) now rest, named, rfl, rfl, rfl⟩
    | succ index =>
      obtain ⟨row, inside, named, held⟩ := ih next resumes.advance (by omega) (by simpa using at_)
      exact ⟨row, inside, by omega, held⟩

end Attempts

/-! What one attempt sends. -/

section Requests
variable (answer : Nat → TweetAnswer)

private theorem publish_texts (index : Nat) (texts : List String) (mediaId replyTo : Option String) :
    (publishXThread answer index texts mediaId replyTo).1.map Tweet.text <+: texts := by
  induction texts generalizing index mediaId replyTo with
  | nil => exact List.prefix_rfl
  | cons text rest ih =>
    simp only [publishXThread]
    cases answer index with
    | posted tweetId permalink => exact List.prefix_cons_inj text |>.mpr (ih (index + 1) none (some tweetId))
    | refused error => exact ⟨rest, rfl⟩
    | lost => exact ⟨rest, rfl⟩

private theorem publish_replies (index : Nat) (texts : List String) (mediaId replyTo : Option String) {tweet : Tweet}
    (first : (publishXThread answer index texts mediaId replyTo).1.head? = some tweet) :
    tweet.inReplyToTweetId = replyTo := by
  cases texts with
  | nil => cases first
  | cons text rest =>
    simp only [publishXThread] at first
    cases answered : answer index with
    | posted tweetId permalink =>
      rw [answered] at first
      cases first
      rfl
    | refused error =>
      rw [answered] at first
      cases first
      rfl
    | lost =>
      rw [answered] at first
      cases first
      rfl

private theorem publish_segments (index : Nat) (texts : List String) (mediaId replyTo : Option String) :
    let posted := (publishXThread answer index texts mediaId replyTo).2
    posted.segments.length ≤ texts.length ∧
      ∀ segments error, posted = .raised segments error → segments.length < texts.length := by
  induction texts generalizing index mediaId replyTo with
  | nil =>
    refine ⟨Nat.le_refl 0, ?_⟩
    intro segments error same
    cases same
  | cons text rest ih =>
    simp only [publishXThread]
    cases answer index with
    | posted tweetId permalink =>
      have later := ih (index + 1) none (some tweetId)
      dsimp only at later ⊢
      cases posted : (publishXThread answer (index + 1) rest none (some tweetId)).2 with
      | returned segments =>
        rw [posted] at later
        refine ⟨Nat.succ_le_succ later.1, ?_⟩
        intro _ _ same
        cases same
      | raised segments error =>
        rw [posted] at later
        refine ⟨Nat.succ_le_succ later.1, ?_⟩
        intro _ _ same
        cases same
        exact Nat.succ_lt_succ (later.2 segments error rfl)
      | escaped =>
        refine ⟨Nat.zero_le _, ?_⟩
        intro _ _ same
        cases same
    | refused error =>
      refine ⟨Nat.zero_le _, ?_⟩
      intro _ _ same
      cases same
      exact Nat.succ_pos _
    | lost =>
      refine ⟨Nat.zero_le _, ?_⟩
      intro _ _ same
      cases same

private theorem publish_first (index : Nat) (text : String) (rest : List String) (mediaId replyTo : Option String) :
    (publishXThread answer index (text :: rest) mediaId replyTo).1.head? = some ⟨text, mediaId, replyTo⟩ := by
  simp only [publishXThread]
  cases answer index <;> rfl

/-- A request is answered with a post before the next one, which replies to that post. -/
private theorem publish_next (index : Nat) (texts : List String) (mediaId replyTo : Option String) {position : Nat} {tweet : Tweet}
    (later : (publishXThread answer index texts mediaId replyTo).1[position + 1]? = some tweet) :
    ∃ tweetId permalink, answer (index + position) = .posted tweetId permalink ∧ tweet.inReplyToTweetId = some tweetId := by
  induction texts generalizing index mediaId replyTo position with
  | nil => cases later
  | cons text rest ih =>
    simp only [publishXThread] at later
    cases answered : answer index with
    | posted tweetId permalink =>
      rw [answered, List.getElem?_cons_succ] at later
      cases position with
      | zero =>
        refine ⟨tweetId, permalink, answered, publish_replies answer (index + 1) rest none (some tweetId) ?_⟩
        rw [List.head?_eq_getElem?]
        exact later
      | succ position =>
        obtain ⟨id, link, posted, replies⟩ := ih (index + 1) none (some tweetId) later
        exact ⟨id, link, by rw [← posted]; congr 1; omega, replies⟩
    | refused error =>
      rw [answered] at later
      cases later
    | lost =>
      rw [answered] at later
      cases later

private theorem publish_goes_on (index : Nat) (texts : List String) (mediaId replyTo : Option String) {position : Nat}
    (made : position < (publishXThread answer index texts mediaId replyTo).1.length) {tweetId : String} {permalink : Option String}
    (posted : answer (index + position) = .posted tweetId permalink) (more : position + 1 < texts.length) :
    position + 1 < (publishXThread answer index texts mediaId replyTo).1.length := by
  induction texts generalizing index mediaId replyTo position with
  | nil => cases made
  | cons text rest ih =>
    simp only [publishXThread] at made ⊢
    cases answered : answer index with
    | posted id link =>
      rw [answered, List.length_cons] at made
      rw [List.length_cons]
      cases position with
      | zero =>
        cases rest with
        | nil => exact absurd more (by simp)
        | cons next rest =>
          apply Nat.succ_lt_succ
          simp only [publishXThread]
          cases answer (index + 1) <;> exact Nat.succ_pos _
      | succ position =>
        apply Nat.succ_lt_succ
        exact ih (index + 1) none (some id) (Nat.lt_of_succ_lt_succ made) (by rw [← posted]; congr 1; omega)
          (Nat.lt_of_succ_lt_succ more)
    | refused error =>
      rw [answered, List.length_singleton] at made
      obtain rfl : position = 0 := by omega
      cases answered.symm.trans posted
    | lost =>
      rw [answered, List.length_singleton] at made
      obtain rfl : position = 0 := by omega
      cases answered.symm.trans posted

private theorem cons_segments (segment : Segment) {posted : Posted} (heard : posted ≠ .escaped) :
    (posted.cons segment).segments = segment :: posted.segments := by
  cases posted with
  | escaped => cases heard rfl
  | _ => rfl

/-- Where no answer is lost, the call ends with a segment for each post, and with the refusal if there is one. -/
private theorem publish_heard (index : Nat) (texts : List String) (mediaId replyTo : Option String)
    (heard : ∀ position, position < (publishXThread answer index texts mediaId replyTo).1.length → answer (index + position) ≠ .lost) :
    (publishXThread answer index texts mediaId replyTo).2 ≠ .escaped ∧
      ∀ position, position < (publishXThread answer index texts mediaId replyTo).1.length →
        (∀ tweetId permalink, answer (index + position) = .posted tweetId permalink →
          (publishXThread answer index texts mediaId replyTo).2.segments[position]? = some ⟨tweetId, permalink⟩) ∧
        ∀ error, answer (index + position) = .refused error → ∃ segments, segments.length = position ∧
          (publishXThread answer index texts mediaId replyTo).2 = .raised segments error := by
  induction texts generalizing index mediaId replyTo with
  | nil => exact ⟨nofun, fun _ made => nomatch made⟩
  | cons text rest ih =>
    cases answered : answer index with
    | posted id link =>
      simp only [publishXThread, answered, List.length_cons] at heard ⊢
      obtain ⟨ends, each⟩ := ih (index + 1) none (some id) fun position made => by
        have this := heard (position + 1) (Nat.succ_lt_succ made)
        rwa [show index + (position + 1) = index + 1 + position by omega] at this
      refine ⟨?_, ?_⟩
      · cases posted : (publishXThread answer (index + 1) rest none (some id)).2 with
        | escaped => cases ends posted
        | _ => exact nofun
      · intro position made
        rw [cons_segments _ ends]
        cases position with
        | zero =>
          refine ⟨?_, ?_⟩
          · intro tweetId permalink same
            cases answered.symm.trans same
            rfl
          · intro error same
            cases answered.symm.trans same
        | succ position =>
          obtain ⟨published, refused⟩ := each position (Nat.lt_of_succ_lt_succ made)
          rw [show index + (position + 1) = index + 1 + position by omega]
          refine ⟨published, ?_⟩
          intro error same
          obtain ⟨segments, length, raised⟩ := refused error same
          exact ⟨⟨id, link⟩ :: segments, congrArg (· + 1) length, by rw [raised, Posted.cons]⟩
    | refused error =>
      simp only [publishXThread, answered, List.length_singleton] at heard ⊢
      refine ⟨nofun, fun position made => ?_⟩
      obtain rfl : position = 0 := by omega
      refine ⟨?_, ?_⟩
      · intro tweetId permalink same
        cases answered.symm.trans same
      · intro other same
        cases answered.symm.trans same
        exact ⟨[], rfl, rfl⟩
    | lost =>
      simp only [publishXThread, answered, List.length_singleton] at heard
      exact absurd answered (heard 0 Nat.one_pos)

end Requests

/-- The id under which the rows hold a published segment. -/
def storedId (rows : List ChannelPublication) (sequence : Nat) : Option String :=
  (rows.find? fun row => row.sequence == sequence).bind ChannelPublication.externalId

/-- The checks let the attempt through, and something is left to send. -/
structure Goes (thread : List String) (count : Nat) (attempt : Attempt) : Prop where
  allowed : attempt.refused = false
  short : count < 1 + thread.length
  paid : ∀ unit, attempt.xUnitCostMinor = some unit → unit * (1 + thread.length - count) ≤ attempt.budgetLeft

/-- The requests of an attempt are the segments after the prefix, in their order. An attempt that goes through
makes the first of them, in reply to the last post of the prefix, and after each post the next one, in reply to it. -/
structure Continues (thread : List String) (count : Nat) (rows : List ChannelPublication) (attempt : Attempt) : Prop where
  texts : ((publishXThreadDraft thread rows attempt).1.map Tweet.text) <+: (attempt.headText :: thread).drop count
  replies : ∀ tweet, (publishXThreadDraft thread rows attempt).1.head? = some tweet →
    tweet.inReplyToTweetId = storedId rows count
  stored : (storedId rows count).isSome = true ↔ 0 < count
  starts : Goes thread count attempt → ∃ text, (attempt.headText :: thread)[count]? = some text ∧
    (publishXThreadDraft thread rows attempt).1.head? =
      some ⟨text, if count = 0 then attempt.imagePublicUrl else none, storedId rows count⟩
  next : ∀ position tweet, (publishXThreadDraft thread rows attempt).1[position + 1]? = some tweet →
    ∃ tweetId permalink, attempt.answer position = .posted tweetId permalink ∧ tweet.inReplyToTweetId = some tweetId
  goesOn : ∀ position, position < (publishXThreadDraft thread rows attempt).1.length →
    ∀ tweetId permalink, attempt.answer position = .posted tweetId permalink → count + position + 1 < 1 + thread.length →
      position + 1 < (publishXThreadDraft thread rows attempt).1.length

/-- Where no answer is lost, every answer is in the row of its segment, as far as the attempt comes with saving them. -/
structure Records (thread : List String) (count : Nat) (rows : List ChannelPublication) (attempt : Attempt) : Prop where
  posted : ∀ position, position < (publishXThreadDraft thread rows attempt).1.length →
    ∀ tweetId permalink, attempt.answer position = .posted tweetId permalink →
      (∀ saved, attempt.interrupted = some saved → position < saved) →
      ∃ row ∈ (publishXThreadDraft thread rows attempt).2, row.sequence = count + 1 + position ∧ row.status = .published ∧
        row.externalId = some tweetId ∧ row.permalink = permalink
  refused : attempt.interrupted = none → ∀ position, position < (publishXThreadDraft thread rows attempt).1.length →
    ∀ error, attempt.answer position = .refused error →
      ∃ row ∈ (publishXThreadDraft thread rows attempt).2, row.sequence = count + 1 + position ∧ row.status = .failed ∧
        row.errorCode = some (attempt.classify error) ∧ row.lastError = some error.message

section Run
variable {thread : List String} {count : Nat} {failed : Bool} {rows : List ChannelPublication}

theorem Sound.stored (sound : Sound thread count failed rows) : (storedId rows count).isSome = true ↔ 0 < count := by
  unfold storedId
  constructor
  · intro named
    cases found : rows.find? fun row => row.sequence == count with
    | none =>
      rw [found] at named
      cases named
    | some row =>
      have same : row.sequence = count := by simpa using List.find?_some found
      rcases sound.marks.mem (List.mem_of_find?_eq_some found) with ⟨started, _, _⟩ | ⟨_, next, _⟩
      · omega
      · omega
  · intro positive
    obtain ⟨row, inside, same⟩ := sound.marks.row positive (Nat.le_refl count)
    have found : (rows.find? fun row => row.sequence == count).isSome = true :=
      List.find?_isSome.mpr ⟨row, inside, by simpa using same⟩
    obtain ⟨first, eq⟩ := Option.isSome_iff_exists.mp found
    have named : first.sequence = count := by simpa using List.find?_some eq
    rw [eq]
    rcases sound.marks.mem (List.mem_of_find?_eq_some eq) with ⟨_, _, published⟩ | ⟨_, next, _⟩
    · exact sound.named first (List.mem_of_find?_eq_some eq) published
    · omega

/-- The provider's part of an attempt that reaches it. -/
def sent (thread : List String) (rows : List ChannelPublication) (attempt : Attempt) : List Tweet × Posted :=
  publishXThread attempt.answer 0 ((attempt.headText :: thread).drop (lastPublishedSeq rows))
    (if lastPublishedSeq rows = 0 then attempt.imagePublicUrl else none)
    (if lastPublishedSeq rows = 0 then none else storedId rows (lastPublishedSeq rows))

/-- An attempt leaves everything as it is, or saves some of the posted segments in their order, or
saves all of them and the refusal of the next one. -/
theorem attempt_cases (thread : List String) (rows : List ChannelPublication) (attempt : Attempt) :
    publishXThreadDraft thread rows attempt = ([], rows) ∨
    (∃ saved, publishXThreadDraft thread rows attempt = ((sent thread rows attempt).1,
      savePublished rows (resumeRow rows) attempt.now (lastPublishedSeq rows + 1)
        ((sent thread rows attempt).2.segments.take saved)) ∧
      (∀ position, position < (sent thread rows attempt).2.segments.length →
        (∀ limit, attempt.interrupted = some limit → position < limit) → position < saved) ∧
      (attempt.interrupted = none → ∀ segments error, (sent thread rows attempt).2 ≠ .raised segments error)) ∨
    ∃ segments error, (sent thread rows attempt).2 = .raised segments error ∧
      publishXThreadDraft thread rows attempt = ((sent thread rows attempt).1,
        write (savePublished rows (resumeRow rows) attempt.now (lastPublishedSeq rows + 1) segments) (resumeRow rows)
          (lastPublishedSeq rows + 1 + segments.length) fun row =>
            { row with status := .failed, errorCode := some (attempt.classify error), lastError := some error.message }) := by
  unfold publishXThreadDraft
  dsimp only
  split
  · exact .inl rfl
  split
  · exact .inl rfl
  split
  · exact .inl rfl
  right
  cases attempt.interrupted with
  | some saved => exact .inl ⟨saved, rfl, fun _ _ within => within saved rfl, nofun⟩
  | none =>
    cases posted : (sent thread rows attempt).2 with
    | returned segments =>
      refine .inl ⟨segments.length, ?_, fun _ inside _ => inside, fun _ _ _ => nofun⟩
      unfold sent storedId at posted ⊢
      simp only [posted, Posted.segments, List.take_length]
    | raised segments error =>
      refine .inr ⟨segments, error, rfl, ?_⟩
      unfold sent storedId at posted ⊢
      simp only [posted]
    | escaped =>
      refine .inl ⟨0, ?_, nofun, fun _ _ _ => nofun⟩
      unfold sent storedId at posted ⊢
      simp only [posted, List.take_zero, savePublished]

private theorem sent_heard (thread : List String) (rows : List ChannelPublication) (attempt : Attempt)
    (heard : ∀ position, position < (sent thread rows attempt).1.length → attempt.answer position ≠ .lost) :
    ∀ position, position < (sent thread rows attempt).1.length →
      (∀ tweetId permalink, attempt.answer position = .posted tweetId permalink →
        (sent thread rows attempt).2.segments[position]? = some ⟨tweetId, permalink⟩) ∧
      ∀ error, attempt.answer position = .refused error → ∃ segments, segments.length = position ∧
        (sent thread rows attempt).2 = .raised segments error := by
  have outcome := publish_heard attempt.answer 0 ((attempt.headText :: thread).drop (lastPublishedSeq rows))
    (if lastPublishedSeq rows = 0 then attempt.imagePublicUrl else none)
    (if lastPublishedSeq rows = 0 then none else storedId rows (lastPublishedSeq rows))
  simp only [Nat.zero_add] at outcome
  exact (outcome heard).2

theorem requests (thread : List String) (rows : List ChannelPublication) (attempt : Attempt) :
    (publishXThreadDraft thread rows attempt).1 = [] ∨
      (publishXThreadDraft thread rows attempt).1 = (sent thread rows attempt).1 := by
  rcases attempt_cases thread rows attempt with idle | ⟨_, saves, _⟩ | ⟨_, _, _, refuses⟩
  · exact .inl (congrArg Prod.fst idle)
  · exact .inr (congrArg Prod.fst saves)
  · exact .inr (congrArg Prod.fst refuses)

theorem Sound.reaches (sound : Sound thread count failed rows) {attempt : Attempt} (goes : Goes thread count attempt) :
    (publishXThreadDraft thread rows attempt).1 = (sent thread rows attempt).1 := by
  have last := sound.marks.last
  have length := sound.marks.length
  have open_ : ¬ (rows.length = (attempt.headText :: thread).length ∧ rows.all (·.status == .published) = true) := by
    rintro ⟨whole, settled⟩
    rw [List.length_cons] at whole
    have more := goes.short
    cases failed with
    | false => simp only [Bool.false_eq_true, if_false] at length; omega
    | true =>
      have marked : (count + 1, PublicationStatus.failed) ∈ rows.map mark := by
        rw [sound.marks]
        simp
      obtain ⟨row, inside, same⟩ := List.mem_map.mp marked
      have status : row.status = .failed := congrArg Prod.snd same
      have published := List.all_eq_true.mp settled row inside
      simp [status] at published
  have paid : (attempt.xUnitCostMinor.any fun unit =>
      attempt.budgetLeft < unit * ((attempt.headText :: thread).drop (lastPublishedSeq rows)).length) = false := by
    rw [last, List.length_drop, List.length_cons, Nat.add_comm thread.length 1]
    cases cost : attempt.xUnitCostMinor with
    | none => rfl
    | some unit => simpa using goes.paid unit cost
  unfold publishXThreadDraft
  dsimp only
  rw [if_neg (by simp [goes.allowed]), if_neg open_, if_neg (by simpa using paid)]
  cases attempt.interrupted with
  | some saved => rfl
  | none =>
    cases posted : (sent thread rows attempt).2 with
    | _ =>
      unfold sent storedId at posted ⊢
      simp only [posted]

theorem Sound.continues (sound : Sound thread count failed rows) (attempt : Attempt) :
    Continues thread count rows attempt := by
  have last := sound.marks.last
  have unnamed : count = 0 → storedId rows count = none := by
    intro start
    have absent := (not_congr sound.stored).mpr (by omega)
    simpa using absent
  have replyTo : (if count = 0 then none else storedId rows count) = storedId rows count := by
    split
    · rename_i start
      exact (unnamed start).symm
    · rfl
  constructor
  · rcases requests thread rows attempt with idle | same
    · rw [idle]
      exact List.nil_prefix
    · rw [same, sent, last]
      apply publish_texts
  · intro tweet first
    rcases requests thread rows attempt with idle | same
    · rw [idle] at first
      cases first
    · rw [same, sent] at first
      rw [publish_replies _ _ _ _ _ first, last, replyTo]
  · exact sound.stored
  · intro goes
    have inside : count < (attempt.headText :: thread).length := by
      have more := goes.short
      rw [List.length_cons]
      omega
    refine ⟨_, List.getElem?_eq_getElem inside, ?_⟩
    rw [sound.reaches goes, sent, last, replyTo, List.drop_eq_getElem_cons inside]
    exact publish_first attempt.answer 0 _ _ _ _
  · intro position tweet later
    rcases requests thread rows attempt with idle | same
    · rw [idle] at later
      cases later
    · rw [same, sent] at later
      have answered := publish_next attempt.answer 0 _ _ _ later
      rwa [Nat.zero_add] at answered
  · intro position made tweetId permalink posted more
    rcases requests thread rows attempt with idle | same
    · rw [idle] at made
      cases made
    · rw [same, sent] at made ⊢
      apply publish_goes_on attempt.answer 0 _ _ _ made
      · rw [Nat.zero_add]
        exact posted
      · rw [last, List.length_drop, List.length_cons]
        omega

theorem Sound.sent_segments (sound : Sound thread count failed rows) (attempt : Attempt) :
    (sent thread rows attempt).2.segments.length ≤ 1 + thread.length - count ∧
      ∀ segments error, (sent thread rows attempt).2 = .raised segments error → segments.length < 1 + thread.length - count := by
  have remaining : ((attempt.headText :: thread).drop (lastPublishedSeq rows)).length = 1 + thread.length - count := by
    rw [sound.marks.last, List.length_drop, List.length_cons]
    omega
  rw [← remaining]
  exact publish_segments attempt.answer 0 _ _ _

theorem Sound.attempt (sound : Sound thread count failed rows) (attempt : Attempt) :
    ∃ count' failed', Sound thread count' failed' (publishXThreadDraft thread rows attempt).2 := by
  have last := sound.marks.last
  have resumes := sound.marks.resumes
  have total := sound.total
  have posted := sound.sent_segments attempt
  rcases attempt_cases thread rows attempt with idle | ⟨saved, saves, _⟩ | ⟨segments, error, raised, refuses⟩
  · rw [idle]
    exact ⟨count, failed, sound⟩
  · rw [saves, last]
    have fits : count + ((sent thread rows attempt).2.segments.take saved).length ≤ 1 + thread.length := by
      rw [List.length_take]
      have := posted.1
      omega
    obtain ⟨failed', kept, _⟩ := sound.save _ attempt.now resumes fits
    exact ⟨_, failed', kept⟩
  · rw [refuses, last]
    have room := posted.2 segments error raised
    obtain ⟨failed', kept, still⟩ := sound.save segments attempt.now resumes (by omega)
    rw [show count + 1 + segments.length = count + segments.length + 1 by omega]
    exact ⟨_, true, kept.fails still (by omega) _ _⟩

theorem Sound.records (sound : Sound thread count failed rows) {attempt : Attempt}
    (heard : ∀ position, position < (publishXThreadDraft thread rows attempt).1.length → attempt.answer position ≠ .lost) :
    Records thread count rows attempt := by
  have last := sound.marks.last
  have resumes := sound.marks.resumes
  have total := sound.total
  have provider := sound.sent_segments attempt
  rcases attempt_cases thread rows attempt with idle | ⟨saved, saves, covers, whole⟩ | ⟨segments, error, raised, refuses⟩
  · constructor <;> simp [idle]
  · rw [saves] at heard
    have answers := sent_heard thread rows attempt heard
    constructor
    · rw [saves, last]
      intro position made tweetId permalink posted within
      have segment := (answers position made).1 tweetId permalink posted
      obtain ⟨inside, _⟩ := List.getElem?_eq_some_iff.mp segment
      have kept : ((sent thread rows attempt).2.segments.take saved)[position]? = some ⟨tweetId, permalink⟩ := by
        rw [List.getElem?_take_of_lt (covers position inside within)]
        exact segment
      apply sound.saved _ resumes _ kept
      rw [List.length_take]
      omega
    · rw [saves]
      intro uninterrupted position made error refused
      obtain ⟨segments, _, raised⟩ := (answers position made).2 error refused
      exact absurd raised (whole uninterrupted segments error)
  · rw [refuses] at heard
    have answers := sent_heard thread rows attempt heard
    have room := provider.2 segments error raised
    have all : (sent thread rows attempt).2.segments = segments := by rw [raised, Posted.segments]
    obtain ⟨failed', kept, still⟩ := sound.save segments attempt.now resumes (by omega)
    have next : count + 1 + segments.length = count + segments.length + 1 := by omega
    constructor
    · rw [refuses, last]
      dsimp only
      intro position made tweetId permalink posted _
      have segment := (answers position made).1 tweetId permalink posted
      rw [all] at segment
      obtain ⟨inside, _⟩ := List.getElem?_eq_some_iff.mp segment
      obtain ⟨row, saved, named, held⟩ := sound.saved attempt.now resumes (by omega) segment
      have earlier : row.sequence ≠ count + 1 + segments.length := by omega
      exact ⟨row, mem_write_of_ne saved earlier _, named, held⟩
    · rw [refuses, last, next]
      intro _ position made other refused
      obtain ⟨others, length, same⟩ := (answers position made).2 other refused
      cases raised.symm.trans same
      obtain ⟨before, named, inside⟩ := kept.marks.written still fun row =>
        { row with status := .failed, errorCode := some (attempt.classify error), lastError := some error.message }
      subst length
      exact ⟨_, inside, named.trans next.symm, rfl, rfl, rfl⟩

end Run

/-- What the rows of a version show between attempts: a published prefix and at most the failed
segment after it; the next attempt continues there; no segment with a published row is sent
again; and the command counts as done just when the prefix is the whole thread. -/
def KeepsPrefix (thread : List String) (rows : List ChannelPublication) : Prop :=
  ∃ count failed, Prefix count failed rows ∧ count + (if failed then 1 else 0) ≤ 1 + thread.length ∧
    (∀ attempt, Continues thread count rows attempt) ∧
    (∀ attempt, (∀ position, position < (publishXThreadDraft thread rows attempt).1.length → attempt.answer position ≠ .lost) →
      Records thread count rows attempt) ∧
    (∀ row ∈ rows, row.status = .published → row.sequence ≤ count) ∧
    ∀ command : Command, command.contentKind = .channelPost → command.operation = "publish" →
      (localPublicationComplete command thread rows = true ↔ count = 1 + thread.length)

theorem Sound.keeps {thread : List String} {count : Nat} {failed : Bool} {rows : List ChannelPublication}
    (sound : Sound thread count failed rows) : KeepsPrefix thread rows := by
  refine ⟨count, failed, sound.marks, sound.total, sound.continues, fun _ => sound.records, ?_, ?_⟩
  · intro row inside published
    rcases sound.marks.mem inside with ⟨_, within, _⟩ | ⟨_, _, refused⟩
    · exact within
    · cases published.symm.trans refused
  · intro command kind operation
    have total := sound.total
    have length := sound.marks.length
    unfold localPublicationComplete
    rw [if_neg (by simp [kind, operation])]
    constructor
    · intro done
      split at done
      · cases done
      rename_i whole
      obtain ⟨_, rfl⟩ := sound.marks.complete.mp (by simpa using whole)
      have enough : 1 + thread.length ≤ rows.length := by simpa using done
      simp only [Bool.false_eq_true, if_false] at length total
      omega
    · intro all
      have closed : failed = false := by
        cases failed with
        | false => rfl
        | true =>
          rw [if_pos rfl] at total
          omega
      have whole := sound.marks.complete.mpr ⟨by omega, closed⟩
      rw [closed] at length
      simp only [Bool.false_eq_true, if_false] at length
      rw [if_neg (by simp [whole])]
      simp only [decide_eq_true_eq]
      omega

def rowsAfter (thread : List String) (attempts : List Attempt) : List ChannelPublication :=
  attempts.foldl (fun rows attempt => (publishXThreadDraft thread rows attempt).2) []

/-- However the attempts at a thread end, its rows are a published prefix with at most one refused
segment, and the next attempt takes it from there. -/
theorem thread_keeps_prefix (thread : List String) (attempts : List Attempt) :
    KeepsPrefix thread (rowsAfter thread attempts) := by
  have start : Sound thread 0 false [] := by
    constructor
    · rfl
    · exact Nat.zero_le _
    · intro row inside
      cases inside
  have after : ∀ rows count failed, Sound thread count failed rows → ∃ count' failed',
      Sound thread count' failed' (attempts.foldl (fun rows attempt => (publishXThreadDraft thread rows attempt).2) rows) := by
    induction attempts with
    | nil =>
      intro rows count failed sound
      exact ⟨count, failed, sound⟩
    | cons attempt rest ih =>
      intro rows count failed sound
      obtain ⟨count', failed', next⟩ := sound.attempt attempt
      exact ih _ count' failed' next
  obtain ⟨count, failed, sound⟩ := after [] 0 false start
  exact sound.keeps

end Sprintable.Publications.XThread
