import Mathlib.Data.List.TakeWhile
import Sprintable.Logic.CodePoints

/-! Links, as `urlsplit` of CPython 3.12.3 with its security fixes takes them apart and `urlunsplit` puts them
together. A link is its front, a query behind a question mark and a fragment behind a hash; which fronts come
out as they went in is told by their schemes and slashes. -/

namespace Links

open CodePoints

structure SplitResult where
  scheme : Text
  netloc : Text
  path : Text
  query : Text
  fragment : Text
  deriving DecidableEq, Repr

/-- What is known of host names: the compatible form of a text, and the addresses between brackets. -/
structure Hosts where
  nfkc : Text → Text
  isAddress : Text → Bool

def colon : CodePoint := 0x3a

def slash : CodePoint := 0x2f

def question : CodePoint := 0x3f

def hash : CodePoint := 0x23

/-- A tab or a line end. -/
def isBreak (c : CodePoint) : Bool := c.val = 9 || c.val = 0xa || c.val = 0xd

/-- A control character or a space. -/
def isBlank (c : CodePoint) : Bool := c.val ≤ 0x20

def scrub (text : Text) : Text := text.filter fun c => !isBreak c

def clean (url : Text) : Text := scrub (url.dropWhile isBlank)

def isCapital (c : CodePoint) : Bool := 0x41 ≤ c.val && c.val ≤ 0x5a

def isLetter (c : CodePoint) : Bool := isCapital c || (0x61 ≤ c.val && c.val ≤ 0x7a)

def isSchemeChar (c : CodePoint) : Bool :=
  isLetter c || (0x30 ≤ c.val && c.val ≤ 0x39) || c.val = 0x2b || c.val = 0x2d || c.val = 0x2e

def lowerChar (c : CodePoint) : CodePoint := if isCapital c then Fin.ofNat 0x110000 (c.val + 0x20) else c

/-- The scheme that a text begins with, as it is written. -/
def schemeName (url : Text) : Text :=
  if colon ∈ url ∧ (url.takeWhile (· ≠ colon)).head?.any isLetter ∧ (url.takeWhile (· ≠ colon)).all isSchemeChar then
    url.takeWhile (· ≠ colon)
  else []

def splitScheme (url : Text) : Text × Text :=
  if schemeName url = [] then ([], url) else ((schemeName url).map lowerChar, (url.dropWhile (· ≠ colon)).drop 1)

def isDelimiter (c : CodePoint) : Bool := c = slash || c = question || c = hash

/-- A text begins with two slashes. -/
def doubled (url : Text) : Bool := url.take 2 = [slash, slash]

def splitNetloc (url : Text) : Text × Text :=
  if doubled url then ((url.drop 2).takeWhile fun c => !isDelimiter c, (url.drop 2).dropWhile fun c => !isDelimiter c) else ([], url)

/-- `split(mark, 1)`. -/
def splitAt (mark : CodePoint) (text : Text) : Text × Text := (text.takeWhile (· ≠ mark), (text.dropWhile (· ≠ mark)).drop 1)

section Hosts
variable (hosts : Hosts)

def checkBracketed (netloc : Text) : Bool :=
  let place := (netloc.reverse.takeWhile (· ≠ 0x40)).reverse
  if place.contains 0x5b then
    let bracketed := splitAt 0x5d (splitAt 0x5b place).2
    (splitAt 0x5b place).1 = [] && (bracketed.2 = [] || bracketed.2.head? = some colon) && hosts.isAddress bracketed.1
  else hosts.isAddress (splitAt colon place).1

def checkNetloc (netloc : Text) : Bool :=
  netloc.all (·.val < 0x80) ||
    let n := netloc.filter fun c => ¬ c ∈ [0x40, colon, hash, question]
    hosts.nfkc n = n || (hosts.nfkc n).all fun c => ¬ c ∈ [slash, question, hash, 0x40, colon]

def acceptsNetloc (netloc : Text) : Bool :=
  (netloc.contains 0x5b == netloc.contains 0x5d) && (!netloc.contains 0x5b || checkBracketed hosts netloc) && checkNetloc hosts netloc

/-- `urlsplit`, or `ValueError`. -/
def urlsplit (url : Text) : Option SplitResult :=
  let (scheme, url) := splitScheme (clean url)
  let (netloc, url) := splitNetloc url
  let (url, fragment) := splitAt hash url
  let (url, query) := splitAt question url
  if acceptsNetloc hosts netloc then some ⟨scheme, netloc, url, query, fragment⟩ else none

end Hosts

def usesNetloc : List Text := [
  "", "ftp", "http", "gopher", "nntp", "telnet", "imap", "wais", "file", "mms", "https", "shttp", "snews", "prospero",
  "rtsp", "rtsps", "rtspu", "rsync", "svn", "svn+ssh", "sftp", "nfs", "git", "git+ssh", "ws", "wss", "itms-services"].map lit

/-- Two slashes are written in front of a path though there is no host. -/
def AddsSlashes (scheme path : Text) : Prop := scheme ≠ [] ∧ scheme ∈ usesNetloc ∧ doubled path = false

instance (scheme path : Text) : Decidable (AddsSlashes scheme path) := inferInstanceAs (Decidable (_ ∧ _ ∧ _))

def joinPath (scheme netloc path : Text) : Text :=
  if netloc ≠ [] ∨ AddsSlashes scheme path then
    slash :: slash :: (netloc ++ if path ≠ [] ∧ path.head? ≠ some slash then slash :: path else path)
  else path

def joinFront (scheme netloc path : Text) : Text :=
  if scheme ≠ [] then scheme ++ colon :: joinPath scheme netloc path else joinPath scheme netloc path

def urlunsplit (parts : SplitResult) : Text :=
  joinFront parts.scheme parts.netloc parts.path ++ (if parts.query ≠ [] then question :: parts.query else []) ++
    if parts.fragment ≠ [] then hash :: parts.fragment else []

section Shapes

/-- A text with what stands behind its question mark, and behind its hash. -/
def compose (front : Text) (query fragment : Option Text) : Text :=
  front ++ (query.elim [] (question :: ·) ++ fragment.elim [] (hash :: ·))

def rawFront (url : Text) : Text := url.takeWhile fun c => c ≠ question && c ≠ hash

def rawQuery (url : Text) : Text := ((url.takeWhile (· ≠ hash)).dropWhile (· ≠ question)).drop 1

/-- The hash with what stands behind it. -/
def rawTail (url : Text) : Text := url.dropWhile (· ≠ hash)

/-- Neither a question mark nor a hash. -/
def IsFront (front : Text) : Prop := ∀ c ∈ front, c ≠ question ∧ c ≠ hash

/-- No hash. -/
def IsQuery (query : Option Text) : Prop := ∀ text, query = some text → hash ∉ text

variable {front : Text} {query fragment : Option Text}

/-- What begins with one of these marks, or is empty, ends a front. -/
def rest (query fragment : Option Text) : Text := query.elim [] (question :: ·) ++ fragment.elim [] (hash :: ·)

theorem rest_head {c : CodePoint} (head : (rest query fragment).head? = some c) : c = question ∨ c = hash := by
  cases query with
  | some text => exact .inl (Option.some.inj head).symm
  | none =>
    cases fragment with
    | some text => exact .inr (Option.some.inj head).symm
    | none => cases head

theorem takeWhile_stop {accepts : CodePoint → Bool} {first last : Text} (all : ∀ c ∈ first, accepts c = true)
    (stops : ∀ c, last.head? = some c → accepts c = false) : (first ++ last).takeWhile accepts = first := by
  rw [List.takeWhile_append_of_pos all]
  cases last with
  | nil => exact List.append_nil first
  | cons c more => rw [List.takeWhile_cons_of_neg (by simp [stops c rfl]), List.append_nil]

theorem dropWhile_stop {accepts : CodePoint → Bool} {first last : Text} (all : ∀ c ∈ first, accepts c = true)
    (stops : ∀ c, last.head? = some c → accepts c = false) : (first ++ last).dropWhile accepts = last := by
  rw [List.dropWhile_append_of_pos all]
  cases last with
  | nil => rfl
  | cons c more => rw [List.dropWhile_cons_of_neg (by simp [stops c rfl])]

theorem compose_front (isFront : IsFront front) : rawFront (compose front query fragment) = front := by
  apply takeWhile_stop
  · intro c member
    simpa using isFront c member
  · intro c head
    rcases rest_head head with rfl | rfl
    · rfl
    · rfl

theorem before_hash (isFront : IsFront front) (isQuery : IsQuery query) :
    ∀ c ∈ front ++ query.elim [] (question :: ·), decide (c ≠ hash) = true := by
  intro c member
  apply decide_eq_true
  rcases List.mem_append.mp member with inFront | inQuery
  · exact (isFront c inFront).2
  · cases query with
    | none => cases inQuery
    | some text =>
      rcases List.mem_cons.mp inQuery with rfl | later
      · decide
      · rintro rfl
        exact isQuery text rfl later

theorem hash_head {c : CodePoint} (head : (fragment.elim [] (hash :: ·)).head? = some c) : decide (c ≠ hash) = false := by
  cases fragment with
  | none => cases head
  | some text => exact decide_eq_false fun other => other (Option.some.inj head).symm

theorem take_hash (isFront : IsFront front) (isQuery : IsQuery query) :
    (compose front query fragment).takeWhile (· ≠ hash) = compose front query none := by
  rw [compose, ← List.append_assoc, takeWhile_stop (before_hash isFront isQuery) fun c => hash_head, compose, Option.elim_none, List.append_nil]

theorem compose_tail (isFront : IsFront front) (isQuery : IsQuery query) :
    rawTail (compose front query fragment) = fragment.elim [] (hash :: ·) := by
  rw [rawTail, compose, ← List.append_assoc]
  exact dropWhile_stop (before_hash isFront isQuery) fun c => hash_head

theorem question_head {c : CodePoint} (head : (query.elim [] (question :: ·)).head? = some c) : decide (c ≠ question) = false := by
  cases query with
  | none => cases head
  | some text => exact decide_eq_false fun other => other (Option.some.inj head).symm

theorem split_question (isFront : IsFront front) : splitAt question (compose front query none) = (front, query.getD []) := by
  have all : ∀ c ∈ front, decide (c ≠ question) = true := fun c member => decide_eq_true (isFront c member).1
  rw [splitAt, compose, Option.elim_none, List.append_nil, takeWhile_stop all fun c => question_head, dropWhile_stop all fun c => question_head]
  cases query with
  | none => rfl
  | some text => rfl

theorem compose_query (isFront : IsFront front) (isQuery : IsQuery query) : rawQuery (compose front query fragment) = query.getD [] := by
  rw [rawQuery, take_hash isFront isQuery]
  exact congrArg Prod.snd (split_question isFront)

theorem split_hash (isFront : IsFront front) (isQuery : IsQuery query) :
    splitAt hash (compose front query fragment) = (compose front query none, fragment.getD []) := by
  have tail : rawTail (compose front query fragment) = _ := compose_tail isFront isQuery
  rw [rawTail] at tail
  rw [splitAt, take_hash isFront isQuery, tail]
  cases fragment with
  | none => rfl
  | some text => rfl

/-- What stands before the first of a mark, and what stands behind it. -/
theorem exists_split (mark : CodePoint) (text : Text) :
    ∃ before, ∃ behind : Option Text, mark ∉ before ∧ (∀ c ∈ before, c ∈ text) ∧ text = before ++ behind.elim [] (mark :: ·) := by
  have whole : text.takeWhile (· ≠ mark) ++ text.dropWhile (· ≠ mark) = text := List.takeWhile_append_dropWhile
  have free : mark ∉ text.takeWhile (· ≠ mark) := by
    intro member
    have other := List.mem_takeWhile_imp member
    simp at other
  have within : ∀ c ∈ text.takeWhile (· ≠ mark), c ∈ text := fun c member => (List.takeWhile_prefix _).subset member
  cases back : text.dropWhile (· ≠ mark) with
  | nil =>
    refine ⟨_, none, free, within, ?_⟩
    rw [back] at whole
    exact whole.symm
  | cons c more =>
    have stops := List.head?_dropWhile_not (fun c => decide (c ≠ mark)) text
    rw [back] at stops
    have same : c = mark := by simpa using stops
    subst same
    refine ⟨_, some more, free, within, ?_⟩
    rw [back] at whole
    exact whole.symm

theorem exists_compose (url : Text) : ∃ front query fragment, IsFront front ∧ IsQuery query ∧ url = compose front query fragment := by
  obtain ⟨before, fragment, noHash, -, rfl⟩ := exists_split hash url
  obtain ⟨front, query, noQuestion, within, rfl⟩ := exists_split question before
  refine ⟨front, query, fragment, fun c member => ⟨?_, ?_⟩, fun text same member => ?_, ?_⟩
  · rintro rfl
    exact noQuestion member
  · rintro rfl
    exact noHash (within _ member)
  · subst same
    exact noHash (List.mem_append_right _ (List.mem_cons_of_mem _ member))
  · rw [compose, List.append_assoc]

end Shapes

section Cleaning
variable {front : Text} {query fragment : Option Text}

theorem break_blank {c : CodePoint} (broken : isBreak c = true) : isBlank c = true := by
  simp only [isBreak, isBlank, Bool.or_eq_true, decide_eq_true_eq] at broken ⊢
  omega

theorem scrub_append (first second : Text) : scrub (first ++ second) = scrub first ++ scrub second := List.filter_append ..

theorem scrub_mem {c : CodePoint} {text : Text} : c ∈ scrub text ↔ c ∈ text ∧ isBreak c = false := by
  rw [scrub, List.mem_filter, Bool.not_eq_true']

theorem scrub_same {text : Text} : scrub text = text ↔ ∀ c ∈ text, isBreak c = false := by
  simp only [scrub, List.filter_eq_self, Bool.not_eq_true']

theorem scrub_mark {mark : CodePoint} (plain : isBreak mark = false) (part : Option Text) :
    scrub (part.elim [] (mark :: ·)) = (part.map scrub).elim [] (mark :: ·) := by
  cases part with
  | none => rfl
  | some text => exact List.filter_cons_of_pos (by rw [plain]; rfl)

theorem scrub_compose (front : Text) (query fragment : Option Text) :
    scrub (compose front query fragment) = compose (scrub front) (query.map scrub) (fragment.map scrub) := by
  rw [compose, scrub_append, scrub_append, scrub_mark (by decide), scrub_mark (by decide), compose]

theorem strip_compose (front : Text) (query fragment : Option Text) :
    (compose front query fragment).dropWhile isBlank = compose (front.dropWhile isBlank) query fragment := by
  induction front with
  | nil =>
    have head : ∀ c, (rest query fragment).head? = some c → isBlank c = false := by
      intro c head
      rcases rest_head head with rfl | rfl
      · rfl
      · rfl
    exact dropWhile_stop (fun c member => absurd member List.not_mem_nil) head
  | cons c others ih =>
    rw [compose, List.cons_append, List.dropWhile_cons, List.dropWhile_cons]
    split
    · exact ih
    · rfl

theorem clean_compose (front : Text) (query fragment : Option Text) :
    clean (compose front query fragment) = compose (clean front) (query.map scrub) (fragment.map scrub) := by
  rw [clean, strip_compose, scrub_compose, clean]

theorem clean_mem {c : CodePoint} {text : Text} (member : c ∈ clean text) : c ∈ text ∧ isBreak c = false := by
  obtain ⟨among, plain⟩ := scrub_mem.mp member
  exact ⟨(List.dropWhile_suffix isBlank).subset among, plain⟩

theorem IsFront.clean (isFront : IsFront front) : IsFront (clean front) := fun c member => isFront c (clean_mem member).1

theorem IsQuery.scrub (isQuery : IsQuery query) : IsQuery (query.map scrub) := by
  intro text same member
  obtain ⟨raw, rfl, rfl⟩ := Option.map_eq_some_iff.mp same
  exact isQuery raw rfl (scrub_mem.mp member).1

theorem strip_opens {text : Text} {c : CodePoint} (head : (text.dropWhile isBlank).head? = some c) : isBlank c = false := by
  have stops := List.head?_dropWhile_not isBlank text
  rw [head] at stops
  exact stops

theorem clean_opens {text : Text} {c : CodePoint} (head : (clean text).head? = some c) : isBlank c = false := by
  rw [clean] at head
  cases bare : text.dropWhile isBlank with
  | nil =>
    rw [bare] at head
    cases head
  | cons d more =>
    have first : (text.dropWhile isBlank).head? = some d := by
      rw [bare]
      rfl
    have opens : isBlank d = false := strip_opens first
    have kept : (!isBreak d) = true := by
      rw [Bool.not_eq_true', Bool.eq_false_iff]
      intro broken
      rw [break_blank broken] at opens
      cases opens
    have whole : scrub (d :: more) = d :: scrub more := List.filter_cons_of_pos kept
    rw [bare, whole] at head
    exact Option.some.inj head ▸ opens

/-- A text that is clean: it does not begin with a blank, and is not broken. -/
theorem clean_same {text : Text} : clean text = text ↔ (∀ c, text.head? = some c → isBlank c = false) ∧ ∀ c ∈ text, isBreak c = false := by
  constructor
  · intro same
    constructor
    · intro c head
      rw [← same] at head
      exact clean_opens head
    · intro c member
      rw [← same] at member
      exact (clean_mem member).2
  · rintro ⟨opens, unbroken⟩
    have stripped : text.dropWhile isBlank = text := by
      cases text with
      | nil => rfl
      | cons c more => exact List.dropWhile_cons_of_neg (by simp [opens c rfl])
    rw [clean, stripped]
    exact scrub_same.mpr unbroken

end Cleaning

section Splitting
variable {front : Text} {query fragment : Option Text}

theorem scheme_char {c : CodePoint} (form : isSchemeChar c = true) : c ≠ question ∧ c ≠ hash ∧ c ≠ slash ∧ c ≠ colon ∧ isBlank c = false := by
  have value (d : CodePoint) (same : c = d) : c.val = d.val := congrArg Fin.val same
  simp only [isSchemeChar, isLetter, isCapital, Bool.or_eq_true, Bool.and_eq_true, decide_eq_true_eq] at form
  refine ⟨?_, ?_, ?_, ?_, ?_⟩
  · intro same
    have at_ : c.val = 0x3f := value _ same
    omega
  · intro same
    have at_ : c.val = 0x23 := value _ same
    omega
  · intro same
    have at_ : c.val = 0x2f := value _ same
    omega
  · intro same
    have at_ : c.val = 0x3a := value _ same
    omega
  · exact decide_eq_false (by omega)

theorem take_colon {before : Text} (free : colon ∉ before) (more : Text) :
    (before ++ colon :: more).takeWhile (· ≠ colon) = before ∧ (before ++ colon :: more).dropWhile (· ≠ colon) = colon :: more := by
  have all : ∀ c ∈ before, decide (c ≠ colon) = true := fun c member => decide_eq_true fun same => free (same ▸ member)
  have stops : ∀ c, (colon :: more).head? = some c → decide (c ≠ colon) = false :=
    fun c head => decide_eq_false fun other => other (Option.some.inj head).symm
  exact ⟨takeWhile_stop all stops, dropWhile_stop all stops⟩

theorem scheme_spec {text : Text} (some_ : schemeName text ≠ []) :
    (∃ more, text = schemeName text ++ colon :: more ∧ splitScheme text = ((schemeName text).map lowerChar, more)) ∧
      colon ∉ schemeName text ∧ (∀ c ∈ schemeName text, isSchemeChar c = true) := by
  obtain ⟨before, behind, free, -, whole⟩ := exists_split colon text
  have named : schemeName text = text.takeWhile (· ≠ colon) := by
    unfold schemeName at some_ ⊢
    split
    · rfl
    next none_ => exact absurd (if_neg none_) some_
  have chars : ∀ c ∈ schemeName text, isSchemeChar c = true := by
    rw [named]
    unfold schemeName at some_
    split at some_
    next all => exact List.all_eq_true.mp all.2.2
    · exact absurd rfl some_
  have colon_in : colon ∈ text := by
    unfold schemeName at some_
    split at some_
    next all => exact all.1
    · exact absurd rfl some_
  cases behind with
  | none =>
    rw [whole] at colon_in
    rcases List.mem_append.mp colon_in with member | member
    · exact absurd member free
    · cases member
  | some more =>
    obtain ⟨front, back⟩ := take_colon free more
    have same : schemeName text = before := by
      rw [named, whole]
      exact front
    refine ⟨⟨more, ?_, ?_⟩, same ▸ free, chars⟩
    · rw [same]
      exact whole
    · rw [splitScheme, if_neg some_, whole]
      exact Prod.ext rfl (congrArg (List.drop 1) back)

theorem scheme_compose (isFront : IsFront front) : schemeName (compose front query fragment) = schemeName front := by
  obtain ⟨before, behind, free, -, rfl⟩ := exists_split colon front
  cases behind with
  | some more =>
    have whole : compose (before ++ (some more).elim [] (colon :: ·)) query fragment = before ++ colon :: (more ++ rest query fragment) := by
      simp [compose, rest]
    have both := take_colon free (more ++ rest query fragment)
    unfold schemeName
    rw [whole, both.1, Option.elim_some, (take_colon free more).1]
    simp
  | none =>
    have unnamed : ¬ colon ∈ before ++ (none : Option Text).elim [] (colon :: ·) := by simpa using free
    have none_ : schemeName (before ++ (none : Option Text).elim [] (colon :: ·)) = [] := if_neg fun all => unnamed all.1
    rw [none_]
    by_contra some_
    obtain ⟨⟨more, whole, -⟩, -, chars⟩ := scheme_spec some_
    have marked : ∃ c ∈ schemeName (compose (before ++ (none : Option Text).elim [] (colon :: ·)) query fragment), c = question ∨ c = hash := by
      have apart : before ++ rest query fragment = schemeName (compose (before ++ (none : Option Text).elim [] (colon :: ·)) query fragment) ++ colon :: more := by
        rw [← whole]
        simp [compose, rest]
      rcases List.append_eq_append_iff.mp apart with ⟨inner, named, starts⟩ | ⟨inner, same, starts⟩
      · cases inner with
        | nil =>
          have head : (rest query fragment).head? = some colon := congrArg List.head? starts
          exact absurd (rest_head head) (by decide)
        | cons c others =>
          have head : (rest query fragment).head? = some c := congrArg List.head? starts
          exact ⟨c, named ▸ List.mem_append_right _ List.mem_cons_self, rest_head head⟩
      · cases inner with
        | nil =>
          have head : (rest query fragment).head? = some colon := congrArg List.head? starts.symm
          exact absurd (rest_head head) (by decide)
        | cons c others =>
          have first : c = colon := (List.cons.inj starts).1.symm
          exact absurd (same ▸ List.mem_append_right _ (first ▸ List.mem_cons_self)) free
    obtain ⟨c, member, mark⟩ := marked
    obtain ⟨noQuestion, noHash, -⟩ := scheme_char (chars c member)
    exact mark.elim noQuestion noHash

theorem split_scheme_compose (isFront : IsFront front) :
    splitScheme (compose front query fragment) = ((splitScheme front).1, compose (splitScheme front).2 query fragment) := by
  have same : schemeName (compose front query fragment) = schemeName front := scheme_compose isFront
  by_cases none_ : schemeName front = []
  · rw [splitScheme, splitScheme, if_pos none_, if_pos (same.trans none_)]
  · obtain ⟨⟨more, whole, split_⟩, -, -⟩ := scheme_spec none_
    have named : schemeName (compose front query fragment) ≠ [] := by
      rw [same]
      exact none_
    obtain ⟨⟨others, long, split_long⟩, -, -⟩ := scheme_spec named
    rw [split_long, split_, same]
    have behind : others = compose more query fragment := by
      rw [same] at long
      nth_rewrite 1 [whole] at long
      simp only [compose, List.append_assoc, List.cons_append] at long ⊢
      exact (List.cons.inj (List.append_cancel_left long)).2.symm
    rw [behind]

theorem IsFront.rest (isFront : IsFront front) : IsFront (splitScheme front).2 := by
  by_cases none_ : schemeName front = []
  · rw [splitScheme, if_pos none_]
    exact isFront
  · obtain ⟨⟨more, whole, split_⟩, -, -⟩ := scheme_spec none_
    intro c member
    apply isFront c
    rw [whole]
    rw [split_] at member
    exact List.mem_append_right _ (List.mem_cons_of_mem _ member)

theorem doubled_iff {text : Text} : doubled text = true ↔ ∃ more, text = slash :: slash :: more := by
  rw [doubled, decide_eq_true_eq]
  constructor
  · intro same
    rcases text with _ | ⟨a, _ | ⟨b, more⟩⟩
    · cases same
    · cases same
    · obtain ⟨rfl, inner⟩ := List.cons.inj same
      obtain ⟨rfl, -⟩ := List.cons.inj inner
      exact ⟨more, rfl⟩
  · rintro ⟨more, rfl⟩
    rfl

theorem rest_delimits {c : CodePoint} (head : (rest query fragment).head? = some c) : (!isDelimiter c) = false := by
  rcases rest_head head with rfl | rfl
  · rfl
  · rfl

theorem takeWhile_rest {accepts : CodePoint → Bool} {last : Text} (stops : ∀ c, last.head? = some c → accepts c = false) (text : Text) :
    (text ++ last).takeWhile accepts = text.takeWhile accepts ∧ (text ++ last).dropWhile accepts = text.dropWhile accepts ++ last := by
  induction text with
  | nil => exact ⟨takeWhile_stop (fun c member => absurd member List.not_mem_nil) stops, dropWhile_stop (fun c member => absurd member List.not_mem_nil) stops⟩
  | cons c more ih =>
    rw [List.cons_append, List.takeWhile_cons, List.takeWhile_cons, List.dropWhile_cons, List.dropWhile_cons]
    split
    · exact ⟨congrArg (c :: ·) ih.1, ih.2⟩
    · exact ⟨rfl, rfl⟩

theorem doubled_compose (front : Text) : doubled (compose front query fragment) = doubled front := by
  rw [Bool.eq_iff_iff, doubled_iff, doubled_iff]
  constructor
  · rintro ⟨more, whole⟩
    have marked {c : CodePoint} {others : Text} (same : rest query fragment = c :: others) : c = question ∨ c = hash :=
      rest_head (c := c) (by rw [same]; rfl)
    rcases front with _ | ⟨a, _ | ⟨b, others⟩⟩
    · exact absurd (marked whole) (by decide)
    · obtain ⟨-, inner⟩ := List.cons.inj whole
      exact absurd (marked inner) (by decide)
    · obtain ⟨rfl, inner⟩ := List.cons.inj whole
      obtain ⟨rfl, -⟩ := List.cons.inj inner
      exact ⟨others, rfl⟩
  · rintro ⟨more, rfl⟩
    exact ⟨more ++ rest query fragment, rfl⟩

theorem split_netloc_compose (front : Text) :
    splitNetloc (compose front query fragment) = ((splitNetloc front).1, compose (splitNetloc front).2 query fragment) := by
  rw [splitNetloc, splitNetloc, doubled_compose]
  split
  next starts =>
    obtain ⟨more, rfl⟩ := doubled_iff.mp starts
    have stops : ∀ c, (rest query fragment).head? = some c → (!isDelimiter c) = false := fun c => rest_delimits
    obtain ⟨host, behind⟩ := takeWhile_rest stops more
    exact Prod.ext host behind
  · rfl

theorem IsFront.path (isFront : IsFront front) : IsFront (splitNetloc front).2 := by
  rw [splitNetloc]
  split
  · intro c member
    exact isFront c (List.mem_of_mem_drop ((List.dropWhile_suffix _).subset member))
  · exact isFront

/-- The scheme, the host and the path of a front. -/
def frontScheme (front : Text) : Text := (splitScheme front).1

def frontNetloc (front : Text) : Text := (splitNetloc (splitScheme front).2).1

def frontPath (front : Text) : Text := (splitNetloc (splitScheme front).2).2

theorem urlsplit_compose (hosts : Hosts) (isFront : IsFront front) (isQuery : IsQuery query) :
    urlsplit hosts (compose front query fragment) =
      if acceptsNetloc hosts (frontNetloc (clean front)) then
        some ⟨frontScheme (clean front), frontNetloc (clean front), frontPath (clean front), scrub (query.getD []), scrub (fragment.getD [])⟩
      else none := by
  have empty (part : Option Text) : (part.map scrub).getD [] = scrub (part.getD []) := by
    cases part with
    | none => rfl
    | some text => rfl
  unfold urlsplit
  rw [clean_compose, split_scheme_compose isFront.clean]
  dsimp only
  rw [split_netloc_compose]
  dsimp only
  rw [split_hash isFront.clean.rest.path isQuery.scrub]
  dsimp only
  rw [split_question isFront.clean.rest.path]
  dsimp only
  rw [empty, empty]
  rfl

end Splitting

section Joining
variable {front : Text}

theorem path_opens (isFront : IsFront front) (starts : doubled front = true) :
    (splitNetloc front).2 = [] ∨ (splitNetloc front).2.head? = some slash := by
  rw [splitNetloc, if_pos starts]
  cases back : (front.drop 2).dropWhile fun c => !isDelimiter c with
  | nil => exact .inl rfl
  | cons c more =>
    right
    have stops := List.head?_dropWhile_not (fun c => !isDelimiter c) (front.drop 2)
    rw [back] at stops
    have suffix_ : c ∈ front := List.mem_of_mem_drop ((List.dropWhile_suffix _).subset (back ▸ List.mem_cons_self))
    obtain ⟨noQuestion, noHash⟩ := isFront c suffix_
    have delimits : isDelimiter c = true := by simpa using stops
    simp only [isDelimiter, Bool.or_eq_true, decide_eq_true_eq] at delimits
    rcases delimits with (rfl | same) | same
    · rfl
    · exact absurd same noQuestion
    · exact absurd same noHash

/-- Whether the slashes of a text, behind its scheme, are written where they stood. -/
def SlashesStand (scheme text : Text) : Prop :=
  (splitNetloc text).1 = [] → (doubled text = true ↔ AddsSlashes scheme (splitNetloc text).2)

theorem join_path_iff (isFront : IsFront front) (scheme : Text) :
    joinPath scheme (splitNetloc front).1 (splitNetloc front).2 = front ↔ SlashesStand scheme front := by
  by_cases starts : doubled front = true
  · have opens := path_opens isFront starts
    obtain ⟨more, rfl⟩ := doubled_iff.mp starts
    have whole : (splitNetloc (slash :: slash :: more)).1 ++ (splitNetloc (slash :: slash :: more)).2 = more := by
      rw [splitNetloc, if_pos starts]
      exact List.takeWhile_append_dropWhile
    have kept : ¬ ((splitNetloc (slash :: slash :: more)).2 ≠ [] ∧ (splitNetloc (slash :: slash :: more)).2.head? ≠ some slash) := by
      rintro ⟨some_, other⟩
      exact opens.elim some_ other
    rw [joinPath, if_neg kept, whole, SlashesStand, starts]
    constructor
    · intro same none_
      refine ⟨fun _ => ?_, fun _ => rfl⟩
      by_contra unadded
      have short : (splitNetloc (slash :: slash :: more)).2.length ≤ more.length := by
        have length := congrArg List.length whole
        rw [List.length_append] at length
        omega
      rw [if_neg (not_or.mpr ⟨fun some_ => some_ none_, unadded⟩)] at same
      have length := congrArg List.length same
      simp only [List.length_cons] at length
      omega
    · intro stands
      apply if_pos
      by_cases none_ : (splitNetloc (slash :: slash :: more)).1 = []
      · exact .inr ((stands none_).mp rfl)
      · exact .inl none_
  · have split_ : splitNetloc front = ([], front) := if_neg starts
    rw [SlashesStand, split_, joinPath]
    constructor
    · intro same _
      refine ⟨fun other => absurd other starts, fun adds => ?_⟩
      rw [if_pos (.inr adds)] at same
      have length := congrArg List.length same
      simp only [List.length_cons, List.length_append, List.length_nil] at length
      split at length
      · simp only [List.length_cons] at length
        omega
      · omega
    · intro stands
      apply if_neg
      rintro (some_ | adds)
      · exact some_ rfl
      · exact starts ((stands rfl).mpr adds)

theorem lower_capital {c : CodePoint} (same : lowerChar c = c) : isCapital c = false := by
  by_contra capital
  have capital : isCapital c = true := by simpa using capital
  rw [lowerChar, if_pos capital] at same
  simp only [isCapital, Bool.and_eq_true, decide_eq_true_eq] at capital
  have values := congrArg Fin.val same
  have value : (Fin.ofNat 0x110000 (c.val + 0x20)).val = c.val + 0x20 := Nat.mod_eq_of_lt (by omega)
  omega

theorem lower_same {text : Text} : text.map lowerChar = text ↔ ∀ c ∈ text, isCapital c = false := by
  constructor
  · intro same c member
    apply lower_capital
    exact List.map_inj_left.mp (same.trans (List.map_id text).symm) c member
  · intro small
    refine (List.map_congr_left fun c member => ?_).trans (List.map_id text)
    rw [lowerChar, small c member]
    rfl

/-- A front as `urlunsplit` writes it: its scheme has no capital, and its slashes stand where they are written. -/
structure IsJoined (front : Text) : Prop where
  lower : ∀ c ∈ schemeName front, isCapital c = false
  slashes : SlashesStand (frontScheme front) (splitScheme front).2

theorem join_front_iff (isFront : IsFront front) :
    joinFront (frontScheme front) (frontNetloc front) (frontPath front) = front ↔ IsJoined front := by
  have path := join_path_iff isFront.rest (frontScheme front)
  by_cases none_ : schemeName front = []
  · have split_ : splitScheme front = ([], front) := if_pos none_
    have scheme : frontScheme front = [] := congrArg Prod.fst split_
    have behind : (splitScheme front).2 = front := congrArg Prod.snd split_
    rw [joinFront, if_neg (not_not.mpr scheme)]
    have inner : joinPath (frontScheme front) (frontNetloc front) (frontPath front) = front ↔ SlashesStand (frontScheme front) (splitScheme front).2 := by
      nth_rewrite 4 [← behind]
      exact path
    rw [inner]
    refine ⟨fun stands => ⟨fun c member => ?_, stands⟩, IsJoined.slashes⟩
    rw [none_] at member
    cases member
  · obtain ⟨⟨more, whole, split_⟩, -, -⟩ := scheme_spec none_
    have scheme : frontScheme front = (schemeName front).map lowerChar := congrArg Prod.fst split_
    have behind : (splitScheme front).2 = more := congrArg Prod.snd split_
    have named : frontScheme front ≠ [] := by
      rw [scheme]
      exact fun empty => none_ (List.map_eq_nil_iff.mp empty)
    rw [behind] at path
    have inner : joinPath (frontScheme front) (frontNetloc front) (frontPath front) = more ↔ SlashesStand (frontScheme front) more := by
      rw [frontNetloc, frontPath, behind]
      exact path
    rw [joinFront, if_pos named]
    constructor
    · intro same
      obtain ⟨schemes, tails⟩ := List.append_inj (same.trans whole) (by rw [scheme, List.length_map])
      refine ⟨lower_same.mp (scheme.symm.trans schemes), ?_⟩
      rw [behind]
      exact inner.mp (List.cons.inj tails).2
    · intro joined
      have slashes := joined.slashes
      rw [behind] at slashes
      rw [inner.mpr slashes, scheme, lower_same.mpr joined.lower]
      exact whole.symm

/-- The characters of a front that is written are those that were read, but for marks and capitals. -/
theorem joined_char {c : CodePoint} (member : c ∈ joinFront (frontScheme front) (frontNetloc front) (frontPath front)) :
    c ∈ front ∨ c = slash ∨ c = colon ∨ ∃ d, isSchemeChar d = true ∧ c = lowerChar d := by
  have rest_mem {d : CodePoint} (inner : d ∈ (splitScheme front).2) : d ∈ front := by
    by_cases none_ : schemeName front = []
    · rw [splitScheme, if_pos none_] at inner
      exact inner
    · rw [splitScheme, if_neg none_] at inner
      exact (List.dropWhile_suffix _).subset (List.mem_of_mem_drop inner)
  have host_mem {d : CodePoint} (inner : d ∈ frontNetloc front) : d ∈ front := by
    apply rest_mem
    rw [frontNetloc, splitNetloc] at inner
    split at inner
    · exact List.mem_of_mem_drop ((List.takeWhile_prefix _).subset inner)
    · cases inner
  have path_mem {d : CodePoint} (inner : d ∈ frontPath front) : d ∈ front := by
    apply rest_mem
    rw [frontPath, splitNetloc] at inner
    split at inner
    · exact List.mem_of_mem_drop ((List.dropWhile_suffix _).subset inner)
    · exact inner
  have joined {d : CodePoint} (inner : d ∈ joinPath (frontScheme front) (frontNetloc front) (frontPath front)) : d ∈ front ∨ d = slash := by
    rw [joinPath] at inner
    split at inner
    · rcases List.mem_cons.mp inner with same | inner
      · exact .inr same
      rcases List.mem_cons.mp inner with same | inner
      · exact .inr same
      rcases List.mem_append.mp inner with host | path
      · exact .inl (host_mem host)
      · split at path
        · exact (List.mem_cons.mp path).symm.imp_left path_mem
        · exact .inl (path_mem path)
    · exact .inl (path_mem inner)
  rw [joinFront] at member
  split at member
  next named =>
    rcases List.mem_append.mp member with inScheme | behind
    · right; right; right
      rw [frontScheme, splitScheme] at inScheme
      split at inScheme
      · cases inScheme
      next some_ =>
        obtain ⟨d, listed, rfl⟩ := List.mem_map.mp inScheme
        exact ⟨d, (scheme_spec some_).2.2 d listed, rfl⟩
    · rcases List.mem_cons.mp behind with same | inner
      · exact .inr (.inr (.inl same))
      · exact (joined inner).imp_right .inl
  · exact (joined member).imp_right .inl

theorem lower_char {d : CodePoint} (form : isSchemeChar d = true) :
    isBlank (lowerChar d) = false ∧ lowerChar d ≠ question ∧ lowerChar d ≠ hash := by
  rw [lowerChar]
  split
  next capital =>
    simp only [isCapital, Bool.and_eq_true, decide_eq_true_eq] at capital
    have value : (Fin.ofNat 0x110000 (d.val + 0x20)).val = d.val + 0x20 := Nat.mod_eq_of_lt (by omega)
    refine ⟨?_, fun same => ?_, fun same => ?_⟩
    · rw [isBlank, value]
      exact decide_eq_false (by omega)
    · have at_ : (Fin.ofNat 0x110000 (d.val + 0x20)).val = 0x3f := congrArg Fin.val same
      omega
    · have at_ : (Fin.ofNat 0x110000 (d.val + 0x20)).val = 0x23 := congrArg Fin.val same
      omega
  · obtain ⟨noQuestion, noHash, -, -, plain⟩ := scheme_char form
    exact ⟨plain, noQuestion, noHash⟩

theorem joined_front (isFront : IsFront front) : IsFront (joinFront (frontScheme front) (frontNetloc front) (frontPath front)) := by
  intro c member
  rcases joined_char member with inFront | rfl | rfl | ⟨d, form, rfl⟩
  · exact isFront c inFront
  · decide
  · decide
  · exact (lower_char form).2

theorem joined_clean (isFront : IsFront front) (cleaned : clean front = front) :
    clean (joinFront (frontScheme front) (frontNetloc front) (frontPath front)) = joinFront (frontScheme front) (frontNetloc front) (frontPath front) := by
  obtain ⟨opens, unbroken⟩ := clean_same.mp cleaned
  apply clean_same.mpr
  constructor
  · intro c head
    rw [joinFront] at head
    split at head
    next named =>
      have member : c ∈ frontScheme front := by
        obtain ⟨d, more, shape⟩ := List.exists_cons_of_ne_nil named
        rw [shape] at head ⊢
        exact Option.some.inj head ▸ List.mem_cons_self
      rw [frontScheme, splitScheme] at member
      split at member
      · cases member
      next some_ =>
        obtain ⟨d, listed, rfl⟩ := List.mem_map.mp member
        exact (lower_char ((scheme_spec some_).2.2 d listed)).1
    next unnamed =>
      have none_ : schemeName front = [] := by
        by_contra some_
        apply unnamed
        rw [frontScheme, splitScheme, if_neg some_]
        exact fun empty => some_ (List.map_eq_nil_iff.mp empty)
      have split_ : splitScheme front = ([], front) := if_pos none_
      rw [joinPath] at head
      split at head
      · exact Option.some.inj head ▸ rfl
      · rw [frontPath, split_] at head
        by_cases starts : doubled front = true
        · rcases path_opens isFront starts with empty | slash_
          · rw [empty] at head
            cases head
          · rw [slash_] at head
            exact Option.some.inj head ▸ rfl
        · rw [splitNetloc, if_neg starts] at head
          exact opens c head
  · intro c member
    rcases joined_char member with inFront | rfl | rfl | ⟨d, form, rfl⟩
    · exact unbroken c inFront
    · rfl
    · rfl
    · by_contra broken
      have blank := break_blank (by simpa using broken)
      rw [(lower_char form).1] at blank
      cases blank

/-- The front of a link comes out as it went in exactly if it is clean and joined. -/
theorem front_kept_iff (isFront : IsFront front) :
    joinFront (frontScheme (clean front)) (frontNetloc (clean front)) (frontPath (clean front)) = front ↔ clean front = front ∧ IsJoined front := by
  constructor
  · intro same
    have idem : clean (clean front) = clean front := by
      apply clean_same.mpr
      exact ⟨fun c => clean_opens, fun c member => (clean_mem member).2⟩
    have cleaned := joined_clean isFront.clean idem
    rw [same] at cleaned
    rw [cleaned] at same
    exact ⟨cleaned, (join_front_iff isFront).mp same⟩
  · rintro ⟨cleaned, joined⟩
    rw [cleaned]
    exact (join_front_iff isFront).mpr joined

/-- A part of a link that is not written when it is empty. -/
def part (text : Text) : Option Text := if text ≠ [] then some text else none

theorem unsplit_compose (parts : SplitResult) :
    urlunsplit parts = compose (joinFront parts.scheme parts.netloc parts.path) (part parts.query) (part parts.fragment) := by
  have written (mark : CodePoint) (text : Text) : (if text ≠ [] then mark :: text else []) = (part text).elim [] (mark :: ·) := by
    rw [part]
    split
    · rfl
    · rfl
  rw [urlunsplit, written, written, List.append_assoc, compose]

/-- A fragment comes out as it went in exactly if it is not broken and its hash does not stand alone. -/
theorem tail_kept_iff (fragment : Option Text) :
    (part (scrub (fragment.getD []))).elim [] (hash :: ·) = fragment.elim [] (hash :: ·) ↔
      (∀ c ∈ fragment.elim [] (hash :: ·), isBreak c = false) ∧ fragment.elim [] (hash :: ·) ≠ [hash] := by
  cases fragment with
  | none =>
    refine ⟨fun _ => ⟨fun c member => absurd member List.not_mem_nil, List.cons_ne_nil hash [] ∘ Eq.symm⟩, fun _ => rfl⟩
  | some text =>
    simp only [Option.getD_some, Option.elim_some, List.forall_mem_cons]
    constructor
    · intro same
      rw [part] at same
      split at same
      next some_ =>
        have kept : scrub text = text := (List.cons.inj same).2
        refine ⟨⟨rfl, scrub_same.mp kept⟩, fun alone => some_ ?_⟩
        rw [kept]
        exact (List.cons.inj alone).2
      · cases same
    · rintro ⟨⟨-, unbroken⟩, alone⟩
      have kept := scrub_same.mpr unbroken
      have some_ : text ≠ [] := by
        rintro rfl
        exact alone rfl
      rw [kept, part, if_pos some_]
      rfl

end Joining

end Links
