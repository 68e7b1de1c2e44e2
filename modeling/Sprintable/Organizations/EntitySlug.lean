import Mathlib.Data.List.Chain
import Mathlib.Data.List.DropRight
import Sprintable.Basic
import Sprintable.Logic.Fresh
import Sprintable.Logic.JsonDump
import Sprintable.Logic.JsonText
import Sprintable.Logic.Searching

/-! The slugs of workspaces and projects. A slug is made of what a title has of ASCII, and the first of it
with a number behind that nobody has. Only a workspace stands at the root, next to the pages of the application. -/

namespace Sprintable.Slugs

open CodePoints Backtracking

/-- What the language knows of characters. -/
structure Unicode where
  nfc : Text → Text
  lower : Text → Text
  isSpace : CodePoint → Bool

def MAX_SLUG_LEN : Nat := 200

def hyphen : CodePoint := 0x2d

/-- `[a-z0-9]`. -/
def isSlugChar (c : CodePoint) : Bool := (0x61 ≤ c.val && c.val ≤ 0x7a) || (0x30 ≤ c.val && c.val ≤ 0x39)

def word : Pattern CodePoint (Accepted isSlugChar × List (Accepted isSlugChar)) := andThen (oneOf isSlugChar) (many (oneOf isSlugChar))

/-- `_SLUG_FORMAT_RE`. -/
def slugFormatRe := andThen (andThen word (many (andThen (mark hyphen) word))) (atEnd 0x0a)

def isValidSlugFormat (slug : Text) : Bool := slug ≠ [] && (first slugFormatRe slug).isSome

/-- `re.sub` of the runs of a class by one character. -/
def subRuns (accepts : CodePoint → Bool) (by_ : CodePoint) : Bool → Text → Text
  | _, [] => []
  | inside, c :: rest =>
    if accepts c then if inside then subRuns accepts by_ true rest else by_ :: subRuns accepts by_ true rest
    else c :: subRuns accepts by_ false rest

def rstrip (accepts : CodePoint → Bool) (text : Text) : Text := text.rdropWhile accepts

def strip (accepts : CodePoint → Bool) (text : Text) : Text := rstrip accepts (text.dropWhile accepts)

def isHyphen (c : CodePoint) : Bool := c = hyphen

/-- `text[:stop]`. A negative stop counts from the end. -/
def sliceTo (text : Text) (stop : Int) : Text := if 0 ≤ stop then text.take stop.toNat else text.take (text.length + stop).toNat

section Slugs
variable (unicode : Unicode)

/-- What is left of a text after its spaces are hyphens. -/
def asciiWords (s : Text) : Text :=
  let s := s.filter fun c => isSlugChar c || unicode.isSpace c || isHyphen c
  strip isHyphen (subRuns isHyphen hyphen false s)

def slugifyAscii (title : Text) : Text :=
  if title = [] then []
  else
    let s := unicode.lower (strip unicode.isSpace (unicode.nfc title))
    let s := asciiWords unicode (subRuns unicode.isSpace hyphen false s)
    if MAX_SLUG_LEN < s.length then rstrip isHyphen (s.take MAX_SLUG_LEN) else s

/-- The first eight digits of a random identifier. -/
def hex8 (random : Fin 8 → Fin 16) : Text := (List.ofFn random).map fun digit : Fin 16 => JsonDump.hexDigit digit

def slugifyAsciiOrFallback (title fallbackPrefix : Text) (random : Fin 8 → Fin 16) : Text :=
  if slugifyAscii unicode title = [] then fallbackPrefix ++ hyphen :: hex8 random else slugifyAscii unicode title

end Slugs

def RESERVED_WORKSPACE_SLUGS : List Text := [
  "api", "login", "logout", "onboarding", "settings", "organization", "o", "admin", "help", "static", "_next", "404",
  "activity", "artifacts", "board", "channel", "chats", "docs", "epics", "glance", "inbox", "loops", "meetings", "mockups",
  "org-briefing", "retro", "rewards", "sprints", "standup", "storage",
  "auth", "dashboard", "forgot-password", "internal-dogfood", "invite", "mfa", "privacy", "register", "reset-password", "share",
  "terms", "verify-email",
  ".well-known", "apple-app-site-association", "apple-icon.png", "favicon.ico", "icon.svg", "manifest.webmanifest",
  "campaigns", "chat", "connect-rules", "content", "desktop", "gates", "loop-queue", "more", "native", "refund-policy",
  "set-password", "today", "unsubscribe", "flow", "goals", "hypotheses", "work-list", "phone-landing", "phone-start"].map lit

structure Organization where
  id : Uuid
  slug : Text

structure Project where
  id : Uuid
  orgId : Uuid
  slug : Option Text
  deleted : Bool := false

def isWorkspaceSlugTaken (organizations : List Organization) (slug : Text) (excludeOrgId : Option Uuid) : Bool :=
  organizations.any fun org => org.slug == slug && excludeOrgId.all (org.id ≠ ·)

def isProjectSlugTaken (projects : List Project) (orgId : Uuid) (slug : Text) (excludeProjectId : Option Uuid) : Bool :=
  projects.any fun project => project.orgId == orgId && project.slug == some slug && !project.deleted && excludeProjectId.all (project.id ≠ ·)

/-- `-{n}`. -/
def suffix (n : Nat) : Text := hyphen :: (Nat.toDigits 10 n).map fun c => Fin.ofNat 0x110000 c.toNat

def numbered (base : Text) (n : Nat) : Text :=
  rstrip isHyphen (sliceTo base (MAX_SLUG_LEN - (suffix n).length)) ++ suffix n

def workspaceLoop (blocked : Text → Bool) (base : Text) : Nat → Text → Nat → Option Text
  | 0, _, _ => none
  | fuel + 1, candidate, n => if blocked candidate then workspaceLoop blocked base fuel (numbered base n) (n + 1) else some candidate

def resolveUniqueWorkspaceSlug (organizations : List Organization) (base : Text) (excludeOrgId : Option Uuid) (fuel : Nat) : Option Text :=
  workspaceLoop (fun slug => RESERVED_WORKSPACE_SLUGS.contains slug || isWorkspaceSlugTaken organizations slug excludeOrgId) base fuel base 2

def projectLoop (blocked : Text → Bool) (base : Text) : Nat → Nat → Option Text
  | 0, _ => none
  | fuel + 1, n => if blocked (numbered base n) then projectLoop blocked base fuel (n + 1) else some (numbered base n)

def resolveUniqueProjectSlug (projects : List Project) (orgId : Uuid) (base : Text) (excludeProjectId : Option Uuid) (fuel : Nat) :
    Option Text :=
  if isProjectSlugTaken projects orgId base excludeProjectId then
    projectLoop (fun slug => isProjectSlugTaken projects orgId slug excludeProjectId) base fuel 2
  else some base

section Shapes

/-- Words of small letters and digits of ASCII with one hyphen between two of them, or nothing. -/
structure SlugShape (text : Text) : Prop where
  chars : ∀ c ∈ text, isSlugChar c = true ∨ c = hyphen
  single : text.IsChain fun a b => ¬ (a = hyphen ∧ b = hyphen)
  opens : text.head? ≠ some hyphen
  closes : text.getLast? ≠ some hyphen

theorem hyphen_no_word : isSlugChar hyphen = false := by decide

theorem SlugShape.nil : SlugShape [] where
  chars _ member := absurd member List.not_mem_nil
  single := .nil
  opens := by decide
  closes := by decide

theorem SlugShape.of_word {text : Text} (all : ∀ c ∈ text, isSlugChar c = true) : SlugShape text := by
  have no_hyphen : hyphen ∉ text := by
    intro member
    have letter := all hyphen member
    rw [hyphen_no_word] at letter
    cases letter
  refine ⟨fun c member => .inl (all c member), ?_, ?_, ?_⟩
  · apply List.Pairwise.isChain
    apply List.pairwise_of_forall_mem_list
    intro a first b _ both
    exact no_hyphen (both.1 ▸ first)
  · exact fun head => no_hyphen (List.mem_of_head? head)
  · exact fun last => no_hyphen (List.mem_of_getLast? last)

theorem SlugShape.join {first second : Text} (left : SlugShape first) (right : SlugShape second) (some_ : first ≠ []) (more : second ≠ []) :
    SlugShape (first ++ hyphen :: second) := by
  refine ⟨?_, ?_, ?_, ?_⟩
  · intro c member
    rcases List.mem_append.mp member with front | back
    · exact left.chars c front
    · rcases List.mem_cons.mp back with rfl | later
      · exact .inr rfl
      · exact right.chars c later
  · apply List.isChain_append.mpr
    refine ⟨left.single, ?_, ?_⟩
    · apply List.isChain_cons.mpr
      refine ⟨?_, right.single⟩
      rintro b head ⟨-, rfl⟩
      exact right.opens head
    · rintro a last b head ⟨rfl, -⟩
      exact left.closes last
  · obtain ⟨c, rest, rfl⟩ := List.exists_cons_of_ne_nil some_
    exact left.opens
  · rw [List.getLast?_append_of_ne_nil _ (List.cons_ne_nil _ _), List.getLast?_cons_of_ne_nil more]
    exact right.closes

theorem rstrip_shape {text : Text} (chars : ∀ c ∈ text, isSlugChar c = true ∨ c = hyphen)
    (single : text.IsChain fun a b => ¬ (a = hyphen ∧ b = hyphen)) (opens : text.head? ≠ some hyphen) :
    SlugShape (rstrip isHyphen text) := by
  have front : rstrip isHyphen text <+: text := text.rdropWhile_prefix isHyphen
  refine ⟨fun c member => chars c (front.subset member), single.prefix front, ?_, ?_⟩
  · intro head
    obtain ⟨rest, whole⟩ := front
    apply opens
    rw [← whole, List.head?_append, head]
    rfl
  · intro last
    have some_ : rstrip isHyphen text ≠ [] := by
      intro none_
      rw [none_] at last
      cases last
    apply List.rdropWhile_last_not isHyphen text some_
    apply decide_eq_true
    rw [List.getLast?_eq_getLast_of_ne_nil some_] at last
    exact Option.some.inj last

theorem SlugShape.take {text : Text} (shape : SlugShape text) (stop : Nat) : SlugShape (rstrip isHyphen (text.take stop)) := by
  have front : text.take stop <+: text := List.take_prefix stop text
  have single := shape.single.prefix front
  apply rstrip_shape (fun c member => shape.chars c (front.subset member)) single
  intro head
  obtain ⟨rest, whole⟩ := front
  apply shape.opens
  rw [← whole, List.head?_append, head]
  rfl

theorem SlugShape.take_some {text : Text} (shape : SlugShape text) (some_ : text ≠ []) {stop : Nat} (one : 0 < stop) :
    rstrip isHyphen (text.take stop) ≠ [] := by
  obtain ⟨c, rest, rfl⟩ := List.exists_cons_of_ne_nil some_
  obtain ⟨less, rfl⟩ := Nat.exists_eq_add_of_lt one
  intro none_
  have all := List.rdropWhile_eq_nil_iff.mp none_ c (by simp)
  exact shape.opens (congrArg some (of_decide_eq_true all))

end Shapes

section Titles
variable {accepts : CodePoint → Bool} {by_ : CodePoint}

theorem runs_mem {c : CodePoint} {text : Text} :
    ∀ {inside : Bool}, c ∈ subRuns accepts by_ inside text → c = by_ ∨ (c ∈ text ∧ accepts c = false) := by
  induction text with
  | nil => exact fun member => absurd member List.not_mem_nil
  | cons d rest ih =>
    intro inside member
    have later {inside : Bool} (member : c ∈ subRuns accepts by_ inside rest) :
        c = by_ ∨ (c ∈ d :: rest ∧ accepts c = false) :=
      (ih member).imp_right fun found => ⟨List.mem_cons_of_mem _ found.1, found.2⟩
    rw [subRuns] at member
    split at member
    · split at member
      · exact later member
      · rcases List.mem_cons.mp member with same | more
        · exact .inl same
        · exact later more
    next plain =>
      rcases List.mem_cons.mp member with rfl | more
      · exact .inr ⟨List.mem_cons_self, by simpa using plain⟩
      · exact later more

theorem runs_single (text : Text) (inside : Bool) :
    (subRuns isHyphen hyphen inside text).IsChain (fun a b => ¬ (a = hyphen ∧ b = hyphen)) ∧
      (inside = true → (subRuns isHyphen hyphen inside text).head? ≠ some hyphen) := by
  induction text generalizing inside with
  | nil =>
    refine ⟨.nil, fun _ head => ?_⟩
    cases head
  | cons c rest ih =>
    rw [subRuns]
    split
    · obtain ⟨single, opens⟩ := ih true
      split
      next within => exact ⟨single, fun _ => opens rfl⟩
      next outside =>
        refine ⟨List.isChain_cons.mpr ⟨?_, single⟩, fun within => absurd within outside⟩
        intro b head both
        exact opens rfl (both.2 ▸ head)
    next plain =>
      have other : c ≠ hyphen := fun same => plain (decide_eq_true same)
      refine ⟨List.isChain_cons.mpr ⟨fun b _ both => other both.1, (ih false).1⟩, fun _ head => ?_⟩
      exact other (Option.some.inj head)

theorem ascii_shape (unicode : Unicode) {s : Text} (spaceless : ∀ c ∈ s, c = hyphen ∨ unicode.isSpace c = false) :
    SlugShape (asciiWords unicode s) := by
  have back : ∀ text : Text, text.dropWhile isHyphen <:+ text := fun text => List.dropWhile_suffix isHyphen
  refine rstrip_shape ?_ ((runs_single _ false).1.suffix (back _)) ?_
  · intro c member
    rcases runs_mem ((back _).subset member) with same | ⟨listed, plain⟩
    · exact .inr same
    · obtain ⟨among, allowed⟩ := List.mem_filter.mp listed
      simp only [Bool.or_eq_true] at allowed
      rcases allowed with (letter | space) | other
      · exact .inl letter
      · rcases spaceless c among with same | none_
        · exact .inr same
        · rw [none_] at space
          cases space
      · rw [plain] at other
        cases other
  · intro head
    have first := List.head?_dropWhile_not isHyphen (subRuns isHyphen hyphen false (s.filter fun c => isSlugChar c || unicode.isSpace c || isHyphen c))
    rw [head] at first
    exact of_decide_eq_false first rfl

theorem slugify_shape (unicode : Unicode) (title : Text) :
    SlugShape (slugifyAscii unicode title) ∧ (slugifyAscii unicode title).length ≤ MAX_SLUG_LEN := by
  rw [slugifyAscii]
  split
  · exact ⟨.nil, Nat.zero_le _⟩
  have shape := ascii_shape unicode (s := subRuns unicode.isSpace hyphen false (unicode.lower (strip unicode.isSpace (unicode.nfc title))))
    fun c member => (runs_mem member).imp_right And.right
  dsimp only
  split
  · refine ⟨shape.take _, ?_⟩
    have front := (List.rdropWhile_prefix isHyphen (List.take MAX_SLUG_LEN (asciiWords unicode
      (subRuns unicode.isSpace hyphen false (unicode.lower (strip unicode.isSpace (unicode.nfc title))))))).length_le
    exact Nat.le_trans front (List.length_take_le _ _)
  next short => exact ⟨shape, by omega⟩

theorem hex8_word (random : Fin 8 → Fin 16) : ∀ c ∈ hex8 random, isSlugChar c = true := by
  have all : ∀ digit : Fin 16, isSlugChar (JsonDump.hexDigit digit) = true := by decide
  intro c member
  obtain ⟨digit, -, rfl⟩ := List.mem_map.mp member
  exact all digit

theorem hex8_length (random : Fin 8 → Fin 16) : (hex8 random).length = 8 := by simp [hex8]

theorem fallback_shape (unicode : Unicode) (title : Text) {fallbackPrefix : Text} (random : Fin 8 → Fin 16)
    (letters : ∀ c ∈ fallbackPrefix, isSlugChar c = true) (some_ : fallbackPrefix ≠ []) (short : fallbackPrefix.length ≤ 191) :
    SlugShape (slugifyAsciiOrFallback unicode title fallbackPrefix random) ∧
      slugifyAsciiOrFallback unicode title fallbackPrefix random ≠ [] ∧
      (slugifyAsciiOrFallback unicode title fallbackPrefix random).length ≤ MAX_SLUG_LEN := by
  have length := hex8_length random
  rw [slugifyAsciiOrFallback]
  split
  · refine ⟨?_, ?_, ?_⟩
    · apply SlugShape.join (.of_word letters) (.of_word (hex8_word random)) some_
      intro none_
      rw [none_] at length
      cases length
    · exact List.append_ne_nil_of_left_ne_nil some_ _
    · rw [List.length_append, List.length_cons, length, MAX_SLUG_LEN]
      omega
  next some_ => exact ⟨(slugify_shape unicode title).1, some_, (slugify_shape unicode title).2⟩

end Titles

section Formats

abbrev Word := Accepted isSlugChar × List (Accepted isSlugChar)

def Word.write (value : Word) : Text := [value.1.val] ++ value.2.flatMap fun c => [c.val]

def writeSlug (value : Word × List (Unit × Word)) : Text := Word.write value.1 ++ value.2.flatMap fun more => [hyphen] ++ Word.write more.2

theorem word_reads : Reads word Word.write := (oneOf_reads isSlugChar).andThen ((oneOf_reads isSlugChar).many fun _ => List.cons_ne_nil _ _)

theorem words_reads : Reads (andThen word (many (andThen (mark hyphen) word))) writeSlug :=
  word_reads.andThen (((mark_reads hyphen).andThen word_reads).many fun _ => List.cons_ne_nil _ _)

theorem exists_word {text : Text} (some_ : text ≠ []) (all : ∀ c ∈ text, isSlugChar c = true) : ∃ value, Word.write value = text := by
  obtain ⟨c, rest, rfl⟩ := List.exists_cons_of_ne_nil some_
  obtain ⟨values, written⟩ := accepted_text fun d member => all d (List.mem_cons_of_mem c member)
  refine ⟨(⟨c, all c List.mem_cons_self⟩, values), ?_⟩
  rw [Word.write, ← List.map_eq_flatMap, written]
  rfl

theorem SlugShape.words (bound : Nat) {text : Text} (short : text.length ≤ bound) (shape : SlugShape text) (some_ : text ≠ []) :
    ∃ value, writeSlug value = text := by
  induction bound generalizing text with
  | zero => exact absurd (List.eq_nil_of_length_eq_zero (Nat.le_zero.mp short)) some_
  | succ bound ih =>
    have whole : text.takeWhile isSlugChar ++ text.dropWhile isSlugChar = text := List.takeWhile_append_dropWhile
    have front : text.takeWhile isSlugChar ≠ [] := by
      obtain ⟨c, rest, rfl⟩ := List.exists_cons_of_ne_nil some_
      rcases shape.chars c List.mem_cons_self with letter | rfl
      · rw [List.takeWhile_cons_of_pos letter]
        exact List.cons_ne_nil _ _
      · exact absurd rfl shape.opens
    obtain ⟨value, written⟩ := exists_word front fun c member => List.mem_takeWhile_imp member
    cases back : text.dropWhile isSlugChar with
    | nil =>
      refine ⟨(value, []), ?_⟩
      rw [back, List.append_nil] at whole
      rw [← whole, ← written]
      exact List.append_nil _
    | cons c more =>
      have rest : c :: more <:+ text := back ▸ List.dropWhile_suffix isSlugChar
      have at_hyphen : c = hyphen := by
        rcases shape.chars c (rest.subset List.mem_cons_self) with letter | same
        · have stops := List.head?_dropWhile_not isSlugChar text
          rw [back] at stops
          exact absurd letter (by simpa using stops)
        · exact same
      subst at_hyphen
      have single := shape.single.suffix rest
      have last : (hyphen :: more).getLast? = text.getLast? := by
        rw [← whole, back, List.getLast?_append_of_ne_nil _ (List.cons_ne_nil _ _)]
      have more_some : more ≠ [] := by
        rintro rfl
        exact shape.closes last.symm
      have inner : SlugShape more := by
        refine ⟨fun d member => shape.chars d (rest.subset (List.mem_cons_of_mem _ member)), single.of_cons, ?_, ?_⟩
        · intro head
          exact (List.isChain_cons.mp single).1 hyphen head ⟨rfl, rfl⟩
        · rw [← List.getLast?_cons_of_ne_nil more_some, last]
          exact shape.closes
      have smaller : more.length ≤ bound := by
        have length := congrArg List.length whole
        have one := List.length_pos_iff.mpr front
        rw [back, List.length_append, List.length_cons] at length
        omega
      obtain ⟨others, behind⟩ := ih smaller inner more_some
      refine ⟨(value, ((), others.1) :: others.2), ?_⟩
      rw [← whole, back, ← written, ← behind]
      simp [writeSlug]

theorem valid_of_shape {text : Text} (shape : SlugShape text) (some_ : text ≠ []) : isValidSlugFormat text = true := by
  obtain ⟨value, written⟩ := shape.words text.length (Nat.le_refl _) some_
  have whole : (value, []) ∈ andThen word (many (andThen (mark hyphen) word)) text := by
    apply words_reads.mem.mpr
    rw [List.append_nil]
    exact written
  have found : ((value, ()), []) ∈ slugFormatRe text := by
    apply List.mem_flatMap.mpr
    refine ⟨_, whole, ?_⟩
    exact List.mem_map.mpr ⟨((), []), List.mem_singleton.mpr rfl, rfl⟩
  rw [isValidSlugFormat, Bool.and_eq_true]
  refine ⟨decide_eq_true some_, ?_⟩
  rw [first, List.isSome_head?]
  exact List.ne_nil_of_mem found

theorem valid_opens {text : Text} (valid : isValidSlugFormat text = true) : text.head? ≠ some hyphen := by
  rintro head
  obtain ⟨rest, rfl⟩ : ∃ rest, text = hyphen :: rest := by
    obtain ⟨c, rest, rfl⟩ := List.exists_cons_of_ne_nil (l := text) (by rintro rfl; cases head)
    exact ⟨rest, congrArg (· :: rest) (Option.some.inj head)⟩
  have none_ : slugFormatRe (hyphen :: rest) = [] := by
    have start : word (hyphen :: rest) = [] := andThen_none (oneOf_rejected (by simp [hyphen_no_word]) rest)
    exact andThen_none (andThen_none start)
  rw [isValidSlugFormat, Bool.and_eq_true, first_none none_] at valid
  cases valid.2

end Formats

section Numbers

theorem point_val (c : Char) : (Fin.ofNat 0x110000 c.toNat).val = c.toNat := by
  have valid : c.toNat < 0xd800 ∨ (0xdfff < c.toNat ∧ c.toNat < 0x110000) := c.valid
  exact Nat.mod_eq_of_lt (by omega)

theorem digit_char {c : Char} (digit : c.isDigit = true) : isSlugChar (Fin.ofNat 0x110000 c.toNat) = true := by
  have range : 0x30 ≤ c.toNat ∧ c.toNat ≤ 0x39 := Char.isDigit_iff_toNat.mp digit
  rw [isSlugChar, point_val]
  simp only [Bool.or_eq_true, Bool.and_eq_true, decide_eq_true_eq]
  omega

/-- The digits of a number, as they stand in a slug. -/
def digitText (n : Nat) : Text := (Nat.toDigits 10 n).map fun c => Fin.ofNat 0x110000 c.toNat

theorem suffix_eq (n : Nat) : suffix n = hyphen :: digitText n := rfl

theorem digits_word (n : Nat) : ∀ c ∈ digitText n, isSlugChar c = true := by
  intro c member
  obtain ⟨d, listed, rfl⟩ := List.mem_map.mp member
  exact digit_char (JsonText.digits_digit listed)

theorem digits_some (n : Nat) : digitText n ≠ [] := by
  intro none_
  exact Nat.toDigits_ne_nil (List.map_eq_nil_iff.mp none_)

theorem digitText_injective : Function.Injective digitText := by
  intro first second same
  apply JsonText.digits_injective
  apply List.map_injective_iff.mpr ?_ same
  intro c d equal
  have values := congrArg Fin.val equal
  rw [point_val, point_val] at values
  exact Char.toNat_inj.mp values

theorem suffix_length (n : Nat) {k : Nat} (one : 0 < k) : (suffix n).length ≤ k + 1 ↔ n < 10 ^ k := by
  rw [suffix_eq, List.length_cons, digitText, List.length_map, Nat.add_le_add_iff_right]
  exact Nat.length_toDigits_le_iff (by omega) one

theorem numbered_injective (base : Text) : Function.Injective (numbered base) := by
  intro first second same
  have back := congrArg List.reverse same
  simp only [numbered, suffix_eq, List.reverse_append, List.reverse_cons, List.append_assoc, List.singleton_append] at back
  have plain (n : Nat) : ∀ c ∈ (digitText n).reverse, ¬ c = hyphen := by
    rintro c member rfl
    have letter := digits_word n hyphen (List.mem_reverse.mp member)
    rw [hyphen_no_word] at letter
    cases letter
  have digits : (digitText first).reverse = (digitText second).reverse :=
    (@Readable.before_stop _ (fun c => c = hyphen) _ _ _ _ _ _ rfl rfl (plain first) (plain second) back).1
  exact digitText_injective (List.reverse_inj.mp digits)

theorem numbered_shape {base : Text} (shape : SlugShape base) (some_ : base ≠ []) {n : Nat} (small : n < 10 ^ 198) :
    SlugShape (numbered base n) ∧ numbered base n ≠ [] ∧ (numbered base n).length ≤ MAX_SLUG_LEN := by
  have length := (suffix_length n (by omega)).mpr small
  have cut : sliceTo base (MAX_SLUG_LEN - (suffix n).length) = base.take (MAX_SLUG_LEN - (suffix n).length) := by
    rw [sliceTo, if_pos (by rw [MAX_SLUG_LEN]; omega), Int.toNat_sub]
  have room : 0 < MAX_SLUG_LEN - (suffix n).length := by
    rw [MAX_SLUG_LEN]
    omega
  have front := shape.take_some some_ room
  rw [numbered, cut]
  refine ⟨(shape.take _).join (.of_word (digits_word n)) front (digits_some n), List.append_ne_nil_of_left_ne_nil front _, ?_⟩
  have within := (List.rdropWhile_prefix isHyphen (base.take (MAX_SLUG_LEN - (suffix n).length))).length_le
  have taken := List.length_take_le (MAX_SLUG_LEN - (suffix n).length) base
  have short : (rstrip isHyphen (base.take (MAX_SLUG_LEN - (suffix n).length))).length ≤ MAX_SLUG_LEN - (suffix n).length :=
    Nat.le_trans within taken
  rw [List.length_append]
  rw [MAX_SLUG_LEN] at short ⊢
  omega

end Numbers

section Loops

/-- A loop comes to its result, with so many turns or more. -/
def Ends (loop : Nat → Option Text) (result : Text) : Prop := ∃ enough, ∀ fuel, enough ≤ fuel → loop fuel = some result

theorem workspace_loop (blocked : Text → Bool) (base : Text) (fuel n : Nat) :
    ∀ candidate, workspaceLoop blocked base (fuel + 1) candidate n =
      if blocked candidate then Fresh.search (numbered base) blocked fuel n else some candidate := by
  induction fuel generalizing n with
  | zero =>
    intro candidate
    rfl
  | succ fuel ih =>
    intro candidate
    rw [workspaceLoop]
    split
    · rw [ih, Fresh.search]
    · rfl

theorem project_loop (blocked : Text → Bool) (base : Text) (fuel n : Nat) :
    projectLoop blocked base fuel n = Fresh.search (numbered base) blocked fuel n := by
  induction fuel generalizing n with
  | zero => rfl
  | succ fuel ih => rw [projectLoop, Fresh.search, ih]

/-- What both loops do: the base, or the first of its numbered forms that is not blocked. -/
def slugFor (blocked : Text → Bool) (base : Text) (fuel : Nat) : Option Text :=
  if blocked base then Fresh.search (numbered base) blocked fuel 2 else some base

/-- The base or one of its forms with a number of at most 198 digits is not blocked. -/
def HasRoom (blocked : Text → Bool) (base : Text) : Prop :=
  blocked base = false ∨ ∃ n, 2 ≤ n ∧ n < 10 ^ 198 ∧ blocked (numbered base n) = false

section Found
variable {blocked : Text → Bool} {taken : List Text}

theorem number_found (only : ∀ slug, blocked slug = true → slug ∈ taken) {base : Text} (inTheWay : blocked base = true) :
    ∃ found, Ends (slugFor blocked base) (numbered base found) ∧ blocked (numbered base found) = false ∧
      ∀ n, 2 ≤ n → blocked (numbered base n) = false → found ≤ n := by
  obtain ⟨found, from_, -, free, before⟩ := Fresh.free_within only 2 fun n m _ _ same => numbered_injective base same
  refine ⟨found, ⟨found - 2 + 1, fun fuel enough => ?_⟩, free, fun n beyond other => ?_⟩
  · rw [slugFor, if_pos inTheWay]
    exact Fresh.search_first free from_ before (by omega)
  · by_contra later
    rw [before n beyond (by omega)] at other
    cases other

theorem slug_found (only : ∀ slug, blocked slug = true → slug ∈ taken) {base : Text} (shape : SlugShape base) (some_ : base ≠ [])
    (length : base.length ≤ MAX_SLUG_LEN) :
    ∃ slug, Ends (slugFor blocked base) slug ∧ blocked slug = false ∧
      (HasRoom blocked base → isValidSlugFormat slug = true ∧ slug.length ≤ MAX_SLUG_LEN) := by
  by_cases inTheWay : blocked base = true
  · obtain ⟨found, ends, free, least⟩ := number_found only inTheWay
    refine ⟨numbered base found, ends, free, fun room => ?_⟩
    rcases room with other | ⟨n, beyond, small, other⟩
    · rw [inTheWay] at other
      cases other
    · obtain ⟨good, more, short⟩ := numbered_shape shape some_ (Nat.lt_of_le_of_lt (least n beyond other) small)
      exact ⟨valid_of_shape good more, short⟩
  · exact ⟨base, ⟨0, fun fuel _ => if_neg inTheWay⟩, by simpa using inTheWay, fun _ => ⟨valid_of_shape shape some_, length⟩⟩

end Found

end Loops

section Results
variable (unicode : Unicode) (title : Text) (random : Fin 8 → Fin 16)

/-- The names that are made up for a title without any ASCII. -/
def FALLBACK_PREFIXES : List Text := ["project", "workspace"].map lit

theorem prefix_word : (FALLBACK_PREFIXES.all fun word => word.all isSlugChar && word ≠ [] && word.length ≤ 191) = true := by decide

theorem slugify_base {fallbackPrefix : Text} (listed : fallbackPrefix ∈ FALLBACK_PREFIXES) :
    SlugShape (slugifyAsciiOrFallback unicode title fallbackPrefix random) ∧
      slugifyAsciiOrFallback unicode title fallbackPrefix random ≠ [] ∧
      (slugifyAsciiOrFallback unicode title fallbackPrefix random).length ≤ MAX_SLUG_LEN := by
  have good := List.all_eq_true.mp prefix_word fallbackPrefix listed
  simp only [Bool.and_eq_true, decide_eq_true_eq, List.all_eq_true] at good
  exact fallback_shape unicode title random good.1.1 good.1.2 good.2

/-- What stands in the way of a workspace. -/
def workspaceBlocked (organizations : List Organization) (excludeOrgId : Option Uuid) (slug : Text) : Bool :=
  RESERVED_WORKSPACE_SLUGS.contains slug || isWorkspaceSlugTaken organizations slug excludeOrgId

theorem workspace_only {organizations : List Organization} {excludeOrgId : Option Uuid} {slug : Text}
    (blocked : workspaceBlocked organizations excludeOrgId slug = true) :
    slug ∈ RESERVED_WORKSPACE_SLUGS ++ organizations.map Organization.slug := by
  apply List.mem_append.mpr
  rcases Bool.or_eq_true_iff.mp blocked with reserved | taken
  · exact .inl (List.contains_iff_mem.mp reserved)
  · obtain ⟨org, member, found⟩ := List.any_eq_true.mp taken
    rw [Bool.and_eq_true] at found
    exact .inr (List.mem_map.mpr ⟨org, member, eq_of_beq found.1⟩)

theorem project_only {projects : List Project} {orgId : Uuid} {excludeProjectId : Option Uuid} {slug : Text}
    (blocked : isProjectSlugTaken projects orgId slug excludeProjectId = true) : slug ∈ projects.filterMap Project.slug := by
  obtain ⟨project, member, found⟩ := List.any_eq_true.mp blocked
  simp only [Bool.and_eq_true] at found
  exact List.mem_filterMap.mpr ⟨project, member, eq_of_beq found.1.1.2⟩

theorem Ends.workspace {organizations : List Organization} {base slug : Text} {excludeOrgId : Option Uuid}
    (ends : Ends (slugFor (workspaceBlocked organizations excludeOrgId) base) slug) :
    Ends (resolveUniqueWorkspaceSlug organizations base excludeOrgId) slug := by
  obtain ⟨enough, found⟩ := ends
  refine ⟨enough + 1, fun fuel more => ?_⟩
  obtain ⟨less, rfl⟩ := Nat.exists_eq_add_of_le' (Nat.le_trans (Nat.le_add_left 1 enough) more)
  have turned := workspace_loop (workspaceBlocked organizations excludeOrgId) base less 2 base
  exact turned.trans (found less (by omega))

theorem Ends.project {projects : List Project} {orgId : Uuid} {base slug : Text} {excludeProjectId : Option Uuid}
    (ends : Ends (slugFor (fun slug => isProjectSlugTaken projects orgId slug excludeProjectId) base) slug) :
    Ends (resolveUniqueProjectSlug projects orgId base excludeProjectId) slug := by
  obtain ⟨enough, found⟩ := ends
  refine ⟨enough, fun fuel more => ?_⟩
  rw [resolveUniqueProjectSlug, project_loop]
  exact found fuel more

/-- Both loops end with a slug that nobody has, and that of a workspace is no reserved word. It has the format and the length
of a slug, unless the base and each of its forms with up to 198 digits are in the way. -/
theorem slugs_free {fallbackPrefix : Text} (listed : fallbackPrefix ∈ FALLBACK_PREFIXES) (organizations : List Organization)
    (excludeOrgId : Option Uuid) (projects : List Project) (orgId : Uuid) (excludeProjectId : Option Uuid) :
    (∃ slug, Ends (resolveUniqueWorkspaceSlug organizations (slugifyAsciiOrFallback unicode title fallbackPrefix random) excludeOrgId) slug ∧
      slug ∉ RESERVED_WORKSPACE_SLUGS ∧ isWorkspaceSlugTaken organizations slug excludeOrgId = false ∧
      (HasRoom (workspaceBlocked organizations excludeOrgId) (slugifyAsciiOrFallback unicode title fallbackPrefix random) →
        isValidSlugFormat slug = true ∧ slug.length ≤ MAX_SLUG_LEN)) ∧
    ∃ slug, Ends (resolveUniqueProjectSlug projects orgId (slugifyAsciiOrFallback unicode title fallbackPrefix random) excludeProjectId) slug ∧
      isProjectSlugTaken projects orgId slug excludeProjectId = false ∧
      (HasRoom (fun slug => isProjectSlugTaken projects orgId slug excludeProjectId)
          (slugifyAsciiOrFallback unicode title fallbackPrefix random) →
        isValidSlugFormat slug = true ∧ slug.length ≤ MAX_SLUG_LEN) := by
  obtain ⟨shape, some_, length⟩ := slugify_base unicode title random listed
  constructor
  · obtain ⟨slug, ends, free, good⟩ := slug_found (fun _ => @workspace_only organizations excludeOrgId _) shape some_ length
    obtain ⟨unreserved, untaken⟩ := Bool.or_eq_false_iff.mp free
    refine ⟨slug, ends.workspace, ?_, untaken, good⟩
    intro reserved
    rw [List.contains_iff_mem.mpr reserved] at unreserved
    cases unreserved
  · obtain ⟨slug, ends, free, good⟩ := slug_found (fun _ => @project_only projects orgId excludeProjectId _) shape some_ length
    exact ⟨slug, ends.project, free, good⟩

end Results

section Names

def asciiUnicode : Unicode where
  nfc := id
  lower text := text.map fun c => if 0x41 ≤ c.val ∧ c.val ≤ 0x5a then c + 0x20 else c
  isSpace c := (9 ≤ c.val && c.val ≤ 0xd) || (0x1c ≤ c.val && c.val ≤ 0x20)

theorem admin_base (random : Fin 8 → Fin 16) (fallbackPrefix : Text) :
    slugifyAsciiOrFallback asciiUnicode (lit "Admin") fallbackPrefix random = lit "admin" := by
  have ascii : slugifyAscii asciiUnicode (lit "Admin") = lit "admin" := by decide
  rw [slugifyAsciiOrFallback, ascii]
  rfl

theorem admin_room : HasRoom (workspaceBlocked [] none) (lit "admin") := .inr ⟨2, Nat.le_refl 2, by decide, by decide⟩

theorem admin_slug :
    (∃ slug, Ends (resolveUniqueWorkspaceSlug [] (slugifyAsciiOrFallback asciiUnicode (lit "Admin") (lit "workspace") fun _ => 0) none) slug ∧
      slug ∉ RESERVED_WORKSPACE_SLUGS ∧ isValidSlugFormat slug = true) := by
  have listed : lit "workspace" ∈ FALLBACK_PREFIXES := by decide
  have both := (slugs_free asciiUnicode (lit "Admin") (fun _ => 0) listed [] none [] 0 none).1
  rw [admin_base] at both ⊢
  obtain ⟨slug, ends, unreserved, -, good⟩ := both
  exact ⟨slug, ends, unreserved, (good admin_room).1⟩

/-- A single letter and its forms with a number below a limit are all taken. -/
def crowded (limit : Nat) : List Project :=
  (lit "a" :: (List.range limit).map (numbered (lit "a"))).map fun slug => { id := 0, orgId := 0, slug := some slug }

theorem crowded_taken {limit : Nat} {slug : Text} (listed : slug ∈ lit "a" :: (List.range limit).map (numbered (lit "a"))) :
    isProjectSlugTaken (crowded limit) 0 slug none = true := by
  apply List.any_eq_true.mpr
  refine ⟨_, List.mem_map.mpr ⟨slug, listed, rfl⟩, ?_⟩
  simp

theorem numbered_invalid {base : Text} (single : base.length ≤ 1) {n : Nat} (large : 10 ^ 198 ≤ n) : isValidSlugFormat (numbered base n) = false := by
  have long : 200 ≤ (suffix n).length := by
    by_contra short
    have small := (suffix_length n (k := 198) (by omega)).mp (by omega)
    omega
  have cut : sliceTo base (MAX_SLUG_LEN - (suffix n).length) = [] := by
    rw [sliceTo]
    split
    · apply List.take_eq_nil_iff.mpr
      left
      rw [MAX_SLUG_LEN]
      omega
    next negative =>
      apply List.take_eq_nil_iff.mpr
      left
      rw [MAX_SLUG_LEN] at negative ⊢
      omega
  by_contra valid
  apply valid_opens (by simpa using valid)
  rw [numbered, cut]
  rfl

theorem crowded_invalid {limit : Nat} (large : 10 ^ 198 ≤ limit) :
    ∃ slug, Ends (resolveUniqueProjectSlug (crowded limit) 0 (lit "a") none) slug ∧ isValidSlugFormat slug = false := by
  have base : isProjectSlugTaken (crowded limit) 0 (lit "a") none = true := crowded_taken List.mem_cons_self
  obtain ⟨found, ends, free, -⟩ := number_found (fun _ => project_only) base
  refine ⟨numbered (lit "a") found, ends.project, ?_⟩
  apply numbered_invalid (by decide)
  by_contra small
  have below : found < limit := by omega
  have listed : numbered (lit "a") found ∈ (List.range limit).map (numbered (lit "a")) :=
    List.mem_map.mpr ⟨found, List.mem_range.mpr below, rfl⟩
  rw [crowded_taken (List.mem_cons_of_mem _ listed)] at free
  cases free

/-- A project may be called as a page of the application, and a crowded workspace leaves a slug without a word in front. -/
theorem reserved_or_invalid :
    (∃ slug, Ends (resolveUniqueProjectSlug [] 0 (slugifyAsciiOrFallback asciiUnicode (lit "Admin") (lit "project") fun _ => 0) none) slug ∧
      slug ∈ RESERVED_WORKSPACE_SLUGS) ∧
    ∃ slug, Ends (resolveUniqueProjectSlug (crowded (10 ^ 198)) 0
        (slugifyAsciiOrFallback asciiUnicode (lit "A") (lit "project") fun _ => 0) none) slug ∧
      isValidSlugFormat slug = false := by
  have letter : slugifyAsciiOrFallback asciiUnicode (lit "A") (lit "project") (fun _ => 0) = lit "a" := by decide
  rw [admin_base, letter]
  exact ⟨⟨lit "admin", ⟨0, fun _ _ => rfl⟩, by decide⟩, crowded_invalid (Nat.le_refl _)⟩

end Names

end Sprintable.Slugs
