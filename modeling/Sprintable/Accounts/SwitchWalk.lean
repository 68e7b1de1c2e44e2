import Sprintable.Basic

/-! What a token that comes late is told. A switch ends the token it is given and links the one it
issues; the walk follows the links to see if the session lives on. -/

namespace Sprintable.Accounts

/-- A row of `refresh_tokens`, as the walk reads it. -/
structure RefreshToken where
  userId : Nat
  revokedAt : Option Nat := none
  expiresAt : Nat
  replacedBy : Option Nat := none
  deriving DecidableEq, Repr

def SUPERSEDED_CHAIN_MAX_HOPS : Nat := 64

namespace RefreshToken
variable (token : RefreshToken) (userId now window : Nat)

def live : Bool := token.revokedAt.isNone && decide (now < token.expiresAt)

/-- The row says: a switch ended this token inside the window. -/
def endedBySwitch : Bool :=
  match token.revokedAt, token.replacedBy with
  | some ended, some _ => decide (token.expiresAt ≤ ended) && decide (now < ended + window)
  | _, _ => false

/-- Its window is closed, and no token follows it. -/
def movedNowhere : Bool := decide (token.expiresAt ≤ now) && token.replacedBy.isNone

/-- It was never ended, but its time is over. -/
def ranOut : Bool := token.revokedAt.isNone && decide (token.expiresAt ≤ now)

/-- A token of this person that was ended, and that another one follows. -/
def movedOn : Bool := token.userId == userId && token.revokedAt.isSome && token.replacedBy.isSome

end RefreshToken

section Walk
variable (find : Nat → Option RefreshToken) (userId now window : Nat)

/-- The walk with so many hops left. One that uses them all sees no end, and answers that the session lives. -/
def sessionAlive : Nat → Nat → Bool
  | 0, _ => true
  | hops + 1, id =>
    match find id with
    | none => false
    | some hop =>
      if hop.userId ≠ userId ∨ hop.movedNowhere now ∨ hop.ranOut now then false
      else match hop.revokedAt, hop.replacedBy with
      | none, _ => true
      | some ended, none => decide (now < ended + window)
      | some _, some next => sessionAlive hops next

def wasSupersededByASwitch (row : Option RefreshToken) : Bool :=
  match row with
  | none => false
  | some token =>
    if token.endedBySwitch now window then
      token.replacedBy.any (sessionAlive find token.userId now window SUPERSEDED_CHAIN_MAX_HOPS)
    else false

end Walk

/-- After so many links from the first id stands this one; only such tokens are passed. -/
inductive Follows (find : Nat → Option RefreshToken) (passes : RefreshToken → Prop) (first : Nat) : Nat → Nat → Prop where
  | start : Follows find passes first 0 first
  | link {hops id next : Nat} {token : RefreshToken} (before : Follows find passes first hops id)
      (found : find id = some token) (passed : passes token) (linked : token.replacedBy = some next) :
      Follows find passes first (hops + 1) next

section Laws
variable {find : Nat → Option RefreshToken} {userId now window first hops id next : Nat} {token : RefreshToken}

theorem sessionAlive_link (found : find id = some token) (moved : token.movedOn userId) (linked : token.replacedBy = some next) :
    sessionAlive find userId now window (hops + 1) id = sessionAlive find userId now window hops next := by
  obtain ⟨⟨same, ended⟩, -⟩ : (token.userId = userId ∧ token.revokedAt.isSome) ∧ token.replacedBy.isSome := by
    simpa [RefreshToken.movedOn] using moved
  obtain ⟨moment, revoked⟩ := Option.isSome_iff_exists.mp ended
  simp [sessionAlive, found, same, RefreshToken.movedNowhere, RefreshToken.ranOut, revoked, linked]

theorem sessionAlive_follows {reached : Nat} (follows : Follows find (fun token => token.movedOn userId) first reached id)
    (left : Nat) :
    sessionAlive find userId now window (reached + left) first = sessionAlive find userId now window left id := by
  induction follows generalizing left with
  | start => rw [Nat.zero_add]
  | link before found moved linked ih =>
    have next := ih (left + 1)
    rw [sessionAlive_link found moved linked] at next
    rw [← next]
    congr 1
    omega

theorem sessionAlive_missing (found : find id = none) : sessionAlive find userId now window (hops + 1) id = false := by
  simp [sessionAlive, found]

theorem sessionAlive_over (found : find id = some token)
    (ended : token.userId ≠ userId ∨ token.movedNowhere now ∨ token.ranOut now) :
    sessionAlive find userId now window (hops + 1) id = false := by
  simp only [sessionAlive, found, if_pos ended]

theorem sessionAlive_live (found : find id = some token) (same : token.userId = userId) (live : token.live now) :
    sessionAlive find userId now window (hops + 1) id = true := by
  obtain ⟨never, ahead⟩ : token.revokedAt = none ∧ now < token.expiresAt := by
    simpa [RefreshToken.live] using live
  have open_ : ¬ (token.userId ≠ userId ∨ token.movedNowhere now ∨ token.ranOut now) := by
    simp [same, RefreshToken.movedNowhere, RefreshToken.ranOut, Nat.not_le.mpr ahead]
  simp only [sessionAlive, found, if_neg open_, never]

theorem sessionAlive_reaches {limit reached : Nat} (inside : reached < limit)
    (follows : Follows find (fun token => token.movedOn userId) first reached id) :
    ∃ left, sessionAlive find userId now window limit first = sessionAlive find userId now window (left + 1) id := by
  refine ⟨limit - reached - 1, ?_⟩
  rw [← sessionAlive_follows follows (limit - reached - 1 + 1)]
  congr 1
  omega

end Laws

/-- What a late token is told of its session, by the tokens that its links reach within the limit. -/
structure ToldTheTruth (find : Nat → Option RefreshToken) (now window : Nat) (row : Option RefreshToken) : Prop where
  notSwitched : (∀ token, row = some token → token.endedBySwitch now window = false) →
    wasSupersededByASwitch find now window row = false
  ended : ∀ token first hops id, row = some token → token.replacedBy = some first → hops < SUPERSEDED_CHAIN_MAX_HOPS →
    Follows find (fun hop => hop.movedOn token.userId) first hops id →
    (∀ hop, find id = some hop → hop.userId ≠ token.userId ∨ hop.movedNowhere now ∨ hop.ranOut now) →
      wasSupersededByASwitch find now window row = false
  alive : ∀ token first hops id hop, row = some token → token.endedBySwitch now window → token.replacedBy = some first →
    hops < SUPERSEDED_CHAIN_MAX_HOPS → Follows find (fun hop => hop.movedOn token.userId) first hops id →
    find id = some hop → hop.userId = token.userId → hop.live now →
      wasSupersededByASwitch find now window row = true

/-- The walk ends on every graph. It answers false of a token that no switch ended, and where the tokens that
moved on lead to a row that is missing, another person's, or over; and true where they lead to a live one. -/
theorem late_token_told (find : Nat → Option RefreshToken) (now window : Nat) (row : Option RefreshToken) :
    ToldTheTruth find now window row := by
  constructor
  · intro none_
    cases row with
    | none => rfl
    | some token => simp [wasSupersededByASwitch, none_ token rfl]
  · rintro token first hops id rfl linked inside follows ended
    obtain ⟨left, walk⟩ := @sessionAlive_reaches find token.userId now window first id _ _ inside follows
    have gone : sessionAlive find token.userId now window (left + 1) id = false := by
      cases found : find id with
      | none => exact sessionAlive_missing found
      | some hop => exact sessionAlive_over found (ended hop found)
    simp [wasSupersededByASwitch, linked, walk, gone]
  · rintro token first hops id hop rfl switched linked inside follows found same live
    obtain ⟨left, walk⟩ := @sessionAlive_reaches find token.userId now window first id _ _ inside follows
    have lives := @sessionAlive_live find token.userId now window left id hop found same live
    simp [wasSupersededByASwitch, switched, linked, walk, lives]

/-- A token was switched a moment ago; the one after it ran out without an end and still names a live one. -/
def damagedChain : Nat → Option RefreshToken
  | 1 => some { userId := 7, expiresAt := 60, replacedBy := some 2 }
  | 2 => some { userId := 7, expiresAt := 1000 }
  | _ => none

/-- The links lead to a live token of the person, but the walk stops at the one that was never ended. -/
theorem damaged_link_not_followed :
    Follows damagedChain (fun _ => True) 1 1 2 ∧
      (damagedChain 2).any (fun token => token.userId == 7 && token.live 100) = true ∧
      wasSupersededByASwitch damagedChain 100 30 (some ⟨7, some 90, 90, some 1⟩) = false :=
  ⟨.link .start rfl True.intro rfl, by decide, by decide⟩

end Sprintable.Accounts
