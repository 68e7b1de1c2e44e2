import Sprintable.Accounts.SignIn

/-! The limits of sign-in, and the runs that keep them: those in which a request that ends has loaded
what the row still says. -/

namespace Sprintable.Accounts
open Runs

/-- Guesses in a row. The fifth wrong one blocks the next check, and a new row begins. -/
structure Guesses where
  wrong : Nat := 0
  blockedUntil : Nat := 0
  deriving DecidableEq, Repr

def Guesses.fail (guesses : Guesses) (now : Nat) : Guesses :=
  if MAX_FAILURES ≤ guesses.wrong + 1 then { wrong := 0, blockedUntil := now + LOCK }
  else { guesses with wrong := guesses.wrong + 1 }

def Guesses.succeed (guesses : Guesses) : Guesses := { guesses with wrong := 0 }

/-- The desk, with what was guessed and which time steps were accepted, the last one first. -/
structure Watch where
  desk : Desk
  passwords : Guesses := {}
  codes : Guesses := {}
  accepted : List Nat := []
  deriving DecidableEq, Repr

namespace Watch

/-- What an answer tells of the guesses. -/
def note (watch : Watch) : Option LoginAnswer → Watch
  | some .invalidCredentials => { watch with passwords := watch.passwords.fail watch.desk.clock }
  | some .invalidTotp => { watch with codes := watch.codes.fail watch.desk.clock }
  | some (.signedIn (some timestep)) =>
    { watch with
      passwords := watch.passwords.succeed, codes := watch.codes.succeed, accepted := timestep :: watch.accepted }
  | some (.signedIn none) => { watch with passwords := watch.passwords.succeed }
  | _ => watch

def step (watch : Watch) (event : SignInEvent) : Watch :=
  { watch.note (watch.desk.answer event) with desk := watch.desk.step event }

end Watch

def LoginAnswer.checksPassword : LoginAnswer → Bool
  | .accountLocked => false
  | _ => true

def LoginAnswer.checksCode : LoginAnswer → Bool
  | .invalidTotp | .totpReplayed | .signedIn (some _) => true
  | _ => false

/-- The event is a sign-in by a request that began before this lock. -/
def EarlierSignIn (watch : Watch) (event : SignInEvent) (lockedUntil : Nat) : Prop :=
  ∃ position request opened timestep, event = .finish position request ∧ watch.desk.requests[position]? = some opened ∧
    watch.desk.answer event = some (.signedIn timestep) ∧ opened.since + LOCK ≤ lockedUntil

/-- What is claimed of every event. -/
structure Limits (watch : Watch) (event : SignInEvent) : Prop where
  passwords : ∀ answer, watch.desk.answer event = some answer → answer.checksPassword = true →
    watch.passwords.blockedUntil ≤ watch.desk.clock
  codes : ∀ answer, watch.desk.answer event = some answer → answer.checksCode = true →
    watch.codes.blockedUntil ≤ watch.desk.clock
  steps : ∀ timestep, watch.desk.answer event = some (.signedIn (some timestep)) → ∀ earlier ∈ watch.accepted, earlier < timestep
  loginLock : ∀ lockedUntil, watch.desk.user.loginLockedUntil = some lockedUntil → watch.desk.clock < lockedUntil →
    (watch.desk.step event).user.loginLockedUntil = some lockedUntil ∨ EarlierSignIn watch event lockedUntil
  totpLock : ∀ lockedUntil, watch.desk.user.totpLockedUntil = some lockedUntil → watch.desk.clock < lockedUntil →
    (watch.desk.step event).user.totpLockedUntil = some lockedUntil ∨ EarlierSignIn watch event lockedUntil

/-- A request that ends has loaded what the row still says: nothing was written in between. -/
def Undisturbed (watch : Watch) : SignInEvent → Prop
  | .finish position _ => ∀ opened, watch.desk.requests[position]? = some opened → opened.user = watch.desk.user
  | _ => True

/-- The row says what was guessed, and an open request has found no lock. -/
structure Sound (watch : Watch) : Prop where
  accepted : watch.accepted.Pairwise (· > ·)
  last : watch.desk.user.totpLastTimestep = watch.accepted.head?
  passwords : watch.passwords.blockedUntil ≤ watch.desk.clock ∨
    watch.desk.user.loginLockedUntil = some watch.passwords.blockedUntil
  wrong : watch.desk.user.loginLockedUntil = none → watch.desk.user.loginFailCount = watch.passwords.wrong
  begins : watch.desk.user.loginLockedUntil.isSome = true → watch.passwords.wrong = 0
  codes : watch.codes.blockedUntil ≤ watch.desk.clock ∨ watch.desk.user.totpLockedUntil = some watch.codes.blockedUntil
  wrongCodes : watch.desk.user.totpFailCount = watch.codes.wrong
  since : ∀ opened ∈ watch.desk.requests, opened.since ≤ watch.desk.clock ∧
    ∀ lockedUntil, opened.user.loginLockedUntil = some lockedUntil → lockedUntil ≤ opened.since

section Ends
variable {user : User} {request : LoginRequest} {now : Nat}

/-- The row once the lock that has passed is off. -/
def unlocked (user : User) : User :=
  if user.loginLockedUntil.isSome then { user with loginFailCount := 0, loginLockedUntil := none } else user

theorem updateAll_append (first second : List UserUpdate) : user.updateAll (first ++ second) = (user.updateAll first).updateAll second :=
  List.foldl_append

theorem updateAll_lockPassed : user.updateAll (lockPassed user) = unlocked user := by
  unfold lockPassed unlocked
  split
  · rfl
  · rfl

theorem updateAll_forgotten (clean : user.loginLockedUntil = none) :
    user.updateAll (failuresForgotten user) = { user with loginFailCount := 0, loginLockedUntil := none } := by
  unfold failuresForgotten
  split
  · rfl
  next zero =>
    have none_ : user.loginFailCount = 0 := not_not.mp (not_or.mp zero).1
    cases user with
    | mk enabled count locked last codes codesLocked =>
      cases clean
      cases none_
      rfl

theorem unlocked_clean : (unlocked user).loginLockedUntil = none := by
  unfold unlocked
  split
  · rfl
  next open_ => exact Option.not_isSome_iff_eq_none.mp open_

/-- What becomes of the row that a request has loaded, if the request ends on it. -/
inductive Ended (user : User) (now : Nat) : User → LoginAnswer → Prop where
  | wrongPassword : Ended user now ((unlocked user).update (passwordFailed (unlocked user) now)) .invalidCredentials
  | codeMissing : Ended user now (unlocked user) .totpRequired
  | codeLocked (locked : isLocked user.totpLockedUntil now = true) : Ended user now (unlocked user) .totpLocked
  | wrongCode (open_ : isLocked user.totpLockedUntil now = false) :
      Ended user now ((unlocked user).update (codeFailed user now)) .invalidTotp
  | replayed (open_ : isLocked user.totpLockedUntil now = false) : Ended user now (unlocked user) .totpReplayed
  | signedInByCode {timestep : Nat} (open_ : isLocked user.totpLockedUntil now = false)
      (later : ∀ last, user.totpLastTimestep = some last → last < timestep) :
      Ended user now
        { user with
          loginFailCount := 0, loginLockedUntil := none, totpLastTimestep := some timestep, totpFailCount := 0
          totpLockedUntil := none }
        (.signedIn (some timestep))
  | signedIn : Ended user now { user with loginFailCount := 0, loginLockedUntil := none } (.signedIn none)

theorem unlocked_totp : (unlocked user).totpLockedUntil = user.totpLockedUntil ∧
    (unlocked user).totpLastTimestep = user.totpLastTimestep ∧ (unlocked user).totpFailCount = user.totpFailCount := by
  unfold unlocked
  split
  · exact ⟨rfl, rfl, rfl⟩
  · exact ⟨rfl, rfl, rfl⟩

theorem unlocked_forgotten : { unlocked user with loginFailCount := 0, loginLockedUntil := none } =
    { user with loginFailCount := 0, loginLockedUntil := none } := by
  unfold unlocked
  split
  · rfl
  · rfl

theorem checkCode_ended : Ended user now ((unlocked user).updateAll (checkCode (unlocked user) request now).1)
    (checkCode (unlocked user) request now).2 := by
  obtain ⟨locks, last, fails⟩ := @unlocked_totp user
  unfold checkCode
  split
  · exact .codeMissing
  next code given =>
    split
    next locked =>
      rw [locks] at locked
      exact .codeLocked locked
    next open_ =>
      rw [locks, Bool.not_eq_true] at open_
      split
      next =>
        have same : codeFailed (unlocked user) now = codeFailed user now := by
          unfold codeFailed
          rw [fails]
        rw [same]
        exact .wrongCode open_
      next timestep =>
        split
        · exact .replayed open_
        next fresh =>
          rw [last] at fresh
          have later : ∀ earlier, user.totpLastTimestep = some earlier → earlier < timestep := by
            intro earlier known
            apply Nat.lt_of_not_le
            intro behind
            apply fresh
            rw [known]
            exact decide_eq_true behind
          have row : (unlocked user).updateAll (codeAccepted timestep :: failuresForgotten (unlocked user)) =
              { user with
                loginFailCount := 0, loginLockedUntil := none, totpLastTimestep := some timestep, totpFailCount := 0
                totpLockedUntil := none } := by
            have accepted : failuresForgotten (unlocked user) = failuresForgotten ((unlocked user).update (codeAccepted timestep)) := rfl
            have clean : ((unlocked user).update (codeAccepted timestep)).loginLockedUntil = none := unlocked_clean
            have rest := updateAll_forgotten clean
            unfold User.updateAll at rest ⊢
            rw [List.foldl_cons, accepted, rest]
            unfold unlocked
            split
            · rfl
            · rfl
          rw [row]
          exact .signedInByCode open_ later

theorem login_ended : Ended user now (user.updateAll (login user request now).1) (login user request now).2 := by
  unfold login
  dsimp only
  rw [updateAll_lockPassed]
  split
  · rw [updateAll_append, updateAll_lockPassed]
    exact .wrongPassword
  split
  · rw [updateAll_append, updateAll_lockPassed]
    exact checkCode_ended
  · rw [updateAll_append, updateAll_lockPassed, updateAll_forgotten unlocked_clean, unlocked_forgotten]
    exact .signedIn

end Ends

theorem isLocked_iff {lockedUntil : Option Nat} {now : Nat} :
    isLocked lockedUntil now = false ↔ ∀ moment, lockedUntil = some moment → moment ≤ now := by
  cases lockedUntil with
  | none => simp [isLocked]
  | some moment => simp [isLocked]

section Answers
variable {user after : User} {now : Nat} {answer : LoginAnswer}

theorem Ended.codes (ended : Ended user now after answer) (checked : answer.checksCode = true) : isLocked user.totpLockedUntil now = false := by
  cases ended with
  | wrongPassword => cases checked
  | codeMissing => cases checked
  | codeLocked locked => cases checked
  | wrongCode free => exact free
  | replayed free => exact free
  | signedInByCode free later => exact free
  | signedIn => cases checked

theorem Ended.later {timestep : Nat} (ended : Ended user now after (.signedIn (some timestep))) :
    ∀ last, user.totpLastTimestep = some last → last < timestep := by
  cases ended with
  | signedInByCode free later => exact later

theorem Ended.totpLock {moment : Nat} (ended : Ended user now after answer) (locked : user.totpLockedUntil = some moment) (early : now < moment) :
    after.totpLockedUntil = some moment := by
  obtain ⟨locks, _, _⟩ := @unlocked_totp user
  have closed : isLocked user.totpLockedUntil now ≠ false := fun free => absurd (isLocked_iff.mp free moment locked) (Nat.not_le_of_lt early)
  cases ended with
  | wrongPassword => exact locks.trans locked
  | codeMissing => exact locks.trans locked
  | codeLocked _ => exact locks.trans locked
  | wrongCode free => exact absurd free closed
  | replayed free => exact absurd free closed
  | signedInByCode free later => exact absurd free closed
  | signedIn => exact locked

end Answers

section Steps
variable {watch : Watch} {event : SignInEvent}

theorem Sound.open_ (sound : Sound watch) {position : Nat} {opened : OpenRequest} (found : watch.desk.requests[position]? = some opened)
    (same : opened.user = watch.desk.user) :
    ∀ lockedUntil, watch.desk.user.loginLockedUntil = some lockedUntil → lockedUntil ≤ watch.desk.clock := by
  intro lockedUntil locked
  obtain ⟨since, passed⟩ := sound.since opened (List.mem_of_getElem? found)
  rw [same] at passed
  exact Nat.le_trans (passed lockedUntil locked) since

theorem Sound.passwords_open (sound : Sound watch)
    (passed : ∀ lockedUntil, watch.desk.user.loginLockedUntil = some lockedUntil → lockedUntil ≤ watch.desk.clock) :
    watch.passwords.blockedUntil ≤ watch.desk.clock :=
  sound.passwords.elim id (passed _)

theorem Sound.codes_open (sound : Sound watch) (open_ : isLocked watch.desk.user.totpLockedUntil watch.desk.clock = false) :
    watch.codes.blockedUntil ≤ watch.desk.clock :=
  sound.codes.elim id (isLocked_iff.mp open_ _)

theorem Sound.counted (sound : Sound watch) : (unlocked watch.desk.user).loginFailCount = watch.passwords.wrong := by
  unfold unlocked
  split
  next locked => exact (sound.begins locked).symm
  next free => exact sound.wrong (Option.not_isSome_iff_eq_none.mp free)

theorem finish_answer {position : Nat} {request : LoginRequest} {opened : OpenRequest}
    (found : watch.desk.requests[position]? = some opened) (same : opened.user = watch.desk.user) :
    watch.desk.answer (.finish position request) = some (login watch.desk.user request watch.desk.clock).2 := by
  unfold Desk.answer
  dsimp only
  rw [found, Option.map_some, same]

theorem finish_step {position : Nat} {request : LoginRequest} {opened : OpenRequest}
    (found : watch.desk.requests[position]? = some opened) (same : opened.user = watch.desk.user) :
    watch.desk.step (.finish position request) =
      { watch.desk with
        user := watch.desk.user.updateAll (login watch.desk.user request watch.desk.clock).1
        requests := watch.desk.requests.eraseIdx position } := by
  unfold Desk.step
  dsimp only
  rw [found]
  dsimp only
  rw [same]

theorem Sound.below (sound : Sound watch) {timestep : Nat}
    (later : ∀ last, watch.desk.user.totpLastTimestep = some last → last < timestep) : ∀ earlier ∈ watch.accepted, earlier < timestep := by
  intro earlier member
  have ordered := sound.accepted
  have last := sound.last
  cases steps : watch.accepted with
  | nil =>
    rw [steps] at member
    cases member
  | cons newest rest =>
    rw [steps] at member ordered last
    have below := later newest last
    rcases List.mem_cons.mp member with rfl | older
    · exact below
    · exact Nat.lt_trans (List.rel_of_pairwise_cons ordered older) below

theorem Sound.ended (sound : Sound watch) {position : Nat} {after : User} {answer : LoginAnswer}
    (passed : ∀ lockedUntil, watch.desk.user.loginLockedUntil = some lockedUntil → lockedUntil ≤ watch.desk.clock)
    (ended : Ended watch.desk.user watch.desk.clock after answer) :
    Sound { watch.note (some answer) with
      desk := { watch.desk with user := after, requests := watch.desk.requests.eraseIdx position } } := by
  have counted := sound.counted
  have clean : (unlocked watch.desk.user).loginLockedUntil = none := unlocked_clean
  obtain ⟨locks, last, fails⟩ := @unlocked_totp watch.desk.user
  have since : ∀ opened ∈ watch.desk.requests.eraseIdx position, opened.since ≤ watch.desk.clock ∧
      ∀ lockedUntil, opened.user.loginLockedUntil = some lockedUntil → lockedUntil ≤ opened.since :=
    fun opened member => sound.since opened (List.mem_of_mem_eraseIdx member)
  have open_ := sound.passwords_open passed
  have quiet : Sound { watch with
      desk := { watch.desk with user := unlocked watch.desk.user, requests := watch.desk.requests.eraseIdx position } } := by
    refine ⟨sound.accepted, last.trans sound.last, .inl open_, fun _ => counted, ?_, ?_, fails.trans sound.wrongCodes, since⟩
    · intro locked
      dsimp only at locked
      rw [clean] at locked
      cases locked
    · dsimp only
      rw [locks]
      exact sound.codes
  cases ended with
  | codeMissing => exact quiet
  | codeLocked locked => exact quiet
  | replayed free => exact quiet
  | wrongPassword =>
    have row : (unlocked watch.desk.user).update (passwordFailed (unlocked watch.desk.user) watch.desk.clock) =
        { unlocked watch.desk.user with
          loginFailCount := watch.passwords.wrong + 1
          loginLockedUntil := if MAX_FAILURES ≤ watch.passwords.wrong + 1 then some (watch.desk.clock + LOCK) else none } := by
      rw [← counted]
      rfl
    rw [row]
    unfold Watch.note Guesses.fail
    dsimp only
    by_cases full : MAX_FAILURES ≤ watch.passwords.wrong + 1
    · simp only [if_pos full]
      refine ⟨sound.accepted, last.trans sound.last, .inr rfl, ?_, fun _ => rfl, locks ▸ sound.codes, fails.trans sound.wrongCodes, since⟩
      intro free
      cases free
    · simp only [if_neg full]
      refine ⟨sound.accepted, last.trans sound.last, .inl open_, fun _ => rfl, ?_, locks ▸ sound.codes, fails.trans sound.wrongCodes, since⟩
      intro locked
      cases locked
  | wrongCode free =>
    have codesOpen := sound.codes_open free
    unfold Watch.note Guesses.fail codeFailed
    dsimp only
    rw [sound.wrongCodes]
    by_cases full : MAX_FAILURES ≤ watch.codes.wrong + 1
    · simp only [if_pos full]
      exact ⟨sound.accepted, last.trans sound.last, .inl open_, fun _ => counted, quiet.begins, .inr rfl, rfl, since⟩
    · simp only [if_neg full]
      exact ⟨sound.accepted, last.trans sound.last, .inl open_, fun _ => counted, quiet.begins, .inl codesOpen, rfl, since⟩
  | signedInByCode free later =>
    refine ⟨List.pairwise_cons.mpr ⟨sound.below later, sound.accepted⟩, rfl, .inl open_, fun _ => rfl, ?_, .inl (sound.codes_open free), rfl, since⟩
    intro locked
    cases locked
  | signedIn =>
    refine ⟨sound.accepted, sound.last, .inl open_, fun _ => rfl, ?_, sound.codes, sound.wrongCodes, since⟩
    intro locked
    cases locked

theorem Sound.step (sound : Sound watch) (undisturbed : Undisturbed watch event) : Sound (watch.step event) := by
  cases event with
  | wait duration =>
    have later : watch.desk.clock ≤ watch.desk.clock + duration := Nat.le_add_right _ _
    exact ⟨sound.accepted, sound.last, sound.passwords.imp_left fun open_ => Nat.le_trans open_ later, sound.wrong, sound.begins,
      sound.codes.imp_left fun open_ => Nat.le_trans open_ later, sound.wrongCodes,
      fun opened member => ⟨Nat.le_trans (sound.since opened member).1 later, (sound.since opened member).2⟩⟩
  | load =>
    unfold Watch.step Desk.step Desk.answer
    dsimp only
    split
    · exact sound
    next free =>
      rw [Bool.not_eq_true] at free
      refine ⟨sound.accepted, sound.last, sound.passwords, sound.wrong, sound.begins, sound.codes, sound.wrongCodes, ?_⟩
      intro opened member
      rcases List.mem_append.mp member with old | new
      · exact sound.since opened old
      · cases List.mem_singleton.mp new
        exact ⟨Nat.le_refl _, isLocked_iff.mp free⟩
  | crash position =>
    exact ⟨sound.accepted, sound.last, sound.passwords, sound.wrong, sound.begins, sound.codes, sound.wrongCodes,
      fun opened member => sound.since opened (List.mem_of_mem_eraseIdx member)⟩
  | finish position request =>
    cases found : watch.desk.requests[position]? with
    | none =>
      have same : watch.step (.finish position request) = watch := by
        unfold Watch.step Desk.step Desk.answer
        dsimp only
        rw [found]
        rfl
      rw [same]
      exact sound
    | some opened =>
      have same := undisturbed opened found
      unfold Watch.step
      rw [finish_answer found same, finish_step found same]
      exact sound.ended (sound.open_ found same) login_ended

theorem Limits.quiet (kept : (watch.desk.step event).user = watch.desk.user)
    (unchecked : ∀ answer, watch.desk.answer event = some answer → answer = .accountLocked) : Limits watch event := by
  refine ⟨?_, ?_, ?_, ?_, ?_⟩
  · intro answer given checked
    cases unchecked answer given
    cases checked
  · intro answer given checked
    cases unchecked answer given
    cases checked
  · intro timestep given
    cases unchecked _ given
  · intro lockedUntil locked _
    exact .inl (kept ▸ locked)
  · intro lockedUntil locked _
    exact .inl (kept ▸ locked)

theorem Sound.limits (sound : Sound watch) (undisturbed : Undisturbed watch event) : Limits watch event := by
  cases event with
  | wait duration =>
    apply Limits.quiet rfl
    intro answer given
    cases given
  | crash position =>
    apply Limits.quiet rfl
    intro answer given
    cases given
  | load =>
    apply Limits.quiet
    · unfold Desk.step
      dsimp only
      split
      · rfl
      · rfl
    · intro answer given
      unfold Desk.answer at given
      dsimp only at given
      split at given
      · exact (Option.some.inj given).symm
      · cases given
  | finish position request =>
    cases found : watch.desk.requests[position]? with
    | none =>
      apply Limits.quiet
      · unfold Desk.step
        dsimp only
        rw [found]
      · intro answer given
        unfold Desk.answer at given
        dsimp only at given
        rw [found] at given
        cases given
    | some opened =>
      have same := undisturbed opened found
      have passed := sound.open_ found same
      have ended := @login_ended watch.desk.user request watch.desk.clock
      have answered := @finish_answer watch position request opened found same
      have row : (watch.desk.step (.finish position request)).user =
          watch.desk.user.updateAll (login watch.desk.user request watch.desk.clock).1 := by
        rw [finish_step found same]
      refine ⟨?_, ?_, ?_, ?_, ?_⟩
      · intro answer _ _
        exact sound.passwords_open passed
      · intro answer given checked
        cases answered.symm.trans given
        exact sound.codes_open (ended.codes checked)
      · intro timestep given
        have signedIn : (login watch.desk.user request watch.desk.clock).2 = .signedIn (some timestep) :=
          Option.some.inj (answered.symm.trans given)
        rw [signedIn] at ended
        exact sound.below ended.later
      · intro lockedUntil locked early
        exact absurd (passed lockedUntil locked) (Nat.not_le_of_lt early)
      · intro lockedUntil locked early
        rw [row]
        exact .inl (ended.totpLock locked early)

theorem Sound.start (totpEnabled : Bool) : Sound { desk := { user := { totpEnabled } } } := by
  refine ⟨List.Pairwise.nil, rfl, .inl (Nat.le_refl 0), fun _ => rfl, fun _ => rfl, .inl (Nat.le_refl 0), rfl, ?_⟩
  intro opened member
  cases member

end Steps

/-- In every run on an account in which each request ends on the row that it has loaded, the limits
hold at every event, and each accepted time step is later than the one before it. -/
theorem sign_in_limits (totpEnabled : Bool) (events : List SignInEvent)
    (undisturbed : Throughout Watch.step Undisturbed { desk := { user := { totpEnabled } } } events) :
    Throughout Watch.step Limits { desk := { user := { totpEnabled } } } events ∧
      (final Watch.step { desk := { user := { totpEnabled } } } events).accepted.Pairwise (· > ·) := by
  have kept : ∀ watch event, Undisturbed watch event → Sound watch → Sound (watch.step event) :=
    fun _ _ undisturbed sound => sound.step undisturbed
  constructor
  · exact undisturbed.carry kept (.start totpEnabled) fun _ _ undisturbed sound => sound.limits undisturbed
  · exact (undisturbed.invariant kept (.start totpEnabled)).accepted

/-- A person mistypes the password once, then signs in with the code of step 7. -/
theorem sign_in_limits_sample :
    Throughout Watch.step Limits { desk := { user := { totpEnabled := true } } }
      [.load, .finish 0 { passwordMatches := false }, .load, .finish 0 { passwordMatches := true, totpCode := some (some 7) }] ∧
    (final Watch.step { desk := { user := { totpEnabled := true } } }
      [.load, .finish 0 { passwordMatches := false }, .load,
        .finish 0 { passwordMatches := true, totpCode := some (some 7) }]).accepted.Pairwise (· > ·) := by
  apply sign_in_limits
  refine ⟨True.intro, ?_, True.intro, ?_, True.intro⟩
  · intro opened found
    cases found
    rfl
  · intro opened found
    cases found
    rfl

/-! Two requests with one code: both load the row before either writes it. -/

theorem one_code_signs_in_twice :
    ¬ Throughout Watch.step Limits { desk := { user := { totpEnabled := true } } }
      [.load, .load, .finish 0 { passwordMatches := true, totpCode := some (some 7) },
        .finish 0 { passwordMatches := true, totpCode := some (some 7) }] := by
  intro limits
  have second := limits.2.2.2.1.steps 7 rfl 7 List.mem_cons_self
  exact absurd second (Nat.lt_irrefl 7)

end Sprintable.Accounts
