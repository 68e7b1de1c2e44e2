import Sprintable.Basic
import Sprintable.Logic.Runs

/-! Sign-in requests of one account. A request loads the row, checks it, and writes absolute values
back; between its read and its write other requests run. -/

namespace Sprintable.Accounts

/-- The columns of the account that sign-in reads. -/
structure User where
  totpEnabled : Bool
  loginFailCount : Nat := 0
  loginLockedUntil : Option Nat := none
  totpLastTimestep : Option Nat := none
  totpFailCount : Nat := 0
  totpLockedUntil : Option Nat := none
  deriving DecidableEq, Repr

/-- The values of one UPDATE of the row. -/
structure UserUpdate where
  loginFailCount : Option Nat := none
  loginLockedUntil : Option (Option Nat) := none
  totpLastTimestep : Option Nat := none
  totpFailCount : Option Nat := none
  totpLockedUntil : Option (Option Nat) := none
  deriving DecidableEq, Repr

namespace User

def update (user : User) (values : UserUpdate) : User :=
  { user with
    loginFailCount := values.loginFailCount.getD user.loginFailCount
    loginLockedUntil := values.loginLockedUntil.getD user.loginLockedUntil
    totpLastTimestep := values.totpLastTimestep.or user.totpLastTimestep
    totpFailCount := values.totpFailCount.getD user.totpFailCount
    totpLockedUntil := values.totpLockedUntil.getD user.totpLockedUntil }

def updateAll (user : User) (updates : List UserUpdate) : User := updates.foldl update user

end User

/-- What a request brings, by what the verifications say of it: if the password is right, and of a code
that is given, the time step that it fits, if any. -/
structure LoginRequest where
  passwordMatches : Bool
  totpCode : Option (Option Nat) := none
  deriving DecidableEq, Repr

inductive LoginAnswer where
  | accountLocked | invalidCredentials | totpRequired | totpLocked | invalidTotp | totpReplayed
  | signedIn (timestep : Option Nat)
  deriving DecidableEq, Repr

def MAX_FAILURES : Nat := 5

def LOCK : Nat := minutes 5

def isLocked (lockedUntil : Option Nat) (now : Nat) : Bool := lockedUntil.any fun moment => decide (now < moment)

def noFailures : UserUpdate := { loginFailCount := some 0, loginLockedUntil := some none }

def lockPassed (user : User) : List UserUpdate := if user.loginLockedUntil.isSome then [noFailures] else []

def passwordFailed (user : User) (now : Nat) : UserUpdate :=
  { loginFailCount := some (user.loginFailCount + 1)
    loginLockedUntil := some (if MAX_FAILURES ≤ user.loginFailCount + 1 then some (now + LOCK) else none) }

def codeFailed (user : User) (now : Nat) : UserUpdate :=
  if MAX_FAILURES ≤ user.totpFailCount + 1 then { totpFailCount := some 0, totpLockedUntil := some (some (now + LOCK)) }
  else { totpFailCount := some (user.totpFailCount + 1) }

def codeAccepted (timestep : Nat) : UserUpdate :=
  { totpLastTimestep := some timestep, totpFailCount := some 0, totpLockedUntil := some none }

def failuresForgotten (user : User) : List UserUpdate :=
  if user.loginFailCount ≠ 0 ∨ user.loginLockedUntil.isSome then [noFailures] else []

/-- The second factor, on the columns that the session holds. -/
def checkCode (user : User) (request : LoginRequest) (now : Nat) : List UserUpdate × LoginAnswer :=
  match request.totpCode with
  | none => ([], .totpRequired)
  | some code =>
    if isLocked user.totpLockedUntil now then ([], .totpLocked)
    else match code with
    | none => ([codeFailed user now], .invalidTotp)
    | some timestep =>
      if user.totpLastTimestep.any fun last => decide (timestep ≤ last) then ([], .totpReplayed)
      else (codeAccepted timestep :: failuresForgotten user, .signedIn (some timestep))

/-- `login`, after the lock check: what it writes, and what it answers. An update refreshes the object
that the session holds. -/
def login (loaded : User) (request : LoginRequest) (now : Nat) : List UserUpdate × LoginAnswer :=
  let user := loaded.updateAll (lockPassed loaded)
  if request.passwordMatches = false then (lockPassed loaded ++ [passwordFailed user now], .invalidCredentials)
  else if user.totpEnabled then
    let (updates, answer) := checkCode user request now
    (lockPassed loaded ++ updates, answer)
  else (lockPassed loaded ++ failuresForgotten user, .signedIn none)

/-- A request that has loaded the row and has passed the lock check. -/
structure OpenRequest where
  user : User
  since : Nat
  deriving DecidableEq, Repr

structure Desk where
  clock : Nat := 0
  user : User
  requests : List OpenRequest := []
  deriving DecidableEq, Repr

inductive SignInEvent where
  | wait (duration : Nat)
  | load
  | finish (position : Nat) (request : LoginRequest)
  | crash (position : Nat)
  deriving DecidableEq, Repr

namespace Desk
variable (desk : Desk)

def answer : SignInEvent → Option LoginAnswer
  | .load => if isLocked desk.user.loginLockedUntil desk.clock then some .accountLocked else none
  | .finish position request => (desk.requests[position]?).map fun opened => (login opened.user request desk.clock).2
  | _ => none

def step (desk : Desk) : SignInEvent → Desk
  | .wait duration => { desk with clock := desk.clock + duration }
  | .load =>
    if isLocked desk.user.loginLockedUntil desk.clock then desk
    else { desk with requests := desk.requests ++ [{ user := desk.user, since := desk.clock }] }
  | .finish position request =>
    match desk.requests[position]? with
    | none => desk
    | some opened =>
      { desk with
        user := desk.user.updateAll (login opened.user request desk.clock).1
        requests := desk.requests.eraseIdx position }
  | .crash position => { desk with requests := desk.requests.eraseIdx position }

end Desk

end Sprintable.Accounts
