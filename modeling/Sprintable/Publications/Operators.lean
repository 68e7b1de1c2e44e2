import Sprintable.Publications.WorkerSafety

/-! What people and the recipe automation do to commands beside the worker: the
publish button with its check before the call, the automatic publication after an
approval, and the two cancellations. -/

namespace Sprintable.Publications
open Interleave

inductive Refusal where
  | draftNotFound | gateNotApproved | paused | reapprovalRequired
  | budgetExceeded (apiUsageRule : Bool)
  | youtubeQuotaExceeded (resetAt : Nat)
  | textTooLong | youtubeMetadataInvalid | sealMissing
  | threadRefused (code : String)
  | connectionNotActive | connectionRevoked | connectionAuthError | tokenExpired
  deriving DecidableEq, Repr

namespace Refusal

/-- The error code of the refusals that are written as failures. -/
def code? : Refusal → Option String
  | .gateNotApproved | .paused | .reapprovalRequired | .budgetExceeded _ => none
  | .draftNotFound => some "CHANNEL_POST_DRAFT_NOT_FOUND"
  | .youtubeQuotaExceeded _ => some "YOUTUBE_QUOTA_EXCEEDED"
  | .textTooLong => some "CHANNEL_TEXT_TOO_LONG"
  | .youtubeMetadataInvalid => some "YOUTUBE_METADATA_INVALID"
  | .sealMissing => some "SITE_POST_SEAL_MISSING"
  | .threadRefused code => some code
  | .connectionNotActive => some "CHANNEL_CONNECTION_NOT_ACTIVE"
  | .connectionRevoked => some "CHANNEL_CONNECTION_REVOKED"
  | .connectionAuthError => some "CHANNEL_CONNECTION_AUTH_ERROR"
  | .tokenExpired => some "CHANNEL_TOKEN_EXPIRED"

def resetAt : Refusal → Option Nat
  | .youtubeQuotaExceeded resetAt => some resetAt
  | _ => none

/-- The refusal gives the command up, as an earlier failure has done already. -/
def givesUp (refusal : Refusal) : Bool :=
  refusal.code?.any fun code =>
    classifyFailureKind (some code) == .needsCheck || classifyFailureKind (some code) == .notSent

end Refusal

def Command.refuse (command : Command) (refusal : Refusal) (message : String) (now : Nat) : Command :=
  match refusal with
  | .gateNotApproved => command.markBlockedUnapproved "EXTERNAL_PUBLISH_APPROVAL_REQUIRED" message
  | .budgetExceeded apiUsageRule =>
    command.markBlockedUnapproved (if apiUsageRule then "API_USAGE_BUDGET_EXCEEDED" else "GENERATION_BUDGET_EXCEEDED") message
  | .paused => { command with status := .blocked, failureKind := some .paused, lastError := some (clip message) }
  | .reapprovalRequired =>
    { command with status := .voided, reasonCode := some "CONTENT_CHANGED", lastError := some (clip message) }
  | failure => command.applyFailure failure.code? (some message) now none failure.resetAt

namespace Store

/-- A person publishes now. `stands` tells whether the version is still published.
The check before the call refuses on the row as it is, and nothing comes between
the press's read of the row and its write. -/
def publishNow (store : Store) (id : Uuid) (stands : Bool) (refusal : Option Refusal) (message : String) : Store :=
  match store.find id with
  | none => store
  | some command =>
    if command.failureKind = some .needsCheck ∨ command.status = .voided ∨ (command.status = .completed ∧ stands) then store
    else
      match refusal with
      | some reason => store.commit (command.refuse reason message store.now) [.humanRetry id]
      | none => store.humanPublish id

def autoPublish (store : Store) (id : Uuid) : Store :=
  match store.find id with
  | none => store
  | some command => if command.failureKind = some .needsCheck then store else store.humanPublish id

def cancellableCommandStatuses : List CommandStatus := [.pending, .blocked, .deadLetter]

def cancelScheduled (store : Store) (id : Uuid) : Store :=
  match store.find id with
  | none => store
  | some command =>
    if command.status ∈ cancellableCommandStatuses then
      store.commit { command with status := .cancelled, reasonCode := some "CANCELLED_BY_HUMAN" } []
    else store

/-- The way out of a publication that nothing has claimed yet. -/
def cancelUnstarted (store : Store) (id : Uuid) : Store :=
  match store.find id with
  | none => store
  | some command =>
    if command.status = .pending ∧ command.claimedAt = none ∧ command.providerCallStartedAt = none then
      store.commit { command with
        status := .cancelled
        reasonCode := some "CANCELLED_BY_HUMAN"
        lastError := none
        nextAttemptAt := none } []
    else store

end Store

inductive Operation where
  | outside (event : Outside)
  | publishNow (id : Uuid) (stands : Bool) (refusal : Option Refusal) (message : String)
  | autoPublish (id : Uuid)
  | cancelScheduled (id : Uuid)
  | cancelUnstarted (id : Uuid)

namespace Operation

def act (store : Store) : Operation → Store
  | .outside event => event.act store
  | .publishNow id stands refusal message => store.publishNow id stands refusal message
  | .autoPublish id => store.autoPublish id
  | .cancelScheduled id => store.cancelScheduled id
  | .cancelUnstarted id => store.cancelUnstarted id

def row (store : Store) (id : Uuid) (condition : Command → Bool) : Bool := (store.find id).all condition

/-- The check before the call refuses a command that nobody runs and that no
earlier step has ended; a given up command is given up again. -/
def refusable (command : Command) (refusal : Refusal) : Bool :=
  command.status == .pending || command.status == .blocked || command.status == .blockedUnapproved ||
    (command.status == .deadLetter && refusal.givesUp)

/-- A command that was cancelled is not published, one that was given up is not
cancelled, and a refusal finds a row that it may end. -/
def sound (store : Store) : Operation → Bool
  | .outside (.humanPublish id) => row store id fun command => command.status != .cancelled
  | .outside _ | .cancelUnstarted _ => true
  | .autoPublish id => row store id fun command => command.status != .cancelled
  | .cancelScheduled id => row store id fun command => command.status != .deadLetter
  | .publishNow id stands refusal _ => row store id fun command =>
    command.failureKind == some .needsCheck || command.status == .voided || (command.status == .completed && stands) ||
      match refusal with
      | some reason => refusable command reason
      | none => command.status != .cancelled

end Operation

def commandHost (deployment : Deployment) : Host Answer Store Nat Operation where
  launch := (workerHost deployment).launch
  outside operation store := operation.act store

end Sprintable.Publications
