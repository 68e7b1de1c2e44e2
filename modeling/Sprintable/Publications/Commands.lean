import Sprintable.Basic
import Sprintable.Logic.PyText

/-! The publication command row, the classification of failure codes, and what
one failure writes on the row. -/

namespace Sprintable.Publications

inductive CommandStatus where
  | pending | inProgress | completed | deadLetter | voided | blocked | blockedUnapproved | cancelled
  deriving DecidableEq, Repr

inductive FailureKind where
  | connection | needsCheck | transient | notSent | paused
  deriving DecidableEq, Repr

inductive ContentKind where
  | channelPost | sitePost | commentReply | adsBoost | newsletterSend
  deriving DecidableEq, Repr

inductive StopNotice where
  | pending | sent
  deriving DecidableEq, Repr

/-- A worker request. Its host stops running it at the deadline. -/
structure Worker where
  index : Nat
  deadline : Nat
  deriving DecidableEq, Repr

/-- The columns of a command. `holder` is not a column: it names the worker that
claimed the row and has not let go of it, and no function reads it. -/
structure Command where
  id : Uuid
  orgId : Uuid
  gateId : Uuid
  destination : Uuid
  approvedVersion : Uuid
  operation : String := "publish"
  toggleSeq : Nat := 0
  contentKind : ContentKind := .channelPost
  requestedByMemberId : Uuid
  scheduledAt : Option Nat := none
  status : CommandStatus := .pending
  attemptCount : Nat := 0
  nextAttemptAt : Option Nat := none
  claimedAt : Option Nat := none
  providerCallStartedAt : Option Nat := none
  failureKind : Option FailureKind := none
  reasonCode : Option String := none
  reasonResetAt : Option Nat := none
  lastError : Option String := none
  deadLetterAt : Option Nat := none
  stopNoticeState : Option StopNotice := none
  updatedAt : Nat
  holder : Option Worker := none
  deriving DecidableEq, Repr

def connectionBlockedCodes : List String :=
  ["CHANNEL_TOKEN_EXPIRED", "CHANNEL_CONNECTION_NOT_ACTIVE", "CHANNEL_PUBLISH_AUTH_REJECTED",
    "CHANNEL_CONNECTION_REVOKED", "CHANNEL_CONNECTION_AUTH_ERROR", "GHOST_AUTH_FAILED"]

def needsCheckCodes : List String :=
  ["CHANNEL_PUBLISH_IN_PROGRESS", "CHANNEL_IMAGE_CONTAINER_FAILED", "ADS_BOOST_CREATED_BUDGET_DIFFERS"]

def preCallErrorCode : String := "PUBLICATION_COMMAND_PRE_CALL_ERROR"

def retrySafeCodes : List String :=
  ["THREADS_CREATE_CONTAINER_FAILED", "THREADS_CREATE_CONTAINER_MISSING_ID", "THREADS_CONTAINER_STATUS_FAILED",
    "THREADS_CONTAINER_STATUS_MISSING_FIELD", "THREADS_PUBLISHING_LIMIT_FAILED",
    "THREADS_PUBLISHING_LIMIT_MISSING_FIELDS", "THREADS_REPLY_CREATE_CONTAINER_FAILED",
    "THREADS_REPLY_CREATE_CONTAINER_MISSING_ID", "INSTAGRAM_CREATE_CONTAINER_FAILED",
    "INSTAGRAM_CREATE_CONTAINER_MISSING_ID", "INSTAGRAM_CREATE_CAROUSEL_CHILD_FAILED",
    "INSTAGRAM_CREATE_CAROUSEL_CHILD_MISSING_ID", "INSTAGRAM_CREATE_CAROUSEL_PARENT_FAILED",
    "INSTAGRAM_CREATE_CAROUSEL_PARENT_MISSING_ID", "INSTAGRAM_CREATE_REELS_CONTAINER_FAILED",
    "INSTAGRAM_CREATE_REELS_CONTAINER_MISSING_ID", "INSTAGRAM_CONTAINER_STATUS_FAILED",
    "INSTAGRAM_CONTAINER_STATUS_MISSING_FIELD", "INSTAGRAM_PUBLISHING_LIMIT_FAILED",
    "INSTAGRAM_PUBLISHING_LIMIT_MISSING_FIELDS", "FACEBOOK_CREATE_CAROUSEL_CHILD_FAILED",
    "FACEBOOK_CREATE_CAROUSEL_CHILD_MISSING_ID", "FACEBOOK_REELS_START_FAILED",
    "FACEBOOK_REELS_START_MISSING_FIELDS", "FACEBOOK_REELS_UPLOAD_FAILED", "X_MEDIA_INIT_FAILED",
    "X_MEDIA_INIT_MISSING_ID", "X_MEDIA_APPEND_FAILED", "X_MEDIA_FINALIZE_FAILED", "X_MEDIA_STATUS_FAILED",
    "YOUTUBE_UPLOAD_SESSION_INIT_FAILED", "YOUTUBE_UPLOAD_SESSION_MISSING_LOCATION",
    "THREADS_DELETE_MEDIA_FAILED", "FACEBOOK_DELETE_POST_FAILED", "SANDBOX_PROVIDER_ERROR",
    "SANDBOX_INSTAGRAM_PROVIDER_ERROR", "SANDBOX_FACEBOOK_CAROUSEL_CHILD_FAILED",
    "SANDBOX_INSTAGRAM_CAROUSEL_CHILD_FAILED", "META_ADS_ACCOUNT_READ_FAILED"]

def transientCodes : List String :=
  ["CHANNEL_PUBLISH_PROVIDER_ERROR", "CHANNEL_RATE_LIMITED", preCallErrorCode, "ADS_BOOST_CREATE_IN_PROGRESS"] ++
    retrySafeCodes

def notSentCodes : List String :=
  ["YOUTUBE_UPLOAD_PREP_TIMEOUT", "NEWSLETTER_SEND_CONNECTION_UNAVAILABLE", "NEWSLETTER_SEND_CHANNEL_UNSUPPORTED",
    "CHANNEL_POST_DRAFT_NOT_FOUND", "CHANNEL_TEXT_TOO_LONG", "SITE_POST_SEAL_MISSING", "YOUTUBE_QUOTA_EXCEEDED",
    "YOUTUBE_METADATA_INVALID", "EXTERNAL_PUBLISH_APPROVAL_REQUIRED", "GENERATION_BUDGET_EXCEEDED",
    "API_USAGE_BUDGET_EXCEEDED", "CHANNEL_THREAD_UNSUPPORTED", "CHANNEL_THREAD_SEGMENT_LIMIT_EXCEEDED",
    "CHANNEL_THREAD_SEGMENT_TOO_LONG", "INSTAGRAM_IMAGE_REQUIRED", "INSTAGRAM_REELS_VIDEO_REQUIRED",
    "FACEBOOK_REELS_VIDEO_REQUIRED", "CHANNEL_REELS_UNSUPPORTED", "CHANNEL_CAROUSEL_UNSUPPORTED",
    "YOUTUBE_IMAGE_CONTAINER_UNSUPPORTED", "X_MEDIA_SOURCE_FETCH_FAILED", "YOUTUBE_VIDEO_SOURCE_FETCH_FAILED",
    "STIBEE_CONNECTION_INCOMPLETE", "STIBEE_PLAN_RESTRICTED", "STIBEE_SENDER_NOT_VERIFIED",
    "SITE_POST_DESTINATION_INSECURE", "SITE_POST_DRAFT_NOT_FOUND", "SITE_POST_NOT_PUBLISHED",
    "COMMENT_REPLY_NOT_FOUND", "COMMENT_NOT_FOUND", "ADS_BOOST_NOT_STARTED_AT_PROVIDER",
    "META_ADS_CAMPAIGN_CREATE_FAILED", "META_ADS_CAMPAIGN_CREATE_MISSING_FIELD", "META_ADS_ADSET_CREATE_FAILED",
    "META_ADS_ADSET_CREATE_MISSING_FIELD", "META_ADS_AD_CREATE_FAILED", "META_ADS_AD_CREATE_MISSING_FIELD"]

def maybeSentCodes : List String :=
  ["FACEBOOK_CREATE_POST_MISSING_ID", "X_POST_TWEET_MISSING_ID", "YOUTUBE_UPLOAD_MISSING_VIDEO_ID",
    "THREADS_PUBLISH_CONTAINER_MISSING_ID", "INSTAGRAM_PUBLISH_CONTAINER_MISSING_ID", "INSTAGRAM_REPLY_MISSING_ID",
    "FACEBOOK_REPLY_MISSING_ID", "FACEBOOK_CREATE_CAROUSEL_PARENT_MISSING_ID", "THREADS_PUBLISH_CONTAINER_FAILED",
    "INSTAGRAM_PUBLISH_CONTAINER_FAILED", "FACEBOOK_CREATE_POST_FAILED", "FACEBOOK_CREATE_CAROUSEL_PARENT_FAILED",
    "FACEBOOK_REELS_FINISH_FAILED", "X_POST_TWEET_FAILED", "YOUTUBE_UPLOAD_PUT_FAILED", "FACEBOOK_REPLY_FAILED",
    "INSTAGRAM_REPLY_FAILED", "STIBEE_PUBLISH_PROVIDER_ERROR", "SITE_POST_PROVIDER_ERROR",
    "YOUTUBE_VIDEO_STATUS_FAILED", "YOUTUBE_UPLOAD_PUT_TIMEOUT"]

/-- An unknown or missing code is classified as possibly sent. -/
def classifyFailureKind : Option String → FailureKind
  | none => .needsCheck
  | some code =>
    if connectionBlockedCodes.contains code then .connection
    else if transientCodes.contains code then .transient
    else if needsCheckCodes.contains code || maybeSentCodes.contains code then .needsCheck
    else if notSentCodes.contains code then .notSent
    else .needsCheck

def providerErrorCode (providerCode : Option String) : String :=
  if PyText.truthy providerCode then providerCode.getD "" else "CHANNEL_PUBLISH_PROVIDER_CODE_MISSING"

def maxRetries : Nat := 5

def computeNextAttemptAt (attemptCount : Nat) (now : Nat) (retryAfterSeconds : Option Nat) : Nat :=
  match retryAfterSeconds with
  | some wait => if 0 < wait then now + seconds wait else now + seconds (60 * 2 ^ attemptCount)
  | none => now + seconds (60 * 2 ^ attemptCount)

def newsletterHumanRetryableBlockCodes : List String := ["NEWSLETTER_SEND_CONNECTION_UNAVAILABLE"]

/-- `text[:2000]`. -/
def clip (text : String) : String := String.ofList (text.toList.take 2000)

namespace Command

def newsletterRetryable (command : Command) : Bool :=
  command.status == .blockedUnapproved && command.contentKind == .newsletterSend &&
    newsletterHumanRetryableBlockCodes.contains (command.reasonCode.getD "")

def awaitsStopNotice (command : Command) : Bool :=
  command.status == .deadLetter || (command.status == .blocked && command.failureKind == some .connection) ||
    command.newsletterRetryable

def markStopNotice (command : Command) : Command :=
  if command.awaitsStopNotice then { command with stopNoticeState := some .pending } else command

def humanRetryable (command : Command) : Bool :=
  if command.status == .blocked && command.failureKind == some .paused then false
  else if command.status == .deadLetter || command.status == .blocked then true
  else command.newsletterRetryable

def markBlockedUnapproved (command : Command) (reasonCode lastError : String) : Command :=
  { command with
    status := .blockedUnapproved
    reasonCode := some reasonCode
    failureKind := none
    nextAttemptAt := none
    lastError := some (clip lastError) }

/-- Give up until a person acts. -/
def deadLetter (command : Command) (now : Nat) : Command :=
  { command with status := .deadLetter, deadLetterAt := some now, nextAttemptAt := none }.markStopNotice

/-- Only a transient failure goes back to the queue, and at most `maxRetries` times. -/
def applyFailure (command : Command) (errorCode lastError : Option String) (now : Nat)
    (retryAfterSeconds : Option Nat) (reasonResetAt : Option Nat) : Command :=
  let failureKind := classifyFailureKind errorCode
  let recorded := { command with
    lastError := (lastError.filter (· ≠ "")).map clip
    failureKind := some failureKind
    reasonCode := errorCode
    reasonResetAt := reasonResetAt }
  match failureKind with
  | .connection => { recorded with status := .blocked }.markStopNotice
  | .needsCheck | .notSent | .paused => { recorded with attemptCount := command.attemptCount + 1 }.deadLetter now
  | .transient =>
    let attempt := command.attemptCount + 1
    if maxRetries ≤ attempt then { recorded with attemptCount := attempt }.deadLetter now
    else { recorded with
      attemptCount := attempt
      status := .pending
      nextAttemptAt := some (computeNextAttemptAt attempt now retryAfterSeconds) }

def requeue (command : Command) : Command :=
  { command with
    status := .pending
    nextAttemptAt := none
    deadLetterAt := none
    stopNoticeState := none
    lastError := none
    failureKind := none }

/-- The row after an immediate publish by a person; a running, finished or voided
command is left alone. -/
def requeueForHumanPublish (command : Command) : Command :=
  if command.status == .completed || command.status == .voided || command.status == .inProgress then command
  else if command.deadLetterAt.isSome || command.failureKind.isSome || command.lastError.isSome then command.requeue
  else { command with status := .pending, nextAttemptAt := none }

section Fields
variable (command : Command)

@[simp] theorem markStopNotice_id : command.markStopNotice.id = command.id := by
  unfold markStopNotice
  split <;> rfl

@[simp] theorem markStopNotice_status : command.markStopNotice.status = command.status := by
  unfold markStopNotice
  split <;> rfl

@[simp] theorem markStopNotice_failureKind : command.markStopNotice.failureKind = command.failureKind := by
  unfold markStopNotice
  split <;> rfl

@[simp] theorem markStopNotice_holder : command.markStopNotice.holder = command.holder := by
  unfold markStopNotice
  split <;> rfl

end Fields

/-- What a failure leaves: the row is stopped, or it is pending again after a
transient code. A stopped row never carries the pause kind. -/
theorem applyFailure_cases (command : Command) (errorCode lastError : Option String) (now : Nat)
    (retryAfterSeconds : Option Nat) (reasonResetAt : Option Nat) :
    let failed := command.applyFailure errorCode lastError now retryAfterSeconds reasonResetAt
    failed.id = command.id ∧ failed.holder = command.holder ∧ failed.failureKind ≠ some .paused ∧
      (failed.status = .blocked ∨ failed.status = .deadLetter ∨
        failed.status = .pending ∧ classifyFailureKind errorCode = .transient) := by
  have kind : classifyFailureKind errorCode ≠ .paused := by
    unfold classifyFailureKind
    repeat' split
    all_goals simp
  unfold applyFailure
  cases classified : classifyFailureKind errorCode with
  | connection => simp
  | needsCheck | notSent => simp [deadLetter]
  | paused => exact absurd classified kind
  | transient =>
    dsimp only
    split <;> simp [deadLetter]

@[simp] theorem applyFailure_id (command : Command) (errorCode lastError : Option String) (now : Nat)
    (retryAfterSeconds reasonResetAt : Option Nat) :
    (command.applyFailure errorCode lastError now retryAfterSeconds reasonResetAt).id = command.id :=
  (command.applyFailure_cases errorCode lastError now retryAfterSeconds reasonResetAt).1

end Command

end Sprintable.Publications
