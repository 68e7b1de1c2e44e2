import Sprintable.Publications.Commands

/-! What each content kind makes of its provider call: the exceptions of a
processor, and the way it ends the command. -/

namespace Sprintable.Publications

/-- How a processor ends the command it was given; a sent letter does not clear what an earlier failure wrote.
An escaped exception reaches the batch loop, with the in-memory mark that a provider write was made. -/
inductive Outcome where
  | completed (clears : Bool)
  | containerCreated
  | voided (reasonCode : String) (lastError : Option String)
  | blockedUnapproved (reasonCode lastError : String)
  | stoppedUnapproved (reasonCode lastError : String)
  | paused (reason : Option String)
  | failed (errorCode lastError : Option String) (retryAfterSeconds : Option Nat) (reasonResetAt : Option Nat)
  | escaped (providerCalled : Bool)
  deriving DecidableEq, Repr

/-- A failure without retry hints. -/
def Outcome.failure (errorCode lastError : String) : Outcome :=
  .failed (some errorCode) (some lastError) none none

/-- An exception outside the processor's list: nothing was sent when no provider
write is marked, otherwise nobody knows. -/
def unclassified (providerCallMarked : Bool) (message : String) : Outcome :=
  .failed (if providerCallMarked then none else some preCallErrorCode) (some message) none none

/-- The code of a provider that names a time to wait. -/
def rateLimitedCode : String := "CHANNEL_RATE_LIMITED"

/-- Only that provider's failures carry a time to wait. -/
def Outcome.Hinted : Outcome → Prop
  | .failed errorCode _ (some _) _ => errorCode = some rateLimitedCode
  | _ => True

inductive ChannelPostResult where
  | published
  | notYetPublished
  | imageContainerFailed | reapprovalRequired | draftNotFound | gateNotApproved
  | generationBudgetExceeded (apiUsageRule : Bool)
  | youtubeQuotaExceeded (resetAt : Nat)
  | sealMissing | textTooLong | connectionNotActive | connectionRevoked | connectionAuthError | tokenExpired
  | rateLimited (resetAt : Nat)
  | providerError (providerCode : Option String)
  | youtubeMetadataInvalid
  | threadRefused (code : String)
  | publishInProgress
  | paused (reason : Option String)
  | other (providerCallMarked : Bool)
  deriving DecidableEq, Repr

def channelPostOutcome (now : Nat) (message : String) : ChannelPostResult → Outcome
  | .published => .completed true
  | .notYetPublished => .containerCreated
  | .imageContainerFailed => .failure "CHANNEL_IMAGE_CONTAINER_FAILED" message
  | .reapprovalRequired => .voided "CONTENT_CHANGED" (some message)
  | .draftNotFound => .failure "CHANNEL_POST_DRAFT_NOT_FOUND" message
  | .gateNotApproved => .blockedUnapproved "EXTERNAL_PUBLISH_APPROVAL_REQUIRED" message
  | .generationBudgetExceeded apiUsageRule =>
    .blockedUnapproved (if apiUsageRule then "API_USAGE_BUDGET_EXCEEDED" else "GENERATION_BUDGET_EXCEEDED") message
  | .youtubeQuotaExceeded resetAt => .failed (some "YOUTUBE_QUOTA_EXCEEDED") (some message) none (some resetAt)
  | .sealMissing => .failure "SITE_POST_SEAL_MISSING" message
  | .textTooLong => .failure "CHANNEL_TEXT_TOO_LONG" message
  | .connectionNotActive => .failure "CHANNEL_CONNECTION_NOT_ACTIVE" message
  | .connectionRevoked => .failure "CHANNEL_CONNECTION_REVOKED" message
  | .connectionAuthError => .failure "CHANNEL_CONNECTION_AUTH_ERROR" message
  | .tokenExpired => .failure "CHANNEL_TOKEN_EXPIRED" message
  | .rateLimited resetAt =>
    .failed (some "CHANNEL_RATE_LIMITED") (some message) (some ((resetAt - now) / seconds 1)) none
  | .providerError providerCode => .failure (providerErrorCode providerCode) message
  | .youtubeMetadataInvalid => .failure "YOUTUBE_METADATA_INVALID" message
  | .threadRefused code => .failure code message
  | .publishInProgress => .failure "CHANNEL_PUBLISH_IN_PROGRESS" message
  | .paused reason => .paused reason
  | .other providerCallMarked => unclassified providerCallMarked message

inductive SitePostResult where
  | done
  | paused (reason : Option String)
  | publishError (errorCode : String)
  | other (providerCallMarked : Bool)
  deriving DecidableEq, Repr

/-- Publishing errors of the approval check stop the command for good. -/
def sitePostOutcome (message : String) : SitePostResult → Outcome
  | .done => .completed true
  | .paused reason => .paused reason
  | .publishError errorCode =>
    if errorCode = "EXTERNAL_PUBLISH_APPROVAL_REQUIRED" ∨ errorCode = "GENERATION_BUDGET_EXCEEDED" then
      .blockedUnapproved errorCode message
    else if errorCode = "SITE_POST_REAPPROVAL_REQUIRED" ∨ errorCode = "API_USAGE_BUDGET_EXCEEDED" then
      .voided "CONTENT_CHANGED" (some message)
    else .failure errorCode message
  | .other providerCallMarked => unclassified providerCallMarked message

inductive CommentReplyResult where
  | sent
  | replyNotFound | notApprovedOrResealed | commentNotFound | targetDeleted
  | connectionNotActive
  | providerError (statusCode : Nat) (code : Option String)
  | other (providerCallMarked : Bool)
  deriving DecidableEq, Repr

def commentReplyOutcome (message : String) : CommentReplyResult → Outcome
  | .sent => .completed true
  | .replyNotFound => .failure "COMMENT_REPLY_NOT_FOUND" "답변 기록을 찾을 수 없습니다"
  | .notApprovedOrResealed => .voided "GATE_NOT_APPROVED_OR_RESEALED" none
  | .commentNotFound => .failure "COMMENT_NOT_FOUND" "대상 댓글을 찾을 수 없습니다"
  | .targetDeleted => .voided "TARGET_COMMENT_DELETED" none
  | .connectionNotActive => .failure "CHANNEL_CONNECTION_NOT_ACTIVE" message
  | .providerError statusCode code =>
    if statusCode = 401 ∨ statusCode = 403 then .failure "CHANNEL_TOKEN_EXPIRED" message
    else if statusCode = 429 then .failure "CHANNEL_RATE_LIMITED" message
    else .failure (providerErrorCode code) message
  | .other providerCallMarked => unclassified providerCallMarked message

inductive AdsBoostResult where
  | done
  | contextUnavailable (code : String)
  | refusedBeforeCall (code : String)
  | failed (code : Option String) (providerCallMarked : Bool)
  deriving DecidableEq, Repr

def adsBoostOutcome (message : String) : AdsBoostResult → Outcome
  | .done => .completed true
  | .contextUnavailable code => .blockedUnapproved code message
  | .refusedBeforeCall code => .blockedUnapproved code message
  | .failed code providerCallMarked =>
    let fallback := if providerCallMarked then "ADS_BOOST_PROVIDER_ERROR" else preCallErrorCode
    .failure (if PyText.truthy code then code.getD "" else fallback) message

inductive NewsletterResult where
  | sent
  | contextUnavailable (code : String)
  | connectionUnavailable
  | channelUnsupported
  | providerError (planRestricted : Bool)
  | escaped (providerCallMarked : Bool)
  deriving DecidableEq, Repr

def newsletterOutcome (message : String) : NewsletterResult → Outcome
  | .sent => .completed false
  | .contextUnavailable code => .stoppedUnapproved code message
  | .connectionUnavailable => .failure "NEWSLETTER_SEND_CONNECTION_UNAVAILABLE" message
  | .channelUnsupported => .failure "NEWSLETTER_SEND_CHANNEL_UNSUPPORTED" message
  | .providerError planRestricted =>
    .failure (if planRestricted then "STIBEE_PLAN_RESTRICTED" else "NEWSLETTER_SEND_PROVIDER_ERROR") message
  | .escaped providerCallMarked => .escaped providerCallMarked

theorem channel_post_hinted (now : Nat) (message : String) (result : ChannelPostResult) :
    (channelPostOutcome now message result).Hinted := by
  cases result with
  | rateLimited resetAt => exact rfl
  | _ => exact True.intro

theorem site_post_hinted (message : String) (result : SitePostResult) : (sitePostOutcome message result).Hinted := by
  cases result with
  | publishError errorCode =>
    simp only [sitePostOutcome]
    split
    · exact True.intro
    · split <;> exact True.intro
  | _ => exact True.intro

theorem comment_reply_hinted (message : String) (result : CommentReplyResult) :
    (commentReplyOutcome message result).Hinted := by
  cases result with
  | providerError statusCode code =>
    simp only [commentReplyOutcome]
    split
    · exact True.intro
    · split <;> exact True.intro
  | _ => exact True.intro

theorem ads_boost_hinted (message : String) (result : AdsBoostResult) : (adsBoostOutcome message result).Hinted := by
  cases result <;> exact True.intro

theorem newsletter_hinted (message : String) (result : NewsletterResult) : (newsletterOutcome message result).Hinted := by
  cases result <;> exact True.intro

end Sprintable.Publications
