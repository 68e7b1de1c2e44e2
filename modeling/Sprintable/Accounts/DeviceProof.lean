import Sprintable.Basic
import Sprintable.Logic.Json
import Sprintable.Logic.JsonText
import Sprintable.Logic.PyText
import Sprintable.Logic.SingleUse

/-! Challenges for device proofs. The server builds the transcript that a device signs and stores a row for
it, without the nonce; a device sends the transcript back, and what it sends is bound to the row. -/

namespace Sprintable.Accounts

open JsonText (Scalar)

def TRANSCRIPT_VERSION : String := "SP_DEVICE_PROOF_V1"

structure TranscriptContext where
  purpose : String
  challengeId : String
  rawNonce : String
  userId : String
  firebaseUid : String
  projectId : String
  tenantId : Option String
  environment : String
  platform : String
  appId : String
  installationId : Option String
  keyVersion : Option Int
  httpMethod : String
  route : String
  webOrigin : String
  bodySha256 : Option String
  bootstrapCodeSha256 : Option String := none
  deriving DecidableEq, Repr

def textOrNull (value : Option String) : Scalar := value.elim .null .text

def numberOrNull (value : Option Int) : Scalar := value.elim .null .number

/-- Only the transcript of a redemption has a member for the bootstrap code. -/
def TranscriptContext.payload (context : TranscriptContext) : List (String × Scalar) :=
  [("v", .text TRANSCRIPT_VERSION),
    ("purpose", .text context.purpose),
    ("challenge_id", .text context.challengeId),
    ("nonce", .text context.rawNonce),
    ("user_id", .text context.userId),
    ("firebase_uid", .text context.firebaseUid),
    ("project_id", .text context.projectId),
    ("tenant_id", textOrNull context.tenantId),
    ("environment", .text context.environment),
    ("platform", .text context.platform),
    ("app_id", .text context.appId),
    ("installation_id", textOrNull context.installationId),
    ("key_version", numberOrNull context.keyVersion),
    ("method", .text context.httpMethod),
    ("route", .text context.route),
    ("origin", .text context.webOrigin),
    ("body_sha256", textOrNull context.bodySha256)] ++
  (context.bootstrapCodeSha256.map fun hash => ("bootstrap_code_sha256", Scalar.text hash)).toList

def buildCanonicalTranscript (context : TranscriptContext) : ByteArray := (JsonText.dumps context.payload).toUTF8

structure DeviceProofChallenge where
  id : Uuid
  nonceHash : String
  purpose : String
  userId : Uuid
  firebaseUid : String
  projectId : String
  tenantId : Option String
  environment : String
  appId : String
  platform : String
  installationId : Option Uuid
  keyVersion : Option Int
  serverSeq : Option Int
  webOrigin : String
  requestBodyHash : Option String
  expiresAt : Nat
  createdAt : Nat
  deriving DecidableEq, Repr

structure AuthNativeBootstrapCode where
  userId : Uuid
  firebaseUid : String
  projectId : String
  codeHash : String
  installationId : Option Uuid
  keyVersion : Option Int
  redeemChallengeId : Option Uuid
  authTime : Option Nat
  createdAt : Nat
  expiresAt : Nat
  deriving DecidableEq, Repr

/-- The libraries that the proofs rely on: SHA-256 in hex, base64url, and JSON. -/
structure Codec where
  sha256Hex : ByteArray → String
  b64urlDecode : String → Option ByteArray
  loads : ByteArray → Option Json

/-- What `issue_challenge` is asked for, with the fresh key and the fresh nonce. -/
structure IssueRequest where
  challengeId : Uuid
  rawNonce : String
  purpose : String
  userId : Uuid
  firebaseUid : String
  projectId : String
  tenantId : Option String := none
  environment : String
  platform : String
  appId : String
  httpMethod : String
  route : String
  webOrigin : String
  ttlSeconds : Nat
  installationId : Option Uuid := none
  keyVersion : Option Int := none
  serverSeq : Option Int := none
  requestBodyHash : Option String := none
  bootstrapCodeSha256 : Option String := none

namespace IssueRequest
variable (request : IssueRequest)

def row (codec : Codec) (now : Nat) : DeviceProofChallenge where
  id := request.challengeId
  nonceHash := codec.sha256Hex request.rawNonce.toUTF8
  purpose := request.purpose
  userId := request.userId
  firebaseUid := request.firebaseUid
  projectId := request.projectId
  tenantId := request.tenantId
  environment := request.environment
  appId := request.appId
  platform := request.platform
  installationId := request.installationId
  keyVersion := request.keyVersion
  serverSeq := request.serverSeq
  webOrigin := request.webOrigin
  requestBodyHash := request.requestBodyHash
  expiresAt := now + seconds request.ttlSeconds
  createdAt := now

def context : TranscriptContext where
  purpose := request.purpose
  challengeId := PyText.uuidText request.challengeId
  rawNonce := request.rawNonce
  userId := PyText.uuidText request.userId
  firebaseUid := request.firebaseUid
  projectId := request.projectId
  tenantId := request.tenantId
  environment := request.environment
  platform := request.platform
  appId := request.appId
  installationId := request.installationId.map PyText.uuidText
  keyVersion := request.keyVersion
  httpMethod := request.httpMethod
  route := request.route
  webOrigin := request.webOrigin
  bodySha256 := request.requestBodyHash
  bootstrapCodeSha256 := request.bootstrapCodeSha256

end IssueRequest

inductive ChallengeVerificationError where
  | invalidChallengeId
  | challengeNotFound
  | challengeAlreadyConsumed
  | challengeExpired
  | challengeUserMismatch
  | challengeAppPlatformMismatch
  | challengeEnvironmentMismatch
  | challengeInstallationMismatch
  | malformedClientData
  | transcriptChallengeIdMismatch
  | nonceHashMismatch
  deriving DecidableEq, Repr

/-- The text of the error, which only the log sees. -/
def ChallengeVerificationError.message : ChallengeVerificationError → String
  | .invalidChallengeId => "invalid_challenge_id"
  | .challengeNotFound => "challenge_not_found"
  | .challengeAlreadyConsumed => "challenge_already_consumed"
  | .challengeExpired => "challenge_expired"
  | .challengeUserMismatch => "challenge_user_mismatch"
  | .challengeAppPlatformMismatch => "challenge_app_platform_mismatch"
  | .challengeEnvironmentMismatch => "challenge_environment_mismatch"
  | .challengeInstallationMismatch => "challenge_installation_mismatch"
  | .malformedClientData => "malformed_client_data"
  | .transcriptChallengeIdMismatch => "transcript_challenge_id_mismatch"
  | .nonceHashMismatch => "nonce_hash_mismatch"

structure BindingRequest where
  challengeId : String
  clientData : String
  purpose : String
  expectedUserId : Uuid
  expectedAppId : String
  expectedPlatform : String
  expectedEnvironment : String
  expectedInstallationId : Option String := none

structure VerifiedChallengeBinding where
  challenge : DeviceProofChallenge
  transcriptBytes : ByteArray
  transcript : Json

/-- `str(challenge.installation_id)`. -/
def DeviceProofChallenge.installationText (challenge : DeviceProofChallenge) : String :=
  (challenge.installationId.map PyText.uuidText).getD "None"

def textOf (json : Json) (key : String) : Option String :=
  match json.get key with
  | .str text => some text
  | _ => none

/-- Of the transcript, the challenge and the nonce are compared. -/
def verifyTranscript (codec : Codec) (challenge : DeviceProofChallenge) (request : BindingRequest) :
    Except ChallengeVerificationError VerifiedChallengeBinding :=
  match (codec.b64urlDecode request.clientData).bind fun bytes => (codec.loads bytes).map fun json => (bytes, json) with
  | none => .error .malformedClientData
  | some (bytes, transcript) =>
    if !transcript.isObj || textOf transcript "challenge_id" != some request.challengeId then
      .error .transcriptChallengeIdMismatch
    else
      match textOf transcript "nonce" with
      | none => .error .nonceHashMismatch
      | some nonce =>
        if codec.sha256Hex nonce.toUTF8 ≠ challenge.nonceHash then .error .nonceHashMismatch
        else .ok ⟨challenge, bytes, transcript⟩

/-- `verify_challenge_binding`: the row is compared with what the caller expects, and then the transcript with the row. -/
def verifyChallengeBinding (codec : Codec) (challenges : List DeviceProofChallenge) (consumed : List Uuid)
    (request : BindingRequest) (now : Nat) : Except ChallengeVerificationError VerifiedChallengeBinding :=
  match PyText.uuidOf request.challengeId with
  | none => .error .invalidChallengeId
  | some id =>
    match challenges.find? (·.id == id) with
    | none => .error .challengeNotFound
    | some challenge =>
      if challenge.purpose ≠ request.purpose then .error .challengeNotFound
      else if id ∈ consumed then .error .challengeAlreadyConsumed
      else if challenge.expiresAt ≤ now then .error .challengeExpired
      else if challenge.userId ≠ request.expectedUserId then .error .challengeUserMismatch
      else if challenge.appId ≠ request.expectedAppId ∨ challenge.platform ≠ request.expectedPlatform then
        .error .challengeAppPlatformMismatch
      else if challenge.environment ≠ request.expectedEnvironment then .error .challengeEnvironmentMismatch
      else if request.expectedInstallationId.any (· ≠ challenge.installationText) then .error .challengeInstallationMismatch
      else verifyTranscript codec challenge request

structure ProofDesk where
  challenges : List DeviceProofChallenge := []
  codes : List AuthNativeBootstrapCode := []
  issued : List TranscriptContext := []
  challengeUse : SingleUse.Cells Uuid Nat := {}
  codeUse : SingleUse.Cells String Nat := {}

namespace ProofDesk

/-- The transaction of an issue commits, unless a unique column refuses its row. -/
def issue (desk : ProofDesk) (codec : Codec) (request : IssueRequest) (now : Nat) : ProofDesk :=
  let row := request.row codec now
  if desk.challenges.any fun old => old.id == row.id || old.nonceHash == row.nonceHash then desk
  else { desk with challenges := desk.challenges ++ [row], issued := desk.issued ++ [request.context] }

def issueCode (desk : ProofDesk) (code : AuthNativeBootstrapCode) : ProofDesk :=
  if desk.codes.any fun old => old.codeHash == code.codeHash then desk else { desk with codes := desk.codes ++ [code] }

/-- `consume_device_proof_challenge` in the transaction of its caller. -/
def consumeChallenge (desk : ProofDesk) (transaction : Nat) (challengeId : Uuid) (purpose : String) (now : Nat) : ProofDesk :=
  if desk.challenges.any fun row => row.id == challengeId && row.purpose == purpose && decide (now < row.expiresAt) then
    { desk with challengeUse := desk.challengeUse.take challengeId transaction }
  else desk

/-- `consume_bootstrap_code` in the transaction of its caller. -/
def consumeCode (desk : ProofDesk) (codec : Codec) (transaction : Nat) (code projectId : String)
    (installationId : Option Uuid) (now : Nat) : ProofDesk :=
  let codeHash := codec.sha256Hex code.toUTF8
  if desk.codes.any fun row => row.codeHash == codeHash && decide (now < row.expiresAt) && row.projectId == projectId &&
      (installationId.isNone || row.installationId == installationId) then
    { desk with codeUse := desk.codeUse.take codeHash transaction }
  else desk

def commit (desk : ProofDesk) (transaction : Nat) : ProofDesk :=
  { desk with challengeUse := desk.challengeUse.commit transaction, codeUse := desk.codeUse.commit transaction }

def rollback (desk : ProofDesk) (transaction : Nat) : ProofDesk :=
  { desk with challengeUse := desk.challengeUse.rollback transaction, codeUse := desk.codeUse.rollback transaction }

end ProofDesk

inductive ProofEvent where
  | issue (request : IssueRequest) (now : Nat)
  | issueCode (code : AuthNativeBootstrapCode)
  | verify (request : BindingRequest) (now : Nat)
  | consumeChallenge (transaction : Nat) (challengeId : Uuid) (purpose : String) (now : Nat)
  | consumeCode (transaction : Nat) (code projectId : String) (installationId : Option Uuid) (now : Nat)
  | commit (transaction : Nat)
  | rollback (transaction : Nat)

/-- One statement or one commit. A statement that finds its row taken waits, and comes again. -/
def ProofEvent.step (codec : Codec) (desk : ProofDesk) : ProofEvent → ProofDesk
  | .issue request now => desk.issue codec request now
  | .issueCode code => desk.issueCode code
  | .verify _ _ => desk
  | .consumeChallenge transaction challengeId purpose now => desk.consumeChallenge transaction challengeId purpose now
  | .consumeCode transaction code projectId installationId now =>
    desk.consumeCode codec transaction code projectId installationId now
  | .commit transaction => desk.commit transaction
  | .rollback transaction => desk.rollback transaction

end Sprintable.Accounts
