import Mathlib
import Sprintable.Accounts.DeviceProof
import Sprintable.Logic.Runs

/-! What a device proof is bound to. Transcripts tell their contexts apart; a verification accepts only an
answer to a challenge that the server issued to its caller, and a challenge or a code is used up once. -/

namespace Sprintable.Accounts

open JsonText (Scalar)

section Transcripts

theorem payload_keys (context : TranscriptContext) : (context.payload.map Prod.fst).Nodup := by
  cases code : context.bootstrapCodeSha256 with
  | none =>
    simp only [TranscriptContext.payload, code, Option.map_none, Option.toList_none, List.append_nil, List.map_cons, List.map_nil]
    decide
  | some hash =>
    simp only [TranscriptContext.payload, code, Option.map_some, Option.toList_some, List.map_append, List.map_cons, List.map_nil]
    decide

theorem payload_code {context : TranscriptContext} {hash : String} :
    ("bootstrap_code_sha256", Scalar.text hash) ∈ context.payload ↔ context.bootstrapCodeSha256 = some hash := by
  cases code : context.bootstrapCodeSha256 with
  | none => simp [TranscriptContext.payload, code]
  | some other => simp [TranscriptContext.payload, code, eq_comm]

theorem textOrNull_injective : Function.Injective textOrNull := by
  intro first second same
  cases first with
  | none =>
    cases second with
    | none => rfl
    | some value => cases same
  | some value =>
    cases second with
    | none => cases same
    | some other =>
      cases same
      rfl

theorem numberOrNull_injective : Function.Injective numberOrNull := by
  intro first second same
  cases first with
  | none =>
    cases second with
    | none => rfl
    | some value => cases same
  | some value =>
    cases second with
    | none => cases same
    | some other =>
      cases same
      rfl

theorem canonical_transcript_injective : Function.Injective buildCanonicalTranscript := by
  intro first second same
  have texts : JsonText.dumps first.payload = JsonText.dumps second.payload := String.toByteArray_inj.mp same
  have value (key : String) {left right : Scalar} (here : (key, left) ∈ first.payload) (there : (key, right) ∈ second.payload) :
      left = right := JsonText.dumps_value texts (payload_keys second) here there
  have text (key : String) {left right : String} (here : (key, Scalar.text left) ∈ first.payload)
      (there : (key, Scalar.text right) ∈ second.payload) : left = right := Scalar.text.inj (value key here there)
  have code : first.bootstrapCodeSha256 = second.bootstrapCodeSha256 := by
    have perm := JsonText.dumps_perm texts
    apply Option.ext
    intro hash
    rw [← payload_code, ← payload_code]
    exact ⟨fun here => perm.subset here, fun there => perm.symm.subset there⟩
  cases first
  cases second
  simp only [TranscriptContext.mk.injEq]
  refine ⟨?_, ?_, ?_, ?_, ?_, ?_, ?_, ?_, ?_, ?_, ?_, ?_, ?_, ?_, ?_, ?_, code⟩
  · exact text "purpose" (by simp [TranscriptContext.payload]) (by simp [TranscriptContext.payload])
  · exact text "challenge_id" (by simp [TranscriptContext.payload]) (by simp [TranscriptContext.payload])
  · exact text "nonce" (by simp [TranscriptContext.payload]) (by simp [TranscriptContext.payload])
  · exact text "user_id" (by simp [TranscriptContext.payload]) (by simp [TranscriptContext.payload])
  · exact text "firebase_uid" (by simp [TranscriptContext.payload]) (by simp [TranscriptContext.payload])
  · exact text "project_id" (by simp [TranscriptContext.payload]) (by simp [TranscriptContext.payload])
  · exact textOrNull_injective (value "tenant_id" (by simp [TranscriptContext.payload]) (by simp [TranscriptContext.payload]))
  · exact text "environment" (by simp [TranscriptContext.payload]) (by simp [TranscriptContext.payload])
  · exact text "platform" (by simp [TranscriptContext.payload]) (by simp [TranscriptContext.payload])
  · exact text "app_id" (by simp [TranscriptContext.payload]) (by simp [TranscriptContext.payload])
  · exact textOrNull_injective (value "installation_id" (by simp [TranscriptContext.payload]) (by simp [TranscriptContext.payload]))
  · exact numberOrNull_injective (value "key_version" (by simp [TranscriptContext.payload]) (by simp [TranscriptContext.payload]))
  · exact text "method" (by simp [TranscriptContext.payload]) (by simp [TranscriptContext.payload])
  · exact text "route" (by simp [TranscriptContext.payload]) (by simp [TranscriptContext.payload])
  · exact text "origin" (by simp [TranscriptContext.payload]) (by simp [TranscriptContext.payload])
  · exact textOrNull_injective (value "body_sha256" (by simp [TranscriptContext.payload]) (by simp [TranscriptContext.payload]))

end Transcripts

/-- The server issued the context for what the caller expects. -/
structure IssuedFor (context : TranscriptContext) (request : BindingRequest) : Prop where
  purpose : context.purpose = request.purpose
  user : context.userId = PyText.uuidText request.expectedUserId
  app : context.appId = request.expectedAppId
  platform : context.platform = request.expectedPlatform
  environment : context.environment = request.expectedEnvironment
  installation : ∀ expected, request.expectedInstallationId = some expected → context.installationId.getD "None" = expected

/-- An accepted answer names a challenge that is not used up, and carries its nonce. -/
structure Answers (desk : ProofDesk) (request : BindingRequest) (transcript : Json) (id : Uuid) (context : TranscriptContext) :
    Prop where
  named : PyText.uuidOf request.challengeId = some id
  unused : id ∉ desk.challengeUse.spent
  issued : context ∈ desk.issued
  challenge : context.challengeId = PyText.uuidText id
  expected : IssuedFor context request
  answered : textOf transcript "challenge_id" = some request.challengeId
  nonce : textOf transcript "nonce" = some context.rawNonce

/-- The verification that the event is, if it is one, accepts answers to issued challenges only. -/
def BindsAnswers (codec : Codec) (desk : ProofDesk) : ProofEvent → Prop
  | .verify request now => ∀ binding,
    verifyChallengeBinding codec desk.challenges desk.challengeUse.spent request now = .ok binding →
      ∃ id context, Answers desk request binding.transcript id context
  | _ => True

structure RowOf (codec : Codec) (context : TranscriptContext) (row : DeviceProofChallenge) : Prop where
  id : context.challengeId = PyText.uuidText row.id
  nonce : row.nonceHash = codec.sha256Hex context.rawNonce.toUTF8
  purpose : context.purpose = row.purpose
  user : context.userId = PyText.uuidText row.userId
  app : context.appId = row.appId
  platform : context.platform = row.platform
  environment : context.environment = row.environment
  installation : context.installationId = row.installationId.map PyText.uuidText

/-- Every row was issued, and nothing is used up twice. -/
structure ProofDesk.Sound (codec : Codec) (desk : ProofDesk) : Prop where
  rows : ∀ row ∈ desk.challenges, ∃ context ∈ desk.issued, RowOf codec context row
  challenges : desk.challengeUse.Sound
  codes : desk.codeUse.Sound

section Steps
variable {codec : Codec} {desk : ProofDesk}

theorem ProofDesk.Sound.step (sound : desk.Sound codec) (event : ProofEvent) : (event.step codec desk).Sound codec := by
  cases event with
  | issue request now =>
    simp only [ProofEvent.step, ProofDesk.issue]
    split
    · exact sound
    · refine ⟨fun row member => ?_, sound.challenges, sound.codes⟩
      rcases List.mem_append.mp member with old | new
      · obtain ⟨context, issued, own⟩ := sound.rows row old
        exact ⟨context, List.mem_append_left _ issued, own⟩
      · obtain rfl := List.mem_singleton.mp new
        exact ⟨request.context, List.mem_append_right _ List.mem_cons_self, rfl, rfl, rfl, rfl, rfl, rfl, rfl, rfl⟩
  | issueCode code =>
    simp only [ProofEvent.step, ProofDesk.issueCode]
    split
    · exact sound
    · exact ⟨sound.rows, sound.challenges, sound.codes⟩
  | verify request now => exact sound
  | consumeChallenge transaction challengeId purpose now =>
    simp only [ProofEvent.step, ProofDesk.consumeChallenge]
    split
    · exact ⟨sound.rows, SingleUse.Cells.take_sound sound.challenges, sound.codes⟩
    · exact sound
  | consumeCode transaction code projectId installationId now =>
    simp only [ProofEvent.step, ProofDesk.consumeCode]
    split
    · exact ⟨sound.rows, sound.challenges, SingleUse.Cells.take_sound sound.codes⟩
    · exact sound
  | commit transaction =>
    exact ⟨sound.rows, SingleUse.Cells.commit_sound sound.challenges, SingleUse.Cells.commit_sound sound.codes⟩
  | rollback transaction =>
    exact ⟨sound.rows, SingleUse.Cells.rollback_sound sound.challenges, SingleUse.Cells.rollback_sound sound.codes⟩

theorem verify_transcript_spec {challenge : DeviceProofChallenge} {request : BindingRequest} {binding : VerifiedChallengeBinding}
    (accepted : verifyTranscript codec challenge request = .ok binding) :
    textOf binding.transcript "challenge_id" = some request.challengeId ∧
      ∃ nonce, textOf binding.transcript "nonce" = some nonce ∧ codec.sha256Hex nonce.toUTF8 = challenge.nonceHash := by
  unfold verifyTranscript at accepted
  split at accepted
  · cases accepted
  split at accepted
  · cases accepted
  next named =>
    simp only [Bool.or_eq_true, Bool.not_eq_true', bne_iff_ne, ne_eq, not_or, not_not] at named
    split at accepted
    · cases accepted
    next nonce given =>
      split at accepted
      · cases accepted
      next same =>
        cases accepted
        exact ⟨named.2, nonce, given, not_not.mp same⟩

theorem verify_spec {challenges : List DeviceProofChallenge} {consumed : List Uuid} {request : BindingRequest} {now : Nat}
    {binding : VerifiedChallengeBinding} (accepted : verifyChallengeBinding codec challenges consumed request now = .ok binding) :
    ∃ challenge ∈ challenges, PyText.uuidOf request.challengeId = some challenge.id ∧ challenge.id ∉ consumed ∧
      challenge.purpose = request.purpose ∧ challenge.userId = request.expectedUserId ∧
      challenge.appId = request.expectedAppId ∧ challenge.platform = request.expectedPlatform ∧
      challenge.environment = request.expectedEnvironment ∧
      (∀ expected, request.expectedInstallationId = some expected → challenge.installationText = expected) ∧
      verifyTranscript codec challenge request = .ok binding := by
  unfold verifyChallengeBinding at accepted
  split at accepted
  · cases accepted
  next id named =>
    split at accepted
    · cases accepted
    next challenge found =>
      obtain rfl : challenge.id = id := by simpa using List.find?_some found
      split at accepted
      · cases accepted
      next purpose =>
        split at accepted
        · cases accepted
        next unused =>
          split at accepted
          · cases accepted
          split at accepted
          · cases accepted
          next user =>
            split at accepted
            · cases accepted
            next device =>
              split at accepted
              · cases accepted
              next environment =>
                split at accepted
                · cases accepted
                next installation =>
                  obtain ⟨app, platform⟩ := not_or.mp device
                  refine ⟨challenge, List.mem_of_find?_eq_some found, named, unused, not_not.mp purpose, not_not.mp user,
                    not_not.mp app, not_not.mp platform, not_not.mp environment, fun expected given => ?_, accepted⟩
                  simp only [given, Option.any_some, decide_eq_true_eq, not_not] at installation
                  exact installation.symm

theorem ProofDesk.Sound.binds (sound : desk.Sound codec) (noCollision : Function.Injective codec.sha256Hex)
    (event : ProofEvent) : BindsAnswers codec desk event := by
  cases event with
  | verify request now =>
    intro binding accepted
    obtain ⟨challenge, member, named, unused, purpose, user, app, platform, environment, installation, transcript⟩ :=
      verify_spec accepted
    obtain ⟨context, issued, own⟩ := sound.rows challenge member
    obtain ⟨answered, nonce, given, hashed⟩ := verify_transcript_spec transcript
    have same : nonce = context.rawNonce := String.toByteArray_inj.mp (noCollision (hashed.trans own.nonce))
    refine ⟨challenge.id, context, named, unused, issued, own.id, ?_, answered, same ▸ given⟩
    refine ⟨own.purpose.trans purpose, user ▸ own.user, own.app.trans app, own.platform.trans platform,
      own.environment.trans environment, fun expected wanted => ?_⟩
    rw [own.installation]
    exact installation expected wanted
  | _ => exact True.intro

end Steps

/-- Transcripts tell their contexts apart. In every run, an accepted answer carries the challenge and the
nonce that the server issued for what its caller expects, and no challenge and no code is used up twice. -/
theorem device_proofs_bound (codec : Codec) (noCollision : Function.Injective codec.sha256Hex) (events : List ProofEvent) :
    Function.Injective buildCanonicalTranscript ∧
    Runs.Throughout (ProofEvent.step codec) (BindsAnswers codec) {} events ∧
    (Runs.final (ProofEvent.step codec) {} events).challengeUse.spent.Nodup ∧
    (Runs.final (ProofEvent.step codec) {} events).codeUse.spent.Nodup := by
  have start : ProofDesk.Sound codec {} := ⟨fun _ member => absurd member List.not_mem_nil, List.nodup_nil, List.nodup_nil⟩
  have always : Runs.Throughout (ProofEvent.step codec) (fun _ _ => True) {} events :=
    Runs.Throughout.trivial (fun _ _ => True.intro) _ _
  have sound : (Runs.final (ProofEvent.step codec) {} events).Sound codec :=
    always.invariant (fun _ event _ kept => kept.step event) start
  refine ⟨canonical_transcript_injective, ?_, sound.challenges.spent, sound.codes.spent⟩
  exact always.carry (fun _ event _ kept => kept.step event) start fun _ event _ kept => kept.binds noCollision event

section Samples

def latin (bytes : ByteArray) : String := String.ofList (bytes.data.toList.map fun byte => Char.ofNat byte.toNat)

/-- A hash without collisions, which is SHA-256 on the nonce: it and its digest change places. -/
def sampleHash (bytes : ByteArray) : String :=
  latin (Equiv.swap "5f".toUTF8 "06cdede198bc96a594f1685fcdc2f7b3f39a454ac97d700a1c63b2bc02cd75e1".toUTF8 bytes)

theorem latin_injective : Function.Injective latin := by
  have bytes : Function.Injective fun byte : UInt8 => Char.ofNat byte.toNat := by
    intro first second same
    have number (byte : UInt8) : (Char.ofNat byte.toNat).toNat = byte.toNat := by
      have small := byte.toNat_lt
      rw [Char.ofNat, dif_pos (.inl (by omega))]
      rfl
    exact UInt8.toNat_inj.mp ((number first).symm.trans ((congrArg Char.toNat same).trans (number second)))
  intro first second same
  exact ByteArray.ext (Array.toList_inj.mp (List.map_injective_iff.mpr bytes (String.ofList_injective same)))

theorem sample_hash_injective : Function.Injective sampleHash := latin_injective.comp (Equiv.injective _)

def sampleIssue : IssueRequest where
  challengeId := 1
  rawNonce := "5f"
  purpose := "bootstrap_issue"
  userId := 2
  firebaseUid := "uid"
  projectId := "project"
  environment := "production"
  platform := "ios"
  appId := "app"
  httpMethod := "POST"
  route := "/auth/native-bootstrap"
  webOrigin := "https://web"
  ttlSeconds := 60
  installationId := some 3
  keyVersion := some 1

def sampleForged : TranscriptContext := { sampleIssue.context with route := "/other" }

def sampleJson : Scalar → Json
  | .null => .null
  | .number value => .int value
  | .text value => .str value

def sampleMapping : Json := .obj (sampleForged.payload.map fun entry => (entry.1, sampleJson entry.2))

/-- The canonical bytes of the forged context in base64url. -/
def sampleClientData : String := "eyJhcHBfaWQiOiJhcHAiLCJib2R5X3NoYTI1NiI6bnVsbCwiY2hhbGxlbmdlX2lkIjoiMDAwMDAwMDAtMDAwMC0wMDAwLTAwMDAt" ++
      "MDAwMDAwMDAwMDAxIiwiZW52aXJvbm1lbnQiOiJwcm9kdWN0aW9uIiwiZmlyZWJhc2VfdWlkIjoidWlkIiwiaW5zdGFsbGF0aW9u" ++
      "X2lkIjoiMDAwMDAwMDAtMDAwMC0wMDAwLTAwMDAtMDAwMDAwMDAwMDAzIiwia2V5X3ZlcnNpb24iOjEsIm1ldGhvZCI6IlBPU1Qi" ++
      "LCJub25jZSI6IjVmIiwib3JpZ2luIjoiaHR0cHM6Ly93ZWIiLCJwbGF0Zm9ybSI6ImlvcyIsInByb2plY3RfaWQiOiJwcm9qZWN0" ++
      "IiwicHVycG9zZSI6ImJvb3RzdHJhcF9pc3N1ZSIsInJvdXRlIjoiL290aGVyIiwidGVuYW50X2lkIjpudWxsLCJ1c2VyX2lkIjoi" ++
      "MDAwMDAwMDAtMDAwMC0wMDAwLTAwMDAtMDAwMDAwMDAwMDAyIiwidiI6IlNQX0RFVklDRV9QUk9PRl9WMSJ9"

def sampleCodec : Codec where
  sha256Hex := sampleHash
  b64urlDecode text := if text = sampleClientData then some (buildCanonicalTranscript sampleForged) else none
  loads bytes := if bytes = buildCanonicalTranscript sampleForged then some sampleMapping else none

def sampleAnswer : BindingRequest where
  challengeId := "00000000-0000-0000-0000-000000000001"
  clientData := sampleClientData
  purpose := "bootstrap_issue"
  expectedUserId := 2
  expectedAppId := "app"
  expectedPlatform := "ios"
  expectedEnvironment := "production"
  expectedInstallationId := some "00000000-0000-0000-0000-000000000003"

/-- A forged answer is verified, and its challenge used up. -/
def sampleProof : List ProofEvent :=
  [.issue sampleIssue 0, .verify sampleAnswer 1, .consumeChallenge 0 1 "bootstrap_issue" 1, .commit 0]

def sampleIssued : ProofDesk := ProofEvent.step sampleCodec {} (.issue sampleIssue 0)

end Samples

theorem device_proofs_bound_sample :
    Function.Injective buildCanonicalTranscript ∧
    Runs.Throughout (ProofEvent.step sampleCodec) (BindsAnswers sampleCodec) {} sampleProof ∧
    (Runs.final (ProofEvent.step sampleCodec) {} sampleProof).challengeUse.spent.Nodup ∧
    (Runs.final (ProofEvent.step sampleCodec) {} sampleProof).codeUse.spent.Nodup :=
  device_proofs_bound sampleCodec sample_hash_injective sampleProof

/-- An answer with another route than the issued one is accepted. -/
theorem forged_route_accepted :
    sampleIssued.issued = [sampleIssue.context] ∧ sampleIssue.context.route = "/auth/native-bootstrap" ∧
      ∃ binding, verifyChallengeBinding sampleCodec sampleIssued.challenges sampleIssued.challengeUse.spent sampleAnswer 1 =
        .ok binding ∧ textOf binding.transcript "route" = some "/other" := by
  refine ⟨rfl, rfl, ⟨sampleIssue.row sampleCodec 0, buildCanonicalTranscript sampleForged, sampleMapping⟩, ?_, rfl⟩
  have named : PyText.uuidOf sampleAnswer.challengeId = some 1 := by decide
  have found : sampleIssued.challenges.find? (·.id == 1) = some (sampleIssue.row sampleCodec 0) := rfl
  have bytes : sampleCodec.b64urlDecode sampleAnswer.clientData = some (buildCanonicalTranscript sampleForged) := by
    simp only [sampleCodec, sampleAnswer, if_true]
  have mapping : sampleCodec.loads (buildCanonicalTranscript sampleForged) = some sampleMapping := by
    simp only [sampleCodec, if_true]
  have transcript : verifyTranscript sampleCodec (sampleIssue.row sampleCodec 0) sampleAnswer =
      .ok ⟨sampleIssue.row sampleCodec 0, buildCanonicalTranscript sampleForged, sampleMapping⟩ := by
    have answered : textOf sampleMapping "challenge_id" = some sampleAnswer.challengeId := by decide
    have nonce : textOf sampleMapping "nonce" = some "5f" := rfl
    have whole : sampleMapping.isObj = true := rfl
    have hashed : sampleCodec.sha256Hex "5f".toUTF8 = (sampleIssue.row sampleCodec 0).nonceHash := rfl
    rw [verifyTranscript, bytes, Option.bind_some, mapping, Option.map_some]
    dsimp only
    rw [answered, nonce, whole]
    dsimp only
    rw [hashed]
    simp
  have unused : sampleIssued.challengeUse.spent = [] := rfl
  have purpose : (sampleIssue.row sampleCodec 0).purpose = sampleAnswer.purpose := rfl
  have alive : ¬ (sampleIssue.row sampleCodec 0).expiresAt ≤ 1 := by decide
  have user : (sampleIssue.row sampleCodec 0).userId = sampleAnswer.expectedUserId := rfl
  have app : (sampleIssue.row sampleCodec 0).appId = sampleAnswer.expectedAppId := rfl
  have platform : (sampleIssue.row sampleCodec 0).platform = sampleAnswer.expectedPlatform := rfl
  have environment : (sampleIssue.row sampleCodec 0).environment = sampleAnswer.expectedEnvironment := rfl
  have installed : sampleAnswer.expectedInstallationId.any
      (· ≠ (sampleIssue.row sampleCodec 0).installationText) = false := by decide
  rw [verifyChallengeBinding, named]
  dsimp only
  rw [found, unused]
  simp only [purpose, alive, user, app, platform, environment, installed, List.not_mem_nil, ne_eq, not_true, or_self, if_false,
    Bool.false_eq_true]
  exact transcript

end Sprintable.Accounts
