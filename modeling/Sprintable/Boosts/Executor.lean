import Sprintable.Boosts.Requests
import Sprintable.Publications.Worker

/-! The worker's execution of a boost command. A job holds what its session has
loaded; each stage ends with the commit, the fresh read or the provider call that
other workers can come between. -/

namespace Sprintable.Boosts

open Publications (Command CommandStatus)

/-- A campaign at the provider. Its ad set carries the budget and the period. -/
structure Campaign where
  id : Nat
  objective : String
  connectionId : Uuid
  active : Bool := false
  deriving DecidableEq, Repr

structure AdSet where
  id : Nat
  campaignId : Nat
  budgetMinor : Nat
  currency : String
  startsAt : Nat
  endsAt : Nat
  deriving DecidableEq, Repr

structure Ad where
  id : Nat
  adsetId : Nat
  deriving DecidableEq, Repr

structure Provider where
  campaigns : List Campaign := []
  adsets : List AdSet := []
  ads : List Ad := []

inductive Level where
  | campaign | adset | ad
  deriving DecidableEq, Repr

/-- How the creation of one level ends: made, definitely rejected, or without a
definite answer, in which case the provider may have made the object. After an
interrupted connection not even the earlier ids of the call come back. -/
inductive LevelReply where
  | made
  | rejected
  | unanswered (taken : Bool)
  | interrupted (taken : Bool)
  deriving DecidableEq, Repr

inductive CreateFailure where
  | rejected (level : Option Level)
  | unknown
  deriving DecidableEq, Repr

def Level.rejectedCode : Option Level → String
  | none => "META_ADS_UNKNOWN_CURRENCY"
  | some .campaign => "META_ADS_CAMPAIGN_CREATE_FAILED"
  | some .adset => "META_ADS_ADSET_CREATE_FAILED"
  | some .ad => "META_ADS_AD_CREATE_FAILED"

namespace Provider

def campaign (provider : Provider) (id : Nat) : Option Campaign := Keyed.find Campaign.id provider.campaigns id

def adset (provider : Provider) (id : Nat) : Option AdSet := Keyed.find AdSet.id provider.adsets id

def isActive (provider : Provider) (id : Nat) : Bool := (provider.campaign id).any (·.active)

def setCampaignStatus (provider : Provider) (id : Nat) (active : Bool) : Provider :=
  { provider with campaigns := Keyed.modify Campaign.id provider.campaigns id fun campaign => { campaign with active } }

def addCampaign (provider : Provider) (terms : Terms) : Provider :=
  { provider with campaigns := provider.campaigns ++
    [{ id := provider.campaigns.length, objective := terms.objective, connectionId := terms.connectionId }] }

def addAdset (provider : Provider) (terms : Terms) (campaignId : Nat) : Provider :=
  { provider with adsets := provider.adsets ++
    [{ id := provider.adsets.length, campaignId, budgetMinor := terms.budgetMinor, currency := terms.currency
       startsAt := terms.startsAt, endsAt := terms.endsAt }] }

def addAd (provider : Provider) (adsetId : Nat) : Provider :=
  { provider with ads := provider.ads ++ [{ id := provider.ads.length, adsetId }] }

variable (terms : Terms) (reply : Level → LevelReply) (ids : ObjectIds) (provider : Provider)

def createCampaign : Provider × ObjectIds × Option CreateFailure :=
  if ids.campaign.isSome then (provider, ids, none)
  else
    match reply .campaign with
    | .made => (provider.addCampaign terms, { ids with campaign := some provider.campaigns.length }, none)
    | .rejected => (provider, ids, some (.rejected (some .campaign)))
    | .unanswered taken => (if taken then provider.addCampaign terms else provider, ids, some .unknown)
    | .interrupted taken => (if taken then provider.addCampaign terms else provider, {}, some .unknown)

def createAdset : Provider × ObjectIds × Option CreateFailure :=
  if ids.adset.isSome then (provider, ids, none)
  else
    match reply .adset with
    | .made => (provider.addAdset terms (ids.campaign.getD 0), { ids with adset := some provider.adsets.length }, none)
    | .rejected => (provider, ids, some (.rejected (some .adset)))
    | .unanswered taken =>
      (if taken then provider.addAdset terms (ids.campaign.getD 0) else provider, ids, some .unknown)
    | .interrupted taken =>
      (if taken then provider.addAdset terms (ids.campaign.getD 0) else provider, {}, some .unknown)

def createAd : Provider × ObjectIds × Option CreateFailure :=
  if ids.ad.isSome then (provider, ids, none)
  else
    match reply .ad with
    | .made => (provider.addAd (ids.adset.getD 0), { ids with ad := some provider.ads.length }, none)
    | .rejected => (provider, ids, some (.rejected (some .ad)))
    | .unanswered taken => (if taken then provider.addAd (ids.adset.getD 0) else provider, ids, some .unknown)
    | .interrupted taken => (if taken then provider.addAd (ids.adset.getD 0) else provider, {}, some .unknown)

/-- The levels are made in order; the first failure ends the call, and the ids made
so far come back with it. A currency outside the table is refused before any call. -/
def createBoostCampaign (currencyKnown : Bool) : Provider × ObjectIds × Option CreateFailure :=
  if !currencyKnown then (provider, ids, some (.rejected none))
  else
    match createCampaign terms reply ids provider with
    | (made, partial_, some failure) => (made, partial_, some failure)
    | (made, partial_, none) =>
      match createAdset terms reply partial_ made with
      | (made, partial_, some failure) => (made, partial_, some failure)
      | (made, partial_, none) => createAd reply partial_ made

end Provider

/-- The answer to a switch: acknowledged, answered with an error, or lost. An answer
that is not an acknowledgement says nothing about the campaign. -/
inductive SwitchReply where
  | acknowledged
  | failed (effected : Bool)
  | lost (effected : Bool)
  deriving DecidableEq, Repr

def SwitchReply.effected : SwitchReply → Bool
  | .acknowledged => true
  | .failed effected | .lost effected => effected

/-- Where a job stands. `checked` is the seal that the last check has read. -/
inductive Stage where
  | claimed
  | marked
  | currency
  | claimCreation
  | createCheck
  | createMark
  | createCall
  | createAnswer (ids : ObjectIds) (failure : Option CreateFailure)
  | sealCheck
  | capCheck (checked : Seal)
  | switchCall (checked : Option Seal)
  | switchAnswer (reply : SwitchReply)
  deriving DecidableEq, Repr

/-- One execution of a command. `run` is the run as the session holds it, `existing`
the ids it found there, `terms` the sealed columns of the loaded gate, `connectionId`
the ad account it works in. A dead job is one whose process is gone. -/
structure Job where
  id : Nat
  commandId : Uuid
  operation : Operation
  approvedVersion : Uuid
  now : Nat
  stage : Stage := .claimed
  called : Bool := false
  dead : Bool := false
  terms : Terms
  connectionId : Uuid
  run : BoostRun := {}
  existing : ObjectIds := {}
  deriving DecidableEq, Repr

/-- What the history of a boost notes about its provider calls. -/
inductive Note where
  | createSent (job : Nat)
  | createRejected (job : Nat)
  | noneConfirmed
  | cycleEnded
  deriving DecidableEq, Repr

/-- The tables, the provider and the jobs under way. `history` lists the notes, newest
first; it is a record of the run that no function reads. -/
structure World extends Desk where
  provider : Provider := {}
  jobs : List Job := []
  jobCount : Nat := 0
  history : List Note := []

inductive ContextAnswer where
  | available
  | connectionUnavailable
  | originalPublicationMissing
  | originConnectionMissing
  deriving DecidableEq, Repr

inductive CurrencyAnswer where
  | read (currency : String)
  | readFailed
  | missing
  | unanswered
  deriving DecidableEq, Repr

/-- What the environment answers to one stage. -/
structure Answer where
  context : ContextAnswer := .available
  currency : CurrencyAnswer := .unanswered
  currencyKnown : Bool := true
  create : Level → LevelReply := fun _ => .made
  switch : SwitchReply := .acknowledged
  pauseDelayed : Bool := false

def createInProgressCode : String := "ADS_BOOST_CREATE_IN_PROGRESS"

def gateNotApprovedCode : String := "ADS_BOOST_GATE_NOT_APPROVED"

def sealReplacedCode : String := "ADS_BOOST_SEAL_REPLACED"

def capReachedCode : String := "ADS_BOOST_CAP_REACHED"

def spendBlockedCode : String := "ADS_BOOST_SPEND_BLOCKED"

def createdBudgetDiffersCode : String := "ADS_BOOST_CREATED_BUDGET_DIFFERS"

def accountCurrencyMismatchCode : String := "ADS_BOOST_ACCOUNT_CURRENCY_MISMATCH"

def notStartedAtProviderCode : String := "ADS_BOOST_NOT_STARTED_AT_PROVIDER"

def statusUpdateFailedCode : String := "META_ADS_CAMPAIGN_STATUS_UPDATE_FAILED"

def providerErrorCode : String := "ADS_BOOST_PROVIDER_ERROR"

def ContextAnswer.code : ContextAnswer → String
  | .available => ""
  | .connectionUnavailable => "ADS_BOOST_CONNECTION_UNAVAILABLE"
  | .originalPublicationMissing => "ADS_BOOST_ORIGINAL_PUBLICATION_MISSING"
  | .originConnectionMissing => "ADS_BOOST_ORIGIN_CONNECTION_MISSING"

def CurrencyAnswer.code : CurrencyAnswer → String
  | .readFailed => "META_ADS_ACCOUNT_READ_FAILED"
  | .missing => "META_ADS_ACCOUNT_CURRENCY_MISSING"
  | _ => Publications.preCallErrorCode

/-- The ad connection to use: the one the campaign was created under, else the sealed one. -/
def campaignConnectionId (run : Option BoostRun) (sealedConnection : Uuid) : Uuid :=
  match run with
  | some run => if run.campaignId.isSome then run.createdConnectionId.getD sealedConnection else sealedConnection
  | none => sealedConnection

namespace World
variable (world : World) (job : Job)

def job? (id : Nat) : Option Job := Keyed.find Job.id world.jobs id

def putJob (job : Job) : World := { world with jobs := Keyed.put Job.id world.jobs job }

def endJob : World := { world with jobs := world.jobs.filter fun other => other.id ≠ job.id }

def conclude (change : Command → Command) : World :=
  { world.endJob job with
    commands := Keyed.modify (·.id) world.commands job.commandId fun command =>
      { command with toCommand := change command.toCommand } }

def fail (code : String) : World := world.conclude job fun command => command.applyFailure (some code) (some code) job.now none none

def refuse (code : String) : World := world.conclude job fun command => command.markBlockedUnapproved code code

def complete : World :=
  world.conclude job fun command => { command with status := .completed, lastError := none, failureKind := none }

def commitRun (assigned : BoostRun) (stage : Stage) : World :=
  { world with run := world.run.map fun stored => job.run.flush assigned stored }.putJob { job with run := assigned, stage }

/-- Commit what the session has assigned to its run, before the job ends. -/
def writeRun (assigned : BoostRun) : World :=
  { world with run := world.run.map fun stored => job.run.flush assigned stored }

def note (entry : Note) : World := { world with history := entry :: world.history }

/-- The pause of the organisation blocks the command; else the mark is committed. -/
def startExecution : World :=
  if world.publishPaused then
    world.conclude job fun command => { command with status := .blocked, failureKind := some .paused }
  else
    { world with
      commands := Keyed.modify (·.id) world.commands job.commandId fun command =>
        { command with providerCallStartedAt := some job.now } }.putJob { job with stage := .marked }

/-- The execution context, the run and the checks that precede the first call. -/
def resolveExecutionContext (answer : Answer) : World :=
  let stops := moneyStoppingOps.contains job.operation
  match world.gate.sealedAds with
  | none => world.fail job Publications.preCallErrorCode
  | some seal_ =>
    if world.gate.status ≠ .approved ∧ !stops then world.refuse job gateNotApprovedCode
    else if job.approvedVersion ≠ seal_.versionId ∧ !stops then world.refuse job sealReplacedCode
    else if answer.context ≠ .available then world.refuse job answer.context.code
    else
      let run := world.run.getD {}
      let connectionId := campaignConnectionId world.run seal_.connectionId
      let loaded := { job with run, terms := seal_.toTerms, connectionId, existing := run.ids }
      let stored := { world with run := some run }
      if !stops ∧ run.capReachedAt.isSome then stored.refuse job capReachedCode
      else if !stops ∧ run.spendBlockedAt.isSome then stored.fail job spendBlockedCode
      else
        match job.operation with
        | .boostStart => stored.putJob { loaded with stage := .currency }
        | .pause =>
          if run.campaignId.isNone then stored.fail job notStartedAtProviderCode
          else stored.putJob { loaded with stage := .switchCall none }
        | .resume =>
          if run.campaignId.isNone then stored.fail job notStartedAtProviderCode
          else stored.putJob { loaded with stage := .sealCheck }

def readAccountCurrency (answer : Answer) : World :=
  match answer.currency with
  | .read currency =>
    let assigned := { job.run with accountCurrency := some currency }
    if currency ≠ job.terms.currency then (world.writeRun job assigned).fail job accountCurrencyMismatchCode
    else world.commitRun job assigned (if job.existing.complete then .sealCheck else .claimCreation)
  | other => world.fail job other.code

def claimExpired (claimedAt now : Nat) : Bool := claimedAt + Publications.stuckInProgressThreshold < now

def claimable (run : BoostRun) (now : Nat) : Bool :=
  !run.ids.complete && run.createClaimedAt.all fun claimedAt => claimExpired claimedAt now && run.createCallStartedAt.isNone

/-- `_claim_campaign_creation`: a conditional update, after which the session reads the row again. -/
def claimCampaignCreation : World :=
  match world.run with
  | none => world.fail job Publications.preCallErrorCode
  | some run =>
    if claimable run job.now then
      let won := { run with createClaimedAt := some job.now, createCallStartedAt := none, createHolder := some job.id }
      { world with run := some won }.putJob { job with run := won, stage := .createCheck }
    else if run.ids.complete then world.putJob { job with run, existing := run.ids, stage := .sealCheck }
    else if run.createCallStartedAt.isSome && run.createClaimedAt.any (claimExpired · job.now) then
      world.fail job createOutcomeUnknownCode
    else world.fail job createInProgressCode

/-- The code with which the fresh read of the gate refuses the job. -/
def sealRefusal : Option String :=
  if world.gate.status ≠ .approved then some gateNotApprovedCode
  else if world.gate.sealedAds.map (·.versionId) ≠ some job.approvedVersion then some sealReplacedCode
  else none

/-- The seal again, right before creating; a replaced one releases the claim. -/
def checkBeforeCreation : World :=
  match world.sealRefusal job with
  | some code => (world.writeRun job { job.run with createClaimedAt := none, createHolder := none }).refuse job code
  | none => world.putJob { job with stage := .createMark }

def markCreation : World := world.commitRun job { job.run with createCallStartedAt := some job.now } .createCall

/-- The call of the provider, which sends a campaign creation when there is no campaign yet. -/
def callCreation (answer : Answer) : World :=
  let (provider, ids, failure) :=
    world.provider.createBoostCampaign { job.terms with connectionId := job.connectionId } answer.create job.existing
      answer.currencyKnown
  let sent := job.existing.campaign.isNone && answer.currencyKnown
  { (if sent then world.note (.createSent job.id) else world) with provider }.putJob
    { job with called := job.called || answer.currencyKnown, stage := .createAnswer ids failure }

/-- The ids known after a call, recorded on the session's run, with what a new ad set was created with. -/
def recordCreated (ids : ObjectIds) : BoostRun :=
  let run := { job.run with
    campaignId := ids.campaign.or job.run.campaignId
    adsetId := ids.adset.or job.run.adsetId
    adId := ids.ad.or job.run.adId }
  if job.existing.adset.isNone ∧ ids.adset.isSome ∧ run.createdBudgetMinor.isNone then
    { run with
      createdBudgetMinor := some job.terms.budgetMinor
      createdForVersionId := some job.approvedVersion
      createdConnectionId := some job.terms.connectionId }
  else run

def released (run : BoostRun) : BoostRun :=
  { run with createClaimedAt := none, createCallStartedAt := none, createHolder := none }

/-- What a creation leaves. Without a definite answer the claim and the mark stay. -/
def recordCreation (ids : ObjectIds) : Option CreateFailure → World
  | none => world.commitRun job (released (recordCreated job ids)) .sealCheck
  | some (.rejected level) =>
    let rejected := if level = some .campaign then world.note (.createRejected job.id) else world
    (rejected.writeRun job (released (recordCreated job ids))).fail job (Level.rejectedCode level)
  | some .unknown => (world.writeRun job (recordCreated job ids)).fail job createOutcomeUnknownCode

/-- The seal again, right before the campaign is switched on. -/
def checkBeforeSwitch : World :=
  match world.sealRefusal job, world.gate.sealedAds with
  | none, some seal_ => world.putJob { job with stage := .capCheck seal_ }
  | some code, _ => world.refuse job code
  | none, none => world.refuse job sealReplacedCode

/-- The cap again, read fresh, and the budget that the campaign was created with. -/
def checkCapAndBudget (checked : Seal) : World :=
  if world.run.any (·.capReachedAt.isSome) then world.refuse job capReachedCode
  else if job.run.createdBudgetMinor.any (· ≠ job.terms.budgetMinor) then world.fail job createdBudgetDiffersCode
  else world.putJob { job with stage := .switchCall (some checked) }

def callSwitch (answer : Answer) : World :=
  let provider :=
    match job.run.campaignId with
    | some campaign =>
      if answer.switch.effected then world.provider.setCampaignStatus campaign (job.operation != .pause) else world.provider
    | none => world.provider
  { world with provider }.putJob { job with called := true, stage := .switchAnswer answer.switch }

/-- `schedule_ads_spend_snapshots`: the next capture, unless the period ends before it. -/
def scheduleSpendSnapshots (anchorAt endsAt : Nat) : World :=
  if anchorAt + hours 24 ≤ endsAt then { world with toDesk := world.toDesk.insertSnapshot (anchorAt + hours 24) } else world

/-- The session's run after an acknowledged switch. -/
def switchedRun (answer : Answer) : BoostRun :=
  match job.operation with
  | .boostStart => { job.run with status := .running, startedAt := some job.now }
  | .pause =>
    if answer.pauseDelayed then { job.run with status := .pausePending }
    else { job.run with status := .paused, pausedAt := some job.now }
  | .resume => { job.run with status := .running, pausedAt := none }

def recordSwitch (answer : Answer) : SwitchReply → World
  | .failed _ => world.fail job statusUpdateFailedCode
  | .lost _ => world.fail job providerErrorCode
  | .acknowledged =>
    let switched := world.writeRun job (switchedRun job answer)
    let scheduled :=
      match job.operation with
      | .boostStart => switched.scheduleSpendSnapshots job.now job.terms.endsAt
      | .pause => switched
      | .resume => if switched.pendingPaid.isEmpty then switched.scheduleSpendSnapshots job.now job.terms.endsAt else switched
    scheduled.complete job

def advance (answer : Answer) : World :=
  match job.stage with
  | .claimed => world.startExecution job
  | .marked => world.resolveExecutionContext job answer
  | .currency => world.readAccountCurrency job answer
  | .claimCreation => world.claimCampaignCreation job
  | .createCheck => world.checkBeforeCreation job
  | .createMark => world.markCreation job
  | .createCall => world.callCreation job answer
  | .createAnswer ids failure => world.recordCreation job ids failure
  | .sealCheck => world.checkBeforeSwitch job
  | .capCheck checked => world.checkCapAndBudget job checked
  | .switchCall _ => world.callSwitch job answer
  | .switchAnswer reply => world.recordSwitch job answer reply

def claimCommand (id : Uuid) (now : Nat) : World :=
  match world.command id with
  | none => world
  | some command =>
    if Publications.Store.due now command.toCommand then
      { world with
        commands := Keyed.modify (·.id) world.commands id fun command =>
          { command with status := .inProgress, claimedAt := some now, providerCallStartedAt := none }
        jobs := world.jobs ++ [{
          id := world.jobCount, commandId := id, operation := command.boost, approvedVersion := command.approvedVersion, now
          terms := ⟨0, "", 0, 0, "", 0⟩, connectionId := 0 }]
        jobCount := world.jobCount + 1 }
    else world

/-- An exception escaped the execution: the command fails if it is still in progress. -/
def escape : World :=
  let code := if job.called then Publications.unclassifiedErrorCode else Publications.preCallErrorCode
  world.conclude job fun command =>
    if command.status = .inProgress then command.applyFailure (some code) (some code) job.now none none else command

/-- The process of the worker is gone; its command stays in progress. -/
def crash : World := world.putJob { job with dead := true }

/-- A command that is in progress for too long is failed, as interrupted when a call
may have gone out. The job of a process that is gone ends with it. -/
def recoverInterrupted (id : Uuid) (now : Nat) : World :=
  match world.command id with
  | none => world
  | some command =>
    if command.status = .inProgress ∧ Publications.Store.stuckSince now command.toCommand then
      let code := if command.providerCallStartedAt.isSome || command.claimedAt.isNone then
          Publications.workerInterruptedErrorCode
        else Publications.preCallErrorCode
      { world with
        commands := Keyed.modify (·.id) world.commands id fun command =>
          { command with toCommand := command.applyFailure (some code) (some code) now none none }
        jobs := world.jobs.filter fun job => !(job.dead && job.commandId == id) }
    else world

/-- The run with the objects that the lookups have found, and with the budget of an ad set among them. -/
def adopted (run : BoostRun) (found : ObjectIds) (adsetBudgetMinor : Option Nat) (version connection : Uuid) : BoostRun :=
  let linked := { run with
    campaignId := found.campaign
    adsetId := found.adset.or run.adsetId
    adId := found.ad.or run.adId }
  if found.adset.isSome ∧ run.createdBudgetMinor.isNone then
    { linked with
      createdBudgetMinor := adsetBudgetMinor
      createdForVersionId := some version
      createdConnectionId := some connection }
  else linked

/-- `adopt_existing_boost_objects`. -/
def adopt (found : ObjectIds) (adsetBudgetMinor : Option Nat) (answer : Answer) : Except BoostError World :=
  match world.gate.sealedAds, world.run with
  | some seal_, some run =>
    match world.commands.find? fun command => command.boost == .boostStart && command.approvedVersion == seal_.versionId with
    | none => .error .adoptNotApplicable
    | some command =>
      if command.status ≠ .deadLetter ∨ command.reasonCode ≠ some createOutcomeUnknownCode ∨
          run.createCallStartedAt.isNone ∨ run.ids.complete ∨ world.gate.status ≠ .approved ∨
          answer.context ≠ .available ∨ found.campaign.isNone then .error .adoptNotApplicable
      else if found.adset.isSome ∧ adsetBudgetMinor ≠ some seal_.budgetMinor then .error .budgetMismatch
      else
        let linked := released (adopted run found adsetBudgetMinor command.approvedVersion seal_.connectionId)
        .ok { world with toDesk := (world.toDesk.putRun linked).retryDeadLetter command }
  | _, _ => .error .adoptNotApplicable

end World

end Sprintable.Boosts
