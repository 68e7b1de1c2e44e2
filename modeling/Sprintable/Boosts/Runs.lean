import Sprintable.Boosts.Captures

/-! Runs of a boost: the requests of people and of the scheduler, the stages of the
workers' jobs, the stages of the captures, and the failures of both, in any order. -/

namespace Sprintable.Boosts

open Gates (GateStatus)

inductive Event where
  | requestBoost (terms : Terms) (requesterMemberId : Uuid) (now : Nat)
  | moveGate (newStatus : GateStatus) (resolverId : Option Uuid) (now : Nat)
  | start (requesterMemberId : Uuid) (now : Nat)
  | scheduledStart (now : Nat)
  | pause (requesterMemberId : Uuid) (preferred : Uuid) (now : Nat)
  | resume (requesterMemberId : Uuid) (preferred : Uuid) (now : Nat)
  | cancel (actorMemberId : Uuid) (actorIsAdmin : Bool) (now : Nat)
  | finishCancel (now : Nat)
  | pauseLeft (preferred : Uuid) (now : Nat)
  | captureAfterFailedPause (command : Uuid) (now : Nat)
  | retry (command : Uuid) (confirmedNoCampaign : Bool)
  | adopt (found : ObjectIds) (adsetBudgetMinor : Option Nat) (answer : Answer)
  | setPublishPaused (paused : Bool)
  | requeuePaused
  | claim (command : Uuid) (now : Nat)
  | advance (job : Nat) (answer : Answer)
  | escape (job : Nat)
  | crash (job : Nat)
  | recover (command : Uuid) (now : Nat)
  | claimCapture (snapshot : Nat) (now : Nat)
  | advanceCapture (capture : Nat) (answer : CaptureAnswer)
  | escapeCapture (capture : Nat) (code : String)
  | crashCapture (capture : Nat)
  | refreshSpend (answer : CaptureAnswer) (now : Nat)

namespace Boost
variable (boost : Boost)

def onWorld (world : World) : Boost := { boost with toWorld := world }

def capture? (id : Nat) : Option Capture := Keyed.find Capture.id boost.captures id

/-- What a live job does to the world; a job that is gone does nothing. -/
def onJob (id : Nat) (act : World → Job → World) : Boost :=
  match boost.job? id with
  | none => boost
  | some job => if job.dead then boost else boost.onWorld (act boost.toWorld job)

/-- What holds before a job of the boost works holds after it, if it does after what the job does alive. -/
theorem onJob_preserves {boost : Boost} {holds : Boost → Prop} (before : holds boost) (id : Nat) (act : World → Job → World)
    (kept : ∀ job, boost.job? id = some job → job.dead = false → holds (boost.onWorld (act boost.toWorld job))) :
    holds (boost.onJob id act) := by
  unfold onJob
  split
  · exact before
  next job found =>
    split
    · exact before
    next alive => exact kept job found (by simpa using alive)

def onCapture (id : Nat) (act : Boost → Capture → Boost) : Boost :=
  match boost.capture? id with
  | none => boost
  | some capture => if capture.dead then boost else act boost capture

def noteCycle (after : Boost) : Boost :=
  if after.cycle = boost.cycle then after else after.onWorld (after.toWorld.note .cycleEnded)

/-- A person's confirmation that no campaign exists is noted. -/
def noteConfirmation (id : Uuid) (after : Boost) : Boost :=
  if (boost.command id).any fun command => command.reasonCode == some createOutcomeUnknownCode then
    after.onWorld (after.toWorld.note .noneConfirmed)
  else after

def onTables (desk : Desk) : Boost := boost.onDesk fun _ => desk

/-- `process_due_ads_boost_starts`, for a gate without a run whose time has come. -/
def startDue (now : Nat) : Except BoostError Boost :=
  match boost.gate.resolverId, boost.gate.sealedAds, boost.run with
  | some resolver, some seal_, none =>
    if boost.gate.status = .approved ∧ seal_.startsAt ≤ now then
      boost.onTables <$> boost.requestAdsBoostStart resolver .scheduler now
    else .ok boost
  | _, _, _ => .ok boost

def attempt (boost : Boost) : Event → Except BoostError Boost
  | .requestBoost terms requester now => boost.onTables <$> boost.requestAdsBoost terms requester now
  | .moveGate newStatus resolverId now => boost.onTables <$> boost.toDesk.moveGate newStatus resolverId now
  | .start requester now => boost.onTables <$> boost.requestAdsBoostStart requester .human now
  | .scheduledStart now => boost.startDue now
  | .pause requester preferred now => boost.onTables <$> boost.requestToggle .pause requester none true preferred now
  | .resume requester preferred now => boost.onTables <$> boost.requestToggle .resume requester none true preferred now
  | .cancel actor admin now => (fun desk => boost.noteCycle (boost.onTables desk)) <$> boost.cancelAdsBoost actor admin now
  | .finishCancel now => .ok (boost.noteCycle (boost.onTables (boost.finishCancelIfStopped now)))
  | .pauseLeft preferred now => boost.onTables <$> boost.pauseLeftCampaign preferred now
  | .captureAfterFailedPause id now => boost.onTables <$> boost.captureAfterFailedCancelPause id now
  | .retry id confirmed =>
    (fun desk => boost.noteConfirmation id (boost.onTables desk)) <$> boost.retryCommand id confirmed
  | .adopt found adsetBudgetMinor answer => boost.onWorld <$> boost.toWorld.adopt found adsetBudgetMinor answer
  | .setPublishPaused paused => .ok (boost.onDesk fun desk => { desk with publishPaused := paused })
  | .requeuePaused => .ok (boost.onTables boost.toDesk.requeuePaused)
  | .claim id now => .ok (boost.onWorld (boost.toWorld.claimCommand id now))
  | .advance id answer => .ok (boost.onJob id fun world job => world.advance job answer)
  | .escape id => .ok (boost.onJob id World.escape)
  | .crash id => .ok (boost.onJob id World.crash)
  | .recover id now => .ok (boost.onWorld (boost.toWorld.recoverInterrupted id now))
  | .claimCapture id now => .ok (boost.claimCapture id now)
  | .advanceCapture id answer => .ok (boost.onCapture id fun boost capture => boost.advanceCapture capture answer)
  | .escapeCapture id code => .ok (boost.onCapture id fun boost capture => boost.escapeCapture capture code)
  | .crashCapture id => .ok (boost.onCapture id Boost.crashCapture)
  | .refreshSpend answer now => .ok (boost.refreshSpendNow answer now)

/-- One event of a run; a refused request changes nothing. -/
def step : Boost → Event → Boost := Runs.settle attempt

end Boost

/-- A boost that nobody has asked for yet. -/
def Boost.initial (gateId orgId : Uuid) (snapshots : List Snapshot) : Boost where
  gate := { id := gateId, orgId }
  snapshots

end Sprintable.Boosts
