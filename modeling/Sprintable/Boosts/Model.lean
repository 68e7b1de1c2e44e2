import Sprintable.Gates.Model
import Sprintable.Logic.Keyed
import Sprintable.Publications.Commands

/-! An ad boost of one published post: the gate that seals its terms, the run of
the current cycle, the commands of the run, its spend captures and the objects at
the ad provider. A post has one boost gate, and the gate has one run. -/

namespace Sprintable.Boosts

open Gates (GateStatus)
open Publications (Command CommandStatus)

structure Terms where
  budgetMinor : Nat
  currency : String
  startsAt : Nat
  endsAt : Nat
  objective : String
  connectionId : Uuid
  deriving DecidableEq, Repr

/-- The sealed columns of the gate. Each sealing draws a new version id. -/
structure Seal extends Terms where
  versionId : Uuid
  deriving DecidableEq, Repr

structure BoostGate where
  id : Uuid
  orgId : Uuid
  status : GateStatus := .pending
  sealedAds : Option Seal := none
  requestedByMemberId : Option Uuid := none
  resolverId : Option Uuid := none
  reapprovalRequired : Bool := false
  deriving DecidableEq, Repr

inductive RunStatus where
  | pending | running | pausePending | paused
  deriving DecidableEq, Repr

/-- The columns of a run. `createHolder` is not a column: it names the job that won
the creation claim, and no function reads it. -/
structure BoostRun where
  status : RunStatus := .pending
  campaignId : Option Nat := none
  adsetId : Option Nat := none
  adId : Option Nat := none
  startedAt : Option Nat := none
  pausedAt : Option Nat := none
  capReachedAt : Option Nat := none
  spendBlockedAt : Option Nat := none
  spendBlockedCode : Option String := none
  spendBlockedNotifiedAt : Option Nat := none
  accountCurrency : Option String := none
  createdBudgetMinor : Option Nat := none
  createdForVersionId : Option Uuid := none
  createdConnectionId : Option Uuid := none
  createClaimedAt : Option Nat := none
  createCallStartedAt : Option Nat := none
  cycleStartedAt : Option Nat := none
  cancelRequestedAt : Option Nat := none
  cancelRequestedBy : Option Uuid := none
  cycleNo : Nat := 1
  createHolder : Option Nat := none
  deriving DecidableEq, Repr

structure ObjectIds where
  campaign : Option Nat := none
  adset : Option Nat := none
  ad : Option Nat := none
  deriving DecidableEq, Repr

def ObjectIds.complete (ids : ObjectIds) : Bool := ids.campaign.isSome && ids.adset.isSome && ids.ad.isSome

def BoostRun.ids (run : BoostRun) : ObjectIds := { campaign := run.campaignId, adset := run.adsetId, ad := run.adId }

inductive Operation where
  | boostStart | pause | resume
  deriving DecidableEq, Repr

def Operation.text : Operation → String
  | .boostStart => "boost_start"
  | .pause => "pause"
  | .resume => "resume"

/-- Operations that only stop money are never refused for the seal or the approval. -/
def moneyStoppingOps : List Operation := [.pause]

inductive Initiator where
  | human | scheduler
  deriving DecidableEq, Repr

structure BoostCommand extends Command where
  boost : Operation
  initiatedBy : Option Initiator := none
  adsBoostCycle : Nat
  deriving DecidableEq, Repr

def nonTerminalStatuses : List CommandStatus := [.pending, .inProgress, .blocked]

namespace BoostCommand

/-- The command may still reach the provider. -/
def out (command : BoostCommand) : Bool := nonTerminalStatuses.contains command.status

def isToggle (command : BoostCommand) : Bool := command.boost == .pause || command.boost == .resume

end BoostCommand

inductive SnapshotStatus where
  | pending | inProgress | captured | failed
  deriving DecidableEq, Repr

/-- A capture of the post's figures. Paid captures read the spend of the campaign;
the others share the table and its unique due times. -/
structure Snapshot where
  id : Nat
  paid : Bool := true
  dueAt : Nat
  status : SnapshotStatus := .pending
  spendMinor : Option Nat := none
  adsBoostCycle : Option Nat := none
  capturedAt : Option Nat := none
  errorCode : Option String := none
  deriving DecidableEq, Repr

structure EndedCycle where
  ids : ObjectIds
  createdBudgetMinor : Option Nat
  createdForVersionId : Option Uuid
  createdConnectionId : Option Uuid
  currency : Option String
  spendMinor : Nat
  endedAt : Nat
  endedByMemberId : Option Uuid
  deriving DecidableEq, Repr

/-- The tables of the boost. `sealings` counts the version ids drawn so far. -/
structure Desk where
  gate : BoostGate
  run : Option BoostRun := none
  commands : List BoostCommand := []
  snapshots : List Snapshot := []
  cycles : List EndedCycle := []
  publishPaused : Bool := false
  sealings : Nat := 0

inductive BoostError where
  | gateNotApproved (status : GateStatus)
  | gateMove (fromStatus toStatus : GateStatus)
  | unsealed
  | notStarted
  | notPaused
  | alreadyInState (operation : Operation)
  | capReached (operation : Operation)
  | spendBlocked (code : Option String)
  | cancelInProgress
  | budgetExceedsSeal (sealedBudgetMinor requestedBudgetMinor : Nat)
  | cancelForbidden
  | alreadyCancelled
  | campaignCheckRequired
  | adoptNotApplicable
  | budgetMismatch
  | duplicateDueAt
  | notFound
  | notRetryable
  deriving DecidableEq, Repr

namespace Desk

def putRun (desk : Desk) (run : BoostRun) : Desk := { desk with run := some run }

def command (desk : Desk) (id : Uuid) : Option BoostCommand := Keyed.find (·.id) desk.commands id

def putCommand (desk : Desk) (command : BoostCommand) : Desk :=
  { desk with commands := Keyed.put (·.id) desk.commands command }

/-- The number of the run's cycle; the first one before there is a run. -/
def cycle (desk : Desk) : Nat := (desk.run.map BoostRun.cycleNo).getD 1

def commandOut (desk : Desk) : Bool := desk.commands.any BoostCommand.out

/-- Insert a pending paid capture unless the due time is taken. -/
def insertSnapshot (desk : Desk) (dueAt : Nat) : Desk :=
  if desk.snapshots.any fun row => row.dueAt == dueAt then desk
  else { desk with snapshots := desk.snapshots ++ [{ id := desk.snapshots.length, dueAt }] }

def pendingPaid (desk : Desk) : List Snapshot :=
  desk.snapshots.filter fun row => row.paid && row.status == .pending

def capturedSpendMinor (desk : Desk) (cycle : Nat) : Nat :=
  ((desk.snapshots.filter fun row => row.paid && row.status == .captured && row.adsBoostCycle.getD 1 == cycle).map
    fun row => row.spendMinor.getD 0).sum

end Desk

section Columns
variable (desk : Desk) (run : BoostRun) (command : BoostCommand) (dueAt : Nat)

@[simp] theorem insertSnapshot_run : (desk.insertSnapshot dueAt).run = desk.run := by
  unfold Desk.insertSnapshot
  split <;> rfl

@[simp] theorem insertSnapshot_gate : (desk.insertSnapshot dueAt).gate = desk.gate := by
  unfold Desk.insertSnapshot
  split <;> rfl

@[simp] theorem insertSnapshot_commands : (desk.insertSnapshot dueAt).commands = desk.commands := by
  unfold Desk.insertSnapshot
  split <;> rfl

end Columns

/-- The unit of work writes a column only where the assigned value is not the loaded one. -/
def flushed {α : Type} [DecidableEq α] (loaded assigned stored : α) : α := if assigned = loaded then stored else assigned

theorem flushed_same {α : Type} [DecidableEq α] (loaded stored : α) : flushed loaded loaded stored = stored := if_pos rfl

theorem flushed_cases {α : Type} [DecidableEq α] (loaded assigned stored : α) :
    flushed loaded assigned stored = stored ∨ flushed loaded assigned stored = assigned := by
  unfold flushed
  split
  · exact .inl rfl
  · exact .inr rfl

/-- The stored row after a flush of an object that was loaded as `loaded`. -/
def BoostRun.flush (loaded assigned stored : BoostRun) : BoostRun where
  status := flushed loaded.status assigned.status stored.status
  campaignId := flushed loaded.campaignId assigned.campaignId stored.campaignId
  adsetId := flushed loaded.adsetId assigned.adsetId stored.adsetId
  adId := flushed loaded.adId assigned.adId stored.adId
  startedAt := flushed loaded.startedAt assigned.startedAt stored.startedAt
  pausedAt := flushed loaded.pausedAt assigned.pausedAt stored.pausedAt
  capReachedAt := flushed loaded.capReachedAt assigned.capReachedAt stored.capReachedAt
  spendBlockedAt := flushed loaded.spendBlockedAt assigned.spendBlockedAt stored.spendBlockedAt
  spendBlockedCode := flushed loaded.spendBlockedCode assigned.spendBlockedCode stored.spendBlockedCode
  spendBlockedNotifiedAt :=
    flushed loaded.spendBlockedNotifiedAt assigned.spendBlockedNotifiedAt stored.spendBlockedNotifiedAt
  accountCurrency := flushed loaded.accountCurrency assigned.accountCurrency stored.accountCurrency
  createdBudgetMinor := flushed loaded.createdBudgetMinor assigned.createdBudgetMinor stored.createdBudgetMinor
  createdForVersionId := flushed loaded.createdForVersionId assigned.createdForVersionId stored.createdForVersionId
  createdConnectionId := flushed loaded.createdConnectionId assigned.createdConnectionId stored.createdConnectionId
  createClaimedAt := flushed loaded.createClaimedAt assigned.createClaimedAt stored.createClaimedAt
  createCallStartedAt := flushed loaded.createCallStartedAt assigned.createCallStartedAt stored.createCallStartedAt
  cycleStartedAt := flushed loaded.cycleStartedAt assigned.cycleStartedAt stored.cycleStartedAt
  cancelRequestedAt := flushed loaded.cancelRequestedAt assigned.cancelRequestedAt stored.cancelRequestedAt
  cancelRequestedBy := flushed loaded.cancelRequestedBy assigned.cancelRequestedBy stored.cancelRequestedBy
  cycleNo := flushed loaded.cycleNo assigned.cycleNo stored.cycleNo
  createHolder := flushed loaded.createHolder assigned.createHolder stored.createHolder

end Sprintable.Boosts
