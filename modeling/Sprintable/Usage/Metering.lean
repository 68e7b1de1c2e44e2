import Mathlib.Algebra.GroupWithZero.Nat
import Sprintable.Basic

/-! What posts and insight reads on X cost. A check sums what is recorded of the month; the provider is
called after it, and what the provider has accepted is recorded after that. Between any two of these
the other attempts go on, and an attempt may end anywhere. -/

namespace Sprintable.Usage

/-- The rule `api_usage_budget` of the organisation. -/
structure Budget where
  limitMinor : Nat
  unitCostMinor : Option Nat := none
  insightsReadUnitCostMinor : Option Nat := none
  deriving DecidableEq, Repr

def DEFAULT_UNIT_COST_MINOR : Nat := 20

def DEFAULT_INSIGHTS_READ_UNIT_COST_MINOR : Nat := 5

namespace Budget

def getApiUsageUnitCostMinor (budget : Budget) : Nat := budget.unitCostMinor.getD DEFAULT_UNIT_COST_MINOR

def getXInsightsReadUnitCostMinor (budget : Budget) : Nat :=
  budget.insightsReadUnitCostMinor.getD DEFAULT_INSIGHTS_READ_UNIT_COST_MINOR

end Budget

inductive SnapshotKind where
  | day1 | day7
  deriving DecidableEq, Repr

/-- What is paid for. A segment of a post has one publication row. -/
inductive PaidUsage where
  | segment (post sequence : Nat)
  | read (post : Nat) (kind : SnapshotKind)
  deriving DecidableEq, Repr

/-- An evidence row of the kind `api_usage_cost`. -/
structure Evidence where
  usage : PaidUsage
  costMinor : Nat
  month : Nat
  deriving DecidableEq, Repr

/-- An approved version: the segments after its head, and whether it has an image. -/
structure Post where
  thread : Nat := 0
  media : Bool := false
  deriving DecidableEq, Repr

namespace Post

def total (post : Post) : Nat := 1 + post.thread

end Post

inductive PublicationStatus where
  | containerCreated | published | failed
  deriving DecidableEq, Repr

/-- What a single post's container stands for: a tweet without an image is out once it is made. -/
inductive Container where
  | posted | media
  deriving DecidableEq, Repr

structure Publication where
  post : Nat
  sequence : Nat
  status : PublicationStatus := .containerCreated
  container : Option Container := none
  claimed : Bool := false
  publishedAt : Nat := 0
  deriving DecidableEq, Repr

inductive SnapshotStatus where
  | pending | inProgress | captured | failed | skipped | superseded
  deriving DecidableEq, Repr

/-- A read that is due a day or a week after the publication that it is anchored at. -/
structure Snapshot where
  post : Nat
  kind : SnapshotKind
  anchorAt : Nat
  status : SnapshotStatus := .pending
  deriving DecidableEq, Repr

/-- Where an attempt is. -/
inductive Phase where
  /-- The thread's remaining segments are being sent. A failed row may be there for the first of them. -/
  | sending (post last remaining : Nat) (resume : Option Nat)
  /-- Accepted segments are saved one by one, and after them the failure of the next. -/
  | recording (post next left : Nat) (resume : Option Nat) (failed first : Bool)
  /-- A single post's container is being made. -/
  | creating (post : Nat) (media : Bool)
  /-- The post is being made of its media container. -/
  | publishing (post : Nat)
  /-- The tweet is out, and then its row is saved, its reads are scheduled and its cost is recorded. -/
  | posted (post : Nat)
  | saved (post : Nat)
  | charging (post : Nat)
  /-- A snapshot is claimed, read, and what was read is saved. -/
  | claimed (snapshot post : Nat) (kind : SnapshotKind)
  | reading (snapshot post : Nat) (kind : SnapshotKind)
  | fetched (snapshot post : Nat) (kind : SnapshotKind)
  | over
  deriving DecidableEq, Repr

/-- What comes of a provider call. An answer may get lost after the provider has accepted. -/
inductive Answer where
  | accepted (count : Nat)
  | refused | waiting | broken
  | unheard (count : Nat)
  deriving DecidableEq, Repr

inductive Event where
  | publish (post : Nat) (claimExpired : Bool)
  | claim (snapshot : Nat)
  | answer (attempt : Nat) (answer : Answer)
  | proceed (attempt : Nat) (now : Nat)
  | crash (attempt : Nat)
  | turn
  deriving DecidableEq, Repr

/-- With what the provider has accepted so far. -/
structure World where
  budget : Budget
  posts : List Post
  month : Nat := 0
  publications : List Publication := []
  evidence : List Evidence := []
  snapshots : List Snapshot := []
  attempts : List Phase := []
  calls : List PaidUsage := []
  deriving DecidableEq, Repr

def segments (post next count : Nat) : List PaidUsage := (List.range count).map fun offset => .segment post (next + offset)

namespace Phase

def held : Phase → List PaidUsage
  | .recording post next left _ _ _ => segments post next left
  | .posted post | .saved post | .charging post => [.segment post 1]
  | .fetched _ post kind => [.read post kind]
  | _ => []

def reserved (budget : Budget) : Phase → Nat
  | .sending _ _ remaining _ => budget.getApiUsageUnitCostMinor * remaining
  | .recording _ _ left _ _ _ => budget.getApiUsageUnitCostMinor * left
  | .creating .. | .publishing _ | .posted _ | .saved _ | .charging _ => budget.getApiUsageUnitCostMinor
  | .reading .. | .fetched .. => budget.getXInsightsReadUnitCostMinor
  | .claimed .. | .over => 0

def accepts : Phase → Answer → List PaidUsage
  | .sending post last remaining _, .accepted count | .sending post last remaining _, .unheard count =>
    segments post (last + 1) (min count remaining)
  | .creating post media, .accepted _ | .creating post media, .unheard _ => if media then [] else [.segment post 1]
  | .publishing post, .accepted _ | .publishing post, .unheard _ => [.segment post 1]
  | .reading _ post kind, .accepted _ | .reading _ post kind, .unheard _ => [.read post kind]
  | _, _ => []

/-- A container of an image is looked at again by a later attempt. -/
def next : Phase → Answer → Phase
  | .sending post last remaining resume, .accepted count =>
    .recording post (last + 1) (min count remaining) resume (decide (count < remaining)) (last == 0)
  | .sending post last _ resume, .refused => .recording post (last + 1) 0 resume true (last == 0)
  | .creating post media, .accepted _ => if media then .over else .posted post
  | .publishing post, .accepted _ => .posted post
  | .reading snapshot post kind, .accepted _ => .fetched snapshot post kind
  | .creating .., .refused | .publishing _, .refused | .publishing _, .waiting | .publishing _, .broken
  | .reading .., .refused | .reading .., .waiting => .over
  | .sending .., .unheard _ | .creating .., .unheard _ | .publishing _, .unheard _ | .reading .., .unheard _ => .over
  | phase, _ => phase

end Phase

namespace World
variable (world : World)

def fresh (budget : Budget) (posts : List Post) : World := { budget, posts }

section Checks

def spentMinor : Nat := ((world.evidence.filter (·.month == world.month)).map Evidence.costMinor).sum

/-- `check_api_usage_budget_or_raise` does not raise. -/
def passes (estimatedCostMinor : Nat) : Bool := decide (estimatedCostMinor + world.spentMinor ≤ world.budget.limitMinor)

/-- `record_api_usage_cost_evidence` and `record_x_insights_read_cost_evidence`: once for each usage. -/
def record (usage : PaidUsage) (costMinor : Nat) : World :=
  if world.evidence.any (·.usage == usage) then world
  else { world with evidence := world.evidence ++ [{ usage, costMinor, month := world.month }] }

end Checks

section Rows

def publication? (post sequence : Nat) : Option Publication :=
  world.publications.find? fun row => row.post == post && row.sequence == sequence

def rowsOf (post : Nat) : List Publication := world.publications.filter (·.post == post)

def lastPublishedSeq (post : Nat) : Nat :=
  (((world.rowsOf post).filter (·.status == .published)).map Publication.sequence).foldr max 0

def resumeSeq (post last : Nat) : Option Nat :=
  if (world.rowsOf post).any fun row => row.sequence == last + 1 && row.status == .failed then some (last + 1) else none

def updateRow (post sequence : Nat) (change : Publication → Publication) : World :=
  { world with
    publications := world.publications.map fun row => if row.post = post ∧ row.sequence = sequence then change row else row }

def insertRow (row : Publication) : World := { world with publications := world.publications ++ [row] }

def setSnapshot (index : Nat) (status : SnapshotStatus) : World :=
  { world with snapshots := world.snapshots.modify index fun snapshot => { snapshot with status } }

/-- `_finalize_snapshot_write`: only a snapshot that is still in progress is written. -/
def finalizeSnapshot (index : Nat) (status : SnapshotStatus) : World :=
  if (world.snapshots[index]?).any (·.status == .inProgress) then world.setSnapshot index status else world

/-- `schedule_insight_snapshots`: two reads for this anchor, and the open ones of other anchors are given up. -/
def schedule (post : Nat) : World :=
  match world.publication? post 1 with
  | none => world
  | some head =>
    let due := [SnapshotKind.day1, .day7].filter fun kind =>
      !world.snapshots.any fun snapshot => snapshot.post == post && snapshot.kind == kind && snapshot.anchorAt == head.publishedAt
    let others := world.snapshots.map fun snapshot =>
      if snapshot.post = post ∧ snapshot.anchorAt ≠ head.publishedAt ∧ (snapshot.status = .pending ∨ snapshot.status = .inProgress) then
        { snapshot with status := .superseded }
      else snapshot
    { world with snapshots := others ++ due.map fun kind => { post, kind, anchorAt := head.publishedAt } }

end Rows

def startAttempt (phase : Phase) : World := { world with attempts := world.attempts ++ [phase] }

def setPhase (attempt : Nat) (phase : Phase) : World := { world with attempts := world.attempts.set attempt phase }

section Publishing

/-- Where a publish attempt goes on after its check, unless it ends there. A thread is checked for what is left of it. -/
def opening (post : Nat) (claimExpired : Bool) : Option Phase :=
  match world.posts[post]? with
  | none => none
  | some draft =>
    if draft.thread = 0 then
      if world.passes world.budget.getApiUsageUnitCostMinor = false then none
      else match world.publication? post 1 with
      | none => some (.creating post draft.media)
      | some row =>
        if row.status = .published then none
        else match row.container with
        | some .posted => some (.posted post)
        | some .media => some (.publishing post)
        | none => if row.claimed && !claimExpired then none else some (.creating post draft.media)
    else
      let last := world.lastPublishedSeq post
      let remaining := draft.total - last
      if (world.rowsOf post).length = draft.total ∧ (world.rowsOf post).all (·.status == .published) then none
      else if world.passes (world.budget.getApiUsageUnitCostMinor * remaining) = false then none
      else some (.sending post last remaining (world.resumeSeq post last))

def claimRow : Phase → World
  | .creating post _ =>
    if (world.publication? post 1).isSome then world.updateRow post 1 fun row => { row with claimed := true }
    else world.insertRow { post, sequence := 1, claimed := true }
  | _ => world

def publish (post : Nat) (claimExpired : Bool) : World :=
  match world.opening post claimExpired with
  | none => world
  | some phase => (world.claimRow phase).startAttempt phase

/-- The row of an accepted segment and its cost are one commit. A row that another attempt has made in the
meantime ends this one. -/
def saveSegment (attempt post sequence left now : Nat) (resume : Option Nat) (failed first : Bool) : World :=
  let charged := fun written : World =>
    (written.record (.segment post sequence) world.budget.getApiUsageUnitCostMinor).setPhase attempt
      (.recording post (sequence + 1) left resume failed first)
  if resume = some sequence then
    charged (world.updateRow post sequence fun row => { row with status := .published, publishedAt := now })
  else if (world.publication? post sequence).isSome then world.setPhase attempt .over
  else charged (world.insertRow { post, sequence, status := .published, publishedAt := now })

def endThread (attempt post sequence : Nat) (resume : Option Nat) (failed first : Bool) : World :=
  if failed then
    if resume = some sequence then (world.updateRow post sequence fun row => { row with status := .failed }).setPhase attempt .over
    else if (world.publication? post sequence).isSome then world.setPhase attempt .over
    else (world.insertRow { post, sequence, status := .failed }).setPhase attempt .over
  else if first then (world.schedule post).setPhase attempt .over
  else world.setPhase attempt .over

end Publishing

section Reading

def claim (index : Nat) : World :=
  match world.snapshots[index]? with
  | none => world
  | some snapshot =>
    if snapshot.status = .pending then (world.setSnapshot index .inProgress).startAttempt (.claimed index snapshot.post snapshot.kind)
    else world

def checkRead (attempt index post : Nat) (kind : SnapshotKind) : World :=
  if world.passes world.budget.getXInsightsReadUnitCostMinor then world.setPhase attempt (.reading index post kind)
  else (world.finalizeSnapshot index .skipped).setPhase attempt .over

/-- The cost of a read is in the transaction that saves what was read, and is given up with it. -/
def saveRead (attempt index post : Nat) (kind : SnapshotKind) : World :=
  if (world.snapshots[index]?).any (·.status == .inProgress) then
    ((world.record (.read post kind) world.budget.getXInsightsReadUnitCostMinor).setSnapshot index .captured).setPhase attempt .over
  else world.setPhase attempt .over

end Reading

def answered : Phase → Answer → World
  | .creating post media, .accepted _ =>
    world.updateRow post 1 fun row =>
      { row with status := .containerCreated, container := some (if media then .media else .posted), claimed := false }
  | .creating post _, .refused => world.updateRow post 1 fun row => { row with status := .failed, claimed := false }
  | .publishing post, .refused => world.updateRow post 1 fun row => { row with status := .failed }
  | .publishing post, .broken => world.updateRow post 1 fun row => { row with status := .failed, container := none }
  | .reading index _ _, .refused => world.finalizeSnapshot index .failed
  | .reading index _ _, .waiting => world.finalizeSnapshot index .pending
  | _, _ => world

def answer (attempt : Nat) (phase : Phase) (answer : Answer) : World :=
  { world.answered phase answer with calls := world.calls ++ phase.accepts answer }.setPhase attempt (phase.next answer)

def proceed (attempt now : Nat) : Phase → World
  | .recording post next (left + 1) resume failed first => world.saveSegment attempt post next left now resume failed first
  | .recording post next 0 resume failed first => world.endThread attempt post next resume failed first
  | .posted post =>
    (world.updateRow post 1 fun row => { row with status := .published, publishedAt := now }).setPhase attempt (.saved post)
  | .saved post => (world.schedule post).setPhase attempt (.charging post)
  | .charging post => (world.record (.segment post 1) world.budget.getApiUsageUnitCostMinor).setPhase attempt .over
  | .claimed index post kind => world.checkRead attempt index post kind
  | .fetched index post kind => world.saveRead attempt index post kind
  | _ => world

def phaseOf (attempt : Nat) : Phase := (world.attempts[attempt]?).getD .over

def step : Event → World
  | .publish post claimExpired => world.publish post claimExpired
  | .claim snapshot => world.claim snapshot
  | .answer attempt answer => world.answer attempt (world.phaseOf attempt) answer
  | .proceed attempt now => world.proceed attempt now (world.phaseOf attempt)
  | .crash attempt => world.setPhase attempt .over
  | .turn => { world with month := world.month + 1 }

end World

end Sprintable.Usage
