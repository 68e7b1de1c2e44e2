import Sprintable.Boosts.Toggles

/-! One campaign a cycle. A job wins the creation claim of the run, marks the run before
it sends, and the mark stays until a definite answer is recorded, a person confirms that
nothing was made, or the cycle ends. While the holder of the claim is the one that goes
on, no second creation is sent after one that may have made a campaign. -/

namespace Sprintable.Boosts

/-- The jobs whose campaign creations may have made a campaign: those of the cycle that
were not definitely rejected, since a person has last confirmed that there is none. -/
def openCreations : List Note → List Nat
  | [] => []
  | .createSent job :: earlier => job :: openCreations earlier
  | .createRejected job :: earlier => (openCreations earlier).filter (· ≠ job)
  | .noneConfirmed :: _ | .cycleEnded :: _ => []

/-- All campaign creations of the cycle since that confirmation. -/
def creationsSent : List Note → Nat
  | [] => 0
  | .createSent _ :: earlier => creationsSent earlier + 1
  | .createRejected _ :: earlier => creationsSent earlier
  | .noneConfirmed :: _ | .cycleEnded :: _ => 0

/-- A job goes on with its creation only while it holds the claim, and one that has
loaded no campaign does not win the claim of a run that has one. -/
def Boost.fenced (boost : Boost) : Event → Bool
  | .advance id _ =>
    (boost.job? id).all fun job => job.dead ||
      match job.stage with
      | .claimCreation =>
        boost.run.all fun run => !World.claimable run job.now || job.existing.campaign.isSome || run.campaignId.isNone
      | .createCheck | .createMark | .createCall | .createAnswer _ _ =>
        boost.run.any fun run => run.createHolder == some job.id
      | _ => true
  | _ => true

/-- The row of the run; one that is not there yet counts as a new one. -/
def Desk.row (desk : Desk) : BoostRun := desk.run.getD {}

/-- A person's act, the end of a cycle, or the record of a definite answer. -/
def Boost.mayUnmark (boost : Boost) : Event → Bool
  | .retry _ confirmedNoCampaign => confirmedNoCampaign
  | .adopt _ _ _ | .finishCancel _ => true
  | .advance id _ =>
    (boost.job? id).any fun job =>
      match job.stage with
      | .createAnswer _ failure => failure != some .unknown
      | _ => false
  | _ => false

/-- A creation is under way or has got no definite answer. -/
def Boost.Marked (boost : Boost) : Prop := boost.row.createCallStartedAt ≠ none

/-- The mark of a creation is cleared by nothing else. -/
def Boost.KeepsMark (boost : Boost) (event : Event) : Prop :=
  boost.Marked → (boost.step event).Marked ∨ boost.mayUnmark event = true

/-- The columns of a row that creations go by. -/
structure Claims where
  campaignId : Option Nat
  claimedAt : Option Nat
  callStartedAt : Option Nat
  holder : Option Nat

def BoostRun.claims (run : BoostRun) : Claims := ⟨run.campaignId, run.createClaimedAt, run.createCallStartedAt, run.createHolder⟩

/-- What an answer to a creation says about the campaign: it comes back, or the call
that was to make it was rejected, or none was sent. -/
def Answered (claims : Claims) (unrejected : List Nat) (job : Nat) (ids : ObjectIds) : Option CreateFailure → Prop
  | none | some (.rejected (some .adset)) | some (.rejected (some .ad)) => ids.campaign ≠ none
  | some (.rejected (some .campaign)) => ∀ sender ∈ unrejected, sender = job
  | some (.rejected none) => claims.campaignId ≠ none ∨ unrejected = []
  | some .unknown => True

/-- Nothing was sent that may have made a campaign the row does not know. -/
def Unsent (claims : Claims) (unrejected : List Nat) (job : Job) : Prop :=
  (claims.campaignId ≠ none ∨ unrejected = []) ∧ (job.existing.campaign = none → unrejected = [])

/-- What the holder of the claim knows at each stage of its creation. -/
def Holding (claims : Claims) (unrejected : List Nat) (job : Job) : Prop :=
  claims.holder = some job.id →
    match job.stage with
    | .createCheck | .createMark =>
      claims.campaignId = job.run.campaignId ∧ claims.claimedAt ≠ none ∧ claims.callStartedAt = none ∧
        job.run.createCallStartedAt = none ∧ Unsent claims unrejected job
    | .createCall =>
      claims.campaignId = job.run.campaignId ∧ claims.callStartedAt ≠ none ∧ job.run.createCallStartedAt ≠ none ∧
        Unsent claims unrejected job
    | .createAnswer ids failure =>
      claims.campaignId = job.run.campaignId ∧ claims.callStartedAt ≠ none ∧ job.run.createCallStartedAt ≠ none ∧
        Answered claims unrejected job.id ids failure
    | _ => True

/-- At most one creation may have made a campaign, and then the row has a campaign or a
mark; a mark stands under a claim. -/
structure Boost.Single (boost : Boost) : Prop where
  marked : boost.row.createCallStartedAt ≠ none → boost.row.createClaimedAt ≠ none
  one : (openCreations boost.history).length ≤ 1
  covered : openCreations boost.history ≠ [] → boost.row.campaignId ≠ none ∨ boost.row.createCallStartedAt ≠ none
  jobs : ∀ job ∈ boost.jobs, Holding boost.row.claims (openCreations boost.history) job

theorem Holding.other {claims : Claims} {unrejected : List Nat} (job : Job) {other : Job}
    (holder : claims.holder = none ∨ claims.holder = some job.id) (different : other.id ≠ job.id) :
    Holding claims unrejected other := by
  intro held
  rcases holder with free | own
  · rw [free] at held
    cases held
  · rw [own] at held
    exact absurd (Option.some.inj held).symm different

theorem Holding.settled {claims : Claims} {unrejected : List Nat} {job : Job} (holding : Holding claims unrejected job) :
    Holding claims [] job := by
  intro held
  have known := holding held
  cases stage : job.stage with
  | createCheck | createMark =>
    simp only [stage] at known
    exact ⟨known.1, known.2.1, known.2.2.1, known.2.2.2.1, .inr rfl, fun _ => rfl⟩
  | createCall =>
    simp only [stage] at known
    exact ⟨known.1, known.2.1, known.2.2.1, .inr rfl, fun _ => rfl⟩
  | createAnswer ids failure =>
    simp only [stage] at known
    refine ⟨known.1, known.2.1, known.2.2.1, ?_⟩
    have answered := known.2.2.2
    unfold Answered at answered ⊢
    split at answered
    · exact answered
    · exact answered
    · exact answered
    · exact fun _ member => by cases member
    · exact .inr rfl
    · exact True.intro
  | _ => exact True.intro

theorem Holding.dead {claims : Claims} {unrejected : List Nat} {job : Job} (holding : Holding claims unrejected job) :
    Holding claims unrejected { job with dead := true } := holding

/-- How a creation that starts from `ids` ends. -/
inductive Outcome (ids : ObjectIds) (currencyKnown : Bool) : ObjectIds → Option CreateFailure → Prop where
  | made {after : ObjectIds} (campaign : after.campaign ≠ none) : Outcome ids currencyKnown after none
  | refused {after : ObjectIds} (unsent : currencyKnown = false) : Outcome ids currencyKnown after (some (.rejected none))
  | unmade {after : ObjectIds} (missing : ids.campaign = none) : Outcome ids currencyKnown after (some (.rejected (some .campaign)))
  | later {after : ObjectIds} (level : Level) (below : level ≠ .campaign) (campaign : after.campaign ≠ none) :
      Outcome ids currencyKnown after (some (.rejected (some level)))
  | unknown {after : ObjectIds} : Outcome ids currencyKnown after (some .unknown)

namespace Outcome
variable (provider : Provider) (terms : Terms) (reply : Level → LevelReply) {ids : ObjectIds} (currencyKnown : Bool)

theorem campaign_level :
    Outcome ids currencyKnown (provider.createCampaign terms reply ids).2.1 (provider.createCampaign terms reply ids).2.2 := by
  unfold Provider.createCampaign
  split
  next known => exact .made (Option.isSome_iff_ne_none.mp known)
  next missing =>
    split
    · exact .made (Option.some_ne_none _)
    · exact .unmade (by simpa using missing)
    · exact .unknown
    · exact .unknown

theorem adset_level {known : ObjectIds} (campaign : known.campaign ≠ none) :
    Outcome ids currencyKnown (provider.createAdset terms reply known).2.1 (provider.createAdset terms reply known).2.2 := by
  unfold Provider.createAdset
  split
  · exact .made campaign
  · split
    · exact .made campaign
    · exact .later .adset (by decide) campaign
    · exact .unknown
    · exact .unknown

theorem ad_level {known : ObjectIds} (campaign : known.campaign ≠ none) :
    Outcome ids currencyKnown (provider.createAd reply known).2.1 (provider.createAd reply known).2.2 := by
  unfold Provider.createAd
  split
  · exact .made campaign
  · split
    · exact .made campaign
    · exact .later .ad (by decide) campaign
    · exact .unknown
    · exact .unknown

theorem call :
    Outcome ids currencyKnown (provider.createBoostCampaign terms reply ids currencyKnown).2.1
      (provider.createBoostCampaign terms reply ids currencyKnown).2.2 := by
  unfold Provider.createBoostCampaign
  split
  next unsent => exact .refused (by simpa using unsent)
  have campaign : Outcome ids currencyKnown _ _ := campaign_level provider terms reply currencyKnown
  generalize provider.createCampaign terms reply ids = first at campaign ⊢
  obtain ⟨made, partial_, failure⟩ := first
  cases failure with
  | some failure => exact campaign
  | none =>
    obtain ⟨present⟩ := campaign
    have adset : Outcome ids currencyKnown _ _ := adset_level made terms reply currencyKnown present
    dsimp only
    generalize made.createAdset terms reply partial_ = second at adset ⊢
    obtain ⟨more, known, failure⟩ := second
    cases failure with
    | some failure => exact adset
    | none =>
      obtain ⟨present⟩ := adset
      exact ad_level more reply currencyKnown present

theorem answered {currencyKnown : Bool} {made : ObjectIds} {failure : Option CreateFailure} (outcome : Outcome ids currencyKnown made failure)
    {claims : Claims} {unrejected : List Nat} (job : Nat) (unsent : claims.campaignId ≠ none ∨ unrejected = [])
    (own : ids.campaign = none → unrejected = []) :
    Answered claims (if ids.campaign.isNone && currencyKnown then job :: unrejected else unrejected) job made failure := by
  cases outcome with
  | made campaign => exact campaign
  | refused unknown =>
    rw [unknown, Bool.and_false]
    exact unsent
  | unmade missing =>
    rw [own missing]
    intro sender member
    split at member
    · exact List.mem_singleton.mp member
    · cases member
  | later level below campaign =>
    cases level with
    | campaign => exact absurd rfl below
    | adset => exact campaign
    | ad => exact campaign
  | unknown => exact True.intro

end Outcome

/-- A stage without a part in the creation. -/
def Stage.idle : Stage → Bool
  | .createCheck | .createMark | .createCall | .createAnswer _ _ => false
  | _ => true

theorem Holding.of_idle {claims : Claims} {unrejected : List Nat} {job : Job} (idle : job.stage.idle = true) :
    Holding claims unrejected job := by
  intro held
  cases stage : job.stage with
  | createCheck | createMark | createCall | createAnswer ids failure =>
    rw [stage] at idle
    cases idle
  | _ => exact True.intro

/-- What a stage outside the creation does to what creations go by: nothing. -/
structure World.Calm (world after : World) : Prop where
  claims : after.row.claims = world.row.claims
  history : after.history = world.history
  jobs : ∀ other ∈ after.jobs, other ∈ world.jobs ∨ other.stage.idle = true

namespace World.Calm
variable {world stored : World} {job : Job}

theorem put {next : Job} (idle : next.stage.idle = true) (claims : stored.row.claims = world.row.claims)
    (history : stored.history = world.history) (jobs : stored.jobs = world.jobs) : world.Calm (stored.putJob next) where
  claims := claims
  history := history
  jobs other member := by
    rcases Keyed.mem_put member with rfl | ⟨old, _⟩
    · exact .inr idle
    · exact .inl (jobs ▸ old)

theorem conclude {change : Publications.Command → Publications.Command} (claims : stored.row.claims = world.row.claims)
    (history : stored.history = world.history) (jobs : stored.jobs = world.jobs) : world.Calm (stored.conclude job change) where
  claims := claims
  history := history
  jobs _ member := .inl (jobs ▸ (List.mem_filter.mp member).1)

end World.Calm

theorem flush_claims {loaded assigned : BoostRun} (same : assigned.claims = loaded.claims) (world : World) :
    ((world.run.map fun stored => loaded.flush assigned stored).getD {}).claims = world.row.claims := by
  simp only [BoostRun.claims, Claims.mk.injEq] at same
  unfold Desk.row
  cases world.run with
  | none => rfl
  | some stored => simp only [Option.map_some, Option.getD_some, BoostRun.claims, BoostRun.flush, same.1, same.2.1, same.2.2.1,
      same.2.2.2, flushed_same]

namespace World
variable (world : World) (job : Job) (answer : Answer)

theorem startExecution_calm : world.Calm (world.startExecution job) := by
  unfold startExecution
  split
  · exact .conclude rfl rfl rfl
  · exact .put rfl rfl rfl rfl

theorem resolveExecutionContext_calm : world.Calm (world.resolveExecutionContext job answer) := by
  unfold resolveExecutionContext
  dsimp only
  split
  · exact .conclude rfl rfl rfl
  split
  · exact .conclude rfl rfl rfl
  split
  · exact .conclude rfl rfl rfl
  split
  · exact .conclude rfl rfl rfl
  split
  · exact .conclude rfl rfl rfl
  split
  · exact .conclude rfl rfl rfl
  split
  · exact .put rfl rfl rfl rfl
  · split
    · exact .conclude rfl rfl rfl
    · exact .put rfl rfl rfl rfl
  · split
    · exact .conclude rfl rfl rfl
    · exact .put rfl rfl rfl rfl

theorem readAccountCurrency_calm : world.Calm (world.readAccountCurrency job answer) := by
  unfold readAccountCurrency
  split
  next currency _ =>
    dsimp only
    split
    · exact .conclude (flush_claims (by rfl) world) rfl rfl
    · refine .put ?_ (flush_claims (by rfl) world) rfl rfl
      by_cases complete : job.existing.complete = true
      · rw [if_pos complete]
        rfl
      · rw [if_neg complete]
        rfl
  next => exact .conclude rfl rfl rfl

theorem checkBeforeSwitch_calm : world.Calm (world.checkBeforeSwitch job) := by
  unfold checkBeforeSwitch
  split
  · exact .put rfl rfl rfl rfl
  · exact .conclude rfl rfl rfl
  · exact .conclude rfl rfl rfl

theorem checkCapAndBudget_calm (checked : Seal) : world.Calm (world.checkCapAndBudget job checked) := by
  unfold checkCapAndBudget
  split
  · exact .conclude rfl rfl rfl
  split
  · exact .conclude rfl rfl rfl
  · exact .put rfl rfl rfl rfl

theorem switchedRun_claims : (switchedRun job answer).claims = job.run.claims := by
  unfold switchedRun
  split
  · rfl
  · split <;> rfl
  · rfl

theorem recordSwitch_calm (reply : SwitchReply) : world.Calm (world.recordSwitch job answer reply) := by
  cases reply with
  | acknowledged =>
    obtain ⟨snapshots, same⟩ := world.recordSwitch_acknowledged job answer
    rw [same]
    exact .conclude (flush_claims (switchedRun_claims job answer) world) rfl rfl
  | failed effected => exact (Calm.conclude rfl rfl rfl : world.Calm (world.fail job _))
  | lost effected => exact (Calm.conclude rfl rfl rfl : world.Calm (world.fail job _))

theorem callSwitch_calm : world.Calm (world.callSwitch job answer) := .put rfl rfl rfl rfl

theorem advance_calm (idle : job.stage.idle = true) (unclaiming : job.stage ≠ .claimCreation) :
    world.Calm (world.advance job answer) := by
  unfold advance
  cases stage : job.stage with
  | claimed => exact world.startExecution_calm job
  | marked => exact world.resolveExecutionContext_calm job answer
  | currency => exact world.readAccountCurrency_calm job answer
  | claimCreation => exact absurd stage unclaiming
  | sealCheck => exact world.checkBeforeSwitch_calm job
  | capCheck checked => exact world.checkCapAndBudget_calm job checked
  | switchCall checked => exact world.callSwitch_calm job answer
  | switchAnswer reply => exact world.recordSwitch_calm job answer reply
  | createCheck | createMark | createCall | createAnswer ids failure =>
    rw [stage] at idle
    cases idle

end World

namespace Boost.Single
variable {before after : Boost}

theorem kept (single : before.Single) (claims : after.row.claims = before.row.claims) (history : after.history = before.history)
    (jobs : ∀ job ∈ after.jobs, Holding before.row.claims (openCreations before.history) job) : after.Single := by
  have columns := claims
  simp only [BoostRun.claims, Claims.mk.injEq] at columns
  obtain ⟨campaign, claimed, marked, _⟩ := columns
  constructor
  · rw [marked, claimed]
    exact single.marked
  · rw [history]
    exact single.one
  · rw [history, campaign, marked]
    exact single.covered
  · rw [claims, history]
    exact jobs

theorem of_core (single : before.Single) (core : after.core = before.core) (history : after.history = before.history)
    (jobs : after.jobs = before.jobs) : after.Single := by
  have by_core : ∀ desk : Desk, desk.row.claims = (desk.core.getD {}).claims := by
    intro desk
    unfold Desk.row Desk.core
    cases desk.run <;> rfl
  refine single.kept ?_ history fun job member => single.jobs job (jobs ▸ member)
  rw [by_core, by_core, core]

theorem settled (single : before.Single) (claims : after.row.claims = before.row.claims) (none_open : openCreations after.history = [])
    (jobs : after.jobs = before.jobs) : after.Single := by
  have columns := claims
  simp only [BoostRun.claims, Claims.mk.injEq] at columns
  obtain ⟨campaign, claimed, marked, _⟩ := columns
  constructor
  · rw [marked, claimed]
    exact single.marked
  · rw [none_open]
    exact Nat.zero_le _
  · exact fun some_open => absurd none_open some_open
  · rw [claims, none_open, jobs]
    exact fun job member => (single.jobs job member).settled

theorem unclaimed {claims : Claims} (row : after.row.claims = claims) (unmarked : claims.callStartedAt = none) (free : claims.holder = none)
    (one : (openCreations after.history).length ≤ 1) (covered : openCreations after.history ≠ [] → claims.campaignId ≠ none) :
    after.Single := by
  subst row
  constructor
  · exact fun marked => absurd unmarked marked
  · exact one
  · exact fun some_open => .inl (covered some_open)
  · intro job _ held
    rw [free] at held
    cases held

theorem calm (single : before.Single) {world : World} (calm : before.toWorld.Calm world) :
    (before.onWorld world).Single := by
  refine single.kept calm.claims calm.history ?_
  intro other member
  rcases calm.jobs other member with old | idle
  · exact single.jobs other old
  · exact .of_idle idle

section Holder
variable {job : Job} {run : BoostRun} {answer : Answer}

theorem held (single : before.Single) (member : job ∈ before.jobs) (present : before.run = some run)
    (holder : run.createHolder = some job.id) :
    before.row = run ∧
      match job.stage with
      | .createCheck | .createMark =>
        run.campaignId = job.run.campaignId ∧ run.createClaimedAt ≠ none ∧ run.createCallStartedAt = none ∧
          job.run.createCallStartedAt = none ∧ Unsent run.claims (openCreations before.history) job
      | .createCall =>
        run.campaignId = job.run.campaignId ∧ run.createCallStartedAt ≠ none ∧ job.run.createCallStartedAt ≠ none ∧
          Unsent run.claims (openCreations before.history) job
      | .createAnswer ids failure =>
        run.campaignId = job.run.campaignId ∧ run.createCallStartedAt ≠ none ∧ job.run.createCallStartedAt ≠ none ∧
          Answered run.claims (openCreations before.history) job.id ids failure
      | _ => True := by
  have row : before.row = run := by
    unfold Desk.row
    rw [present]
    rfl
  have known := single.jobs job member
  rw [row] at known
  exact ⟨row, known holder⟩

theorem claimable_unmarked {now : Nat} (claimable : World.claimable run now = true) :
    run.createCallStartedAt = none ∨ run.createClaimedAt = none := by
  unfold World.claimable at claimable
  cases claimed : run.createClaimedAt with
  | none => exact .inr rfl
  | some claimedAt =>
    rw [claimed, Option.all_some, Bool.and_eq_true, Bool.and_eq_true] at claimable
    exact .inl (Option.isNone_iff_eq_none.mp claimable.2.2)

theorem claimCampaignCreation (single : before.Single)
    (knows : before.run.all (fun run =>
      !World.claimable run job.now || job.existing.campaign.isSome || run.campaignId.isNone) = true) :
    (before.onWorld (before.toWorld.claimCampaignCreation job)).Single := by
  unfold World.claimCampaignCreation
  split
  · exact single.calm (.conclude rfl rfl rfl)
  next run present =>
    have row : before.row = run := by
      unfold Desk.row
      rw [present]
      rfl
    dsimp only
    split
    next claimable =>
      have unmarked : run.createCallStartedAt = none := by
        rcases claimable_unmarked claimable with unmarked | unclaimed
        · exact unmarked
        · by_contra marked
          exact single.marked (row ▸ marked) (row ▸ unclaimed)
      have campaign : openCreations before.history ≠ [] → run.campaignId ≠ none := by
        intro some_open
        rcases single.covered some_open with made | marked
        · exact row ▸ made
        · exact absurd (row ▸ unmarked) marked
      have unsent : Unsent (Claims.mk run.campaignId (some job.now) none (some job.id)) (openCreations before.history) job := by
        refine ⟨?_, fun missing => ?_⟩
        · by_cases settled : openCreations before.history = []
          · exact .inr settled
          · exact .inl (campaign settled)
        · by_contra some_open
          have made := campaign some_open
          simp [present, claimable, missing, made] at knows
      constructor
      · exact fun marked => absurd rfl marked
      · exact single.one
      · exact fun some_open => .inl (campaign some_open)
      · intro other member
        rcases Keyed.mem_put member with rfl | ⟨_, different⟩
        · exact fun _ => ⟨rfl, Option.some_ne_none _, rfl, rfl, unsent⟩
        · exact .other job (.inr rfl) different
    split
    · exact single.calm (.put rfl rfl rfl rfl)
    split
    · exact single.calm (.conclude rfl rfl rfl)
    · exact single.calm (.conclude rfl rfl rfl)

theorem flushed_row {loaded : BoostRun} (present : before.run = some run) (assigned : BoostRun) :
    (before.run.map fun stored => loaded.flush assigned stored).getD {} = loaded.flush assigned run := by
  rw [present]
  rfl

theorem checkBeforeCreation (single : before.Single) (member : job ∈ before.jobs) (stage : job.stage = .createCheck)
    (present : before.run = some run) (holder : run.createHolder = some job.id) :
    (before.onWorld (before.toWorld.checkBeforeCreation job)).Single := by
  obtain ⟨row, known⟩ := single.held member present holder
  simp only [stage] at known
  obtain ⟨same, claimed, unmarked, copied, unsent⟩ := known
  have campaign : openCreations before.history ≠ [] → run.campaignId ≠ none := fun some_open =>
    unsent.1.resolve_right some_open
  unfold World.checkBeforeCreation
  split
  next code _ =>
    have after : (before.onWorld ((before.toWorld.writeRun job
        { job.run with createClaimedAt := none, createHolder := none }).refuse job code)).row =
          job.run.flush { job.run with createClaimedAt := none, createHolder := none } run := by
      exact flushed_row present _
    have campaign_kept : (job.run.flush { job.run with createClaimedAt := none, createHolder := none } run).campaignId =
        run.campaignId := flushed_same _ _
    have mark_kept : (job.run.flush { job.run with createClaimedAt := none, createHolder := none } run).createCallStartedAt =
        run.createCallStartedAt := flushed_same _ _
    constructor
    · rw [after, mark_kept]
      exact fun marked => absurd unmarked marked
    · exact single.one
    · rw [after, campaign_kept]
      exact fun some_open => .inl (campaign some_open)
    · intro other present
      rw [after]
      refine .other job ?_ (by simpa using (List.mem_filter.mp present).2)
      rcases flushed_cases job.run.createHolder none run.createHolder with kept | given
      · exact .inr (kept.trans holder)
      · exact .inl given
  next =>
    refine single.kept rfl rfl ?_
    intro other present
    rcases Keyed.mem_put present with rfl | ⟨old, _⟩
    · intro _
      rw [row]
      exact ⟨same, claimed, unmarked, copied, unsent⟩
    · exact single.jobs other old

theorem markCreation (single : before.Single) (member : job ∈ before.jobs) (stage : job.stage = .createMark)
    (present : before.run = some run) (holder : run.createHolder = some job.id) :
    (before.onWorld (before.toWorld.markCreation job)).Single := by
  obtain ⟨row, known⟩ := single.held member present holder
  simp only [stage] at known
  obtain ⟨same, claimed, unmarked, copied, unsent⟩ := known
  have after : (before.onWorld (before.toWorld.markCreation job)).row =
      job.run.flush { job.run with createCallStartedAt := some job.now } run := by
    exact flushed_row present _
  have columns : (job.run.flush { job.run with createCallStartedAt := some job.now } run).claims =
      { run.claims with callStartedAt := some job.now } := by
    unfold BoostRun.claims BoostRun.flush
    simp only [flushed_same, Claims.mk.injEq, and_true, true_and]
    unfold flushed
    rw [copied]
    exact if_neg (Option.some_ne_none _)
  have claims := columns
  simp only [BoostRun.claims, Claims.mk.injEq] at claims
  constructor
  · rw [after, claims.2.1]
    exact fun _ => claimed
  · exact single.one
  · rw [after, claims.2.2.1]
    exact fun _ => .inr (Option.some_ne_none _)
  · rw [after, columns]
    intro other present
    rcases Keyed.mem_put present with rfl | ⟨_, different⟩
    · exact fun _ => ⟨same, Option.some_ne_none _, Option.some_ne_none _, unsent⟩
    · exact .other job (.inr holder) different

theorem callCreation (single : before.Single) (member : job ∈ before.jobs) (stage : job.stage = .createCall)
    (present : before.run = some run) (holder : run.createHolder = some job.id) :
    (before.onWorld (before.toWorld.callCreation job answer)).Single := by
  obtain ⟨row, known⟩ := single.held member present holder
  simp only [stage] at known
  obtain ⟨same, marked, copied, unsent⟩ := known
  have after : (before.toWorld.callCreation job answer).row = before.row := by
    unfold World.callCreation
    dsimp only
    split <;> rfl
  have history : openCreations (before.toWorld.callCreation job answer).history =
      if job.existing.campaign.isNone && answer.currencyKnown then job.id :: openCreations before.history
      else openCreations before.history := by
    unfold World.callCreation
    dsimp only
    split
    next sent => rfl
    next sent => rfl
  have outcome : Outcome job.existing answer.currencyKnown _ _ :=
    Outcome.call before.provider { job.terms with connectionId := job.connectionId } answer.create answer.currencyKnown
  have answered := outcome.answered job.id unsent.1 unsent.2
  rw [← history] at answered
  constructor
  · change (before.toWorld.callCreation job answer).row.createCallStartedAt ≠ none →
      (before.toWorld.callCreation job answer).row.createClaimedAt ≠ none
    rw [after]
    exact single.marked
  · change (openCreations (before.toWorld.callCreation job answer).history).length ≤ 1
    rw [history]
    split
    next sent =>
      rw [Bool.and_eq_true, Option.isNone_iff_eq_none] at sent
      rw [unsent.2 sent.1]
      exact Nat.le_refl _
    · exact single.one
  · change _ → (before.toWorld.callCreation job answer).row.campaignId ≠ none ∨
      (before.toWorld.callCreation job answer).row.createCallStartedAt ≠ none
    rw [after, row]
    exact fun _ => .inr marked
  · intro other existing
    change Holding (before.toWorld.callCreation job answer).row.claims
      (openCreations (before.toWorld.callCreation job answer).history) other
    rw [after, row]
    have jobs : (before.toWorld.callCreation job answer).jobs = Keyed.put Job.id before.jobs { job with
        called := job.called || answer.currencyKnown
        stage := .createAnswer
          (before.provider.createBoostCampaign { job.terms with connectionId := job.connectionId } answer.create job.existing
            answer.currencyKnown).2.1
          (before.provider.createBoostCampaign { job.terms with connectionId := job.connectionId } answer.create job.existing
            answer.currencyKnown).2.2 } := by
      unfold World.callCreation
      dsimp only
      split <;> rfl
    have member : other ∈ Keyed.put Job.id before.jobs _ := jobs ▸ existing
    rcases Keyed.mem_put member with rfl | ⟨_, different⟩
    · exact fun _ => ⟨same, marked, copied, answered⟩
    · exact .other job (.inr holder) different

theorem flushed_current {α : Type} [DecidableEq α] (loaded assigned : α) : flushed loaded assigned loaded = assigned := by
  unfold flushed
  split
  next same => exact same.symm
  next => rfl

theorem recordCreated_columns (job : Job) (ids : ObjectIds) :
    (World.recordCreated job ids).campaignId = ids.campaign.or job.run.campaignId ∧
      (World.recordCreated job ids).createClaimedAt = job.run.createClaimedAt ∧
      (World.recordCreated job ids).createCallStartedAt = job.run.createCallStartedAt ∧
      (World.recordCreated job ids).createHolder = job.run.createHolder := by
  unfold World.recordCreated
  dsimp only
  split <;> exact ⟨rfl, rfl, rfl, rfl⟩

theorem recordCreation (single : before.Single) (member : job ∈ before.jobs) {ids : ObjectIds} {failure : Option CreateFailure}
    (stage : job.stage = .createAnswer ids failure) (present : before.run = some run) (holder : run.createHolder = some job.id) :
    (before.onWorld (before.toWorld.recordCreation job ids failure)).Single := by
  obtain ⟨row, known⟩ := single.held member present holder
  simp only [stage] at known
  obtain ⟨same, marked, copied, answered⟩ := known
  have campaign : (job.run.flush (World.recordCreated job ids) run).campaignId = ids.campaign.or run.campaignId := by
    change flushed _ _ _ = _
    rw [(recordCreated_columns job ids).1, same]
    exact flushed_current _ _
  have after : (before.onWorld (before.toWorld.recordCreation job ids failure)).row =
      job.run.flush (if failure = some .unknown then World.recordCreated job ids
        else World.released (World.recordCreated job ids)) run := by
    change (before.toWorld.recordCreation job ids failure).run.getD {} = _
    rw [World.recordCreation_run]
    exact flushed_row present _
  have jobs : ∀ other ∈ (before.toWorld.recordCreation job ids failure).jobs, other.id ≠ job.id ∨ other.stage.idle = true := by
    intro other existing
    unfold World.recordCreation at existing
    split at existing
    · rcases Keyed.mem_put existing with rfl | ⟨_, different⟩
      · exact .inr rfl
      · exact .inl different
    · dsimp only at existing
      split at existing
      · exact .inl (by simpa using (List.mem_filter.mp existing).2)
      · exact .inl (by simpa using (List.mem_filter.mp existing).2)
    · exact .inl (by simpa using (List.mem_filter.mp existing).2)
  by_cases unknown : failure = some .unknown
  · -- Without a definite answer the mark and the claim stay with the holder.
    subst unknown
    rw [if_pos rfl] at after
    obtain ⟨_, claimed_kept, marked_kept, holder_kept⟩ := recordCreated_columns job ids
    have claimedAt : (job.run.flush (World.recordCreated job ids) run).createClaimedAt = run.createClaimedAt := if_pos claimed_kept
    have markedAt : (job.run.flush (World.recordCreated job ids) run).createCallStartedAt = run.createCallStartedAt :=
      if_pos marked_kept
    have holds : (job.run.flush (World.recordCreated job ids) run).createHolder = run.createHolder := if_pos holder_kept
    constructor
    · rw [after, markedAt, claimedAt]
      exact row ▸ single.marked
    · exact single.one
    · rw [after, markedAt]
      exact fun _ => .inr marked
    · intro other existing
      rw [after]
      rcases jobs other existing with different | idle
      · exact .other job (.inr (holds.trans holder)) different
      · exact .of_idle idle
  · rw [if_neg unknown] at after
    have unmarked : (job.run.flush (World.released (World.recordCreated job ids)) run).createCallStartedAt = none := by
      change flushed job.run.createCallStartedAt none run.createCallStartedAt = none
      exact if_neg (Ne.symm copied)
    have free : (job.run.flush (World.released (World.recordCreated job ids)) run).createHolder = none ∨
        (job.run.flush (World.released (World.recordCreated job ids)) run).createHolder = some job.id := by
      rcases flushed_cases job.run.createHolder none run.createHolder with kept | given
      · exact .inr (kept.trans holder)
      · exact .inl given
    have campaign : (job.run.flush (World.released (World.recordCreated job ids)) run).campaignId =
        ids.campaign.or run.campaignId := campaign
    have history : (openCreations (before.toWorld.recordCreation job ids failure).history).length ≤
          (openCreations before.history).length ∧
        (openCreations (before.toWorld.recordCreation job ids failure).history ≠ [] → ids.campaign.or run.campaignId ≠ none) := by
      have known : ids.campaign ≠ none ∨ run.campaignId ≠ none → ids.campaign.or run.campaignId ≠ none := by
        intro either missing
        rw [Option.or_eq_none_iff] at missing
        rcases either with made | had
        · exact made missing.1
        · exact had missing.2
      cases failure with
      | none => exact ⟨Nat.le_refl _, fun _ => known (.inl answered)⟩
      | some failure =>
        cases failure with
        | unknown => exact absurd rfl unknown
        | rejected level =>
          cases level with
          | none => exact ⟨Nat.le_refl _, fun some_open => known (.inr (answered.resolve_right some_open))⟩
          | some level =>
            cases level with
            | campaign =>
              refine ⟨List.length_filter_le _ _, fun some_open => absurd ?_ some_open⟩
              refine List.filter_eq_nil_iff.mpr fun sender member => ?_
              simpa using answered sender member
            | adset => exact ⟨Nat.le_refl _, fun _ => known (.inl answered)⟩
            | ad => exact ⟨Nat.le_refl _, fun _ => known (.inl answered)⟩
    constructor
    · rw [after, unmarked]
      exact fun impossible => absurd rfl impossible
    · exact Nat.le_trans history.1 single.one
    · rw [after, campaign]
      exact fun some_open => .inl (history.2 some_open)
    · intro other existing
      rw [after]
      rcases jobs other existing with different | idle
      · exact .other job free different
      · exact .of_idle idle

theorem holder_of_fenced {id : Nat} (found : before.job? id = some job) (alive : job.dead = false)
    (creating : job.stage.idle = false) (fenced : before.fenced (.advance id answer) = true) :
    ∃ run, before.run = some run ∧ run.createHolder = some job.id := by
  simp only [Boost.fenced, found, Option.all_some, alive, Bool.false_or] at fenced
  cases stage : job.stage with
  | createCheck | createMark | createCall | createAnswer ids failure =>
    simp only [stage] at fenced
    obtain ⟨run, present, holder⟩ := (Option.any_eq_true _ _).mp fenced
    exact ⟨run, present, by simpa using holder⟩
  | claimed | marked | currency | claimCreation | sealCheck | capCheck | switchCall | switchAnswer =>
    rw [stage] at creating
    cases creating

theorem advance (single : before.Single) {id : Nat} (found : before.job? id = some job) (alive : job.dead = false)
    (fenced : before.fenced (.advance id answer) = true) : (before.onWorld (before.toWorld.advance job answer)).Single := by
  have member : job ∈ before.jobs := Keyed.find_mem found
  by_cases idle : job.stage.idle = true
  · by_cases claiming : job.stage = .claimCreation
    · have knows := fenced
      simp only [Boost.fenced, found, Option.all_some, alive, claiming, Bool.false_or] at knows
      unfold World.advance
      rw [claiming]
      exact single.claimCampaignCreation knows
    · exact single.calm (before.toWorld.advance_calm job answer idle claiming)
  · obtain ⟨run, present, holder⟩ := holder_of_fenced found alive (by simpa using idle) fenced
    unfold World.advance
    cases stage : job.stage with
    | createCheck => exact single.checkBeforeCreation member stage present holder
    | createMark => exact single.markCreation member stage present holder
    | createCall => exact single.callCreation member stage present holder
    | createAnswer ids failure => exact single.recordCreation member stage present holder
    | claimed | marked | currency | claimCreation | sealCheck | capCheck | switchCall | switchAnswer =>
      exact absurd (by rw [stage]; rfl) idle

theorem advance_mark (single : before.Single) {id : Nat} (found : before.job? id = some job) (alive : job.dead = false)
    (fenced : before.fenced (.advance id answer) = true) (open_ : ∀ ids failure, job.stage = .createAnswer ids failure → failure = some .unknown)
    (marked : before.row.createCallStartedAt ≠ none) : (before.toWorld.advance job answer).row.createCallStartedAt ≠ none := by
  by_cases idle : job.stage.idle = true
  · by_cases claiming : job.stage = .claimCreation
    · unfold World.advance
      rw [claiming]
      dsimp only
      unfold World.claimCampaignCreation
      split
      · exact marked
      next run present =>
        dsimp only
        split
        next claimable =>
          have row : before.row = run := by
            unfold Desk.row
            rw [present]
            rfl
          rcases claimable_unmarked claimable with unmarked | unclaimed
          · exact absurd (row ▸ unmarked) marked
          · exact absurd (row ▸ unclaimed) (single.marked marked)
        split
        · exact marked
        split
        · exact marked
        · exact marked
    · have claims := (before.toWorld.advance_calm job answer idle claiming).claims
      have kept : (before.toWorld.advance job answer).row.createCallStartedAt = before.row.createCallStartedAt :=
        congrArg Claims.callStartedAt claims
      rw [kept]
      exact marked
  · obtain ⟨run, present, holder⟩ := holder_of_fenced found alive (by simpa using idle) fenced
    obtain ⟨row, known⟩ := single.held (Keyed.find_mem found) present holder
    rw [row] at marked
    unfold World.advance
    cases stage : job.stage with
    | createCheck =>
      simp only [stage] at known
      exact absurd known.2.2.1 marked
    | createMark =>
      simp only [stage] at known
      exact absurd known.2.2.1 marked
    | createCall =>
      have after : (before.toWorld.callCreation job answer).row = before.row := by
        unfold World.callCreation
        dsimp only
        split <;> rfl
      dsimp only
      rw [after, row]
      exact marked
    | createAnswer ids failure =>
      cases open_ ids failure stage
      change ((before.toWorld.recordCreation job ids (some .unknown)).run.getD {}).createCallStartedAt ≠ none
      rw [World.recordCreation_run, flushed_row present]
      change flushed _ _ _ ≠ none
      rw [if_pos rfl, (recordCreated_columns job ids).2.2.1, flushed_same]
      exact marked
    | claimed | marked | currency | claimCreation | sealCheck | capCheck | switchCall | switchAnswer =>
      exact absurd (by rw [stage]; rfl) idle

end Holder

theorem claim (single : before.Single) (id : Uuid) (now : Nat) : (before.onWorld (before.toWorld.claimCommand id now)).Single := by
  unfold World.claimCommand
  split
  · exact single
  · split
    · refine single.kept rfl rfl ?_
      intro job member
      rcases List.mem_append.mp member with old | new
      · exact single.jobs job old
      · rw [List.mem_singleton.mp new]
        exact .of_idle rfl
    · exact single

theorem recover (single : before.Single) (id : Uuid) (now : Nat) :
    (before.onWorld (before.toWorld.recoverInterrupted id now)).Single := by
  unfold World.recoverInterrupted
  split
  · exact single
  · split
    · exact single.kept rfl rfl fun job member => single.jobs job (List.mem_filter.mp member).1
    · exact single

theorem crash (single : before.Single) {job : Job} (member : job ∈ before.jobs) :
    (before.onWorld (before.toWorld.crash job)).Single := by
  refine single.kept rfl rfl ?_
  intro other present
  rcases Keyed.mem_put present with rfl | ⟨old, _⟩
  · exact (single.jobs job member).dead
  · exact single.jobs other old

theorem noteCycle (single : after.Single) : (before.noteCycle after).Single := by
  unfold Boost.noteCycle
  split
  · exact single
  · exact single.settled rfl rfl rfl

theorem noteConfirmation (single : after.Single) (id : Uuid) : (before.noteConfirmation id after).Single := by
  unfold Boost.noteConfirmation
  split
  · exact single.settled rfl rfl rfl
  · exact single

theorem reset {run : BoostRun} (present : before.run = some run) (cleared : after.run = some run.reset) :
    (before.noteCycle after).Single := by
  have later : after.cycle ≠ before.cycle := by
    unfold Desk.cycle
    rw [present, cleared]
    exact Nat.succ_ne_self run.cycleNo
  unfold Boost.noteCycle
  rw [if_neg later]
  refine unclaimed (?_ : _ = run.reset.claims) rfl rfl (Nat.zero_le _) fun some_open => absurd rfl some_open
  change (after.run.getD {}).claims = _
  rw [cleared]
  rfl

theorem retry (single : before.Single) {id : Uuid} {confirmed : Bool} {desk : Desk}
    (executed : before.retryCommand id confirmed = .ok desk) : (before.noteConfirmation id (before.onTables desk)).Single := by
  obtain ⟨command, commands, found, _, ⟨rfl, _⟩ | ⟨rfl, _, reason⟩⟩ := Desk.retryCommand_ok executed
  · have kept : (before.onTables { before.toDesk with commands }).Single := single.kept rfl rfl single.jobs
    exact noteConfirmation kept id
  · unfold Boost.noteConfirmation
    rw [if_pos (by rw [found]; simpa using reason)]
    have row : ((before.run.map Desk.cleared).getD {}).claims = before.row.claims ∨
        ((before.run.map Desk.cleared).getD {}).claims = { before.row.claims with claimedAt := none, callStartedAt := none, holder := none } := by
      unfold Desk.row
      cases before.run with
      | none => exact .inl rfl
      | some run =>
        simp only [Option.map_some, Option.getD_some]
        unfold Desk.cleared
        split
        · exact .inl rfl
        · exact .inr rfl
    rcases row with same | given
    · exact single.settled same rfl rfl
    · exact unclaimed given rfl rfl (Nat.zero_le _) fun some_open => absurd rfl some_open

theorem adopt (single : before.Single) {found : ObjectIds} {budget : Option Nat} {answer : Answer} {world : World}
    (executed : before.toWorld.adopt found budget answer = .ok world) : (before.onWorld world).Single := by
  obtain ⟨seal_, run, commands, _, _, _, _, campaign, rfl⟩ := World.adopt_ok executed
  have linked : (World.released (World.adopted run found budget seal_.versionId seal_.connectionId)).campaignId = found.campaign := by
    unfold World.released World.adopted
    dsimp only
    split <;> rfl
  refine unclaimed rfl rfl rfl single.one fun _ => ?_
  have known := Option.isSome_iff_ne_none.mp campaign
  rw [← linked] at known
  exact known

theorem step (single : before.Single) {event : Event} (fenced : before.fenced event = true) : (before.step event).Single := by
  by_cases captures : event.captures = true
  · have captured := before.captured_step captures
    exact single.of_core captured.core captured.history captured.jobs
  unfold Boost.step
  apply Runs.settle_preserves single
  intro after executed
  cases event with
  | requestBoost terms requester now =>
    obtain ⟨desk, accepted, rfl⟩ := Runs.map_ok executed
    exact single.of_core (Desk.requestAdsBoost_ok accepted).1 rfl rfl
  | moveGate newStatus resolverId now =>
    obtain ⟨desk, accepted, rfl⟩ := Runs.map_ok executed
    obtain ⟨_, snapshots, rfl⟩ := Desk.moveGate_ok accepted
    exact single.of_core rfl rfl rfl
  | start requester now =>
    obtain ⟨desk, accepted, rfl⟩ := Runs.map_ok executed
    exact single.of_core (Desk.requestAdsBoostStart_core accepted) rfl rfl
  | scheduledStart now =>
    change before.startDue now = .ok after at executed
    unfold Boost.startDue at executed
    split at executed
    · split at executed
      · obtain ⟨desk, accepted, rfl⟩ := Runs.map_ok executed
        exact single.of_core (Desk.requestAdsBoostStart_core accepted) rfl rfl
      · cases executed
        exact single
    · cases executed
      exact single
  | pause requester preferred now =>
    obtain ⟨desk, accepted, rfl⟩ := Runs.map_ok executed
    exact single.of_core (congrArg (·.core) (Desk.requestToggle_ok accepted).eq) rfl rfl
  | resume requester preferred now =>
    obtain ⟨desk, accepted, rfl⟩ := Runs.map_ok executed
    exact single.of_core (congrArg (·.core) (Desk.requestToggle_ok accepted).eq) rfl rfl
  | cancel actor admin now =>
    obtain ⟨desk, accepted, rfl⟩ := Runs.map_ok executed
    obtain ⟨_, _, _, core | ⟨run, present, cleared, _⟩⟩ := Desk.cancelAdsBoost_ok accepted
    · have kept : (before.onTables desk).Single := single.of_core core rfl rfl
      exact noteCycle kept
    · exact reset present cleared
  | finishCancel now =>
    cases executed
    rcases before.toDesk.finishCancelIfStopped_cases now with same | ⟨run, cycles, present, _, same⟩
    · rw [same]
      exact noteCycle single
    · rw [same]
      exact reset present rfl
  | pauseLeft preferred now =>
    obtain ⟨desk, accepted, rfl⟩ := Runs.map_ok executed
    exact single.of_core (congrArg (·.core) (Desk.pauseLeftCampaign_ok accepted).eq) rfl rfl
  | captureAfterFailedPause id now =>
    obtain ⟨desk, accepted, rfl⟩ := Runs.map_ok executed
    obtain ⟨snapshots, rfl⟩ := Desk.captureAfterFailedCancelPause_ok accepted
    exact single.of_core rfl rfl rfl
  | retry id confirmed =>
    obtain ⟨desk, accepted, rfl⟩ := Runs.map_ok executed
    exact single.retry accepted
  | adopt found budget answer =>
    obtain ⟨world, accepted, rfl⟩ := Runs.map_ok executed
    exact single.adopt accepted
  | setPublishPaused paused =>
    cases executed
    exact single.of_core rfl rfl rfl
  | requeuePaused =>
    cases executed
    exact single.of_core (by unfold Desk.requeuePaused; split <;> rfl) rfl rfl
  | claim id now =>
    cases executed
    exact single.claim id now
  | advance id answer =>
    cases executed
    exact Boost.onJob_preserves single id _ fun job found alive => single.advance found alive fenced
  | escape id =>
    cases executed
    refine Boost.onJob_preserves single id _ fun job _ _ => single.calm ?_
    unfold World.escape
    exact .conclude rfl rfl rfl
  | crash id =>
    cases executed
    exact Boost.onJob_preserves single id _ fun job found _ => single.crash (Keyed.find_mem found)
  | recover id now =>
    cases executed
    exact single.recover id now
  | _ => exact absurd rfl captures

theorem mark_core {first second : Desk} (core : first.core = second.core) :
    first.row.createCallStartedAt = second.row.createCallStartedAt := by
  have by_core : ∀ desk : Desk, desk.row.createCallStartedAt = (desk.core.getD {}).createCallStartedAt := by
    intro desk
    unfold Desk.row Desk.core
    cases desk.run <;> rfl
  rw [by_core, by_core, core]

theorem keepsMark (single : before.Single) {event : Event} (fenced : before.fenced event = true) : before.KeepsMark event := by
  intro marked
  have kept : ∀ after : Boost, after.core = before.core → after.Marked := by
    intro after core
    unfold Boost.Marked
    rw [mark_core core]
    exact marked
  by_cases captures : event.captures = true
  · exact .inl (kept _ (before.captured_step captures).core)
  by_cases allowed : before.mayUnmark event = true
  · exact .inr allowed
  left
  unfold Boost.step
  apply Runs.settle_preserves marked
  intro after executed
  cases event with
  | requestBoost terms requester now =>
    obtain ⟨desk, accepted, rfl⟩ := Runs.map_ok executed
    exact kept _ (Desk.requestAdsBoost_ok accepted).1
  | moveGate newStatus resolverId now =>
    obtain ⟨desk, accepted, rfl⟩ := Runs.map_ok executed
    obtain ⟨_, snapshots, rfl⟩ := Desk.moveGate_ok accepted
    exact marked
  | start requester now =>
    obtain ⟨desk, accepted, rfl⟩ := Runs.map_ok executed
    exact kept _ (Desk.requestAdsBoostStart_core accepted)
  | scheduledStart now =>
    change before.startDue now = .ok after at executed
    unfold Boost.startDue at executed
    split at executed
    · split at executed
      · obtain ⟨desk, accepted, rfl⟩ := Runs.map_ok executed
        exact kept _ (Desk.requestAdsBoostStart_core accepted)
      · cases executed
        exact marked
    · cases executed
      exact marked
  | pause requester preferred now =>
    obtain ⟨desk, accepted, rfl⟩ := Runs.map_ok executed
    exact kept _ (congrArg (·.core) (Desk.requestToggle_ok accepted).eq)
  | resume requester preferred now =>
    obtain ⟨desk, accepted, rfl⟩ := Runs.map_ok executed
    exact kept _ (congrArg (·.core) (Desk.requestToggle_ok accepted).eq)
  | cancel actor admin now =>
    obtain ⟨desk, accepted, rfl⟩ := Runs.map_ok executed
    obtain ⟨_, _, _, core | ⟨run, present, _, _, _, _, unmarked, _⟩⟩ := Desk.cancelAdsBoost_ok accepted
    · unfold Boost.noteCycle
      split
      · exact kept _ core
      · exact kept _ core
    · have row : before.row = run := by
        unfold Desk.row
        rw [present]
        rfl
      exact absurd (row ▸ unmarked) marked
  | pauseLeft preferred now =>
    obtain ⟨desk, accepted, rfl⟩ := Runs.map_ok executed
    exact kept _ (congrArg (·.core) (Desk.pauseLeftCampaign_ok accepted).eq)
  | captureAfterFailedPause id now =>
    obtain ⟨desk, accepted, rfl⟩ := Runs.map_ok executed
    obtain ⟨snapshots, rfl⟩ := Desk.captureAfterFailedCancelPause_ok accepted
    exact marked
  | retry id confirmed =>
    obtain ⟨desk, accepted, rfl⟩ := Runs.map_ok executed
    obtain ⟨command, commands, _, _, ⟨rfl, _⟩ | ⟨rfl, agreed, _⟩⟩ := Desk.retryCommand_ok accepted
    · unfold Boost.noteConfirmation
      split
      · exact marked
      · exact marked
    · exact absurd agreed allowed
  | setPublishPaused paused =>
    cases executed
    exact marked
  | requeuePaused =>
    cases executed
    exact kept _ (by unfold Desk.requeuePaused; split <;> rfl)
  | claim id now =>
    cases executed
    unfold World.claimCommand
    split
    · exact marked
    · split
      · exact marked
      · exact marked
  | advance id answer =>
    cases executed
    refine Boost.onJob_preserves marked id _ fun job found alive => single.advance_mark found alive fenced ?_ marked
    intro ids failure stage
    simpa [Boost.mayUnmark, found, stage] using allowed
  | escape id =>
    cases executed
    exact Boost.onJob_preserves marked id _ fun _ _ _ => marked
  | crash id =>
    cases executed
    exact Boost.onJob_preserves marked id _ fun _ _ _ => marked
  | recover id now =>
    cases executed
    unfold World.recoverInterrupted
    split
    · exact marked
    · split
      · exact marked
      · exact marked
  | adopt found budget answer => exact absurd rfl allowed
  | finishCancel now => exact absurd rfl allowed
  | _ => exact absurd rfl captures

theorem initial (gateId orgId : Uuid) (snapshots : List Snapshot) : (Boost.initial gateId orgId snapshots).Single where
  marked impossible := absurd rfl impossible
  one := Nat.zero_le _
  covered impossible := absurd rfl impossible
  jobs _ member := by cases member

end Boost.Single

/-- In every run in which only the holder of the creation claim goes on with a creation,
at most one creation of the cycle may have made a campaign, and no mark is cleared but by
a person, with its cycle or with a definite answer. -/
theorem one_open_creation (gateId orgId : Uuid) (snapshots : List Snapshot) (events : List Event)
    (fenced : Runs.Throughout Boost.step (fun boost event => boost.fenced event = true) (Boost.initial gateId orgId snapshots) events) :
    (openCreations (Runs.final Boost.step (Boost.initial gateId orgId snapshots) events).history).length ≤ 1 ∧
      Runs.Throughout Boost.step Boost.KeepsMark (Boost.initial gateId orgId snapshots) events := by
  have kept : ∀ (boost : Boost) event, boost.fenced event = true → boost.Single → (boost.step event).Single :=
    fun _ _ lets single => single.step lets
  have initial := Boost.Single.initial gateId orgId snapshots
  exact ⟨(fenced.invariant kept initial).one, fenced.carry kept initial fun _ _ lets single => single.keepsMark lets⟩

namespace Example

/-- A start whose campaign creation is rejected, and its retry. -/
def rejectedOnce : List Event :=
  [.requestBoost terms 1 0, .moveGate .approved (some 2) 1, .start 1 2, .claim 0 3] ++
    List.replicate 8 (.advance 0 { accepting with create := fun _ => .rejected }) ++
    [.retry 0 false, .claim 0 4] ++ List.replicate 8 (.advance 1 accepting)

end Example

open Example in
theorem rejected_creation_is_settled :
    Runs.Throughout Boost.step (fun boost event => boost.fenced event = true) (Boost.initial 0 0 []) rejectedOnce ∧
      (openCreations (Runs.final Boost.step (Boost.initial 0 0 []) rejectedOnce).history).length ≤ 1 ∧
      Runs.Throughout Boost.step Boost.KeepsMark (Boost.initial 0 0 []) rejectedOnce := by
  have fenced : Runs.Throughout Boost.step (fun boost event => boost.fenced event = true) (Boost.initial 0 0 []) rejectedOnce := by
    decide +kernel
  exact ⟨fenced, one_open_creation 0 0 [] rejectedOnce fenced⟩

open Example in
/-- A creation that was definitely rejected clears its mark, and its retry sends a second one. -/
theorem rejected_creation_is_sent_again :
    ¬ ∀ events, creationsSent (Runs.final Boost.step (Boost.initial 0 0 []) events).history ≤ 1 ∧
      Runs.Throughout Boost.step
        (fun boost event => boost.Marked → (∃ id answer, event = .advance id answer) → (boost.step event).Marked) (Boost.initial 0 0 []) events := by
  intro claimed
  have sent : creationsSent (Runs.final Boost.step (Boost.initial 0 0 []) rejectedOnce).history = 2 := by decide +kernel
  have once := (claimed rejectedOnce).1
  omega

end Sprintable.Boosts
