import Sprintable.Boosts.Hosting
import Sprintable.Boosts.Toggles

/-! A cancel forgets the campaign of its run only when the campaign is off. The run is
the only record of the provider's state, so the argument follows the answers: while
the run says paused and its campaign is on, the answer to an ACTIVE is still awaited
by a job, and its command keeps the cancel from finishing. -/

namespace Sprintable.Boosts

/-- The job has switched the campaign on and does not know it yet. -/
def Job.awaitsActive (job : Job) : Bool :=
  job.operation != .pause &&
    match job.stage with
    | .switchAnswer reply => reply.effected
    | _ => false

namespace World
variable (world : World)

def campaignOn (provider : Provider) (run : BoostRun) : Bool := run.campaignId.any provider.isActive

/-- The run says paused, and its campaign spends money. -/
def pausedWhileOn : Bool := world.run.any fun run => run.status == .paused && campaignOn world.provider run

def activeAwaited : Bool := world.jobs.any Job.awaitsActive

/-- The answer this job awaits is the last trace of a campaign that is on. -/
def losesActive (job : Job) : Bool :=
  world.pausedWhileOn && job.awaitsActive && !world.jobs.any fun other => other.id != job.id && other.awaitsActive

end World

/-- No event takes away the last trace of a campaign that is on: the answer to an
ACTIVE is not lost while the run says paused, an acknowledged ACTIVE is written on the
run, a pause is not recorded over a later ACTIVE, and what is linked to a paused run is
off. No worker outlives the recovery of its command. -/
def Boost.keepsTrace (boost : Boost) (event : Event) : Bool :=
  boost.hostsJobs event &&
    match event with
    | .recover id now =>
      !boost.toWorld.recovers id now || boost.jobs.all fun job => job.commandId != id || !boost.losesActive job
    | .escape id => (boost.job? id).all fun job => job.dead || !boost.losesActive job
    | .advance id answer =>
      (boost.job? id).all fun job => job.dead ||
        match job.stage with
        | .switchAnswer .acknowledged =>
          match job.operation with
          | .pause =>
            answer.pauseDelayed || job.run.status == .paused || boost.activeAwaited ||
              !boost.run.any (World.campaignOn boost.provider)
          | _ => job.run.status != .running || !boost.losesActive job
        | .switchAnswer _ => !boost.losesActive job
        | .createAnswer ids _ =>
          !(boost.run.any fun run => run.status == .paused) || !ids.campaign.any boost.provider.isActive
        | _ => true
    | .adopt found _ _ => !(boost.run.any fun run => run.status == .paused) || !found.campaign.any boost.provider.isActive
    | _ => true

/-- A cancel that finishes clears the ids of a campaign that is off. -/
def Boost.ForgetsOnlyStopped (boost : Boost) : Event → Prop
  | .finishCancel _ => ∀ run, boost.run = some run → boost.cancelFinishes run = true →
      World.campaignOn boost.provider run = false
  | _ => True

/-- While the run says paused and its campaign is on, an answer to an ACTIVE is awaited. -/
structure Boost.Traced (boost : Boost) : Prop where
  hosted : boost.Hosted
  awaited : boost.pausedWhileOn = true → boost.activeAwaited = true

namespace Boost.Traced
variable {before after : Boost}

theorem forgetsOnlyStopped (traced : before.Traced) (event : Event) : before.ForgetsOnlyStopped event := by
  cases event with
  | finishCancel now =>
    intro run present finishes
    by_contra on
    rw [Bool.not_eq_false] at on
    simp only [Desk.cancelFinishes, Bool.and_eq_true, Bool.or_eq_true, beq_iff_eq, Bool.not_eq_true',
      Option.isNone_iff_eq_none] at finishes
    obtain ⟨⟨_, stopped⟩, quiet⟩ := finishes
    rcases stopped with paused | ⟨_, unmade⟩
    · have live : before.pausedWhileOn = true := by
        unfold World.pausedWhileOn
        rw [present]
        simp [paused, on]
      obtain ⟨job, member, _⟩ := List.any_eq_true.mp (traced.awaited live)
      obtain ⟨command, existing, _, running⟩ := traced.hosted.own job member
      have out := List.any_eq_false.mp quiet command existing
      simp [BoostCommand.out, nonTerminalStatuses, running] at out
    · rw [World.campaignOn, unmade] at on
      cases on
  | _ => exact True.intro

theorem pausedWhileOn_eq (world : World) :
    world.pausedWhileOn =
      ((world.run.getD {}).status == .paused && (world.run.getD {}).campaignId.any world.provider.isActive) := by
  unfold World.pausedWhileOn World.campaignOn
  cases world.run <;> rfl

theorem pausedWhileOn_core {first second : Boost} (core : first.core = second.core) (provider : first.provider = second.provider) :
    first.pausedWhileOn = second.pausedWhileOn := by
  have by_core : ∀ boost : Boost, boost.pausedWhileOn =
      boost.core.any fun run => run.status == .paused && World.campaignOn boost.provider run := by
    intro boost
    unfold World.pausedWhileOn Desk.core
    cases boost.run <;> rfl
  rw [by_core, by_core, core, provider]

theorem kept (traced : before.Traced) (hosted : after.Hosted) (core : after.core = before.core)
    (provider : after.provider = before.provider) (jobs : after.jobs = before.jobs) : after.Traced := by
  refine ⟨hosted, fun live => ?_⟩
  unfold World.activeAwaited
  rw [jobs]
  exact traced.awaited (pausedWhileOn_core core provider ▸ live)

theorem not_paused (hosted : after.Hosted) (idle : after.pausedWhileOn = false) : after.Traced :=
  ⟨hosted, fun live => absurd live (by rw [idle]; decide)⟩

theorem awaited_put (traced : before.Traced) {job : Job} (member : job ∈ before.jobs) (unaware : job.awaitsActive = false)
    (awaited : before.activeAwaited = true) (next : Job) (id : next.id = job.id) :
    (Keyed.put Job.id before.jobs next).any Job.awaitsActive = true := by
  obtain ⟨waiting, present, waits⟩ := List.any_eq_true.mp awaited
  refine List.any_eq_true.mpr ⟨waiting, List.mem_map.mpr ⟨waiting, present, if_neg ?_⟩, waits⟩
  intro same
  rw [traced.hosted.same_job present member (same.trans id)] at waits
  rw [unaware] at waits
  cases waits

theorem awaited_elsewhere (traced : before.Traced) {job : Job} (member : job ∈ before.jobs) (unaware : job.awaitsActive = false)
    (awaited : before.activeAwaited = true) :
    (before.jobs.filter fun other => other.id ≠ job.id).any Job.awaitsActive = true := by
  obtain ⟨waiting, present, waits⟩ := List.any_eq_true.mp awaited
  refine List.any_eq_true.mpr ⟨waiting, List.mem_filter.mpr ⟨present, decide_eq_true fun same => ?_⟩, waits⟩
  rw [traced.hosted.same_job present member same, unaware] at waits
  cases waits

theorem awaited_filter (traced : before.Traced) {job : Job} (member : job ∈ before.jobs)
    (elsewhere : job.awaitsActive = true → before.losesActive job = false) (live : before.pausedWhileOn = true) :
    (before.jobs.filter fun other => other.id ≠ job.id).any Job.awaitsActive = true := by
  by_cases waits : job.awaitsActive = true
  · have elsewhere := elsewhere waits
    simp only [World.losesActive, live, waits, Bool.and_self, Bool.true_and, Bool.not_eq_false', List.any_eq_true,
      Bool.and_eq_true, bne_iff_ne] at elsewhere
    obtain ⟨other, present, different, also⟩ := elsewhere
    exact List.any_eq_true.mpr ⟨other, List.mem_filter.mpr ⟨present, by simpa using different⟩, also⟩
  · exact traced.awaited_elsewhere member (by simpa using waits) (traced.awaited live)

/-- A stage of a job that awaits no ACTIVE, and that neither pauses the run nor switches a campaign on. -/
theorem worked (traced : before.Traced) {job : Job} {world : World} (member : job ∈ before.jobs)
    (worked : before.toWorld.Worked job world) (unaware : job.awaitsActive = false)
    (live : world.pausedWhileOn = true → before.pausedWhileOn = true) : (before.onWorld world).Traced := by
  refine ⟨traced.hosted.worked member worked, fun on => ?_⟩
  have was_on := live on
  cases worked with
  | goesOn next same commands run provider history mark => exact traced.awaited_put member unaware (traced.awaited was_on) next same.id
  | ends change concluding run snapshots history =>
    exact traced.awaited_filter member (fun waits => absurd waits (by rw [unaware]; decide)) was_on

theorem ended (traced : before.Traced) {job : Job} {world : World} (member : job ∈ before.jobs)
    (worked : before.toWorld.Worked job world) (jobs : world.jobs = before.jobs.filter fun other => other.id ≠ job.id)
    (elsewhere : world.pausedWhileOn = true → job.awaitsActive = true → before.losesActive job = false)
    (live : world.pausedWhileOn = true → before.pausedWhileOn = true) : (before.onWorld world).Traced := by
  refine ⟨traced.hosted.worked member worked, fun on => ?_⟩
  change world.jobs.any Job.awaitsActive = true
  rw [jobs]
  exact traced.awaited_filter member (elsewhere on) (live on)

theorem isActive_append (provider : Provider) (campaign : Campaign) (off : campaign.active = false) (id : Nat) :
    Provider.isActive { provider with campaigns := provider.campaigns ++ [campaign] } id = provider.isActive id := by
  unfold Provider.isActive Provider.campaign
  cases found : Keyed.find Campaign.id (provider.campaigns ++ [campaign]) id with
  | none =>
    have missing : Keyed.find Campaign.id provider.campaigns id = none := by
      cases old : Keyed.find Campaign.id provider.campaigns id with
      | none => rfl
      | some first =>
        rw [Keyed.find_append_old old] at found
        cases found
    rw [missing]
  | some made =>
    rcases Keyed.find_append_cases found with old | ⟨_, rfl, missing⟩
    · rw [old]
    · rw [missing]
      simp [off]

theorem createBoostCampaign_isActive (terms : Terms) (reply : Level → LevelReply) (ids : ObjectIds) (provider : Provider)
    (currencyKnown : Bool) (id : Nat) :
    (provider.createBoostCampaign terms reply ids currencyKnown).1.isActive id = provider.isActive id := by
  have campaign : (provider.createCampaign terms reply ids).1.isActive id = provider.isActive id := by
    have added : (provider.addCampaign terms).isActive id = provider.isActive id := isActive_append provider _ rfl id
    unfold Provider.createCampaign
    split
    · rfl
    · split
      · exact added
      · rfl
      · split <;> first | exact added | rfl
      · split <;> first | exact added | rfl
  have adset : ∀ (made : Provider) (partial_ : ObjectIds), (made.createAdset terms reply partial_).1.isActive id = made.isActive id := by
    intro made partial_
    unfold Provider.createAdset
    split
    · rfl
    · split
      · rfl
      · rfl
      · split <;> rfl
      · split <;> rfl
  have ad : ∀ (made : Provider) (partial_ : ObjectIds), (made.createAd reply partial_).1.isActive id = made.isActive id := by
    intro made partial_
    unfold Provider.createAd
    split
    · rfl
    · split
      · rfl
      · rfl
      · split <;> rfl
      · split <;> rfl
  unfold Provider.createBoostCampaign
  split
  · rfl
  · generalize provider.createCampaign terms reply ids = first at campaign ⊢
    obtain ⟨made, partial_, failure⟩ := first
    cases failure with
    | some failure => exact campaign
    | none =>
      dsimp only at campaign ⊢
      have second := adset made partial_
      generalize made.createAdset terms reply partial_ = outcome at second ⊢
      obtain ⟨more, ids, failure⟩ := outcome
      cases failure with
      | some failure => exact second.trans campaign
      | none => exact (ad more ids).trans (second.trans campaign)

theorem isActive_setCampaignStatus (provider : Provider) (campaign : Nat) (id : Nat) (active : Bool)
    (on : (provider.setCampaignStatus campaign active).isActive id = true) :
    provider.isActive id = true ∨ active = true := by
  unfold Provider.setCampaignStatus Provider.isActive Provider.campaign at *
  dsimp only at on
  rw [Keyed.find_modify (by intro row; rfl)] at on
  split at on
  · cases found : Keyed.find Campaign.id provider.campaigns id with
    | none =>
      rw [found] at on
      cases on
    | some row =>
      rw [found] at on
      exact .inr (by simpa using on)
  · exact .inl on

theorem pausedWhileOn_congr {first second : World} (phase : Desk.phase first.run = Desk.phase second.run)
    (made : World.made (first.run.getD {}) = World.made (second.run.getD {}))
    (provider : ∀ id, first.provider.isActive id = second.provider.isActive id) : first.pausedWhileOn = second.pausedWhileOn := by
  have status : (first.run.getD {}).status = (second.run.getD {}).status := congrArg Prod.fst phase
  have campaign : (first.run.getD {}).campaignId = (second.run.getD {}).campaignId := congrArg (·.1.campaign) made
  rw [pausedWhileOn_eq, pausedWhileOn_eq, status, campaign]
  cases (second.run.getD {}).campaignId with
  | none => rfl
  | some id => simp only [Option.any_some, provider id]

theorem switchCall (traced : before.Traced) {job : Job} {answer : Answer} (member : job ∈ before.jobs) {checked : Option Seal}
    (stage : job.stage = .switchCall checked) : (before.onWorld (before.toWorld.callSwitch job answer)).Traced := by
  have unaware : job.awaitsActive = false := by simp [Job.awaitsActive, stage]
  refine ⟨traced.hosted.worked member (before.toWorld.callSwitch_worked job answer), fun on => ?_⟩
  by_cases aware : job.operation ≠ .pause ∧ answer.switch.effected = true
  · refine List.any_eq_true.mpr ⟨{ job with called := true, stage := .switchAnswer answer.switch }, ?_, ?_⟩
    · exact List.mem_map.mpr ⟨job, member, if_pos rfl⟩
    · simp [Job.awaitsActive, aware]
  · refine traced.awaited_put member unaware (traced.awaited ?_) _ rfl
    unfold World.pausedWhileOn World.campaignOn at on ⊢
    obtain ⟨run, present, live⟩ := (Option.any_eq_true _ _).mp on
    refine (Option.any_eq_true _ _).mpr ⟨run, present, ?_⟩
    simp only [Bool.and_eq_true] at live ⊢
    refine ⟨live.1, ?_⟩
    obtain ⟨campaign, own, active⟩ := (Option.any_eq_true _ _).mp live.2
    refine (Option.any_eq_true _ _).mpr ⟨campaign, own, ?_⟩
    unfold Boost.onWorld World.callSwitch World.putJob at active
    dsimp only at active
    cases target : job.run.campaignId with
    | none =>
      rw [target] at active
      exact active
    | some switched =>
      rw [target] at active
      dsimp only at active
      split at active
      next effected =>
        rcases isActive_setCampaignStatus before.provider switched campaign _ active with was | switches
        · exact was
        · exact absurd ⟨by simpa using switches, effected⟩ aware
      next => exact active

theorem switchAnswer (traced : before.Traced) {job : Job} {answer : Answer} (member : job ∈ before.jobs) {reply : SwitchReply}
    (stage : job.stage = .switchAnswer reply)
    (keeps : match reply, job.operation with
      | .acknowledged, .pause =>
        answer.pauseDelayed = true ∨ job.run.status = .paused ∨ before.activeAwaited = true ∨
          before.run.any (World.campaignOn before.provider) = false
      | .acknowledged, _ => job.run.status ≠ .running ∨ before.losesActive job = false
      | _, _ => before.losesActive job = false) :
    (before.onWorld (before.toWorld.recordSwitch job answer reply)).Traced := by
  have work := before.toWorld.recordSwitch_worked job answer reply stage
  cases reply with
  | failed effected => exact traced.ended member work rfl (fun _ _ => keeps) id
  | lost effected => exact traced.ended member work rfl (fun _ _ => keeps) id
  | acknowledged =>
    obtain ⟨snapshots, same⟩ := before.toWorld.recordSwitch_acknowledged job answer
    rw [same] at work ⊢
    have made := World.steady_made.stored (World.switchedRun_made job answer) before.run
    have campaign : ((before.run.map fun stored => job.run.flush (World.switchedRun job answer) stored).getD {}).campaignId =
        (before.run.getD {}).campaignId := congrArg (·.1.campaign) made
    refine ⟨traced.hosted.worked member work, fun on => ?_⟩
    change (before.jobs.filter fun other => other.id ≠ job.id).any Job.awaitsActive = true
    have on := on
    rw [pausedWhileOn_eq, Bool.and_eq_true, beq_iff_eq] at on
    obtain ⟨paused, active⟩ := on
    change ((before.run.map fun stored => job.run.flush (World.switchedRun job answer) stored).getD {}).campaignId.any
      before.provider.isActive = true at active
    rw [campaign] at active
    -- The run says paused as before, or because this job has just written it.
    have written : (before.pausedWhileOn = true ∧ (World.switchedRun job answer).status = job.run.status) ∨
        ((World.switchedRun job answer).status = .paused ∧ job.run.status ≠ .paused) := by
      cases present : before.run with
      | none =>
        rw [present] at active
        cases active
      | some stored =>
        have status : ((some (job.run.flush (World.switchedRun job answer) stored)).getD {}).status = .paused := by
          rw [← paused]
          change _ = ((before.run.map fun stored => job.run.flush (World.switchedRun job answer) stored).getD {}).status
          rw [present]
          rfl
        change flushed job.run.status (World.switchedRun job answer).status stored.status = .paused at status
        unfold flushed at status
        split at status
        next equal =>
          refine .inl ⟨?_, equal⟩
          rw [pausedWhileOn_eq, active, present]
          simp [status]
        next different => exact .inr ⟨status, fun already => different (status.trans already.symm)⟩
    have switched_on : (World.switchedRun job answer).status = .running →
        (job.run.status ≠ .running ∨ before.losesActive job = false) →
        (before.jobs.filter fun other => other.id ≠ job.id).any Job.awaitsActive = true := by
      intro running keeps
      rcases written with ⟨was_on, equal⟩ | ⟨newly, _⟩
      · rcases keeps with off | elsewhere
        · exact absurd (equal.symm.trans running) off
        · exact traced.awaited_filter member (fun _ => elsewhere) was_on
      · rw [running] at newly
        cases newly
    cases operation : job.operation with
    | pause =>
      have unaware : job.awaitsActive = false := by simp [Job.awaitsActive, operation]
      rcases written with ⟨was_on, _⟩ | ⟨newly, unpaused⟩
      · exact traced.awaited_elsewhere member unaware (traced.awaited was_on)
      · rw [operation] at keeps
        rcases keeps with delayed | already | awaited | off
        · unfold World.switchedRun at newly
          rw [operation] at newly
          simp [delayed] at newly
        · exact absurd already unpaused
        · exact traced.awaited_elsewhere member unaware awaited
        · cases present : before.run with
          | none =>
            rw [present] at active
            cases active
          | some stored =>
            rw [present] at off active
            exact absurd active (by simpa [World.campaignOn] using off)
    | boostStart =>
      rw [operation] at keeps
      exact switched_on (by simp [World.switchedRun, operation]) keeps
    | resume =>
      rw [operation] at keeps
      exact switched_on (by simp [World.switchedRun, operation]) keeps

theorem createAnswer (traced : before.Traced) {job : Job} (member : job ∈ before.jobs) {ids : ObjectIds}
    {failure : Option CreateFailure} (stage : job.stage = .createAnswer ids failure)
    (keeps : (before.run.any fun run => run.status == .paused) = false ∨ ids.campaign.any before.provider.isActive = false)
    (phase : Desk.phase (before.toWorld.recordCreation job ids failure).run = Desk.phase before.run)
    (provider : (before.toWorld.recordCreation job ids failure).provider = before.provider) :
    (before.onWorld (before.toWorld.recordCreation job ids failure)).Traced := by
  have unaware : job.awaitsActive = false := by simp [Job.awaitsActive, stage]
  refine traced.worked member (before.toWorld.recordCreation_worked job ids failure) unaware fun on => ?_
  rw [pausedWhileOn_eq, Bool.and_eq_true, beq_iff_eq, provider] at on
  obtain ⟨paused, active⟩ := on
  have status : (before.run.getD {}).status = .paused := by
    rw [← paused]
    exact (congrArg Prod.fst phase).symm
  rw [pausedWhileOn_eq, status, Bool.and_eq_true]
  refine ⟨rfl, ?_⟩
  cases present : before.run with
  | none =>
    rw [present] at status
    cases status
  | some stored =>
    rw [World.recordCreation_run, present] at active
    have off : ids.campaign.any before.provider.isActive = false := by
      rcases keeps with idle | off
      · rw [present] at idle status
        simp only [Option.any_some, Option.getD_some] at idle status
        rw [status] at idle
        cases idle
      · exact off
    have assigned : ∀ run : BoostRun, run.campaignId = ids.campaign.or job.run.campaignId →
        (job.run.flush run stored).campaignId.any before.provider.isActive = true →
        stored.campaignId.any before.provider.isActive = true := by
      intro run own live
      simp only [BoostRun.flush, own] at live
      unfold flushed at live
      split at live
      · exact live
      next changed =>
        cases made : ids.campaign with
        | none => exact absurd (by rw [made]; rfl) changed
        | some id =>
          rw [made] at live off
          simp only [Option.some_or, Option.any_some] at live off
          rw [live] at off
          cases off
    have recorded : (World.recordCreated job ids).campaignId = ids.campaign.or job.run.campaignId := by
      unfold World.recordCreated
      dsimp only
      split <;> rfl
    simp only [Option.map_some, Option.getD_some] at active ⊢
    split at active
    · exact assigned _ recorded active
    · exact assigned _ recorded active

/-- One stage of a job: the stages that call the provider or record its answer, and the others. -/
theorem advance (traced : before.Traced) {job : Job} {answer : Answer} {id : Nat} (found : before.job? id = some job)
    (alive : job.dead = false) (keeps : before.keepsTrace (.advance id answer) = true) :
    (before.onWorld (before.toWorld.advance job answer)).Traced := by
  have member : job ∈ before.jobs := Keyed.find_mem found
  have work := before.toWorld.advance_worked job answer
  have phase := before.toWorld.advance_phase job answer
  have made := before.toWorld.advance_made job answer
  have provider := before.toWorld.advance_provider job answer
  simp only [Boost.keepsTrace, Boost.hostsJobs, found, Option.all_some, alive, Bool.false_or, Bool.true_and] at keeps
  by_cases answered : ∃ reply, job.stage = .switchAnswer reply
  · obtain ⟨reply, stage⟩ := answered
    have same : before.toWorld.advance job answer = before.toWorld.recordSwitch job answer reply := by
      unfold World.advance
      rw [stage]
    rw [same]
    refine traced.switchAnswer member stage ?_
    rw [stage] at keeps
    cases reply with
    | failed effected => simpa using keeps
    | lost effected => simpa using keeps
    | acknowledged =>
      cases operation : job.operation with
      | pause => simpa [operation, or_assoc] using keeps
      | boostStart => simpa [operation] using keeps
      | resume => simpa [operation] using keeps
  have unaware : job.awaitsActive = false := by
    unfold Job.awaitsActive
    split
    next reply stage => exact absurd ⟨reply, stage⟩ answered
    next => exact Bool.and_false _
  by_cases created : ∃ ids failure, job.stage = .createAnswer ids failure
  · obtain ⟨ids, failure, stage⟩ := created
    have same : before.toWorld.advance job answer = before.toWorld.recordCreation job ids failure := by
      unfold World.advance
      rw [stage]
    rw [same] at phase provider ⊢
    rw [stage] at keeps
    refine traced.createAnswer member stage (by simpa using keeps) (phase (by simp [stage])) ?_
    exact provider (by simp [stage]) (by simp [stage])
  by_cases switching : ∃ checked, job.stage = .switchCall checked
  · obtain ⟨checked, stage⟩ := switching
    have same : before.toWorld.advance job answer = before.toWorld.callSwitch job answer := by
      unfold World.advance
      rw [stage]
    rw [same]
    exact traced.switchCall member stage
  refine traced.worked member work unaware fun on => ?_
  rw [← on]
  refine (pausedWhileOn_congr (phase fun stage => answered ⟨_, stage⟩)
    (made fun ids failure stage => created ⟨ids, failure, stage⟩) fun campaign => ?_).symm
  by_cases creating : job.stage = .createCall
  · unfold World.advance
    rw [creating]
    exact createBoostCampaign_isActive _ _ _ _ _ campaign
  · rw [provider creating fun checked stage => switching ⟨checked, stage⟩]

theorem crash (traced : before.Traced) {job : Job} (member : job ∈ before.jobs) :
    (before.onWorld (before.toWorld.crash job)).Traced := by
  refine ⟨traced.hosted.crash member, fun live => ?_⟩
  obtain ⟨waiting, present, waits⟩ := List.any_eq_true.mp (traced.awaited live)
  by_cases own : waiting.id = job.id
  · rw [traced.hosted.same_job present member own] at waits
    exact List.any_eq_true.mpr ⟨{ job with dead := true }, List.mem_map.mpr ⟨job, member, if_pos rfl⟩, waits⟩
  · exact List.any_eq_true.mpr ⟨waiting, List.mem_map.mpr ⟨waiting, present, if_neg own⟩, waits⟩

theorem claim (traced : before.Traced) (id : Uuid) (now : Nat) :
    (before.onWorld (before.toWorld.claimCommand id now)).Traced := by
  refine ⟨traced.hosted.claim id now, ?_⟩
  unfold World.claimCommand
  split
  · exact traced.awaited
  · split
    · intro live
      obtain ⟨waiting, present, waits⟩ := List.any_eq_true.mp (traced.awaited live)
      exact List.any_eq_true.mpr ⟨waiting, List.mem_append_left _ present, waits⟩
    · exact traced.awaited

theorem recover (traced : before.Traced) (id : Uuid) (now : Nat) (keeps : before.keepsTrace (.recover id now) = true) :
    (before.onWorld (before.toWorld.recoverInterrupted id now)).Traced := by
  simp only [Boost.keepsTrace, Boost.hostsJobs, Bool.and_eq_true, Bool.not_eq_true', Bool.or_eq_true] at keeps
  obtain ⟨alone, lost⟩ := keeps
  refine ⟨traced.hosted.recover id now alone, ?_⟩
  unfold World.recoverInterrupted
  split
  · exact traced.awaited
  next command found =>
    split
    next stuck =>
      have recovers : before.toWorld.recovers id now = true := by
        unfold World.recovers
        rw [found]
        simpa using stuck
      intro live
      obtain ⟨waiting, present, waits⟩ := List.any_eq_true.mp (traced.awaited live)
      have remaining : ∃ job ∈ before.jobs, job.commandId ≠ id ∧ job.awaitsActive = true := by
        by_cases own : waiting.commandId = id
        · -- The one job of the command goes, so another one awaits an ACTIVE.
          have kept : before.losesActive waiting = false := by
            rcases lost with idle | lost
            · rw [recovers] at idle
              cases idle
            · simpa [own] using List.all_eq_true.mp lost waiting present
          simp only [World.losesActive, show before.pausedWhileOn = true from live, waits, Bool.and_self, Bool.true_and,
            Bool.not_eq_false', List.any_eq_true, Bool.and_eq_true, bne_iff_ne] at kept
          obtain ⟨other, existing, different, also⟩ := kept
          refine ⟨other, existing, fun same => different ?_, also⟩
          exact congrArg Job.id (traced.hosted.distinct other existing waiting present (same.trans own.symm))
        · exact ⟨waiting, present, own, waits⟩
      obtain ⟨job, existing, different, also⟩ := remaining
      exact List.any_eq_true.mpr ⟨job, List.mem_filter.mpr ⟨existing, by simp [different]⟩, also⟩
    next => exact traced.awaited

theorem noteCycle (traced : after.Traced) : (before.noteCycle after).Traced := by
  unfold Boost.noteCycle
  split
  · exact traced
  · exact ⟨traced.hosted.handled (fun _ => .refl _) rfl rfl, traced.awaited⟩

theorem noteConfirmation (traced : after.Traced) (id : Uuid) : (before.noteConfirmation id after).Traced := by
  unfold Boost.noteConfirmation
  split
  · exact ⟨traced.hosted.handled (fun _ => .refl _) rfl rfl, traced.awaited⟩
  · exact traced

theorem step (traced : before.Traced) {event : Event} (keeps : before.keepsTrace event = true) : (before.step event).Traced := by
  have hosts : before.hostsJobs event = true := by
    simp only [Boost.keepsTrace, Bool.and_eq_true] at keeps
    exact keeps.1
  have hosted := traced.hosted.step hosts
  by_cases captures : event.captures = true
  · have captured := before.captured_step captures
    exact traced.kept hosted captured.core captured.provider captured.jobs
  revert hosted
  unfold Boost.step Runs.settle
  split
  next after executed =>
    intro hosted
    cases event with
    | requestBoost terms requester now =>
      obtain ⟨desk, accepted, rfl⟩ := Runs.map_ok executed
      exact traced.kept hosted (Desk.requestAdsBoost_ok accepted).1 rfl rfl
    | moveGate newStatus resolverId now =>
      obtain ⟨desk, accepted, rfl⟩ := Runs.map_ok executed
      obtain ⟨_, snapshots, rfl⟩ := Desk.moveGate_ok accepted
      exact traced.kept hosted rfl rfl rfl
    | start requester now =>
      obtain ⟨desk, accepted, rfl⟩ := Runs.map_ok executed
      exact traced.kept hosted (Desk.requestAdsBoostStart_core accepted) rfl rfl
    | scheduledStart now =>
      change before.startDue now = .ok after at executed
      unfold Boost.startDue at executed
      split at executed
      · split at executed
        · obtain ⟨desk, accepted, rfl⟩ := Runs.map_ok executed
          exact traced.kept hosted (Desk.requestAdsBoostStart_core accepted) rfl rfl
        · cases executed
          exact traced
      · cases executed
        exact traced
    | pause requester preferred now =>
      obtain ⟨desk, accepted, rfl⟩ := Runs.map_ok executed
      exact traced.kept hosted (congrArg (·.core) (Desk.requestToggle_ok accepted).eq) rfl rfl
    | resume requester preferred now =>
      obtain ⟨desk, accepted, rfl⟩ := Runs.map_ok executed
      exact traced.kept hosted (congrArg (·.core) (Desk.requestToggle_ok accepted).eq) rfl rfl
    | cancel actor admin now =>
      obtain ⟨desk, accepted, rfl⟩ := Runs.map_ok executed
      have kept : (before.onTables desk).Traced := by
        have hosted : (before.onTables desk).Hosted := traced.hosted.handled (fun _ => (Desk.cancelAdsBoost_ok accepted).1) rfl rfl
        obtain ⟨_, _, _, core | ⟨run, _, cleared, _⟩⟩ := Desk.cancelAdsBoost_ok accepted
        · exact traced.kept hosted core rfl rfl
        · refine not_paused hosted ?_
          rw [pausedWhileOn_eq]
          change ((desk.run.getD {}).status == _ && _) = false
          rw [cleared]
          rfl
      exact noteCycle kept
    | finishCancel now =>
      cases executed
      rcases before.toDesk.finishCancelIfStopped_cases now with same | ⟨run, cycles, _, _, same⟩
      · rw [same]
        exact noteCycle traced
      · rw [same]
        have cleared : (before.onTables { before.toDesk.putRun run.reset with cycles }).Traced :=
          not_paused (traced.hosted.handled (fun _ => .refl _) rfl rfl) rfl
        exact noteCycle cleared
    | pauseLeft preferred now =>
      obtain ⟨desk, accepted, rfl⟩ := Runs.map_ok executed
      exact traced.kept hosted (congrArg (·.core) (Desk.pauseLeftCampaign_ok accepted).eq) rfl rfl
    | captureAfterFailedPause id now =>
      obtain ⟨desk, accepted, rfl⟩ := Runs.map_ok executed
      obtain ⟨snapshots, rfl⟩ := Desk.captureAfterFailedCancelPause_ok accepted
      exact traced.kept hosted rfl rfl rfl
    | retry id confirmed =>
      obtain ⟨desk, accepted, rfl⟩ := Runs.map_ok executed
      obtain ⟨command, commands, _, rows, ⟨rfl, _⟩ | ⟨rfl, _⟩⟩ := Desk.retryCommand_ok accepted
      · have kept : (before.onTables { before.toDesk with commands }).Traced :=
          traced.kept (traced.hosted.handled rows rfl rfl) rfl rfl rfl
        exact noteConfirmation kept id
      · have kept : (before.onTables { before.toDesk with commands, run := before.run.map Desk.cleared }).Traced := by
          refine ⟨traced.hosted.handled rows rfl rfl, fun live => traced.awaited ?_⟩
          rw [← live]
          refine (pausedWhileOn_congr ?_ ?_ (by intro campaign; rfl)).symm
          · exact World.cleared_view World.steady_phase before.run
          · exact World.cleared_view World.steady_made before.run
        exact noteConfirmation kept id
    | adopt found budget answer =>
      obtain ⟨world, accepted, rfl⟩ := Runs.map_ok executed
      refine ⟨hosted, fun live => ?_⟩
      obtain ⟨seal_, run, commands, _, present, _, _, _, rfl⟩ := World.adopt_ok accepted
      rw [pausedWhileOn_eq, Bool.and_eq_true, beq_iff_eq] at live
      obtain ⟨paused, on⟩ := live
      have status : run.status = .paused :=
        (World.adopted_phase run found budget seal_.versionId seal_.connectionId).1.symm.trans paused
      have campaign : (World.adopted run found budget seal_.versionId seal_.connectionId).campaignId = found.campaign := by
        unfold World.adopted
        dsimp only
        split <;> rfl
      replace on : (World.adopted run found budget seal_.versionId seal_.connectionId).campaignId.any before.provider.isActive =
        true := on
      rw [campaign] at on
      simp [Boost.keepsTrace, Boost.hostsJobs, present, status, on] at keeps
    | setPublishPaused paused =>
      cases executed
      exact traced.kept hosted rfl rfl rfl
    | requeuePaused =>
      cases executed
      exact traced.kept hosted (by unfold Desk.requeuePaused; split <;> rfl) rfl rfl
    | claim id now =>
      cases executed
      exact traced.claim id now
    | advance id answer =>
      cases executed
      exact Boost.onJob_preserves traced id _ fun job found alive => traced.advance found alive keeps
    | escape id =>
      cases executed
      refine Boost.onJob_preserves traced id _ fun job found alive => ?_
      refine traced.ended (Keyed.find_mem found) (before.toWorld.escape_worked job) rfl (fun _ _ => ?_) fun live => live
      simpa [Boost.keepsTrace, Boost.hostsJobs, found, alive] using keeps
    | crash id =>
      cases executed
      exact Boost.onJob_preserves traced id _ fun job found _ => traced.crash (Keyed.find_mem found)
    | recover id now =>
      cases executed
      exact traced.recover id now keeps
    | _ => exact absurd rfl captures
  next => exact fun _ => traced

theorem initial (gateId orgId : Uuid) (snapshots : List Snapshot) : (Boost.initial gateId orgId snapshots).Traced :=
  not_paused (.initial gateId orgId snapshots) rfl

end Boost.Traced

/-- A cancel that finishes forgets no campaign that is on, along every run that keeps
the trace of the campaigns that are. -/
theorem cancel_forgets_only_stopped (gateId orgId : Uuid) (snapshots : List Snapshot) (events : List Event)
    (keeps : Runs.Throughout Boost.step (fun boost event => boost.keepsTrace event = true)
      (Boost.initial gateId orgId snapshots) events) :
    Runs.Throughout Boost.step Boost.ForgetsOnlyStopped (Boost.initial gateId orgId snapshots) events := by
  have kept : ∀ (boost : Boost) event, boost.keepsTrace event = true → boost.Traced → (boost.step event).Traced :=
    fun _ _ traces traced => traced.step traces
  exact keeps.carry kept (Boost.Traced.initial gateId orgId snapshots) fun _ event _ traced => traced.forgetsOnlyStopped event

namespace Example

/-- The cancel of a boost that was started and paused, and its finish. -/
def cancelled : List Event := started ++ paused ++ [.cancel 1 false 20, .finishCancel 21]

/-- A resume whose answer is lost after it took effect, and then the cancel. -/
def forgotten : List Event :=
  started ++ paused ++ [.resume 1 0 10, .claim 2 11] ++
    List.replicate 6 (.advance 2 { accepting with switch := .lost true }) ++ [.cancel 1 false 20]

end Example

open Example in
theorem stopped_boost_is_forgotten :
    Runs.Throughout Boost.step (fun boost event => boost.keepsTrace event = true) (Boost.initial 0 0 []) cancelled ∧
      Runs.Throughout Boost.step Boost.ForgetsOnlyStopped (Boost.initial 0 0 []) cancelled ∧
      ((Runs.final Boost.step (Boost.initial 0 0 []) cancelled).run.map BoostRun.cycleNo) = some 2 := by
  have keeps : Runs.Throughout Boost.step (fun boost event => boost.keepsTrace event = true) (Boost.initial 0 0 []) cancelled := by
    decide +kernel
  exact ⟨keeps, cancel_forgets_only_stopped 0 0 [] cancelled keeps, by decide +kernel⟩

open Example in
/-- A resume whose answer is lost leaves the run paused; the cancel then clears the ids
of a campaign that is on. -/
theorem lost_resume_is_forgotten :
    ¬ ∀ events, Runs.Throughout Boost.step Boost.ForgetsOnlyStopped (Boost.initial 0 0 []) events := by
  intro forgets
  have forgotten_on : ∃ run, (Runs.final Boost.step (Boost.initial 0 0 []) forgotten).run = some run ∧
      (Runs.final Boost.step (Boost.initial 0 0 []) forgotten).cancelFinishes run = true ∧
      World.campaignOn (Runs.final Boost.step (Boost.initial 0 0 []) forgotten).provider run = true := by
    have checked : ((Runs.final Boost.step (Boost.initial 0 0 []) forgotten).run.any fun run =>
        (Runs.final Boost.step (Boost.initial 0 0 []) forgotten).cancelFinishes run &&
          World.campaignOn (Runs.final Boost.step (Boost.initial 0 0 []) forgotten).provider run) = true := by
      decide +kernel
    obtain ⟨run, present, both⟩ := (Option.any_eq_true _ _).mp checked
    exact ⟨run, present, (Bool.and_eq_true _ _ ▸ both)⟩
  obtain ⟨run, present, finishes, on⟩ := forgotten_on
  have last := (Runs.Throughout.append.mp (forgets (forgotten ++ [.finishCancel 21]))).2.1
  rw [last run present finishes] at on
  cases on

end Sprintable.Boosts
