import Sprintable.Boosts.Toggles

/-! Money on approved terms. A campaign is made once and switched on later, perhaps
under a newer seal; of the sealed terms only the budget is compared before the switch.
The other terms agree as long as no seal changes them while objects of the run exist. -/

namespace Sprintable.Boosts

/-- The terms that no check compares: all but the budget. -/
def Terms.agrees (first second : Terms) : Bool :=
  first.currency == second.currency && first.startsAt == second.startsAt && first.endsAt == second.endsAt &&
    first.objective == second.objective && first.connectionId == second.connectionId

namespace Provider
variable (provider : Provider)

def campaignFits (terms : Terms) (id : Nat) : Bool :=
  (provider.campaign id).any fun campaign =>
    campaign.objective == terms.objective && campaign.connectionId == terms.connectionId

def adsetFits (terms : Terms) (id : Nat) : Bool :=
  (provider.adset id).any fun adset =>
    adset.currency == terms.currency && adset.startsAt == terms.startsAt && adset.endsAt == terms.endsAt

def adsetCosts (budgetMinor : Nat) (id : Nat) : Bool := (provider.adset id).any fun adset => adset.budgetMinor == budgetMinor

/-- The campaign was created with these terms, and so was its ad set where there is one. -/
def carries (ids : ObjectIds) (terms : Terms) : Bool :=
  ids.campaign.all (provider.campaignFits terms) &&
    ids.adset.all fun id => provider.adsetFits terms id && provider.adsetCosts terms.budgetMinor id

end Provider

/-- Every ACTIVE call is for a campaign with the terms of the seal at the last check. -/
def Boost.ActivatesApproved (boost : Boost) : Event → Prop
  | .advance id _ => ∀ job checked, boost.job? id = some job → job.dead = false → job.operation ≠ .pause →
      job.stage = .switchCall checked → ∃ seal_, checked = some seal_ ∧ boost.provider.carries job.run.ids seal_.toTerms = true
  | _ => True

/-- An object of the run exists or is being made. -/
def Boost.making (boost : Boost) : Bool :=
  (boost.run.any fun run => run.campaignId.isSome || run.adsetId.isSome) ||
    boost.jobs.any fun job =>
      match job.stage with
      | .createMark | .createCall | .createAnswer _ _ => true
      | _ => false

/-- While objects of the run exist or are being made, a new seal keeps all terms but
the budget; adopted objects carry the sealed terms; and the creation claim is won by a
job that knows the recorded ad set. -/
def Boost.keepsTerms (boost : Boost) : Event → Bool
  | .requestBoost terms _ _ => !boost.making || boost.gate.sealedAds.all fun seal_ => terms.agrees seal_.toTerms
  | .adopt found _ _ =>
    boost.gate.sealedAds.all fun seal_ =>
      found.campaign.all (boost.provider.campaignFits seal_.toTerms) &&
        found.adset.all fun id =>
          boost.provider.adsetFits seal_.toTerms id && boost.provider.adsetCosts seal_.budgetMinor id &&
            boost.run.all fun run => run.createdBudgetMinor.all (· == seal_.budgetMinor)
  | .advance id _ =>
    (boost.job? id).all fun job => job.dead || job.stage != .claimCreation ||
      boost.run.all fun run => !World.claimable run job.now || run.adsetId == job.existing.adset
  | _ => true

/-- The objects of a run agree with the terms, and the created budget is its ad set's. -/
structure Fits (provider : Provider) (run : BoostRun) (terms : Terms) : Prop where
  campaign : ∀ id, run.campaignId = some id → provider.campaignFits terms id = true
  adset : ∀ id, run.adsetId = some id → provider.adsetFits terms id = true
  budget : ∀ id, run.adsetId = some id →
    (∃ budget, run.createdBudgetMinor = some budget ∧ provider.adsetCosts budget id = true) ∨
      provider.adsetCosts terms.budgetMinor id = true

/-- The row of the run, whose created budget is always that of its ad set. -/
structure RowFits (provider : Provider) (run : BoostRun) (terms : Terms) : Prop extends Fits provider run terms where
  created : ∀ id, run.adsetId = some id → ∃ budget, run.createdBudgetMinor = some budget ∧ provider.adsetCosts budget id = true
  unmade : run.adsetId = none → run.createdBudgetMinor = none

structure Made (provider : Provider) (job : Job) (ids : ObjectIds) : Prop where
  campaign : ∀ id, ids.campaign = some id → provider.campaignFits job.terms id = true
  adset : ∀ id, ids.adset = some id → job.existing.adset = some id ∨
    (job.existing.adset = none ∧ provider.adsetFits job.terms id = true ∧ provider.adsetCosts job.terms.budgetMinor id = true)

/-- What a job has loaded agrees with its terms. -/
structure Holds (provider : Provider) (job : Job) : Prop extends Fits provider job.run job.terms where
  existing : ∀ id, job.existing.campaign = some id → provider.campaignFits job.terms id = true

/-- A job works in the sealed account where it found no campaign. -/
def Job.accountSealed (job : Job) : Prop := job.existing.campaign = none → job.connectionId = job.terms.connectionId

/-- A job that creates knows the ad set of the run. -/
def Job.knowsAdset (job : Job) : Prop :=
  job.existing.adset = job.run.adsetId ∧ (job.run.adsetId = none → job.run.createdBudgetMinor = none)

/-- What the objects that a job holds owe its terms, stage by stage. Before the check of
the seal they agree only if the job's version is still the sealed one. -/
def Boost.JobFits (boost : Boost) (job : Job) : Prop :=
  let current := ∀ seal_, boost.gate.sealedAds = some seal_ → seal_.versionId = job.approvedVersion →
    seal_.toTerms = job.terms ∧ Holds boost.provider job
  let making := Holds boost.provider job ∧ ∀ seal_, boost.gate.sealedAds = some seal_ →
    seal_.toTerms.agrees job.terms = true ∧ (seal_.versionId = job.approvedVersion → seal_.toTerms = job.terms)
  match job.stage with
  | .claimed | .marked | .switchAnswer _ => True
  | .currency | .claimCreation | .sealCheck => current ∧ job.accountSealed
  | .createCheck => current ∧ job.accountSealed ∧ job.knowsAdset
  | .createMark | .createCall => making ∧ job.accountSealed ∧ job.knowsAdset
  | .createAnswer ids _ => making ∧ job.accountSealed ∧ job.knowsAdset ∧ Made boost.provider job ids
  | .capCheck checked => checked.toTerms = job.terms ∧ Fits boost.provider job.run job.terms
  | .switchCall (some checked) => boost.provider.carries job.run.ids checked.toTerms = true
  | .switchCall none => job.operation = .pause

/-- The ids at the provider are numbers of rows. -/
structure Provider.Counted (provider : Provider) : Prop where
  campaigns : ∀ campaign ∈ provider.campaigns, campaign.id < provider.campaigns.length
  adsets : ∀ adset ∈ provider.adsets, adset.id < provider.adsets.length

theorem Provider.Counted.setCampaignStatus {provider : Provider} (counted : provider.Counted) (target : Nat) (active : Bool) :
    (provider.setCampaignStatus target active).Counted where
  campaigns campaign member := by
    unfold Provider.setCampaignStatus Keyed.modify at member ⊢
    rw [List.length_map]
    obtain ⟨old, present, rfl⟩ := List.mem_map.mp member
    split
    · exact counted.campaigns old present
    · exact counted.campaigns old present
  adsets := counted.adsets

/-- What a table of commands owes the seals: each command is for a version that was
drawn, and before the first seal there is none. -/
structure Boost.Files (boost : Boost) (commands : List BoostCommand) : Prop where
  numbered : Numbered commands
  versions : ∀ command ∈ commands, command.approvedVersion < boost.sealings
  unsealed : boost.gate.sealedAds = none → commands = []

/-- The objects of the run, of every job and of every call agree with the terms they
were approved under. -/
structure Boost.Approved (boost : Boost) : Prop where
  unsealed : boost.gate.sealedAds = none → boost.run = none ∧ boost.jobs = []
  sealVersion : ∀ seal_, boost.gate.sealedAds = some seal_ → seal_.versionId < boost.sealings
  files : boost.Files boost.commands
  jobVersions : ∀ job ∈ boost.jobs, job.approvedVersion < boost.sealings
  counted : boost.provider.Counted
  row : ∀ run seal_, boost.run = some run → boost.gate.sealedAds = some seal_ → RowFits boost.provider run seal_.toTerms
  jobs : ∀ job ∈ boost.jobs, boost.JobFits job

/-- What is at the provider stays there with its terms. -/
structure Extends (old new : Provider) : Prop where
  campaign : ∀ terms id, old.campaignFits terms id = true → new.campaignFits terms id = true
  adset : ∀ terms id, old.adsetFits terms id = true → new.adsetFits terms id = true
  cost : ∀ budget id, old.adsetCosts budget id = true → new.adsetCosts budget id = true

namespace Extends
variable {old new : Provider}

theorem refl (provider : Provider) : Extends provider provider := ⟨fun _ _ => id, fun _ _ => id, fun _ _ => id⟩

theorem trans {last : Provider} (earlier : Extends old new) (later : Extends new last) : Extends old last where
  campaign terms id := later.campaign terms id ∘ earlier.campaign terms id
  adset terms id := later.adset terms id ∘ earlier.adset terms id
  cost budget id := later.cost budget id ∘ earlier.cost budget id

theorem addCampaign (provider : Provider) (terms : Terms) : Extends provider (provider.addCampaign terms) where
  campaign other id fits := by
    unfold Provider.campaignFits Provider.campaign at *
    obtain ⟨campaign, found, same⟩ := (Option.any_eq_true _ _).mp fits
    exact (Option.any_eq_true _ _).mpr ⟨campaign, Keyed.find_append_old found _, same⟩
  adset _ _ := id
  cost _ _ := id

theorem addAdset (provider : Provider) (terms : Terms) (campaign : Nat) : Extends provider (provider.addAdset terms campaign) where
  campaign _ _ := id
  adset other id fits := by
    unfold Provider.adsetFits Provider.adset at *
    obtain ⟨adset, found, same⟩ := (Option.any_eq_true _ _).mp fits
    exact (Option.any_eq_true _ _).mpr ⟨adset, Keyed.find_append_old found _, same⟩
  cost other id costs := by
    unfold Provider.adsetCosts Provider.adset at *
    obtain ⟨adset, found, same⟩ := (Option.any_eq_true _ _).mp costs
    exact (Option.any_eq_true _ _).mpr ⟨adset, Keyed.find_append_old found _, same⟩

theorem setCampaignStatus (provider : Provider) (target : Nat) (active : Bool) :
    Extends provider (provider.setCampaignStatus target active) where
  campaign terms id fits := by
    unfold Provider.campaignFits Provider.campaign Provider.setCampaignStatus at *
    dsimp only
    rw [Keyed.find_modify (by intro row; rfl)]
    split
    · obtain ⟨campaign, found, same⟩ := (Option.any_eq_true _ _).mp fits
      rw [found]
      exact same
    · exact fits
  adset _ _ := id
  cost _ _ := id

theorem fits {run : BoostRun} {terms : Terms} (extends_ : Extends old new) (fits : Fits old run terms) : Fits new run terms where
  campaign id own := extends_.campaign terms id (fits.campaign id own)
  adset id own := extends_.adset terms id (fits.adset id own)
  budget id own := (fits.budget id own).imp
    (fun ⟨budget, created, costs⟩ => ⟨budget, created, extends_.cost budget id costs⟩) (extends_.cost terms.budgetMinor id)

theorem rowFits {run : BoostRun} {terms : Terms} (extends_ : Extends old new) (fits : RowFits old run terms) :
    RowFits new run terms where
  toFits := extends_.fits fits.toFits
  created id own := by
    obtain ⟨budget, created, costs⟩ := fits.created id own
    exact ⟨budget, created, extends_.cost budget id costs⟩
  unmade := fits.unmade

theorem holds {job : Job} (extends_ : Extends old new) (holds : Holds old job) : Holds new job where
  toFits := extends_.fits holds.toFits
  existing id own := extends_.campaign job.terms id (holds.existing id own)

theorem made {job : Job} {ids : ObjectIds} (extends_ : Extends old new) (made : Made old job ids) : Made new job ids where
  campaign id own := extends_.campaign job.terms id (made.campaign id own)
  adset id own := (made.adset id own).imp (fun found => found) fun ⟨none_found, fits, costs⟩ =>
    ⟨none_found, extends_.adset job.terms id fits, extends_.cost job.terms.budgetMinor id costs⟩

theorem carries {ids : ObjectIds} {terms : Terms} (extends_ : Extends old new) (carries : old.carries ids terms = true) :
    new.carries ids terms = true := by
  simp only [Provider.carries, Bool.and_eq_true, Option.all_eq_true] at carries ⊢
  exact ⟨fun id own => extends_.campaign terms id (carries.1 id own),
    fun id own => ⟨extends_.adset terms id (carries.2 id own).1, extends_.cost terms.budgetMinor id (carries.2 id own).2⟩⟩

end Extends

/-- What a creation that starts from `ids` comes back with. -/
structure Created (provider : Provider) (terms : Terms) (ids : ObjectIds) (after : Provider) (made : ObjectIds) : Prop where
  extends_ : Extends provider after
  counted : after.Counted
  campaign : ∀ id, made.campaign = some id →
    ids.campaign = some id ∨ (ids.campaign = none ∧ after.campaignFits terms id = true)
  adset : ∀ id, made.adset = some id → ids.adset = some id ∨
    (ids.adset = none ∧ after.adsetFits terms id = true ∧ after.adsetCosts terms.budgetMinor id = true)

namespace Created
variable {provider : Provider} {terms : Terms} {ids : ObjectIds}

theorem nothing (counted : provider.Counted) : Created provider terms ids provider ids :=
  ⟨.refl provider, counted, fun _ own => .inl own, fun _ own => .inl own⟩

theorem lost {after : Provider} (extends_ : Extends provider after) (counted : after.Counted) :
    Created provider terms ids after {} := ⟨extends_, counted, fun _ own => (by cases own), fun _ own => (by cases own)⟩

theorem kept {after : Provider} (extends_ : Extends provider after) (counted : after.Counted) :
    Created provider terms ids after ids := ⟨extends_, counted, fun _ own => .inl own, fun _ own => .inl own⟩

theorem counted_addCampaign (counted : provider.Counted) (terms : Terms) : (provider.addCampaign terms).Counted where
  campaigns campaign member := by
    unfold Provider.addCampaign at member ⊢
    rw [List.length_append, List.length_singleton]
    rcases List.mem_append.mp member with old | new
    · exact Nat.lt_succ_of_lt (counted.campaigns campaign old)
    · rw [List.mem_singleton.mp new]
      exact Nat.lt_succ_self _
  adsets := counted.adsets

theorem counted_addAdset (counted : provider.Counted) (terms : Terms) (campaign : Nat) : (provider.addAdset terms campaign).Counted where
  campaigns := counted.campaigns
  adsets adset member := by
    unfold Provider.addAdset at member ⊢
    rw [List.length_append, List.length_singleton]
    rcases List.mem_append.mp member with old | new
    · exact Nat.lt_succ_of_lt (counted.adsets adset old)
    · rw [List.mem_singleton.mp new]
      exact Nat.lt_succ_self _

theorem campaign_level (counted : provider.Counted) (terms : Terms) (reply : Level → LevelReply) (ids : ObjectIds) :
    Created provider terms ids (provider.createCampaign terms reply ids).1 (provider.createCampaign terms reply ids).2.1 ∧
      ((provider.createCampaign terms reply ids).2.2 = none →
        (provider.createCampaign terms reply ids).2.1.campaign ≠ none ∧
          (provider.createCampaign terms reply ids).2.1.adset = ids.adset) := by
  have extends_ := Extends.addCampaign provider terms
  have still := counted_addCampaign counted terms
  unfold Provider.createCampaign
  split
  next known => exact ⟨nothing counted, fun _ => ⟨Option.isSome_iff_ne_none.mp known, rfl⟩⟩
  next fresh =>
    have missing : ids.campaign = none := by simpa using fresh
    split
    · refine ⟨⟨extends_, still, ?_, fun _ own => .inl own⟩, fun _ => ⟨Option.some_ne_none _, rfl⟩⟩
      rintro id ⟨⟩
      refine .inr ⟨missing, ?_⟩
      have unused : Keyed.find Campaign.id provider.campaigns provider.campaigns.length = none := by
        cases found : Keyed.find Campaign.id provider.campaigns provider.campaigns.length with
        | none => rfl
        | some old =>
          have name := Keyed.find_key found
          have below := counted.campaigns old (Keyed.find_mem found)
          omega
      unfold Provider.campaignFits Provider.campaign Provider.addCampaign
      rw [Keyed.find_append_new unused rfl]
      simp
    · exact ⟨nothing counted, fun failed => by cases failed⟩
    · refine ⟨?_, fun failed => by cases failed⟩
      split
      · exact kept extends_ still
      · exact nothing counted
    · refine ⟨?_, fun failed => by cases failed⟩
      split
      · exact lost extends_ still
      · exact lost (.refl provider) counted

theorem adset_level (counted : provider.Counted) (terms : Terms) (reply : Level → LevelReply) (ids : ObjectIds) :
    Created provider terms ids (provider.createAdset terms reply ids).1 (provider.createAdset terms reply ids).2.1 ∧
      ((provider.createAdset terms reply ids).2.2 = none →
        (provider.createAdset terms reply ids).2.1.campaign = ids.campaign ∧
          (provider.createAdset terms reply ids).2.1.adset ≠ none) := by
  have extends_ := Extends.addAdset provider terms (ids.campaign.getD 0)
  have still := counted_addAdset counted terms (ids.campaign.getD 0)
  unfold Provider.createAdset
  split
  next known => exact ⟨nothing counted, fun _ => ⟨rfl, Option.isSome_iff_ne_none.mp known⟩⟩
  next fresh =>
    have missing : ids.adset = none := by simpa using fresh
    split
    · refine ⟨⟨extends_, still, fun _ own => .inl own, ?_⟩, fun _ => ⟨rfl, Option.some_ne_none _⟩⟩
      rintro id ⟨⟩
      refine .inr ⟨missing, ?_⟩
      have unused : Keyed.find AdSet.id provider.adsets provider.adsets.length = none := by
        cases found : Keyed.find AdSet.id provider.adsets provider.adsets.length with
        | none => rfl
        | some old =>
          have name := Keyed.find_key found
          have below := counted.adsets old (Keyed.find_mem found)
          omega
      unfold Provider.adsetFits Provider.adsetCosts Provider.adset Provider.addAdset
      rw [Keyed.find_append_new unused rfl]
      simp
    · exact ⟨nothing counted, fun failed => by cases failed⟩
    · refine ⟨?_, fun failed => by cases failed⟩
      split
      · exact kept extends_ still
      · exact nothing counted
    · refine ⟨?_, fun failed => by cases failed⟩
      split
      · exact lost extends_ still
      · exact lost (.refl provider) counted

theorem ad_level (counted : provider.Counted) (terms : Terms) (reply : Level → LevelReply) (ids : ObjectIds) :
    Created provider terms ids (provider.createAd reply ids).1 (provider.createAd reply ids).2.1 := by
  have extends_ : Extends provider (provider.addAd (ids.adset.getD 0)) := ⟨fun _ _ => id, fun _ _ => id, fun _ _ => id⟩
  have still : (provider.addAd (ids.adset.getD 0)).Counted := ⟨counted.campaigns, counted.adsets⟩
  unfold Provider.createAd
  split
  · exact nothing counted
  · split
    · exact ⟨extends_, still, fun _ own => .inl own, fun _ own => .inl own⟩
    · exact nothing counted
    · split
      · exact kept extends_ still
      · exact nothing counted
    · split
      · exact lost extends_ still
      · exact lost (.refl provider) counted

theorem then_ {middle after : Provider} {first last : ObjectIds} (earlier : Created provider terms ids middle first)
    (later : Created middle terms first after last) (campaign : first.campaign ≠ none) (adset : first.adset = none → ids.adset = none) :
    Created provider terms ids after last where
  extends_ := earlier.extends_.trans later.extends_
  counted := later.counted
  campaign id own := by
    rcases later.campaign id own with before | ⟨missing, _⟩
    · exact (earlier.campaign id before).imp (fun found => found) fun ⟨missing, fits⟩ =>
        ⟨missing, later.extends_.campaign terms id fits⟩
    · exact absurd missing campaign
  adset id own := by
    rcases later.adset id own with before | ⟨missing, fits, costs⟩
    · exact (earlier.adset id before).imp (fun found => found) fun ⟨none_found, fits, costs⟩ =>
        ⟨none_found, later.extends_.adset terms id fits, later.extends_.cost terms.budgetMinor id costs⟩
    · exact .inr ⟨adset missing, fits, costs⟩

theorem call (counted : provider.Counted) (terms : Terms) (reply : Level → LevelReply) (ids : ObjectIds) (currencyKnown : Bool) :
    Created provider terms ids (provider.createBoostCampaign terms reply ids currencyKnown).1
      (provider.createBoostCampaign terms reply ids currencyKnown).2.1 := by
  have campaign := campaign_level counted terms reply ids
  unfold Provider.createBoostCampaign
  split
  · exact nothing counted
  · generalize provider.createCampaign terms reply ids = first at campaign ⊢
    obtain ⟨made, partial_, failure⟩ := first
    obtain ⟨created, kept⟩ := campaign
    cases failure with
    | some failure => exact created
    | none =>
      dsimp only at created kept ⊢
      have adset := adset_level created.counted terms reply partial_
      generalize made.createAdset terms reply partial_ = second at adset ⊢
      obtain ⟨more, known, failure⟩ := second
      obtain ⟨added, present⟩ := adset
      have both := created.then_ added (kept rfl).1 fun missing => (kept rfl).2.symm.trans missing
      cases failure with
      | some failure => exact both
      | none =>
        obtain ⟨campaign, adset⟩ := present rfl
        exact both.then_ (ad_level added.counted terms reply known) (campaign ▸ (kept rfl).1) fun missing => absurd missing adset

end Created

theorem RowFits.congr {provider : Provider} {first second : BoostRun} {terms : Terms} (fits : RowFits provider first terms)
    (campaign : second.campaignId = first.campaignId) (adset : second.adsetId = first.adsetId)
    (budget : second.createdBudgetMinor = first.createdBudgetMinor) : RowFits provider second terms where
  campaign id own := fits.campaign id (campaign ▸ own)
  adset id own := fits.adset id (adset ▸ own)
  budget id own := by
    rw [budget]
    exact fits.budget id (adset ▸ own)
  created id own := by
    rw [budget]
    exact fits.created id (adset ▸ own)
  unmade missing := by
    rw [budget]
    exact fits.unmade (adset ▸ missing)

theorem Fits.congr {provider : Provider} {first second : BoostRun} {terms : Terms} (fits : Fits provider first terms)
    (campaign : second.campaignId = first.campaignId) (adset : second.adsetId = first.adsetId)
    (budget : second.createdBudgetMinor = first.createdBudgetMinor) : Fits provider second terms where
  campaign id own := fits.campaign id (campaign ▸ own)
  adset id own := fits.adset id (adset ▸ own)
  budget id own := by
    rw [budget]
    exact fits.budget id (adset ▸ own)

theorem Holds.next {provider : Provider} {job next : Job} (holds : Holds provider job) (terms : next.terms = job.terms)
    (existing : next.existing = job.existing) (campaign : next.run.campaignId = job.run.campaignId)
    (adset : next.run.adsetId = job.run.adsetId) (budget : next.run.createdBudgetMinor = job.run.createdBudgetMinor) :
    Holds provider next where
  toFits := terms ▸ holds.toFits.congr campaign adset budget
  existing id own := terms ▸ holds.existing id (existing ▸ own)

theorem Terms.agrees_iff {first second : Terms} :
    first.agrees second = true ↔ first.currency = second.currency ∧ first.startsAt = second.startsAt ∧
      first.endsAt = second.endsAt ∧ first.objective = second.objective ∧ first.connectionId = second.connectionId := by
  simp [Terms.agrees, and_assoc]

theorem campaignFits_agrees {provider : Provider} {first second : Terms} (agrees : first.agrees second = true) (id : Nat) :
    provider.campaignFits first id = provider.campaignFits second id := by
  obtain ⟨_, _, _, objective, connection⟩ := Terms.agrees_iff.mp agrees
  simp only [Provider.campaignFits, objective, connection]

theorem adsetFits_agrees {provider : Provider} {first second : Terms} (agrees : first.agrees second = true) (id : Nat) :
    provider.adsetFits first id = provider.adsetFits second id := by
  obtain ⟨currency, starts, ends, _, _⟩ := Terms.agrees_iff.mp agrees
  simp only [Provider.adsetFits, currency, starts, ends]

theorem Terms.agrees_refl (terms : Terms) : terms.agrees terms = true := Terms.agrees_iff.mpr ⟨rfl, rfl, rfl, rfl, rfl⟩

theorem Terms.agrees_symm {first second : Terms} (agrees : first.agrees second = true) : second.agrees first = true := by
  obtain ⟨currency, starts, ends, objective, connection⟩ := Terms.agrees_iff.mp agrees
  exact Terms.agrees_iff.mpr ⟨currency.symm, starts.symm, ends.symm, objective.symm, connection.symm⟩

theorem Terms.agrees_trans {first second third : Terms} (earlier : first.agrees second = true)
    (later : second.agrees third = true) : first.agrees third = true := by
  rw [Terms.agrees_iff] at *
  exact ⟨earlier.1.trans later.1, earlier.2.1.trans later.2.1, earlier.2.2.1.trans later.2.2.1,
    earlier.2.2.2.1.trans later.2.2.2.1, earlier.2.2.2.2.trans later.2.2.2.2⟩

theorem RowFits.agrees {provider : Provider} {run : BoostRun} {first second : Terms} (fits : RowFits provider run first)
    (agrees : first.agrees second = true) : RowFits provider run second where
  campaign id own := campaignFits_agrees agrees id ▸ fits.campaign id own
  adset id own := adsetFits_agrees agrees id ▸ fits.adset id own
  budget id own := .inl (fits.created id own)
  created := fits.created
  unmade := fits.unmade

namespace Boost.Approved
variable {before after : Boost}

theorem jobFits_mono {job : Job} (fits : before.JobFits job) (sealedAds : after.gate.sealedAds = before.gate.sealedAds)
    (extends_ : Extends before.provider after.provider) : after.JobFits job := by
  unfold Boost.JobFits at fits ⊢
  rw [sealedAds]
  cases stage : job.stage with
  | claimed | marked | switchAnswer reply => exact True.intro
  | currency | claimCreation | sealCheck =>
    simp only [stage] at fits ⊢
    exact ⟨fun seal_ present same => ⟨(fits.1 seal_ present same).1, extends_.holds (fits.1 seal_ present same).2⟩, fits.2⟩
  | createCheck =>
    simp only [stage] at fits ⊢
    exact ⟨fun seal_ present same => ⟨(fits.1 seal_ present same).1, extends_.holds (fits.1 seal_ present same).2⟩, fits.2⟩
  | createMark | createCall =>
    simp only [stage] at fits ⊢
    exact ⟨⟨extends_.holds fits.1.1, fits.1.2⟩, fits.2⟩
  | createAnswer ids failure =>
    simp only [stage] at fits ⊢
    exact ⟨⟨extends_.holds fits.1.1, fits.1.2⟩, fits.2.1, fits.2.2.1, extends_.made fits.2.2.2⟩
  | capCheck checked =>
    simp only [stage] at fits ⊢
    exact ⟨fits.1, extends_.fits fits.2⟩
  | switchCall checked =>
    cases checked with
    | none =>
      simp only [stage] at fits ⊢
      exact fits
    | some checked =>
      simp only [stage] at fits ⊢
      exact extends_.carries fits

theorem files_handled (approved : before.Approved) {commands : List BoostCommand}
    (handled : Numbered before.commands → Handled before.commands commands) : before.Files commands where
  numbered := (handled approved.files.numbered).numbered approved.files.numbered
  versions command member := by
    obtain ⟨old, present, kept⟩ := (handled approved.files.numbered).back member
    rw [kept.version]
    exact approved.files.versions old present
  unsealed missing := by
    have length := (handled approved.files.numbered).length_eq
    rw [approved.files.unsealed missing] at length
    exact List.eq_nil_of_length_eq_zero length.symm

theorem files_append (approved : before.Approved) {seal_ : Seal} (present : before.gate.sealedAds = some seal_)
    {command : BoostCommand} (fresh : command.id = before.commands.length) (version : command.approvedVersion = seal_.versionId) :
    before.Files (before.commands ++ [command]) where
  numbered := approved.files.numbered.append fresh
  versions other member := by
    rcases List.mem_append.mp member with old | new
    · exact approved.files.versions other old
    · rw [List.mem_singleton.mp new, version]
      exact approved.sealVersion seal_ present
  unsealed missing := by
    rw [present] at missing
    cases missing

theorem files_modify (approved : before.Approved) (id : Uuid) (change : BoostCommand → BoostCommand)
    (name : ∀ command, (change command).id = command.id) (version : ∀ command, (change command).approvedVersion = command.approvedVersion) :
    before.Files (Keyed.modify (·.id) before.commands id change) where
  numbered := approved.files.numbered.modify id name
  versions command member := by
    obtain ⟨old, present, rfl⟩ := List.mem_map.mp member
    split
    · rw [version]
      exact approved.files.versions old present
    · exact approved.files.versions old present
  unsealed missing := by
    rw [approved.files.unsealed missing]
    rfl

theorem files_toggled (approved : before.Approved) {operation : Operation} {desk : Desk}
    (toggled : before.toDesk.Toggled operation desk) : before.Files desk.commands := by
  cases toggled with
  | known => exact approved.files
  | retried latest commands member handled => exact approved.files_handled handled
  | added seal_ seq requester initiatedBy now present started next => exact approved.files_append present rfl rfl

theorem files_started (approved : before.Approved) {requester : Uuid} {initiatedBy : Initiator} {now : Nat} {desk : Desk}
    (executed : before.requestAdsBoostStart requester initiatedBy now = .ok desk) :
    before.Files desk.commands ∧ desk.gate = before.gate ∧ desk.run = before.run ∧ desk.sealings = before.sealings := by
  unfold Desk.requestAdsBoostStart at executed
  split at executed
  · cases executed
  split at executed
  · cases executed
  obtain ⟨seal_, present, ⟨rfl, _⟩ | rfl⟩ := Desk.createOrGet_ok executed
  · exact ⟨approved.files, rfl, rfl, rfl⟩
  · exact ⟨approved.files_append present rfl rfl, rfl, rfl, rfl⟩

theorem settled (approved : before.Approved) (gate : after.gate.sealedAds = before.gate.sealedAds) (sealings : after.sealings = before.sealings)
    (provider : after.provider = before.provider) (jobs : after.jobs = before.jobs) (files : before.Files after.commands)
    (unmade : before.run = none → after.run = none)
    (row : ∀ run seal_, after.run = some run → before.gate.sealedAds = some seal_ → RowFits before.provider run seal_.toTerms) :
    after.Approved := by
  constructor
  · intro missing
    rw [gate] at missing
    obtain ⟨no_run, no_jobs⟩ := approved.unsealed missing
    exact ⟨unmade no_run, jobs ▸ no_jobs⟩
  · rw [gate, sealings]
    exact approved.sealVersion
  · refine ⟨files.numbered, ?_, ?_⟩
    · rw [sealings]
      exact files.versions
    · rw [gate]
      exact files.unsealed
  · rw [jobs, sealings]
    exact approved.jobVersions
  · exact provider ▸ approved.counted
  · intro run seal_ present terms
    rw [provider]
    exact row run seal_ present (gate ▸ terms)
  · intro job member
    exact jobFits_mono (approved.jobs job (jobs ▸ member)) gate (provider ▸ .refl _)

theorem kept (approved : before.Approved) (core : after.core = before.core) (gate : after.gate.sealedAds = before.gate.sealedAds)
    (sealings : after.sealings = before.sealings) (provider : after.provider = before.provider) (jobs : after.jobs = before.jobs)
    (files : before.Files after.commands) : after.Approved := by
  refine approved.settled gate sealings provider jobs files ?_ ?_
  · intro missing
    unfold Desk.core at core
    rw [missing] at core
    exact Option.map_eq_none_iff.mp core
  · intro run seal_ present terms
    unfold Desk.core at core
    rw [present] at core
    obtain ⟨old, existing, same⟩ := Option.map_eq_some_iff.mp core.symm
    exact (approved.row old seal_ existing terms).congr (congrArg (·.campaignId) same).symm
      (congrArg (·.adsetId) same).symm (congrArg (·.createdBudgetMinor) same).symm

theorem rowFits_empty (provider : Provider) {run : BoostRun} (terms : Terms) (campaign : run.campaignId = none)
    (adset : run.adsetId = none) (budget : run.createdBudgetMinor = none) : RowFits provider run terms where
  campaign id own := by
    rw [campaign] at own
    cases own
  adset id own := by
    rw [adset] at own
    cases own
  budget id own := by
    rw [adset] at own
    cases own
  created id own := by
    rw [adset] at own
    cases own
  unmade _ := budget

theorem reset (approved : before.Approved) (gate : after.gate.sealedAds = before.gate.sealedAds) (sealings : after.sealings = before.sealings)
    (provider : after.provider = before.provider) (jobs : after.jobs = before.jobs) (files : before.Files after.commands)
    {run : BoostRun} (present : before.run = some run) (cleared : after.run = some run.reset) : after.Approved := by
  refine approved.settled gate sealings provider jobs files ?_ ?_
  · intro missing
    rw [present] at missing
    cases missing
  · intro again seal_ existing _
    rw [cleared] at existing
    cases existing
    exact rowFits_empty before.provider seal_.toTerms rfl rfl rfl

theorem request (approved : before.Approved) {terms : Terms} {requester : Uuid} {now : Nat} {desk : Desk}
    (keeps : before.keepsTerms (.requestBoost terms requester now) = true)
    (executed : before.requestAdsBoost terms requester now = .ok desk) : (before.onTables desk).Approved := by
  obtain ⟨core, handled, sealings, sealedTerms, _⟩ := Desk.requestAdsBoost_ok executed
  have files := approved.files_handled fun _ => handled
  simp only [Boost.keepsTerms, Bool.or_eq_true, Bool.not_eq_true', Option.all_eq_true] at keeps
  have newer : (before.onTables desk).sealings = before.sealings + 1 := sealings
  have only : ∀ seal_, (before.onTables desk).gate.sealedAds = some seal_ → seal_ = { terms with versionId := before.sealings } := by
    intro seal_ present
    exact Option.some.inj (present.symm.trans sealedTerms)
  constructor
  · intro missing
    cases sealedTerms.symm.trans missing
  · intro seal_ present
    rw [only seal_ present, newer]
    exact Nat.lt_succ_self _
  · refine ⟨files.numbered, ?_, ?_⟩
    · intro command member
      rw [newer]
      exact Nat.lt_succ_of_lt (files.versions command member)
    · intro missing
      cases sealedTerms.symm.trans missing
  · intro job member
    rw [newer]
    exact Nat.lt_succ_of_lt (approved.jobVersions job member)
  · exact approved.counted
  · intro run seal_ present existing
    rw [only seal_ existing]
    obtain ⟨old, there, same⟩ : ∃ old, before.run = some old ∧ old.core = run.core := by
      have view : desk.run.map BoostRun.core = before.run.map BoostRun.core := core
      rw [show desk.run = some run from present] at view
      exact Option.map_eq_some_iff.mp view.symm
    have earlier : ∃ seal_, before.gate.sealedAds = some seal_ := by
      cases was : before.gate.sealedAds with
      | none =>
        rw [(approved.unsealed was).1] at there
        cases there
      | some seal_ => exact ⟨seal_, rfl⟩
    obtain ⟨earlier, was⟩ := earlier
    refine (?_ : RowFits before.provider old terms).congr (congrArg (·.campaignId) same).symm
      (congrArg (·.adsetId) same).symm (congrArg (·.createdBudgetMinor) same).symm
    have fits := approved.row old earlier there was
    rcases keeps with unmade | agrees
    · simp only [Boost.making, there, Option.any_some, Bool.or_eq_false_iff, Option.isSome_eq_false_iff,
        Option.isNone_iff_eq_none] at unmade
      exact rowFits_empty before.provider terms unmade.1.1 unmade.1.2 (fits.unmade unmade.1.2)
    · exact fits.agrees (Terms.agrees_symm (agrees earlier was))
  · intro job member
    have old := approved.jobs job member
    have stale : ∀ seal_, (before.onTables desk).gate.sealedAds = some seal_ → seal_.versionId ≠ job.approvedVersion := by
      intro seal_ present same
      have below := approved.jobVersions job member
      rw [only seal_ present] at same
      exact absurd same (Nat.ne_of_gt below)
    have still : (before.making = true) → ∀ seal_, (before.onTables desk).gate.sealedAds = some seal_ →
        (∀ earlier, before.gate.sealedAds = some earlier →
          earlier.toTerms.agrees job.terms = true ∧ (earlier.versionId = job.approvedVersion → earlier.toTerms = job.terms)) →
        seal_.toTerms.agrees job.terms = true ∧ (seal_.versionId = job.approvedVersion → seal_.toTerms = job.terms) := by
      intro making seal_ present agreed
      refine ⟨?_, fun same => absurd same (stale seal_ present)⟩
      cases was : before.gate.sealedAds with
      | none =>
        have present : job ∈ before.jobs := member
        rw [(approved.unsealed was).2] at present
        cases present
      | some earlier =>
        rw [only seal_ present]
        rcases keeps with unmade | agrees
        · rw [making] at unmade
          cases unmade
        · exact Terms.agrees_trans (agrees earlier was) (agreed earlier was).1
    have makes : (∃ ids failure, job.stage = .createAnswer ids failure) ∨ job.stage = .createMark ∨ job.stage = .createCall →
        before.making = true := by
      intro stage
      unfold Boost.making
      rw [Bool.or_eq_true]
      refine .inr (List.any_eq_true.mpr ⟨job, member, ?_⟩)
      rcases stage with ⟨ids, failure, stage⟩ | stage | stage
      · rw [stage]
      · rw [stage]
      · rw [stage]
    unfold Boost.JobFits at old ⊢
    cases stage : job.stage with
    | claimed | marked | switchAnswer reply => exact True.intro
    | currency | claimCreation | sealCheck =>
      simp only [stage] at old ⊢
      exact ⟨fun seal_ present same => absurd same (stale seal_ present), old.2⟩
    | createCheck =>
      simp only [stage] at old ⊢
      exact ⟨fun seal_ present same => absurd same (stale seal_ present), old.2⟩
    | createMark =>
      simp only [stage] at old ⊢
      exact ⟨⟨old.1.1, fun seal_ present => still (makes (.inr (.inl stage))) seal_ present old.1.2⟩, old.2⟩
    | createCall =>
      simp only [stage] at old ⊢
      exact ⟨⟨old.1.1, fun seal_ present => still (makes (.inr (.inr stage))) seal_ present old.1.2⟩, old.2⟩
    | createAnswer ids failure =>
      simp only [stage] at old ⊢
      exact ⟨⟨old.1.1, fun seal_ present => still (makes (.inl ⟨ids, failure, stage⟩)) seal_ present old.1.2⟩, old.2⟩
    | capCheck checked =>
      simp only [stage] at old ⊢
      exact old
    | switchCall checked =>
      cases checked with
      | none =>
        simp only [stage] at old ⊢
        exact old
      | some checked =>
        simp only [stage] at old ⊢
        exact old

theorem retry (approved : before.Approved) {id : Uuid} {confirmed : Bool} {desk : Desk}
    (executed : before.retryCommand id confirmed = .ok desk) : (before.onTables desk).Approved := by
  obtain ⟨command, commands, _, rows, ⟨rfl, _⟩ | ⟨rfl, _⟩⟩ := Desk.retryCommand_ok executed
  · exact approved.kept rfl rfl rfl rfl rfl (approved.files_handled rows)
  · refine approved.settled rfl rfl rfl rfl (approved.files_handled rows) ?_ ?_
    · exact Option.map_eq_none_iff.mpr
    · intro run seal_ present terms
      obtain ⟨old, existing, rfl⟩ := Option.map_eq_some_iff.mp present
      refine (approved.row old seal_ existing terms).congr ?_ ?_ ?_
      · unfold Desk.cleared
        split <;> rfl
      · unfold Desk.cleared
        split <;> rfl
      · unfold Desk.cleared
        split <;> rfl

theorem adopt (approved : before.Approved) {found : ObjectIds} {budget : Option Nat} {answer : Answer} {world : World}
    (keeps : before.keepsTerms (.adopt found budget answer) = true) (executed : before.toWorld.adopt found budget answer = .ok world) :
    (before.onWorld world).Approved := by
  obtain ⟨seal_, run, commands, terms, present, rows, budgeted, _, rfl⟩ := World.adopt_ok executed
  simp only [Boost.keepsTerms, terms, present, Option.all_some, Bool.and_eq_true, Option.all_eq_true, beq_iff_eq] at keeps
  obtain ⟨campaign, adset⟩ := keeps
  refine approved.settled rfl rfl rfl rfl (approved.files_handled rows) ?_ ?_
  · intro missing
    rw [present] at missing
    cases missing
  intro linked other existing again
  cases terms.symm.trans again
  have old := approved.row run seal_ present terms
  -- The created budget is the sealed one where an ad set was found.
  have created : linked.campaignId = found.campaign ∧ linked.adsetId = found.adset.or run.adsetId ∧
      (∀ id, found.adset = some id → linked.createdBudgetMinor = some seal_.budgetMinor) ∧
      (found.adset = none → linked.createdBudgetMinor = run.createdBudgetMinor) := by
    cases existing
    unfold World.released World.adopted
    dsimp only
    cases link : found.adset with
    | none => exact ⟨rfl, rfl, (by rintro id ⟨⟩), (by intro _; rfl)⟩
    | some id =>
      have sealedBudget := budgeted (by rw [link]; rfl)
      cases earlier : run.createdBudgetMinor with
      | none =>
        rw [if_pos ⟨rfl, rfl⟩]
        exact ⟨rfl, rfl, fun _ _ => sealedBudget, fun impossible => by cases impossible⟩
      | some minor =>
        rw [if_neg (by simp)]
        refine ⟨rfl, rfl, fun _ _ => ?_, fun impossible => by cases impossible⟩
        exact congrArg some ((adset id link).2 minor earlier)
  obtain ⟨campaignId, adsetId, new, same⟩ := created
  have known : ∀ id, linked.adsetId = some id →
      before.provider.adsetFits seal_.toTerms id = true ∧
        ∃ minor, linked.createdBudgetMinor = some minor ∧ before.provider.adsetCosts minor id = true := by
    intro id own
    rw [adsetId] at own
    rcases Option.or_eq_some_iff.mp own with link | ⟨none_found, earlier⟩
    · exact ⟨(adset id link).1.1, seal_.budgetMinor, new id link, (adset id link).1.2⟩
    · rw [same none_found]
      exact ⟨old.adset id earlier, old.created id earlier⟩
  constructor
  · constructor
    · intro id own
      exact campaign id (campaignId.symm.trans own)
    · exact fun id own => (known id own).1
    · exact fun id own => .inl (known id own).2
  · exact fun id own => (known id own).2
  · intro missing
    rw [adsetId, Option.or_eq_none_iff] at missing
    rw [same missing.1]
    exact old.unmade missing.2

theorem claim (approved : before.Approved) (id : Uuid) (now : Nat) :
    (before.onWorld (before.toWorld.claimCommand id now)).Approved := by
  unfold World.claimCommand
  split
  · exact approved
  next command found =>
    have member : command ∈ before.commands := Keyed.find_mem found
    split
    · have files := approved.files_modify id (fun row =>
          { row with status := .inProgress, claimedAt := some now, providerCallStartedAt := none })
        (fun _ => rfl) (fun _ => rfl)
      constructor
      · intro missing
        rw [approved.files.unsealed missing] at member
        cases member
      · exact approved.sealVersion
      · exact ⟨files.numbered, files.versions, files.unsealed⟩
      · intro job present
        rcases List.mem_append.mp present with old | new
        · exact approved.jobVersions job old
        · rw [List.mem_singleton.mp new]
          exact approved.files.versions command member
      · exact approved.counted
      · exact approved.row
      · intro job present
        rcases List.mem_append.mp present with old | new
        · exact jobFits_mono (approved.jobs job old) rfl (.refl _)
        · rw [List.mem_singleton.mp new]
          exact True.intro
    · exact approved

theorem worked (approved : before.Approved) {job : Job} {world : World} (member : job ∈ before.jobs)
    (worked : before.toWorld.Worked job world) (extends_ : Extends before.provider world.provider) (counted : world.provider.Counted)
    (row : ∀ run seal_, world.run = some run → before.gate.sealedAds = some seal_ → RowFits world.provider run seal_.toTerms)
    (jobs : ∀ other ∈ world.jobs, other ∈ before.jobs ∨ (before.onWorld world).JobFits other) : (before.onWorld world).Approved := by
  have some_seal : before.gate.sealedAds ≠ none := by
    intro missing
    rw [(approved.unsealed missing).2] at member
    cases member
  cases worked with
  | goesOn next same commands run provider history mark =>
    have files : before.Files commands := by
      rcases mark with rfl | rfl
      · exact approved.files
      · exact approved.files_modify job.commandId _ (fun _ => rfl) (fun _ => rfl)
    constructor
    · exact fun missing => absurd missing some_seal
    · exact approved.sealVersion
    · exact ⟨files.numbered, files.versions, files.unsealed⟩
    · intro other present
      rcases Tracked.mem_put_job present with old | rfl
      · exact approved.jobVersions other old
      · rw [same.version]
        exact approved.jobVersions job member
    · exact counted
    · exact row
    · intro other present
      rcases jobs other present with old | fits
      · exact jobFits_mono (approved.jobs other old) rfl extends_
      · exact fits
  | ends change concluding run snapshots history =>
    have files := approved.files_modify job.commandId
      (fun command => { command with toCommand := change command.toCommand })
      (fun command => concluding.id command.toCommand) (fun command => concluding.version command.toCommand)
    constructor
    · exact fun missing => absurd missing some_seal
    · exact approved.sealVersion
    · exact ⟨files.numbered, files.versions, files.unsealed⟩
    · exact fun other present => approved.jobVersions other (List.mem_filter.mp present).1
    · exact counted
    · exact row
    · intro other present
      exact jobFits_mono (approved.jobs other (List.mem_filter.mp present).1) rfl extends_

theorem row_made (approved : before.Approved) {after : Option BoostRun} (made : World.made (after.getD {}) = World.made (before.run.getD {}))
    {run : BoostRun} {seal_ : Seal} (present : after = some run) (terms : before.gate.sealedAds = some seal_) :
    RowFits before.provider run seal_.toTerms := by
  rw [present, Option.getD_some] at made
  simp only [World.made, BoostRun.ids, Prod.mk.injEq, ObjectIds.mk.injEq] at made
  obtain ⟨⟨campaign, adset, _⟩, budget, _⟩ := made
  cases existing : before.run with
  | none =>
    rw [existing] at campaign adset budget
    exact rowFits_empty before.provider seal_.toTerms campaign adset budget
  | some old =>
    rw [existing] at campaign adset budget
    exact (approved.row old seal_ existing terms).congr campaign adset budget

theorem quiet (approved : before.Approved) {job : Job} {world : World} (member : job ∈ before.jobs)
    (worked : before.toWorld.Worked job world) (provider : world.provider = before.provider)
    (made : World.made (world.run.getD {}) = World.made (before.run.getD {}))
    (jobs : ∀ other ∈ world.jobs, other ∈ before.jobs ∨ before.JobFits other) : (before.onWorld world).Approved := by
  have extends_ : Extends before.provider world.provider := provider ▸ .refl _
  refine approved.worked member worked extends_ (provider ▸ approved.counted) ?_ ?_
  · intro run seal_ present terms
    exact provider ▸ row_made approved made present terms
  · intro other present
    have gate : world.gate = before.gate := by cases worked <;> rfl
    exact (jobs other present).imp_right fun fits => jobFits_mono fits (congrArg (·.sealedAds) gate) extends_

section Stages
variable {job : Job} {answer : Answer}

theorem seal_of_job (approved : before.Approved) (member : job ∈ before.jobs) : ∃ seal_, before.gate.sealedAds = some seal_ := by
  cases sealedTerms : before.gate.sealedAds with
  | none =>
    rw [(approved.unsealed sealedTerms).2] at member
    cases member
  | some seal_ => exact ⟨seal_, rfl⟩

theorem row_loaded (approved : before.Approved) {seal_ : Seal} (terms : before.gate.sealedAds = some seal_) :
    RowFits before.provider (before.run.getD {}) seal_.toTerms := by
  cases present : before.run with
  | none => exact rowFits_empty before.provider seal_.toTerms rfl rfl rfl
  | some run => exact approved.row run seal_ present terms

theorem resolve_fits (approved : before.Approved) (member : job ∈ before.jobs) :
    ∀ other ∈ (before.toWorld.resolveExecutionContext job answer).jobs, other ∈ before.jobs ∨ before.JobFits other := by
  obtain ⟨seal_, terms⟩ := approved.seal_of_job member
  have row := approved.row_loaded terms
  have loaded : ∀ next : Job, next.run = before.run.getD {} → next.terms = seal_.toTerms → next.existing = (before.run.getD {}).ids →
      next.connectionId = campaignConnectionId before.run seal_.connectionId →
      (∀ again, before.gate.sealedAds = some again → again.versionId = next.approvedVersion →
        again.toTerms = next.terms ∧ Holds before.provider next) ∧ next.accountSealed := by
    intro next run sealedTerms existing connection
    refine ⟨fun again present _ => ?_, fun missing => ?_⟩
    · cases terms.symm.trans present
      refine ⟨sealedTerms.symm, ?_, ?_⟩
      · rw [run, sealedTerms]
        exact row.toFits
      · intro id own
        rw [existing] at own
        rw [sealedTerms]
        exact row.campaign id own
    · rw [existing] at missing
      rw [connection, sealedTerms]
      cases present : before.run with
      | none => rfl
      | some old =>
        rw [present] at missing
        replace missing : old.campaignId = none := missing
        simp [campaignConnectionId, missing]
  intro other present
  unfold World.resolveExecutionContext at present
  rw [terms] at present
  dsimp only at present
  split at present
  · exact .inl (List.mem_filter.mp present).1
  split at present
  · exact .inl (List.mem_filter.mp present).1
  split at present
  · exact .inl (List.mem_filter.mp present).1
  split at present
  · exact .inl (List.mem_filter.mp present).1
  split at present
  · exact .inl (List.mem_filter.mp present).1
  split at present
  · refine (Tracked.mem_put_job present).imp_right ?_
    rintro rfl
    exact loaded _ rfl rfl rfl rfl
  next operation =>
    split at present
    · exact .inl (List.mem_filter.mp present).1
    · refine (Tracked.mem_put_job present).imp_right ?_
      rintro rfl
      exact operation
  · split at present
    · exact .inl (List.mem_filter.mp present).1
    · refine (Tracked.mem_put_job present).imp_right ?_
      rintro rfl
      exact loaded _ rfl rfl rfl rfl

theorem current_next {next : Job} (current : ∀ seal_, before.gate.sealedAds = some seal_ → seal_.versionId = job.approvedVersion →
      seal_.toTerms = job.terms ∧ Holds before.provider job)
    (version : next.approvedVersion = job.approvedVersion) (terms : next.terms = job.terms) (existing : next.existing = job.existing)
    (campaign : next.run.campaignId = job.run.campaignId) (adset : next.run.adsetId = job.run.adsetId)
    (budget : next.run.createdBudgetMinor = job.run.createdBudgetMinor) :
    ∀ seal_, before.gate.sealedAds = some seal_ → seal_.versionId = next.approvedVersion →
      seal_.toTerms = next.terms ∧ Holds before.provider next := by
  intro seal_ present same
  obtain ⟨equal, holds⟩ := current seal_ present (same.trans version)
  exact ⟨equal.trans terms.symm, holds.next terms existing campaign adset budget⟩

theorem currency_fits (fits : before.JobFits job) (stage : job.stage = .currency) :
    ∀ other ∈ (before.toWorld.readAccountCurrency job answer).jobs, other ∈ before.jobs ∨ before.JobFits other := by
  unfold Boost.JobFits at fits
  simp only [stage] at fits
  obtain ⟨current, account⟩ := fits
  intro other present
  unfold World.readAccountCurrency at present
  split at present
  next currency _ =>
    dsimp only at present
    split at present
    · exact .inl (List.mem_filter.mp present).1
    · refine (Tracked.mem_put_job present).imp_right ?_
      rintro rfl
      by_cases complete : job.existing.complete = true
      · rw [if_pos complete]
        exact ⟨current_next current rfl rfl rfl rfl rfl rfl, account⟩
      · rw [if_neg complete]
        exact ⟨current_next current rfl rfl rfl rfl rfl rfl, account⟩
  next => exact .inl (List.mem_filter.mp present).1

theorem claimCreation_fits (approved : before.Approved) (member : job ∈ before.jobs) (stage : job.stage = .claimCreation)
    (knows : before.run.all (fun run => !World.claimable run job.now || run.adsetId == job.existing.adset) = true) :
    ∀ other ∈ (before.toWorld.claimCampaignCreation job).jobs, other ∈ before.jobs ∨ before.JobFits other := by
  obtain ⟨seal_, terms⟩ := approved.seal_of_job member
  have fits := approved.jobs job member
  unfold Boost.JobFits at fits
  simp only [stage] at fits
  obtain ⟨current, account⟩ := fits
  intro other present
  unfold World.claimCampaignCreation at present
  split at present
  · exact .inl (List.mem_filter.mp present).1
  next run existing =>
    have row := approved.row run seal_ existing terms
    dsimp only at present
    split at present
    next claimable =>
      refine (Tracked.mem_put_job present).imp_right ?_
      rintro rfl
      rw [existing, Option.all_some, claimable, Bool.not_true, Bool.false_or, beq_iff_eq] at knows
      refine ⟨?_, account, knows.symm, row.unmade⟩
      intro again found same
      obtain ⟨equal, holds⟩ := current again found same
      cases terms.symm.trans found
      refine ⟨equal, ?_, holds.existing⟩
      exact equal ▸ row.toFits.congr rfl rfl rfl
    split at present
    next complete =>
      refine (Tracked.mem_put_job present).imp_right ?_
      rintro rfl
      refine ⟨?_, ?_⟩
      · intro again found same
        obtain ⟨equal, _⟩ := current again found same
        cases terms.symm.trans found
        exact ⟨equal, equal ▸ row.toFits, fun id own => equal ▸ row.campaign id own⟩
      · intro missing
        replace missing : run.campaignId = none := missing
        simp [ObjectIds.complete, BoostRun.ids, missing] at complete
    split at present
    · exact .inl (List.mem_filter.mp present).1
    · exact .inl (List.mem_filter.mp present).1

theorem sealRefusal_none (unrefused : before.toWorld.sealRefusal job = none) :
    ∃ seal_, before.gate.sealedAds = some seal_ ∧ seal_.versionId = job.approvedVersion := by
  unfold World.sealRefusal at unrefused
  split at unrefused
  · cases unrefused
  split at unrefused
  · cases unrefused
  next same =>
    rw [ne_eq, not_not] at same
    exact Option.map_eq_some_iff.mp same

theorem createCheck_fits (fits : before.JobFits job) (stage : job.stage = .createCheck) :
    ∀ other ∈ (before.toWorld.checkBeforeCreation job).jobs, other ∈ before.jobs ∨ before.JobFits other := by
  unfold Boost.JobFits at fits
  simp only [stage] at fits
  obtain ⟨current, account, knows⟩ := fits
  intro other present
  unfold World.checkBeforeCreation at present
  split at present
  · exact .inl (List.mem_filter.mp present).1
  next unrefused =>
    obtain ⟨seal_, terms, same⟩ := sealRefusal_none unrefused
    obtain ⟨equal, holds⟩ := current seal_ terms same
    refine (Tracked.mem_put_job present).imp_right ?_
    rintro rfl
    refine ⟨⟨holds.next rfl rfl rfl rfl rfl, ?_⟩, account, knows⟩
    intro again found
    cases terms.symm.trans found
    exact ⟨equal ▸ Terms.agrees_refl _, fun _ => equal⟩

theorem createMark_fits (fits : before.JobFits job) (stage : job.stage = .createMark) :
    ∀ other ∈ (before.toWorld.markCreation job).jobs, other ∈ before.jobs ∨ before.JobFits other := by
  unfold Boost.JobFits at fits
  simp only [stage] at fits
  obtain ⟨⟨holds, sealedTerms⟩, account, knows⟩ := fits
  intro other present
  refine (Tracked.mem_put_job present).imp_right ?_
  rintro rfl
  exact ⟨⟨holds.next rfl rfl rfl rfl rfl, sealedTerms⟩, account, knows⟩

theorem sealCheck_fits (fits : before.JobFits job) (stage : job.stage = .sealCheck) :
    ∀ other ∈ (before.toWorld.checkBeforeSwitch job).jobs, other ∈ before.jobs ∨ before.JobFits other := by
  unfold Boost.JobFits at fits
  simp only [stage] at fits
  obtain ⟨current, _⟩ := fits
  intro other present
  unfold World.checkBeforeSwitch at present
  split at present
  next seal_ unrefused terms =>
    obtain ⟨again, found, same⟩ := sealRefusal_none unrefused
    cases terms.symm.trans found
    obtain ⟨equal, holds⟩ := current seal_ terms same
    refine (Tracked.mem_put_job present).imp_right ?_
    rintro rfl
    exact ⟨equal, holds.toFits⟩
  · exact .inl (List.mem_filter.mp present).1
  · exact .inl (List.mem_filter.mp present).1

theorem capCheck_fits (fits : before.JobFits job) {checked : Seal} (stage : job.stage = .capCheck checked) :
    ∀ other ∈ (before.toWorld.checkCapAndBudget job checked).jobs, other ∈ before.jobs ∨ before.JobFits other := by
  unfold Boost.JobFits at fits
  simp only [stage] at fits
  obtain ⟨equal, held⟩ := fits
  intro other present
  unfold World.checkCapAndBudget at present
  split at present
  · exact .inl (List.mem_filter.mp present).1
  split at present
  · exact .inl (List.mem_filter.mp present).1
  next costs =>
    refine (Tracked.mem_put_job present).imp_right ?_
    rintro rfl
    change before.provider.carries job.run.ids checked.toTerms = true
    simp only [Provider.carries, Bool.and_eq_true, Option.all_eq_true]
    rw [equal]
    refine ⟨held.campaign, fun id own => ⟨held.adset id own, ?_⟩⟩
    rcases held.budget id own with ⟨budget, created, paid⟩ | paid
    · simp only [created, Option.any_some, ne_eq, decide_not, Bool.not_eq_true, Bool.not_eq_false',
        decide_eq_true_eq] at costs
      exact costs ▸ paid
    · exact paid

theorem callCreation (approved : before.Approved) (member : job ∈ before.jobs) (stage : job.stage = .createCall) :
    (before.onWorld (before.toWorld.callCreation job answer)).Approved := by
  have fits := approved.jobs job member
  unfold Boost.JobFits at fits
  simp only [stage] at fits
  obtain ⟨⟨holds, sealedTerms⟩, account, knows⟩ := fits
  have created := Created.call approved.counted { job.terms with connectionId := job.connectionId } answer.create job.existing
    answer.currencyKnown
  have work := before.toWorld.callCreation_worked job answer
  have run : (before.toWorld.callCreation job answer).run = before.run := by
    unfold World.callCreation
    dsimp only
    split <;> rfl
  have provider : (before.toWorld.callCreation job answer).provider =
      (before.provider.createBoostCampaign { job.terms with connectionId := job.connectionId } answer.create job.existing
        answer.currencyKnown).1 := rfl
  refine approved.worked member work (provider ▸ created.extends_) (provider ▸ created.counted) ?_ ?_
  · intro row seal_ present terms
    rw [provider]
    exact created.extends_.rowFits (approved.row row seal_ (run ▸ present) terms)
  · intro other present
    have jobs : other ∈ before.jobs ∨ other = { job with
        called := job.called || answer.currencyKnown
        stage := .createAnswer
          (before.provider.createBoostCampaign { job.terms with connectionId := job.connectionId } answer.create job.existing
            answer.currencyKnown).2.1
          (before.provider.createBoostCampaign { job.terms with connectionId := job.connectionId } answer.create job.existing
            answer.currencyKnown).2.2 } := by
      unfold World.callCreation at present
      dsimp only at present
      split at present
      · exact Tracked.mem_put_job present
      · exact Tracked.mem_put_job present
    refine jobs.imp_right ?_
    rintro rfl
    have gate : (before.toWorld.callCreation job answer).gate = before.gate := by
      unfold World.callCreation
      dsimp only
      split <;> rfl
    have still : ∀ seal_, (before.toWorld.callCreation job answer).gate.sealedAds = some seal_ →
        seal_.toTerms.agrees job.terms = true ∧ (seal_.versionId = job.approvedVersion → seal_.toTerms = job.terms) := by
      rw [gate]
      exact sealedTerms
    refine ⟨⟨(provider ▸ created.extends_.holds holds : Holds _ job).next rfl rfl rfl rfl rfl, still⟩, account, knows, ?_, ?_⟩
    · intro id own
      rcases created.campaign id own with found | ⟨missing, made⟩
      · exact created.extends_.campaign job.terms id (holds.existing id found)
      · have agrees : ({ job.terms with connectionId := job.connectionId } : Terms).agrees job.terms = true :=
          Terms.agrees_iff.mpr ⟨rfl, rfl, rfl, rfl, account missing⟩
        exact campaignFits_agrees agrees id ▸ made
    · intro id own
      exact (created.adset id own).imp (fun found => found) fun made => made

/-- What a creation leaves on the session's run: either no ad set is new, or the new
one comes with its budget. -/
theorem recordCreated_cases {ids : ObjectIds} (made : Made before.provider job ids) (knows : job.knowsAdset) :
    ((World.recordCreated job ids).adsetId = job.run.adsetId ∧
        (World.recordCreated job ids).createdBudgetMinor = job.run.createdBudgetMinor) ∨
      ∃ id, job.run.adsetId = none ∧ job.run.createdBudgetMinor = none ∧ (World.recordCreated job ids).adsetId = some id ∧
        (World.recordCreated job ids).createdBudgetMinor = some job.terms.budgetMinor ∧
        before.provider.adsetFits job.terms id = true ∧ before.provider.adsetCosts job.terms.budgetMinor id = true := by
  have adset : (World.recordCreated job ids).adsetId = ids.adset.or job.run.adsetId := by
    unfold World.recordCreated
    dsimp only
    split <;> rfl
  cases own : ids.adset with
  | none =>
    rw [own, Option.none_or] at adset
    refine .inl ⟨adset, ?_⟩
    unfold World.recordCreated
    dsimp only
    rw [own, if_neg (by simp)]
  | some id =>
    rw [own, Option.some_or] at adset
    rcases made.adset id own with known | ⟨missing, fits, costs⟩
    · refine .inl ⟨adset.trans (known.symm.trans knows.1), ?_⟩
      unfold World.recordCreated
      dsimp only
      rw [known, if_neg (by simp)]
    · have unmade : job.run.adsetId = none := knows.1.symm.trans missing
      have unpaid := knows.2 unmade
      refine .inr ⟨id, unmade, unpaid, adset, ?_, fits, costs⟩
      unfold World.recordCreated
      dsimp only
      rw [own, missing, unpaid, if_pos ⟨rfl, rfl, rfl⟩]

theorem recordCreated_campaign {ids : ObjectIds} : (World.recordCreated job ids).campaignId = ids.campaign.or job.run.campaignId := by
  unfold World.recordCreated
  dsimp only
  split <;> rfl

theorem recorded_fits {ids : ObjectIds} (holds : Holds before.provider job) (made : Made before.provider job ids)
    (knows : job.knowsAdset) : Fits before.provider (World.recordCreated job ids) job.terms where
  campaign id own := by
    rw [recordCreated_campaign] at own
    rcases Option.or_eq_some_iff.mp own with new | ⟨_, old⟩
    · exact made.campaign id new
    · exact holds.campaign id old
  adset id own := by
    rcases recordCreated_cases made knows with ⟨adset, _⟩ | ⟨new, _, _, adset, _, fits, _⟩
    · exact holds.adset id (adset ▸ own)
    · cases adset.symm.trans own
      exact fits
  budget id own := by
    rcases recordCreated_cases made knows with ⟨adset, budget⟩ | ⟨new, _, _, adset, budget, _, costs⟩
    · rw [budget]
      exact holds.budget id (adset ▸ own)
    · cases adset.symm.trans own
      exact .inr costs

theorem recorded_row {ids : ObjectIds} {stored assigned : BoostRun} {terms : Terms} (made : Made before.provider job ids)
    (knows : job.knowsAdset) (agrees : job.terms.agrees terms = true) (row : RowFits before.provider stored terms)
    (campaign : assigned.campaignId = (World.recordCreated job ids).campaignId)
    (adset : assigned.adsetId = (World.recordCreated job ids).adsetId)
    (budget : assigned.createdBudgetMinor = (World.recordCreated job ids).createdBudgetMinor) :
    RowFits before.provider (job.run.flush assigned stored) terms := by
  have campaigns : ∀ id, (job.run.flush assigned stored).campaignId = some id → before.provider.campaignFits terms id = true := by
    intro id own
    change flushed job.run.campaignId assigned.campaignId stored.campaignId = some id at own
    rw [campaign, recordCreated_campaign] at own
    unfold flushed at own
    split at own
    · exact row.campaign id own
    next changed =>
      rcases Option.or_eq_some_iff.mp own with new | ⟨none_made, old⟩
      · exact campaignFits_agrees agrees id ▸ made.campaign id new
      · exact absurd (by rw [none_made, Option.none_or]) changed
  rcases recordCreated_cases made knows with ⟨same_adset, same_budget⟩ | ⟨new, unmade, unpaid, new_adset, new_budget, fits, costs⟩
  · have adset_kept : (job.run.flush assigned stored).adsetId = stored.adsetId := if_pos (adset.trans same_adset)
    have budget_kept : (job.run.flush assigned stored).createdBudgetMinor = stored.createdBudgetMinor :=
      if_pos (budget.trans same_budget)
    refine ⟨⟨campaigns, fun id own => row.adset id (adset_kept ▸ own), ?_⟩, ?_, ?_⟩
    · rw [budget_kept, adset_kept]
      exact row.budget
    · rw [budget_kept, adset_kept]
      exact row.created
    · rw [budget_kept, adset_kept]
      exact row.unmade
  · have adset_new : (job.run.flush assigned stored).adsetId = some new := by
      change flushed _ _ _ = _
      rw [adset, new_adset, unmade]
      exact if_neg (by simp)
    have budget_new : (job.run.flush assigned stored).createdBudgetMinor = some job.terms.budgetMinor := by
      change flushed _ _ _ = _
      rw [budget, new_budget, unpaid]
      exact if_neg (by simp)
    have paid : ∀ id, (job.run.flush assigned stored).adsetId = some id →
        ∃ budget, (job.run.flush assigned stored).createdBudgetMinor = some budget ∧ before.provider.adsetCosts budget id = true := by
      intro id own
      cases adset_new.symm.trans own
      exact ⟨_, budget_new, costs⟩
    refine ⟨⟨campaigns, ?_, fun id own => .inl (paid id own)⟩, paid, ?_⟩
    · intro id own
      cases adset_new.symm.trans own
      exact adsetFits_agrees agrees new ▸ fits
    · intro missing
      cases adset_new.symm.trans missing

theorem recordCreation (approved : before.Approved) (member : job ∈ before.jobs) {ids : ObjectIds}
    {failure : Option CreateFailure} (stage : job.stage = .createAnswer ids failure) :
    (before.onWorld (before.toWorld.recordCreation job ids failure)).Approved := by
  have fits := approved.jobs job member
  unfold Boost.JobFits at fits
  simp only [stage] at fits
  obtain ⟨⟨holds, sealedTerms⟩, account, knows, made⟩ := fits
  have provider : (before.toWorld.recordCreation job ids failure).provider = before.provider := by
    unfold World.recordCreation
    split
    · rfl
    · dsimp only
      split <;> rfl
    · rfl
  have gate : (before.toWorld.recordCreation job ids failure).gate = before.gate := by
    unfold World.recordCreation
    split
    · rfl
    · dsimp only
      split <;> rfl
    · rfl
  have extends_ : Extends before.provider (before.toWorld.recordCreation job ids failure).provider := provider ▸ .refl _
  refine approved.worked member (before.toWorld.recordCreation_worked job ids failure) extends_ (provider ▸ approved.counted) ?_ ?_
  · intro run seal_ present terms
    rw [World.recordCreation_run] at present
    obtain ⟨stored, existing, rfl⟩ := Option.map_eq_some_iff.mp present
    rw [provider]
    have row := approved.row stored seal_ existing terms
    have agrees := Terms.agrees_symm (sealedTerms seal_ terms).1
    by_cases unknown : failure = some .unknown
    · rw [if_pos unknown]
      exact recorded_row made knows agrees row rfl rfl rfl
    · rw [if_neg unknown]
      exact recorded_row made knows agrees row rfl rfl rfl
  · intro other present
    unfold World.recordCreation at present
    split at present
    · refine (Tracked.mem_put_job present).imp_right ?_
      rintro rfl
      have held := recorded_fits holds made knows
      refine ⟨?_, account⟩
      intro seal_ terms same
      refine ⟨(sealedTerms seal_ (gate ▸ terms)).2 same, ?_, holds.existing⟩
      exact held.congr rfl rfl rfl
    · dsimp only at present
      split at present
      · exact .inl (List.mem_filter.mp present).1
      · exact .inl (List.mem_filter.mp present).1
    · exact .inl (List.mem_filter.mp present).1

theorem advance (approved : before.Approved) {id : Nat} (found : before.job? id = some job) (alive : job.dead = false)
    (keeps : before.keepsTerms (.advance id answer) = true) : (before.onWorld (before.toWorld.advance job answer)).Approved := by
  have member : job ∈ before.jobs := Keyed.find_mem found
  have fits := approved.jobs job member
  have work := before.toWorld.advance_worked job answer
  have made := before.toWorld.advance_made job answer
  have provider := before.toWorld.advance_provider job answer
  unfold World.advance at work made provider ⊢
  cases stage : job.stage with
  | claimed =>
    simp only [stage] at work made provider ⊢
    refine approved.quiet member work (provider (by simp) (by simp)) (made (by simp)) ?_
    intro other present
    unfold World.startExecution at present
    split at present
    · exact .inl (List.mem_filter.mp present).1
    · refine (Tracked.mem_put_job present).imp_right ?_
      rintro rfl
      exact True.intro
  | marked =>
    simp only [stage] at work made provider ⊢
    exact approved.quiet member work (provider (by simp) (by simp)) (made (by simp)) (approved.resolve_fits member)
  | currency =>
    simp only [stage] at work made provider ⊢
    exact approved.quiet member work (provider (by simp) (by simp)) (made (by simp)) (currency_fits fits stage)
  | claimCreation =>
    simp only [stage] at work made provider ⊢
    simp only [Boost.keepsTerms, found, Option.all_some, alive, stage, bne_self_eq_false, Bool.or_self, Bool.false_or] at keeps
    exact approved.quiet member work (provider (by simp) (by simp)) (made (by simp)) (approved.claimCreation_fits member stage keeps)
  | createCheck =>
    simp only [stage] at work made provider ⊢
    exact approved.quiet member work (provider (by simp) (by simp)) (made (by simp)) (createCheck_fits fits stage)
  | createMark =>
    simp only [stage] at work made provider ⊢
    exact approved.quiet member work (provider (by simp) (by simp)) (made (by simp)) (createMark_fits fits stage)
  | createCall => exact approved.callCreation member stage
  | createAnswer ids failure => exact approved.recordCreation member stage
  | sealCheck =>
    simp only [stage] at work made provider ⊢
    exact approved.quiet member work (provider (by simp) (by simp)) (made (by simp)) (sealCheck_fits fits stage)
  | capCheck checked =>
    simp only [stage] at work made provider ⊢
    exact approved.quiet member work (provider (by simp) (by simp)) (made (by simp)) (capCheck_fits fits stage)
  | switchCall checked =>
    simp only [stage] at work
    have extends_ : Extends before.provider (before.toWorld.callSwitch job answer).provider := by
      unfold World.callSwitch
      dsimp only [World.putJob]
      split
      · split
        · exact .setCampaignStatus _ _ _
        · exact .refl _
      · exact .refl _
    have counted : (before.toWorld.callSwitch job answer).provider.Counted := by
      unfold World.callSwitch
      dsimp only [World.putJob]
      split
      · split
        · exact approved.counted.setCampaignStatus _ _
        · exact approved.counted
      · exact approved.counted
    refine approved.worked member work extends_ counted ?_ ?_
    · intro run seal_ present terms
      exact extends_.rowFits (approved.row run seal_ present terms)
    · intro other present
      refine (Tracked.mem_put_job present).imp_right ?_
      rintro rfl
      exact True.intro
  | switchAnswer reply =>
    simp only [stage] at work made provider ⊢
    refine approved.quiet member work (provider (by simp) (by simp)) (made (by simp)) ?_
    intro other present
    cases reply with
    | acknowledged =>
      obtain ⟨snapshots, same⟩ := before.toWorld.recordSwitch_acknowledged job answer
      rw [same] at present
      exact .inl (List.mem_filter.mp present).1
    | failed effected => exact .inl (List.mem_filter.mp present).1
    | lost effected => exact .inl (List.mem_filter.mp present).1

end Stages

theorem jobFits_next {job next : Job} (fits : before.JobFits job) (stage : next.stage = job.stage)
    (operation : next.operation = job.operation) (version : next.approvedVersion = job.approvedVersion) (terms : next.terms = job.terms)
    (connection : next.connectionId = job.connectionId) (run : next.run = job.run) (existing : next.existing = job.existing) :
    before.JobFits next := by
  have held : Holds before.provider job → Holds before.provider next := fun holds =>
    holds.next terms existing (congrArg _ run) (congrArg _ run) (congrArg _ run)
  have account : job.accountSealed → next.accountSealed := by
    unfold Job.accountSealed
    rw [terms, connection, existing]
    exact id
  have knows : job.knowsAdset → next.knowsAdset := by
    unfold Job.knowsAdset
    rw [run, existing]
    exact id
  unfold Boost.JobFits at fits ⊢
  rw [stage]
  cases at_stage : job.stage with
  | claimed | marked | switchAnswer reply => exact True.intro
  | currency | claimCreation | sealCheck =>
    simp only [at_stage, version, terms] at fits ⊢
    exact ⟨fun seal_ present same => ⟨(fits.1 seal_ present same).1, held (fits.1 seal_ present same).2⟩, account fits.2⟩
  | createCheck =>
    simp only [at_stage, version, terms] at fits ⊢
    exact ⟨fun seal_ present same => ⟨(fits.1 seal_ present same).1, held (fits.1 seal_ present same).2⟩, account fits.2.1,
      knows fits.2.2⟩
  | createMark | createCall =>
    simp only [at_stage, version, terms] at fits ⊢
    exact ⟨⟨held fits.1.1, fits.1.2⟩, account fits.2.1, knows fits.2.2⟩
  | createAnswer ids failure =>
    simp only [at_stage, version, terms] at fits ⊢
    refine ⟨⟨held fits.1.1, fits.1.2⟩, account fits.2.1, knows fits.2.2.1, ?_, ?_⟩
    · rw [terms]
      exact fits.2.2.2.campaign
    · rw [terms, existing]
      exact fits.2.2.2.adset
  | capCheck checked =>
    simp only [at_stage, terms, run] at fits ⊢
    exact fits
  | switchCall checked =>
    cases checked with
    | none =>
      simp only [at_stage, operation] at fits ⊢
      exact fits
    | some checked =>
      simp only [at_stage, run] at fits ⊢
      exact fits

theorem crash (approved : before.Approved) {job : Job} (member : job ∈ before.jobs) :
    (before.onWorld (before.toWorld.crash job)).Approved := by
  constructor
  · intro missing
    obtain ⟨seal_, present⟩ := approved.seal_of_job member
    cases present.symm.trans missing
  · exact approved.sealVersion
  · exact ⟨approved.files.numbered, approved.files.versions, approved.files.unsealed⟩
  · intro other present
    rcases Tracked.mem_put_job present with old | rfl
    · exact approved.jobVersions other old
    · exact approved.jobVersions job member
  · exact approved.counted
  · exact approved.row
  · intro other present
    rcases Tracked.mem_put_job present with old | rfl
    · exact jobFits_mono (approved.jobs other old) rfl (.refl _)
    · exact jobFits_mono (jobFits_next (approved.jobs job member) rfl rfl rfl rfl rfl rfl rfl) rfl (.refl _)

theorem recover (approved : before.Approved) (id : Uuid) (now : Nat) :
    (before.onWorld (before.toWorld.recoverInterrupted id now)).Approved := by
  unfold World.recoverInterrupted
  split
  · exact approved
  next command found =>
    split
    · dsimp only
      generalize (if command.providerCallStartedAt.isSome || command.claimedAt.isNone then
        Publications.workerInterruptedErrorCode else Publications.preCallErrorCode) = code
      have files := approved.files_modify id
        (fun row => { row with toCommand := row.applyFailure (some code) (some code) now none none })
        (fun row => row.toCommand.applyFailure_id _ _ _ _ _) (fun row => (applyFailure_columns row.toCommand _ _ _ _ _).2)
      constructor
      · intro missing
        obtain ⟨no_run, no_jobs⟩ := approved.unsealed missing
        refine ⟨no_run, ?_⟩
        change before.jobs.filter _ = []
        rw [no_jobs]
        rfl
      · exact approved.sealVersion
      · exact ⟨files.numbered, files.versions, files.unsealed⟩
      · exact fun job member => approved.jobVersions job (List.mem_filter.mp member).1
      · exact approved.counted
      · exact approved.row
      · exact fun job member => jobFits_mono (approved.jobs job (List.mem_filter.mp member).1) rfl (.refl _)
    · exact approved

theorem escape (approved : before.Approved) {job : Job} (member : job ∈ before.jobs) :
    (before.onWorld (before.toWorld.escape job)).Approved :=
  approved.quiet member (before.toWorld.escape_worked job) rfl rfl fun _ present => .inl (List.mem_filter.mp present).1

theorem noteCycle (approved : after.Approved) : (before.noteCycle after).Approved := by
  unfold Boost.noteCycle
  split
  · exact approved
  · exact approved.kept rfl rfl rfl rfl rfl approved.files

theorem noteConfirmation (approved : after.Approved) (id : Uuid) : (before.noteConfirmation id after).Approved := by
  unfold Boost.noteConfirmation
  split
  · exact approved.kept rfl rfl rfl rfl rfl approved.files
  · exact approved

theorem toggled (approved : before.Approved) {operation : Operation} {desk : Desk} (toggled : before.toDesk.Toggled operation desk) :
    (before.onTables desk).Approved :=
  approved.kept (congrArg (·.core) toggled.eq) (congrArg (·.gate.sealedAds) toggled.eq) (congrArg (·.sealings) toggled.eq) rfl rfl
    (approved.files_toggled toggled)

theorem startRequested (approved : before.Approved) {requester : Uuid} {initiatedBy : Initiator} {now : Nat} {desk : Desk}
    (executed : before.requestAdsBoostStart requester initiatedBy now = .ok desk) : (before.onTables desk).Approved := by
  obtain ⟨files, gate, run, sealings⟩ := approved.files_started executed
  exact approved.kept (congrArg (Option.map BoostRun.core) run) (congrArg (·.sealedAds) gate) sealings rfl rfl files

theorem step (approved : before.Approved) {event : Event} (keeps : before.keepsTerms event = true) : (before.step event).Approved := by
  by_cases captures : event.captures = true
  · have captured := before.captured_step captures
    obtain ⟨desk, toggled, rows⟩ := captured.commands
    exact approved.kept captured.core (congrArg (·.sealedAds) captured.gate) captured.sealings captured.provider captured.jobs
      (rows ▸ approved.files_toggled toggled)
  unfold Boost.step
  apply Runs.settle_preserves approved
  intro after executed
  cases event with
  | requestBoost terms requester now =>
    obtain ⟨desk, accepted, rfl⟩ := Runs.map_ok executed
    exact approved.request keeps accepted
  | moveGate newStatus resolverId now =>
    obtain ⟨desk, accepted, rfl⟩ := Runs.map_ok executed
    obtain ⟨_, snapshots, rfl⟩ := Desk.moveGate_ok accepted
    exact approved.kept rfl rfl rfl rfl rfl approved.files
  | start requester now =>
    obtain ⟨desk, accepted, rfl⟩ := Runs.map_ok executed
    exact approved.startRequested accepted
  | scheduledStart now =>
    change before.startDue now = .ok after at executed
    unfold Boost.startDue at executed
    split at executed
    · split at executed
      · obtain ⟨desk, accepted, rfl⟩ := Runs.map_ok executed
        exact approved.startRequested accepted
      · cases executed
        exact approved
    · cases executed
      exact approved
  | pause requester preferred now =>
    obtain ⟨desk, accepted, rfl⟩ := Runs.map_ok executed
    exact approved.toggled (Desk.requestToggle_ok accepted)
  | resume requester preferred now =>
    obtain ⟨desk, accepted, rfl⟩ := Runs.map_ok executed
    exact approved.toggled (Desk.requestToggle_ok accepted)
  | cancel actor admin now =>
    obtain ⟨desk, accepted, rfl⟩ := Runs.map_ok executed
    obtain ⟨handled, gate, sealings, core | ⟨run, present, cleared, _⟩⟩ := Desk.cancelAdsBoost_ok accepted
    · have kept : (before.onTables desk).Approved :=
        approved.kept core gate sealings rfl rfl (approved.files_handled fun _ => handled)
      exact noteCycle kept
    · have kept : (before.onTables desk).Approved :=
        approved.reset gate sealings rfl rfl (approved.files_handled fun _ => handled) present cleared
      exact noteCycle kept
  | finishCancel now =>
    cases executed
    rcases before.toDesk.finishCancelIfStopped_cases now with same | ⟨run, cycles, present, _, same⟩
    · rw [same]
      exact noteCycle approved
    · rw [same]
      have kept : (before.onTables { before.toDesk.putRun run.reset with cycles }).Approved :=
        approved.reset rfl rfl rfl rfl approved.files present rfl
      exact noteCycle kept
  | pauseLeft preferred now =>
    obtain ⟨desk, accepted, rfl⟩ := Runs.map_ok executed
    exact approved.toggled (Desk.pauseLeftCampaign_ok accepted)
  | captureAfterFailedPause id now =>
    obtain ⟨desk, accepted, rfl⟩ := Runs.map_ok executed
    obtain ⟨snapshots, rfl⟩ := Desk.captureAfterFailedCancelPause_ok accepted
    exact approved.kept rfl rfl rfl rfl rfl approved.files
  | retry id confirmed =>
    obtain ⟨desk, accepted, rfl⟩ := Runs.map_ok executed
    exact noteConfirmation (approved.retry accepted) id
  | adopt found budget answer =>
    obtain ⟨world, accepted, rfl⟩ := Runs.map_ok executed
    exact approved.adopt keeps accepted
  | setPublishPaused paused =>
    cases executed
    exact approved.kept rfl rfl rfl rfl rfl approved.files
  | requeuePaused =>
    cases executed
    have same : before.toDesk.requeuePaused = { before.toDesk with commands := before.toDesk.requeuePaused.commands } := by
      unfold Desk.requeuePaused
      split <;> rfl
    exact approved.kept (congrArg (·.core) same) (congrArg (·.gate.sealedAds) same) (congrArg (·.sealings) same) rfl rfl
      (approved.files_handled fun _ => Desk.requeuePaused_handled)
  | claim id now =>
    cases executed
    exact approved.claim id now
  | advance id answer =>
    cases executed
    exact Boost.onJob_preserves approved id _ fun job found alive => approved.advance found alive keeps
  | escape id =>
    cases executed
    exact Boost.onJob_preserves approved id _ fun job found _ => approved.escape (Keyed.find_mem found)
  | crash id =>
    cases executed
    exact Boost.onJob_preserves approved id _ fun job found _ => approved.crash (Keyed.find_mem found)
  | recover id now =>
    cases executed
    exact approved.recover id now
  | _ => exact absurd rfl captures

theorem initial (gateId orgId : Uuid) (snapshots : List Snapshot) : (Boost.initial gateId orgId snapshots).Approved where
  unsealed _ := ⟨rfl, rfl⟩
  sealVersion _ present := by cases present
  files := ⟨rfl, (by rintro command ⟨⟩), (by intro _; rfl)⟩
  jobVersions _ member := by cases member
  counted := ⟨(by rintro campaign ⟨⟩), (by rintro adset ⟨⟩)⟩
  row _ _ present := by cases present
  jobs _ member := by cases member

theorem activatesApproved (approved : before.Approved) (event : Event) : before.ActivatesApproved event := by
  cases event with
  | advance id answer =>
    intro job checked found _ switches stage
    have fits := approved.jobs job (Keyed.find_mem found)
    unfold Boost.JobFits at fits
    cases checked with
    | none =>
      simp only [stage] at fits
      exact absurd fits switches
    | some seal_ =>
      simp only [stage] at fits
      exact ⟨seal_, rfl, fits⟩
  | _ => exact True.intro

end Boost.Approved

/-- Every ACTIVE call is for a campaign of the approved terms, along every run in which
the terms that are not compared stay those of the objects that exist. -/
theorem active_calls_carry_approved_terms (gateId orgId : Uuid) (snapshots : List Snapshot) (events : List Event)
    (keeps : Runs.Throughout Boost.step (fun boost event => boost.keepsTerms event = true)
      (Boost.initial gateId orgId snapshots) events) :
    Runs.Throughout Boost.step Boost.ActivatesApproved (Boost.initial gateId orgId snapshots) events := by
  have kept : ∀ (boost : Boost) event, boost.keepsTerms event = true → boost.Approved → (boost.step event).Approved :=
    fun _ _ agrees approved => approved.step agrees
  exact keeps.carry kept (Boost.Approved.initial gateId orgId snapshots) fun _ event _ approved => approved.activatesApproved event

namespace Example

/-- Another objective and a later end are sealed and approved for the same budget, and
the start of the new seal is executed up to its switch. -/
def resealed : List Event :=
  started ++
    [.requestBoost { terms with objective := "OUTCOME_SALES", endsAt := hours 480 } 1 6, .moveGate .approved (some 2) 7, .start 1 8,
      .claim 1 9] ++ List.replicate 5 (.advance 1 accepting)

end Example

open Example in
theorem started_boost_carries_approved_terms :
    Runs.Throughout Boost.step (fun boost event => boost.keepsTerms event = true) (Boost.initial 0 0 []) started ∧
      Runs.Throughout Boost.step Boost.ActivatesApproved (Boost.initial 0 0 []) started ∧
      (Runs.final Boost.step (Boost.initial 0 0 []) started).provider.isActive 0 = true := by
  have keeps : Runs.Throughout Boost.step (fun boost event => boost.keepsTerms event = true) (Boost.initial 0 0 []) started := by
    decide +kernel
  exact ⟨keeps, active_calls_carry_approved_terms 0 0 [] started keeps, by decide +kernel⟩

/-- The job is about to switch a run on that does not carry the terms of its seal. -/
def switchesOther (boost : Boost) (job : Job) : Bool :=
  match job.stage with
  | .switchCall (some seal_) => !boost.provider.carries job.run.ids seal_.toTerms
  | _ => false

open Example in
/-- The start under a new seal switches on the campaign of the old one. -/
theorem resealed_boost_activates_old_terms :
    ¬ ∀ events, Runs.Throughout Boost.step Boost.ActivatesApproved (Boost.initial 0 0 []) events := by
  intro approved
  have old : ((Runs.final Boost.step (Boost.initial 0 0 []) resealed).job? 1).any (fun job =>
      !job.dead && job.operation == .boostStart &&
        switchesOther (Runs.final Boost.step (Boost.initial 0 0 []) resealed) job) = true := by
    decide +kernel
  obtain ⟨job, found, checks⟩ := (Option.any_eq_true _ _).mp old
  have last := (Runs.Throughout.append.mp (approved (resealed ++ [.advance 1 accepting]))).2.1
  simp only [Bool.and_eq_true, Bool.not_eq_true', beq_iff_eq] at checks
  obtain ⟨⟨alive, start⟩, differs⟩ := checks
  unfold switchesOther at differs
  split at differs
  next seal_ stage =>
    obtain ⟨again, same, carries⟩ := last job (some seal_) found alive (by rw [start]; decide) stage
    cases same
    simp [carries] at differs
  next => cases differs

end Sprintable.Boosts
