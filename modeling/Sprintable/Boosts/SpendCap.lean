import Sprintable.Boosts.Toggles

/-! The spend cap. The provider's number is the spend of a campaign so far, which never
falls, so the latest reading of a cycle is its largest; the captures compare the sum of
the readings instead. -/

namespace Sprintable.Boosts

section Readings
variable {readings : List Nat}

def latestReading (readings : List Nat) : Nat := readings.foldr max 0

/-- The spend so far never falls, so that the reading taken last is the largest. -/
theorem latest_last (rising : readings.Pairwise (· ≤ ·)) : latestReading readings = readings.getLast?.getD 0 := by
  induction readings with
  | nil => rfl
  | cons reading rest ih =>
    obtain ⟨below, rising⟩ := List.pairwise_cons.mp rising
    have step : latestReading (reading :: rest) = max reading (latestReading rest) := rfl
    cases rest with
    | nil => exact Nat.max_zero reading
    | cons second rest =>
      have lasts : latestReading (second :: rest) = (second :: rest).getLast (by simp) := by
        rw [ih rising, List.getLast?_eq_some_getLast (List.cons_ne_nil _ _), Option.getD_some]
      have kept : reading ≤ (second :: rest).getLast (by simp) := below _ (List.getLast_mem _)
      rw [step, lasts, Nat.max_eq_right kept, List.getLast?_cons_cons, List.getLast?_eq_some_getLast (List.cons_ne_nil _ _), Option.getD_some]

theorem latest_le_sum (readings : List Nat) : latestReading readings ≤ readings.sum := by
  induction readings with
  | nil => exact Nat.le_refl 0
  | cons reading rest ih =>
    unfold latestReading at ih ⊢
    rw [List.foldr_cons, List.sum_cons]
    omega

theorem sum_zero_iff : readings.sum = 0 ↔ readings.filter (0 < ·) = [] := by
  induction readings with
  | nil => simp
  | cons reading rest ih =>
    by_cases spent : 0 < reading
    · have some_spent : (reading :: rest).filter (0 < ·) ≠ [] := by simp [spent]
      constructor
      · intro none_spent
        rw [List.sum_cons] at none_spent
        omega
      · exact fun empty => absurd empty some_spent
    · have zero : reading = 0 := by omega
      simp [zero, ih]

theorem sum_eq_latest : readings.sum = latestReading readings ↔ (readings.filter (0 < ·)).length ≤ 1 := by
  induction readings with
  | nil => simp [latestReading]
  | cons reading rest ih =>
    have below := latest_le_sum rest
    have step : latestReading (reading :: rest) = max reading (latestReading rest) := rfl
    rw [List.sum_cons, step]
    by_cases spent : 0 < reading
    · have kept : (reading :: rest).filter (0 < ·) = reading :: rest.filter (0 < ·) := by simp [spent]
      rw [kept, List.length_cons]
      constructor
      · intro same
        have nothing : rest.sum = 0 := by omega
        rw [sum_zero_iff.mp nothing]
        exact Nat.le_refl 1
      · intro few
        have none_left : rest.filter (0 < ·) = [] := List.eq_nil_of_length_eq_zero (by omega)
        have nothing := sum_zero_iff.mpr none_left
        omega
    · have zero : reading = 0 := by omega
      have dropped : (reading :: rest).filter (0 < ·) = rest.filter (0 < ·) := by simp [zero]
      rw [dropped, ← ih]
      omega

theorem le_latest_iff {bound : Nat} (positive : 0 < bound ∨ readings ≠ []) :
    bound ≤ latestReading readings ↔ ∃ reading ∈ readings, bound ≤ reading := by
  induction readings with
  | nil =>
    have above : 0 < bound := positive.resolve_right (· rfl)
    simp only [latestReading, List.foldr_nil, List.not_mem_nil, false_and, exists_false, iff_false]
    omega
  | cons reading rest ih =>
    have step : latestReading (reading :: rest) = max reading (latestReading rest) := rfl
    rw [step, List.exists_mem_cons_iff]
    by_cases first : bound ≤ reading
    · exact ⟨fun _ => .inl first, fun _ => by omega⟩
    · rw [← ih (.inl (by omega))]
      omega

end Readings

namespace Desk
variable (desk : Desk)

def cycleReadings (cycle : Nat) : List Nat :=
  (desk.snapshots.filter fun row => row.paid && row.status == .captured && row.adsBoostCycle.getD 1 == cycle).map
    fun row => row.spendMinor.getD 0

/-- A pause by the scheduler is refused only for what came before it: no start in the
cycle, a pause that is done, or no seal. -/
def pauseAccepted (preferred : Uuid) : Bool :=
  desk.startedIn desk.cycle &&
    match desk.latestToggle desk.cycle preferred with
    | none => desk.gate.sealedAds.isSome
    | some latest =>
      if latest.boost = .pause then latest.status == .blocked || (latest.status != .completed && desk.gate.sealedAds.isSome)
      else desk.gate.sealedAds.isSome

/-- There is somebody to ask for the pause, and it is accepted. -/
def pauseGoesOut (resolverId : Option Uuid) (preferred : Uuid) : Bool :=
  (desk.pauseRequester resolverId).isSome && desk.pauseAccepted preferred

end Desk

namespace Boost
variable (boost : Boost)

/-- The campaign is off, or a pause of it is under way. -/
def stoppedFor (capture : Capture) : Bool :=
  let status := (boost.run.map BoostRun.status).getD capture.run.status
  status == .paused || status == .pausePending

/-- The step records the cap on the run and goes on to follow it up. -/
def RecordsCap (capture : Capture) (after : Boost) : Prop :=
  after.run = boost.run.map (fun (stored : BoostRun) => { stored with capReachedAt := some capture.now }) ∧
    ∃ next, after.capture? capture.id = some next ∧ next.stage = .capFollow true

def AsksPause (capture : Capture) (answer : CaptureAnswer) (after : Boost) : Prop :=
  ∃ requester paused, boost.pauseRequester capture.gate.resolverId = some requester ∧
    boost.requestToggle .pause requester (some .scheduler) answer.usable answer.preferred capture.now = .ok paused ∧
    after.commands = paused.commands

/-- A comparison with the sealed budget is made with the latest reading of the cycle; the
cap is recorded where some reading has come up to the budget; and the step that follows
the record asks for a pause of a campaign that is on. -/
def CapsByLatest (boost : Boost) : Event → Prop
  | .advanceCapture id answer => ∀ capture, boost.capture? id = some capture → capture.dead = false →
      match capture.stage with
      | .captured =>
        capture.run.capReachedAt = none →
          boost.comparedSpendMinor capture = latestReading (boost.cycleReadings capture.run.cycleNo) ∧
            (boost.RecordsCap capture (boost.step (.advanceCapture id answer)) ↔
              ∃ seal_, capture.gate.sealedAds = some seal_ ∧
                ∃ reading ∈ boost.cycleReadings capture.run.cycleNo, seal_.budgetMinor ≤ reading)
      | .capFollow true =>
        boost.stoppedFor capture = true ∨ boost.AsksPause capture answer (boost.step (.advanceCapture id answer))
      | _ => True
  | _ => True

/-- At a comparison at most one captured reading of the cycle is not zero (and there is a
reading, or the budget is not zero); at the step after a record the campaign is off or
being paused, or nothing refuses the pause. -/
def comparesLatest (boost : Boost) : Event → Bool
  | .advanceCapture id answer =>
    (boost.capture? id).all fun capture => capture.dead ||
      match capture.stage with
      | .captured =>
        capture.run.capReachedAt.isSome ||
          (decide (((boost.cycleReadings capture.run.cycleNo).filter (0 < ·)).length ≤ 1) &&
            (!(boost.cycleReadings capture.run.cycleNo).isEmpty || capture.gate.sealedAds.all (0 < ·.budgetMinor)))
      | .capFollow true => boost.stoppedFor capture || boost.pauseGoesOut capture.gate.resolverId answer.preferred
      | _ => true
  | _ => true

theorem step_advanceCapture {id : Nat} (answer : CaptureAnswer) {capture : Capture} (found : boost.capture? id = some capture)
    (alive : capture.dead = false) : boost.step (.advanceCapture id answer) = boost.advanceCapture capture answer := by
  change boost.onCapture id (fun boost capture => boost.advanceCapture capture answer) = _
  unfold onCapture
  rw [found]
  dsimp only
  rw [alive]
  rfl

theorem capture_put {capture : Capture} (found : boost.capture? capture.id = some capture) (next : Capture) (same : next.id = capture.id) :
    (boost.putCapture next).capture? capture.id = some next := by
  unfold capture? at found ⊢
  unfold putCapture
  dsimp only
  rw [← same] at found ⊢
  exact Keyed.find_put_same found

theorem records_iff {capture : Capture} (found : boost.capture? capture.id = some capture) (uncapped : capture.run.capReachedAt = none) :
    boost.RecordsCap capture (boost.enforceSpendCap capture) ↔ boost.reachesCap capture = true := by
  unfold enforceSpendCap
  rw [uncapped]
  simp only [Option.isSome_none, Bool.false_eq_true, if_false]
  by_cases reaches : boost.reachesCap capture = true
  · rw [if_pos reaches]
    refine ⟨fun _ => reaches, fun _ => ⟨rfl, ?_⟩⟩
    refine ⟨{ capture with run := { capture.run with capReachedAt := some capture.now }, stage := .capFollow true }, ?_, rfl⟩
    exact capture_put { boost with run := _ } found _ rfl
  · rw [if_neg reaches]
    refine ⟨?_, fun impossible => absurd impossible reaches⟩
    rintro ⟨_, next, present, stage⟩
    rw [boost.capture_put found { capture with stage := .scheduling } rfl] at present
    cases present
    cases stage

theorem compares_iff {capture : Capture} (found : boost.capture? capture.id = some capture) (uncapped : capture.run.capReachedAt = none) :
    (boost.comparedSpendMinor capture = latestReading (boost.cycleReadings capture.run.cycleNo) ∧
        (boost.RecordsCap capture (boost.enforceSpendCap capture) ↔
          ∃ seal_, capture.gate.sealedAds = some seal_ ∧
            ∃ reading ∈ boost.cycleReadings capture.run.cycleNo, seal_.budgetMinor ≤ reading)) ↔
      ((boost.cycleReadings capture.run.cycleNo).filter (0 < ·)).length ≤ 1 ∧
        (boost.cycleReadings capture.run.cycleNo ≠ [] ∨
          ∀ seal_, capture.gate.sealedAds = some seal_ → 0 < seal_.budgetMinor) := by
  have compared : boost.comparedSpendMinor capture = (boost.cycleReadings capture.run.cycleNo).sum := rfl
  rw [boost.records_iff found uncapped, compared, sum_eq_latest]
  refine and_congr_right fun few => ?_
  have latest := sum_eq_latest.mpr few
  have reaches : boost.reachesCap capture = true ↔
      ∃ seal_, capture.gate.sealedAds = some seal_ ∧ seal_.budgetMinor ≤ latestReading (boost.cycleReadings capture.run.cycleNo) := by
    unfold reachesCap
    rw [compared, latest, Option.any_eq_true]
    simp only [decide_eq_true_eq]
  rw [reaches]
  constructor
  · intro same
    by_cases empty : boost.cycleReadings capture.run.cycleNo = []
    · refine .inr fun seal_ present => ?_
      by_contra free
      obtain ⟨_, _, reading, member, _⟩ := same.mp ⟨seal_, present, by omega⟩
      rw [empty] at member
      cases member
    · exact .inl empty
  · intro counted
    refine exists_congr fun seal_ => and_congr_right fun present => le_latest_iff ?_
    exact counted.symm.imp_left fun positive => positive seal_ present

end Boost

namespace Desk
variable {desk : Desk} {requester : Uuid} {usable : Bool} {preferred : Uuid} {now : Nat}

theorem createOrGet_accepted {operation : Operation} {seq : Nat} {initiatedBy : Option Initiator} :
    (∃ after, desk.createOrGet operation seq requester initiatedBy now = .ok after) ↔ desk.gate.sealedAds.isSome = true := by
  unfold createOrGet
  cases desk.gate.sealedAds with
  | none =>
    constructor
    · rintro ⟨after, executed⟩
      cases executed
    · intro impossible
      cases impossible
  | some seal_ =>
    refine ⟨fun _ => rfl, fun _ => ?_⟩
    dsimp only
    split
    · exact ⟨_, rfl⟩
    · exact ⟨_, rfl⟩

theorem pause_accepted :
    (∃ after, desk.requestToggle .pause requester (some .scheduler) usable preferred now = .ok after) ↔
      desk.pauseAccepted preferred = true := by
  unfold requestToggle pauseAccepted
  have stops : ¬(desk.gate.status ≠ .approved ∧ Operation.pause ∉ moneyStoppingOps) := by simp [moneyStoppingOps]
  rw [if_neg stops, Bool.and_eq_true]
  by_cases started : desk.startedIn desk.cycle = true
  · simp only [started, Bool.not_true, Bool.false_eq_true, if_false, true_and, reduceCtorEq, false_and]
    cases desk.latestToggle desk.cycle preferred with
    | none => exact createOrGet_accepted
    | some latest =>
      dsimp only
      by_cases again : latest.boost = .pause
      · rw [if_neg (not_not.mpr again), if_pos again]
        cases status : latest.status with
        | blocked =>
          refine ⟨fun _ => rfl, fun _ => ?_⟩
          dsimp only
          split
          · exact ⟨_, rfl⟩
          · exact ⟨_, rfl⟩
        | completed =>
          constructor
          · rintro ⟨after, executed⟩
            cases executed
          · intro impossible
            cases impossible
        | _ => simpa using createOrGet_accepted
      · rw [if_pos again, if_neg again]
        exact createOrGet_accepted
  · constructor
    · rintro ⟨after, executed⟩
      simp [started] at executed
    · exact fun both => absurd both.1 started

end Desk

namespace Boost
variable (boost : Boost)

theorem asksPause_iff {capture : Capture} {answer : CaptureAnswer} (on : boost.stoppedFor capture = false) :
    boost.AsksPause capture answer (boost.followThroughCap capture true answer) ↔
      boost.pauseGoesOut capture.gate.resolverId answer.preferred = true := by
  simp only [stoppedFor, Bool.or_eq_false_iff, beq_eq_false_iff_ne] at on
  have commands : (boost.followThroughCap capture true answer).commands =
      (boost.pauseByScheduler capture.gate.resolverId answer capture.now).commands := by
    unfold followThroughCap
    dsimp only
    rw [if_neg on.1, if_neg on.2]
    exact insertSnapshot_commands _ _
  unfold AsksPause Desk.pauseGoesOut
  rw [commands, Bool.and_eq_true]
  constructor
  · rintro ⟨requester, paused, known, executed, _⟩
    exact ⟨by rw [known]; rfl, Desk.pause_accepted.mp ⟨paused, executed⟩⟩
  · rintro ⟨known, accepted⟩
    obtain ⟨requester, present⟩ := Option.isSome_iff_exists.mp known
    obtain ⟨paused, executed⟩ := Desk.pause_accepted.mpr accepted
    refine ⟨requester, paused, present, executed, ?_⟩
    unfold Desk.pauseByScheduler
    rw [present]
    dsimp only
    rw [executed]

theorem capsByLatest_iff (event : Event) : boost.CapsByLatest event ↔ boost.comparesLatest event = true := by
  cases event with
  | advanceCapture id answer =>
    unfold CapsByLatest comparesLatest
    dsimp only
    cases found : boost.capture? id with
    | none => exact ⟨fun _ => rfl, fun _ capture impossible => by cases impossible⟩
    | some capture =>
      have name : capture.id = id := Keyed.find_key found
      subst name
      cases alive : capture.dead with
      | true =>
        constructor
        · intro _
          simp [alive]
        · intro _ other present live
          cases present
          rw [alive] at live
          cases live
      | false =>
        have step := boost.step_advanceCapture answer found alive
        simp only [Option.all_some, alive, Bool.false_or]
        cases stage : capture.stage with
        | captured =>
          have stepped : boost.step (.advanceCapture capture.id answer) = boost.enforceSpendCap capture := by
            rw [step]
            unfold advanceCapture
            rw [stage]
          simp only [Bool.or_eq_true, Bool.and_eq_true, decide_eq_true_eq, Bool.not_eq_true', List.isEmpty_eq_false_iff,
            Option.all_eq_true]
          constructor
          · intro holds
            by_cases capped : capture.run.capReachedAt.isSome = true
            · exact .inl capped
            · right
              have uncapped : capture.run.capReachedAt = none := by simpa using capped
              have known := holds capture rfl alive
              rw [stage] at known
              have both := known uncapped
              rw [stepped] at both
              exact (boost.compares_iff found uncapped).mp both
          · intro counted other present _
            cases present
            rw [stage]
            dsimp only
            intro uncapped
            rw [stepped]
            refine (boost.compares_iff found uncapped).mpr ?_
            rcases counted with capped | counted
            · rw [uncapped] at capped
              cases capped
            · exact counted
        | capFollow newlyReached =>
          cases newlyReached with
          | false =>
            refine ⟨fun _ => rfl, fun _ other present _ => ?_⟩
            cases present
            rw [stage]
            exact True.intro
          | true =>
            have stepped : boost.step (.advanceCapture capture.id answer) = boost.followThroughCap capture true answer := by
              rw [step]
              unfold advanceCapture
              rw [stage]
            rw [Bool.or_eq_true]
            constructor
            · intro holds
              have known := holds capture rfl alive
              rw [stage] at known
              dsimp only at known
              rw [stepped] at known
              by_cases stopped : boost.stoppedFor capture = true
              · exact .inl stopped
              · exact .inr ((boost.asksPause_iff (by simpa using stopped)).mp (known.resolve_left stopped))
            · intro counted other present _
              cases present
              rw [stage]
              dsimp only
              rw [stepped]
              by_cases stopped : boost.stoppedFor capture = true
              · exact .inl stopped
              · exact .inr ((boost.asksPause_iff (by simpa using stopped)).mpr (counted.resolve_left stopped))
        | _ =>
          refine ⟨fun _ => rfl, fun _ other present _ => ?_⟩
          cases present
          rw [stage]
          exact True.intro
  | _ => exact ⟨fun _ => rfl, fun _ => True.intro⟩

end Boost

/-- The cap goes by the latest reading exactly along the runs in which every comparison
finds at most one reading that is not zero, and every pause for a cap is accepted. -/
theorem spend_cap_goes_by_latest_reading (gateId orgId : Uuid) (snapshots : List Snapshot) (events : List Event) :
    Runs.Throughout Boost.step Boost.CapsByLatest (Boost.initial gateId orgId snapshots) events ↔
      Runs.Throughout Boost.step (fun boost event => boost.comparesLatest event = true)
        (Boost.initial gateId orgId snapshots) events := by
  constructor
  · exact fun met => met.weaken fun boost event => (boost.capsByLatest_iff event).mp
  · exact fun met => met.weaken fun boost event => (boost.capsByLatest_iff event).mpr

namespace Example

/-- Two captures of a running boost, whose campaign has spent 3000 and then 4000 of 5000. -/
def captured : List Event :=
  started ++ [.claimCapture 0 (3 + hours 24)] ++ List.replicate 5 (.advanceCapture 0 { spend := .read 3000 }) ++
    [.claimCapture 1 (3 + hours 48)] ++ List.replicate 3 (.advanceCapture 1 { spend := .read 4000 })

end Example

open Example in
/-- A boost that has spent 4000 of 5000 is capped at the sum of its readings. -/
theorem two_readings_are_summed :
    ¬ ∀ events, Runs.Throughout Boost.step Boost.CapsByLatest (Boost.initial 0 0 []) events := by
  intro capped
  have summed : ((Runs.final Boost.step (Boost.initial 0 0 []) captured).capture? 1).any (fun capture =>
      !capture.dead && capture.stage == .captured && capture.run.capReachedAt.isNone &&
        (Runs.final Boost.step (Boost.initial 0 0 []) captured).comparedSpendMinor capture == 7000 &&
        latestReading ((Runs.final Boost.step (Boost.initial 0 0 []) captured).cycleReadings capture.run.cycleNo) == 4000) = true := by
    decide +kernel
  obtain ⟨capture, found, checks⟩ := (Option.any_eq_true _ _).mp summed
  simp only [Bool.and_eq_true, Bool.not_eq_true', beq_iff_eq, Option.isNone_iff_eq_none] at checks
  obtain ⟨⟨⟨⟨alive, stage⟩, uncapped⟩, sum⟩, latest⟩ := checks
  have last := (Runs.Throughout.append.mp (capped (captured ++ [.advanceCapture 1 {}]))).2.1 capture found alive
  rw [stage] at last
  have same := (last uncapped).1
  omega

end Sprintable.Boosts
