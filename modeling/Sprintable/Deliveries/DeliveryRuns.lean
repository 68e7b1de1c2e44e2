import Sprintable.Deliveries.DeliveryJobs

/-! What every run of overlapping dispatchers keeps of a job, and what it keeps when no dispatcher
outlives its claim or is lost with a delivery that it has made. -/

namespace Sprintable.Deliveries

def Dispatch.All (valid : Nat → Tracked → Prop) (dispatch : Dispatch) : Prop :=
  ∀ tracked ∈ dispatch.jobs, valid dispatch.now tracked

section Steps
variable {dispatch : Dispatch} {tracked : Tracked}

theorem candidates_pending {locked : List Uuid} (chosen : tracked ∈ dispatch.candidates locked) :
    tracked.job.status = .pending := by
  have listed := (List.mem_insertionSort _).mp (List.mem_of_mem_take chosen)
  have wanted := (List.mem_filter.mp listed).2
  rw [Bool.and_eq_true, decide_eq_true_eq] at wanted
  exact wanted.1

theorem step_keeps {valid : Nat → Tracked → Prop} {event : DispatchEvent}
    (fresh : ∀ id now, valid now { job := { id, createdAt := now } })
    (later : ∀ tracked now elapsed, valid now tracked → valid (now + elapsed) tracked)
    (kept : ∀ tracked ∈ dispatch.jobs, valid dispatch.now tracked → valid dispatch.now (dispatch.moved tracked event))
    (sound : dispatch.All valid) : (dispatch.step event).All valid := by
  intro tracked member
  cases event with
  | wait elapsed => exact later tracked _ elapsed (sound tracked member)
  | enqueue id =>
    rw [Dispatch.step] at member ⊢
    split at member
    next known =>
      rw [if_pos known]
      exact sound tracked member
    next unknown =>
      rw [if_neg unknown]
      rcases List.mem_append.mp member with old | new
      · exact sound tracked old
      · rw [List.mem_singleton.mp new]
        exact fresh id dispatch.now
  | reap | claim | act =>
    obtain ⟨before, present, rfl⟩ := List.mem_map.mp member
    exact kept before present (sound before present)

theorem goOn_cases (tracked : Tracked) (now position : Nat) (act : Act) :
    tracked.goOn now position act = tracked ∨ ∃ front delivery back, tracked.live = front ++ delivery :: back ∧ delivery.can act ∧
      tracked.live[position]? = some delivery ∧
      tracked.goOn now position act =
        { tracked with
          job := if act = .record then delivery.ends now tracked.job else tracked.job
          live := front ++ delivery.after act ++ back
          sends := if act = .send then tracked.sends + 1 else tracked.sends } := by
  unfold Tracked.goOn
  split
  next delivery found =>
    split
    next can =>
      obtain ⟨inside, rfl⟩ := List.getElem?_eq_some_iff.mp found
      refine .inr ⟨tracked.live.take position, _, tracked.live.drop (position + 1), ?_, can, found, rfl⟩
      rw [← List.drop_eq_getElem_cons inside, List.take_append_drop]
    · exact .inl rfl
  · exact .inl rfl

end Steps

/-- The claims of a job are its attempts, and every sending to its targets lies in one of them. A job that is
delivered was sent, one given up was tried four times, and every claim has its time. -/
structure Accounted (now : Nat) (tracked : Tracked) : Prop where
  attempts : tracked.job.attempts = tracked.claims
  delivered : tracked.job.status = .delivered → 0 < tracked.sends
  failed : tracked.job.status = .failed → 4 ≤ tracked.job.attempts ∧ tracked.job.lastError.isSome
  stamped : tracked.job.status = .claimed → ∃ claimedAt ≤ now, tracked.job.claimedAt = some claimedAt
  counted : ∀ delivery ∈ tracked.live, delivery.attempts ≤ tracked.claims + 1
  sent : ∀ delivery ∈ tracked.live, delivery.phase = .sent → 0 < tracked.sends
  sends : tracked.sends + tracked.live.countP (fun delivery => delivery.phase = .sending) ≤ tracked.claims

theorem Accounted.moved {dispatch : Dispatch} {tracked : Tracked} (sound : Accounted dispatch.now tracked)
    (event : DispatchEvent) : Accounted dispatch.now (dispatch.moved tracked event) := by
  have ⟨attempts, delivered, failed, stamped, counted, sent, sends⟩ := sound
  cases event with
  | wait | enqueue => exact sound
  | reap =>
    rw [Dispatch.moved, DeliveryJob.reap]
    split
    · exact ⟨attempts, nofun, nofun, nofun, counted, sent, sends⟩
    · exact sound
  | claim locked =>
    rw [Dispatch.moved]
    split
    · refine ⟨congrArg (· + 1) attempts, nofun, nofun, fun _ => ⟨dispatch.now, Nat.le_refl _, rfl⟩, ?_, ?_, ?_⟩
      · intro delivery going
        rcases List.mem_append.mp going with old | new
        · exact Nat.le_succ_of_le (counted delivery old)
        · rw [List.mem_singleton.mp new, attempts]
          exact Nat.le_refl _
      · intro delivery going begun
        rcases List.mem_append.mp going with old | new
        · exact sent delivery old begun
        · rw [List.mem_singleton.mp new] at begun
          cases begun
      · simp only [Tracked.claim, List.countP_append, List.countP_singleton, decide_true, if_true]
        omega
    · exact sound
  | act id position act =>
    rw [Dispatch.moved]
    split
    · obtain same | ⟨front, delivery, back, live, can, -, moved⟩ := goOn_cases tracked dispatch.now position act
      · rw [same]
        exact sound
      · rw [moved]
        have tried := counted delivery (by simp [live])
        have served := sent delivery (by simp [live])
        simp only [live, List.countP_append, List.countP_cons] at counted sent sends
        cases act with
        | send =>
          refine ⟨attempts, fun _ => Nat.succ_pos _, failed, stamped, ?_, ?_, ?_⟩ <;> grind [Delivery.after, Delivery.can]
        | raises | drop =>
          refine ⟨attempts, delivered, failed, stamped, ?_, ?_, ?_⟩ <;> grind [Delivery.after, Delivery.can]
        | record =>
          constructor <;> grind [Delivery.after, Delivery.can, Delivery.ends, DeliveryJob.deliver, DeliveryJob.giveBack, maxAttempts]
    · exact sound

/-- No claim is taken from a delivery on its way, and one that has sent writes so. -/
def Undisturbed (dispatch : Dispatch) : DispatchEvent → Prop
  | .reap => ∀ tracked ∈ dispatch.jobs, tracked.job.expired dispatch.now → tracked.live = []
  | .act id position act => ∀ tracked ∈ dispatch.jobs, tracked.job.id = id →
      ∀ delivery ∈ tracked.live[position]?, delivery.phase = .sent → act = .record
  | _ => True

instance (dispatch : Dispatch) : ∀ event, Decidable (Undisturbed dispatch event)
  | .reap => inferInstanceAs (Decidable (∀ tracked ∈ dispatch.jobs, tracked.job.expired dispatch.now → tracked.live = []))
  | .act id position act => inferInstanceAs (Decidable (∀ tracked ∈ dispatch.jobs, tracked.job.id = id →
      ∀ delivery ∈ tracked.live[position]?, delivery.phase = .sent → act = .record))
  | .wait _ | .enqueue _ | .claim _ => .isTrue True.intro

/-- No delivery of a job runs beside another or outside its claim, and a job is sent once, if delivered. -/
def Exclusive (tracked : Tracked) : Prop :=
  match tracked.live with
  | [] => tracked.sends = if tracked.job.status = .delivered then 1 else 0
  | [delivery] => tracked.job.status = .claimed ∧ tracked.sends = if delivery.phase = .sent then 1 else 0
  | _ => False

theorem Exclusive.cases {tracked : Tracked} (alone : Exclusive tracked) :
    (tracked.live = [] ∧ tracked.sends = if tracked.job.status = .delivered then 1 else 0) ∨
      ∃ delivery, tracked.live = [delivery] ∧ tracked.job.status = .claimed ∧
        tracked.sends = if delivery.phase = .sent then 1 else 0 := by
  unfold Exclusive at alone
  split at alone
  next idle => exact .inl ⟨idle, alone⟩
  next delivery one => exact .inr ⟨delivery, one, alone⟩
  next => cases alone

theorem Exclusive.moved {dispatch : Dispatch} {tracked : Tracked} (present : tracked ∈ dispatch.jobs)
    (alone : Exclusive tracked) {event : DispatchEvent} (calm : Undisturbed dispatch event) :
    Exclusive (dispatch.moved tracked event) := by
  cases event with
  | wait | enqueue => exact alone
  | reap =>
    rw [Dispatch.moved, DeliveryJob.reap]
    split
    next expired =>
      have idle := calm tracked present expired
      have claimed : tracked.job.status = .claimed := of_decide_eq_true (Bool.and_eq_true_iff.mp expired).1
      simpa [Exclusive, idle, claimed] using alone
    · exact alone
  | claim locked =>
    rw [Dispatch.moved]
    split
    next chosen =>
      have waiting := candidates_pending chosen
      obtain ⟨idle, sends⟩ | ⟨_, _, claimed, _⟩ := alone.cases
      · simpa [Exclusive, Tracked.claim, idle, waiting, DeliveryJob.claim] using sends
      · cases waiting.symm.trans claimed
    · exact alone
  | act id position act =>
    rw [Dispatch.moved]
    split
    next mine =>
      obtain same | ⟨front, delivery, back, live, can, found, moved⟩ := goOn_cases tracked dispatch.now position act
      · rw [same]
        exact alone
      · have records := calm tracked present mine delivery found
        rw [moved]
        unfold Exclusive at alone
        rw [live] at alone
        match front, back with
        | [], [] =>
          cases act <;> simp_all [Exclusive, Delivery.after, Delivery.can]
          grind [Delivery.ends, DeliveryJob.deliver, DeliveryJob.giveBack]
        | [], _ :: _ => cases alone
        | _ :: front, _ => cases front <;> cases alone
    · exact alone

section Runs
variable {first : List DispatchEvent} {tracked : Tracked}

theorem accounted_run (events : List DispatchEvent) : (Runs.final Dispatch.step {} events).All Accounted := by
  refine Runs.final_invariant ?_ ?_ events
  · intro dispatch event sound
    apply step_keeps (fun id now => ⟨rfl, nofun, nofun, nofun, nofun, nofun, Nat.le_refl _⟩) ?_ ?_ sound
    · intro tracked now elapsed accounted
      refine { accounted with stamped := fun claimed => ?_ }
      obtain ⟨claimedAt, past, stamp⟩ := accounted.stamped claimed
      exact ⟨claimedAt, Nat.le_add_right_of_le past, stamp⟩
    · exact fun tracked _ accounted => accounted.moved event
  · exact fun tracked none_ => nomatch none_

theorem exclusive_run (calm : Runs.Throughout Dispatch.step Undisturbed {} first) :
    (Runs.final Dispatch.step {} first).All fun _ => Exclusive := by
  apply calm.invariant
  · intro dispatch event undisturbed sound
    exact step_keeps (fun _ _ => rfl) (fun _ _ _ alone => alone) (fun tracked present alone => alone.moved present undisturbed) sound
  · exact fun tracked none_ => nomatch none_

/-- However deliveries overlap, fail or are lost, a job is delivered only if it was sent, and given up only after four
claims or more. -/
theorem every_job_accounted (events : List DispatchEvent) :
    ∀ tracked ∈ (Runs.final Dispatch.step {} events).jobs,
      tracked.job.attempts = tracked.claims ∧ tracked.sends ≤ tracked.claims ∧
      (tracked.job.status = .delivered → 0 < tracked.sends) ∧
      (tracked.job.status = .failed → 4 ≤ tracked.claims ∧ tracked.job.lastError.isSome) := by
  intro tracked present
  have accounted := accounted_run events tracked present
  have bound := accounted.sends
  exact ⟨accounted.attempts, by omega, accounted.delivered, accounted.attempts ▸ accounted.failed⟩

def deliveredRun : List DispatchEvent := [.enqueue 1, .claim [], .act 1 0 .send, .act 1 0 .record]

def deliveredJob : Tracked where
  job := { id := 1, createdAt := 0, status := .delivered, attempts := 1, deliveredAt := some 0, claimedAt := some 0 }
  claims := 1
  sends := 1

theorem every_job_accounted_delivered : 0 < deliveredJob.sends :=
  (every_job_accounted deliveredRun deliveredJob (by decide)).2.2.1 rfl

theorem expired_of_late {job : DeliveryJob} {now claimedAt : Nat} (claimed : job.status = .claimed)
    (stamp : job.claimedAt = some claimedAt) (late : claimedAt + claimTimeout < now) : job.expired now := by
  rw [DeliveryJob.expired, claimed, stamp, Option.any_some, decide_eq_true late]
  rfl

theorem reap_claimed {job : DeliveryJob} {now : Nat} (claimed : (job.reap now).status = .claimed) :
    job.status = .claimed ∧ ¬ job.expired now := by
  unfold DeliveryJob.reap at claimed
  split at claimed
  · cases claimed
  next current => exact ⟨claimed, current⟩

/-- However the workers fail, a claim is not kept for ever. -/
theorem no_claim_kept (events : List DispatchEvent) (more : Nat) :
    ∀ tracked ∈ (Runs.final Dispatch.step {} (events ++ [.wait (claimTimeout + 1 + more), .reap])).jobs,
      tracked.job.status ≠ .claimed := by
  intro tracked present claimed
  rw [Runs.final_append] at present
  have longer : claimTimeout < claimTimeout + 1 + more := by omega
  generalize claimTimeout + 1 + more = elapsed at present longer
  obtain ⟨before, old, rfl⟩ := List.mem_map.mp present
  obtain ⟨held, current⟩ := reap_claimed claimed
  obtain ⟨claimedAt, past, stamp⟩ := (accounted_run events before old).stamped held
  have late : claimedAt + claimTimeout < (Runs.final Dispatch.step {} events).now + elapsed := by omega
  exact current (expired_of_late held stamp late)

def lostJob : Tracked := { job := { id := 1, createdAt := 0, attempts := 1 }, claims := 1 }

theorem no_claim_kept_lost : lostJob.job.status ≠ .claimed :=
  no_claim_kept [.enqueue 1, .claim [], .act 1 0 .drop] 0 lostJob (by decide)

/-- Where no claim is taken from a delivery on its way, no delivery of a job runs beside another, and the job is
sent once if it is delivered or about to be, and otherwise never. -/
theorem job_sent_once (calm : Runs.Throughout Dispatch.step Undisturbed {} first)
    (present : tracked ∈ (Runs.final Dispatch.step {} first).jobs) :
    tracked.live.length ≤ 1 ∧
      tracked.sends = if tracked.job.status = .delivered ∨ ∃ delivery ∈ tracked.live, delivery.phase = .sent then 1 else 0 := by
  obtain ⟨idle, sends⟩ | ⟨delivery, one, claimed, sends⟩ := (exclusive_run calm tracked present).cases
  · simpa [idle] using sends
  · simpa [one, claimed] using sends

theorem job_sent_once_delivered : deliveredJob.live.length ≤ 1 ∧ deliveredJob.sends =
    if deliveredJob.job.status = .delivered ∨ ∃ delivery ∈ deliveredJob.live, delivery.phase = .sent then 1 else 0 :=
  @job_sent_once deliveredRun deliveredJob (by decide) (by decide)

theorem Exclusive.closed {dispatch : Dispatch} (alone : Exclusive tracked) (closed : tracked.job.closed) (event : DispatchEvent) :
    dispatch.moved tracked event = tracked := by
  have settled : tracked.job.status = .delivered ∨ tracked.job.status = .failed := by
    simpa [DeliveryJob.closed] using closed
  obtain ⟨idle, -⟩ | ⟨_, _, claimed, _⟩ := alone.cases
  · cases event with
    | wait | enqueue => rfl
    | reap =>
      have current : tracked.job.expired dispatch.now = false := by
        rcases settled with status | status <;> simp [DeliveryJob.expired, status]
      simp [Dispatch.moved, DeliveryJob.reap, current]
    | claim locked =>
      apply if_neg
      intro chosen
      simp [candidates_pending chosen] at settled
    | act id position act => simp [Dispatch.moved, Tracked.goOn, idle]
  · simp [claimed] at settled

/-- A job that is closed in such a run stays as it is, whatever follows. -/
theorem closed_job_stays (calm : Runs.Throughout Dispatch.step Undisturbed {} first)
    (present : tracked ∈ (Runs.final Dispatch.step {} first).jobs) (closed : tracked.job.closed) (more : List DispatchEvent) :
    tracked ∈ (Runs.final Dispatch.step {} (first ++ more)).jobs := by
  have alone : Exclusive tracked := exclusive_run calm tracked present
  rw [Runs.final_append]
  generalize Runs.final Dispatch.step {} first = dispatch at present
  induction more generalizing dispatch with
  | nil => exact present
  | cons event rest ih =>
    apply ih
    cases event with
    | wait => exact present
    | enqueue =>
      rw [Dispatch.step]
      split
      · exact present
      · exact List.mem_append_left _ present
    | reap | claim | act => exact List.mem_map.mpr ⟨tracked, present, alone.closed closed _⟩

theorem closed_job_stays_delivered :
    deliveredJob ∈ (Runs.final Dispatch.step {} (deliveredRun ++ [.claim [], .act 1 0 .send])).jobs :=
  closed_job_stays (by decide) (by decide) (by decide) _

end Runs

end Sprintable.Deliveries
