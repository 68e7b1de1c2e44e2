import Sprintable.Billing.Lowering

/-! When a granted tier is taken back: by the grant that was made last, once, and
only from the tier that it gave. -/

namespace Sprintable.Billing
open Interleave

def Store.grantsOf (store : Store) (orgId : Uuid) : List TierGrant := store.grants.filter fun grant => grant.orgId = orgId

def revertedGrant (store : Store) (event : ErrandEvent) : Option Uuid :=
  ((errandStep store event).grantReverts.drop store.grantReverts.length).head?

/-- What a revert may be caused by. -/
structure RevertedBy (grant : TierGrant) (before after : Store) : Prop where
  newest : (before.grantsOf grant.orgId).getLast? = some grant
  expired : grant.grantExpiresAt < before.now
  unspent : grant.id ∉ before.grantReverts
  spent : after.grantReverts = before.grantReverts ++ [grant.id]
  row : ∃ subscription, before.findSubscription grant.orgId = some subscription ∧ subscription.tier = grant.targetTier ∧
    after.findSubscription grant.orgId = some (subscription.reverted grant.prevTier)

/-- The sweep leaves everything as it is, or takes back what was granted last. -/
def RevertsNewest (store : Store) (event : ErrandEvent) : Prop :=
  ∀ orgId answers, event = .errand (.revertExpired orgId) answers →
    errandStep store event = store ∨ ∃ grant, grant.orgId = orgId ∧ RevertedBy grant store (errandStep store event)

/-- A sweep that has come to its end would do nothing more. -/
def SweptOut (store : Store) : Prop :=
  ∀ answers again, (sweepExpiredGrants.execute answers store).1 = some () →
    (sweepExpiredGrants.execute again (sweepExpiredGrants.execute answers store).2).2 = (sweepExpiredGrants.execute answers store).2

structure GrantsOrdered (store : Store) : Prop where
  sorted : store.grants.Pairwise fun earlier later => earlier.ts ≤ later.ts
  past : ∀ grant ∈ store.grants, grant.ts ≤ store.now

section Order
variable {store : Store} {event : ErrandEvent} {orgId : Uuid} {grant : TierGrant}

theorem newest_last : ∀ {grants : List TierGrant}, grants.Pairwise (fun earlier later => earlier.ts ≤ later.ts) →
    ∀ first : TierGrant, (∀ grant ∈ grants, first.ts ≤ grant.ts) →
      grants.foldl (fun latest grant =>
        match latest with
        | none => some grant
        | some other => if other.ts ≤ grant.ts then some grant else some other) (some first) = (first :: grants).getLast?
  | [], _, _, _ => rfl
  | grant :: rest, sorted, first, earlier => by
    obtain ⟨before, sorted⟩ := List.pairwise_cons.mp sorted
    rw [List.foldl_cons, List.getLast?_cons_cons]
    dsimp only
    rw [if_pos (earlier grant List.mem_cons_self)]
    exact newest_last sorted grant before

theorem GrantsOrdered.latest (ordered : GrantsOrdered store) (orgId : Uuid) :
    store.latestGrant orgId = (store.grantsOf orgId).getLast? := by
  have sorted : (store.grantsOf orgId).Pairwise fun earlier later => earlier.ts ≤ later.ts := ordered.sorted.filter _
  unfold Store.latestGrant
  change (store.grantsOf orgId).foldl _ none = _
  cases listed : store.grantsOf orgId with
  | nil => rfl
  | cons first rest =>
    rw [listed] at sorted
    obtain ⟨earlier, sorted⟩ := List.pairwise_cons.mp sorted
    exact newest_last sorted first earlier

theorem GrantsOrdered.step (ordered : GrantsOrdered store) (event : ErrandEvent) : GrantsOrdered (errandStep store event) := by
  cases event with
  | meanwhile surroundings =>
    exact ⟨ordered.sorted, fun grant listed => Nat.le_trans (ordered.past grant listed) (Nat.le_add_right _ _)⟩
  | errand errand answers =>
    rcases errand_leaves errand answers store with same | leaves
    · rw [same]
      exact ordered
    · have now := (errand_tables leaves).1
      rcases errand_grants leaves with same | ⟨new, added, _, made, _⟩
      · refine ⟨same ▸ ordered.sorted, fun grant listed => ?_⟩
        rw [now]
        exact ordered.past grant (same ▸ listed)
      · refine ⟨?_, fun grant listed => ?_⟩
        · rw [added, List.pairwise_append]
          refine ⟨ordered.sorted, List.pairwise_singleton _ _, fun earlier old later last => ?_⟩
          rw [List.mem_singleton.mp last, made]
          exact ordered.past earlier old
        · rw [now]
          rcases List.mem_append.mp (added ▸ listed) with old | last
          · exact ordered.past grant old
          · rw [List.mem_singleton.mp last, made]

theorem GrantsOrdered.revertable (ordered : GrantsOrdered store) (listed : grant ∈ store.revertable) :
    (store.grantsOf grant.orgId).getLast? = some grant ∧ grant.id ∉ store.grantReverts := by
  have wanted := (List.mem_filter.mp listed).2
  simp only [Bool.and_eq_true, Bool.not_eq_true', decide_eq_true_eq, List.contains_eq_mem, decide_eq_false_iff_not] at wanted
  rw [← ordered.latest]
  exact wanted

theorem revert_expired_step (ordered : GrantsOrdered store) (orgId : Uuid) (answers : List Answer) :
    errandStep store (.errand (.revertExpired orgId) answers) = store ∨
      ∃ grant, grant.orgId = orgId ∧ RevertedBy grant store (errandStep store (.errand (.revertExpired orgId) answers)) := by
  rcases errand_leaves (.revertExpired orgId) answers store with same | ⟨grant, listed, own, left⟩
  · exact .inl same
  rw [left]
  rcases revert_grant_spec store store.now grant with same | ⟨expired, row, _, _, _, _, spent⟩
  · exact .inl same
  obtain ⟨newest, unspent⟩ := ordered.revertable listed
  refine .inr ⟨grant, own, newest, expired, unspent, ?_, row⟩
  rw [spent, if_neg]
  simpa using unspent

theorem reverts_step (ordered : GrantsOrdered store) (event : ErrandEvent) :
    (errandStep store event).grantReverts = store.grantReverts ∨
      ∃ grant, RevertedBy grant store (errandStep store event) := by
  cases event with
  | meanwhile surroundings => exact .inl rfl
  | errand errand answers =>
    rcases errand_leaves errand answers store with same | leaves
    · exact .inl (congrArg Tables.grantReverts (congrArg Store.toTables same))
    · rcases errand_unmoved leaves with ⟨call, rfl⟩ | ⟨orgId, rfl⟩ | unmoved
      · rw [show errandStep store _ = store.grantCredit call from leaves]
        exact .inl (grant_made store call).2.2.1
      · rcases revert_expired_step ordered orgId answers with same | ⟨grant, _, reverted⟩
        · exact .inl (by rw [same])
        · exact .inr ⟨grant, reverted⟩
      · exact .inl unmoved.reverts

theorem reverted_grant_fresh (ordered : GrantsOrdered store) {id : Uuid} (emitted : revertedGrant store event = some id) :
    id ∉ store.grantReverts ∧ (errandStep store event).grantReverts = store.grantReverts ++ [id] := by
  unfold revertedGrant at emitted
  rcases reverts_step ordered event with same | ⟨grant, reverted⟩
  · rw [same, List.drop_length] at emitted
    cases emitted
  · rw [reverted.spent, List.drop_left, List.head?_cons] at emitted
    obtain rfl := Option.some.inj emitted
    exact ⟨reverted.unspent, reverted.spent⟩

theorem spent_step (ordered : GrantsOrdered store) (event : ErrandEvent) {id : Uuid} (spent : id ∈ store.grantReverts) :
    id ∈ (errandStep store event).grantReverts := by
  rcases reverts_step ordered event with same | ⟨grant, reverted⟩
  · rw [same]
    exact spent
  · rw [reverted.spent]
    exact List.mem_append_left _ spent

end Order

section Sweep
variable {start store : Store} {grant : TierGrant}

/-- A candidate that the sweep would leave alone. -/
def LeftAlone (store : Store) (grant : TierGrant) : Prop :=
  store.now ≤ grant.grantExpiresAt ∨
    (store.findSubscription grant.orgId).map OrgSubscription.tier ≠ some grant.targetTier ∨ grant.id ∈ store.grantReverts

/-- While a sweep runs, `rest` still to come: the other candidates are settled. -/
structure Swept (start : Store) (rest : List TierGrant) (store : Store) : Prop where
  waiting : ∀ grant ∈ rest, grant ∈ start.revertable
  now : store.now = start.now
  grants : store.grants = start.grants
  reverts : ∀ id ∈ start.grantReverts, id ∈ store.grantReverts
  settled : ∀ grant ∈ start.revertable, grant ∈ rest ∨ LeftAlone store grant

theorem latest_same {before after : Store} (same : after.grants = before.grants) (orgId : Uuid) :
    after.latestGrant orgId = before.latestGrant orgId := by
  unfold Store.latestGrant
  rw [same]

theorem revertable_alone {other : TierGrant} (listed : grant ∈ store.revertable) (another : other ∈ store.revertable)
    (same : other.orgId = grant.orgId) : other = grant := by
  have latest : ∀ grant ∈ store.revertable, store.latestGrant grant.orgId = some grant := by
    intro grant listed
    have wanted := (List.mem_filter.mp listed).2
    simp only [Bool.and_eq_true, decide_eq_true_eq] at wanted
    exact wanted.1
  have reached := latest other another
  rw [same, latest grant listed] at reached
  exact (Option.some.inj reached).symm

theorem left_alone (revertable : grant ∈ store.revertable) (settled : LeftAlone store grant) :
    store.revertGrant store.now grant = store := by
  have wanted := (List.mem_filter.mp revertable).2
  simp only [Bool.and_eq_true, Bool.not_eq_true', List.contains_eq_mem, decide_eq_false_iff_not] at wanted
  unfold Store.revertGrant
  rcases settled with early | changed | spent
  · rw [if_pos early]
  · rw [if_pos changed, ite_self]
  · exact absurd spent wanted.2

theorem swept_next {rest : List TierGrant} (swept : Swept start (grant :: rest) store) :
    Swept start rest (store.revertGrant start.now grant) := by
  have listed := swept.waiting grant List.mem_cons_self
  have waiting : ∀ other ∈ rest, other ∈ start.revertable :=
    fun other member => swept.waiting other (List.mem_cons_of_mem grant member)
  have settles : ∀ after : Store, after.now = store.now → after.grants = store.grants →
      (∀ id ∈ store.grantReverts, id ∈ after.grantReverts) → LeftAlone after grant →
      (∀ other, other ≠ grant.orgId → after.findSubscription other = store.findSubscription other) → Swept start rest after := by
    intro after now grants reverts settled others
    refine ⟨waiting, now.trans swept.now, grants.trans swept.grants, fun id spent => reverts id (swept.reverts id spent), ?_⟩
    intro candidate another
    by_cases own : candidate.orgId = grant.orgId
    · rw [revertable_alone listed another own]
      exact .inr settled
    · rcases swept.settled candidate another with waiting | early | changed | spent
      · rcases List.mem_cons.mp waiting with same | later
        · exact absurd (congrArg TierGrant.orgId same) own
        · exact .inl later
      · exact .inr (.inl (now ▸ early))
      · refine .inr (.inr (.inl ?_))
        rw [others _ own]
        exact changed
      · exact .inr (.inr (.inr (reverts _ spent)))
  rcases revert_grant_spec store start.now grant with same | ⟨_, _, others, now, _, grants, spent⟩
  · rw [same]
    refine settles store rfl rfl (fun _ member => member) ?_ (fun _ _ => rfl)
    by_cases early : store.now ≤ grant.grantExpiresAt
    · exact .inl early
    by_cases changed : (store.findSubscription grant.orgId).map OrgSubscription.tier = some grant.targetTier
    · refine .inr (.inr ?_)
      rw [Store.revertGrant, if_neg (swept.now ▸ early), if_neg (not_not.mpr changed)] at same
      have kept := congrArg (fun after : Store => after.grantReverts) same
      dsimp only at kept
      by_contra unspent
      rw [if_neg (by simpa using unspent)] at kept
      exact absurd kept (by simp)
    · exact .inr (.inl changed)
  · refine settles _ now grants ?_ ?_ others
    · intro id member
      rw [spent]
      split
      · exact member
      · exact List.mem_append_left _ member
    · refine .inr (.inr ?_)
      rw [spent]
      split
      next recorded => simpa using recorded
      · exact List.mem_append_right _ List.mem_cons_self

theorem sweep_ends (allowed : Answer → Prop) (start : Store) :
    sweepExpiredGrants.Ends allowed (fun _ after => Swept start [] after) start := by
  refine Prog.Ends.observe fun _ _ => Prog.Ends.observe fun _ _ => ?_
  have initial : Swept start start.revertable start :=
    ⟨fun _ member => member, rfl, rfl, fun _ member => member, fun _ listed => .inl listed⟩
  apply Prog.Ends.forEach initial
  exact fun grant rest store swept answer _ => swept_next swept

theorem Swept.again (swept : Swept start [] store) (listed : grant ∈ store.revertable) : LeftAlone store grant := by
  obtain ⟨member, wanted⟩ := List.mem_filter.mp listed
  simp only [Bool.and_eq_true, Bool.not_eq_true', decide_eq_true_eq, List.contains_eq_mem, decide_eq_false_iff_not] at wanted
  have before : grant ∈ start.revertable := by
    refine List.mem_filter.mpr ⟨swept.grants ▸ member, ?_⟩
    have unspent : grant.id ∉ start.grantReverts := fun spent => wanted.2 (swept.reverts _ spent)
    rw [← latest_same swept.grants, wanted.1]
    simp [unspent]
  rcases swept.settled grant before with waiting | settled
  · cases waiting
  · exact settled

theorem sweep_idle (settled : ∀ grant ∈ store.revertable, LeftAlone store grant) (answers : List Answer) :
    (sweepExpiredGrants.execute answers store).2 = store := by
  have along : sweepExpiredGrants.Along (fun _ => True) (fun after => after = store) (fun _ _ => True) store := by
    refine Prog.Along.observe rfl fun _ _ => Prog.Along.observe rfl fun _ _ => ?_
    refine Prog.Along.weaken (fun _ same => same) (fun _ _ _ _ => True.intro) (Prog.Along.forEach rfl fun grant listed after same => ?_)
    subst same
    have untouched := left_alone listed (settled grant listed)
    exact ⟨rfl, fun _ _ => ⟨untouched, untouched⟩⟩
  exact (along.execute fun _ _ => True.intro).1

theorem swept_out (store : Store) : SweptOut store := by
  intro answers again complete
  have swept : Swept store [] (sweepExpiredGrants.execute answers store).2 :=
    (sweep_ends (fun _ => True) store).execute (fun _ _ => True.intro) complete
  exact sweep_idle (fun _ listed => swept.again listed) again

end Sweep

/-- In every run, only the grant of an organisation that was made last is taken back,
after it has expired and from the tier that it gave; none is taken back twice; and a
sweep that follows a whole one at once changes nothing. -/
theorem grants_expire_once (now : Nat) (events : List ErrandEvent) :
    Runs.Throughout errandStep RevertsNewest (.opened now) events ∧
      (Runs.emitted errandStep revertedGrant (.opened now) events).Nodup ∧
      SweptOut (Runs.final errandStep (.opened now) events) := by
  have opened : GrantsOrdered (.opened now) := ⟨List.Pairwise.nil, nofun⟩
  have kept : ∀ store event, GrantsOrdered store → GrantsOrdered (errandStep store event) :=
    fun _ event ordered => ordered.step event
  have stable : ∀ store event id, GrantsOrdered store → id ∈ store.grantReverts → id ∈ (errandStep store event).grantReverts :=
    fun _ event _ ordered spent => spent_step ordered event spent
  refine ⟨?_, ?_, swept_out _⟩
  · refine Runs.Throughout.carry (fun store event _ => kept store event) opened
      (Runs.Throughout.trivial (fun _ _ => True.intro) _ _) fun store event _ ordered => ?_
    rintro orgId answers rfl
    exact revert_expired_step ordered orgId answers
  · refine Runs.emitted_nodup kept stable (fun _ _ _ ordered spent emitted => ?_) (fun _ _ _ ordered emitted => ?_) opened events
    · exact (reverted_grant_fresh ordered emitted).1 spent
    · rw [(reverted_grant_fresh ordered emitted).2]
      exact List.mem_append_right _ List.mem_cons_self

/-- What is taken back would have lasted longest. -/
def RevertsLatestExpiry (store : Store) (event : ErrandEvent) : Prop :=
  ∀ grant ∈ store.grants, grant.id ∉ store.grantReverts → grant.id ∈ (errandStep store event).grantReverts →
    ∀ other ∈ store.grantsOf grant.orgId, other.grantExpiresAt ≤ grant.grantExpiresAt

instance (store : Store) (event : ErrandEvent) : Decidable (RevertsLatestExpiry store event) := by
  unfold RevertsLatestExpiry
  infer_instance

/-- A grant for a year, a grant of a higher tier for a month on the day after, and
the sweep when that month is over. -/
def shorterGrantLater : List ErrandEvent := [
  daysPass 0, runErrand (.grantCredit ⟨1, .starter, 12, .krw, "year"⟩) {},
  daysPass 1, runErrand (.grantCredit ⟨1, .team, 1, .krw, "month"⟩) {},
  daysPass 40, runErrand (.revertExpired 1) {}]

/-- The grant that expires first is taken back, because it was made last. -/
theorem earlier_expiry_reverted : ¬ Runs.Throughout errandStep RevertsLatestExpiry (.opened noon) shorterGrantLater := by
  decide +kernel

end Sprintable.Billing
