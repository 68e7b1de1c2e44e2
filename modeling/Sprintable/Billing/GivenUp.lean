import Sprintable.Billing.Coverage

/-! What a subscription has given up: the tier from which a change was reserved, and
the time the change is for. The renewals do not look at the reservation. -/

namespace Sprintable.Billing
open Interleave

/-- The billed store, with what each organisation has given up, and when the sweep
moved it to free. -/
structure Standing where
  billed : Billed
  givenUp : Uuid → Option (Tier × Nat) := fun _ => none
  movedAt : Uuid → Option Nat := fun _ => none

def Store.untouched (before after : Store) : Prop := after.subscriptions = before.subscriptions ∧ after.orders = before.orders

instance (before after : Store) : Decidable (before.untouched after) :=
  inferInstanceAs (Decidable (_ = _ ∧ _ = _))

/-- The change that the sweep applies when it comes to the organisation. -/
def Store.fallsTo (store : Store) (orgId : Uuid) : Option Tier := do
  let subscription ← store.findSubscription orgId
  let newTier ← subscription.pendingTier
  let offeringVersionId ← subscription.pendingOfferingVersionId
  let newOffering ← store.findOffering offeringVersionId
  if newTier ≠ .free ∧ newOffering.includedSeats < store.countHumanSeats orgId then none else some newTier

def Store.changePending (store : Store) (orgId : Uuid) : Bool :=
  (store.findSubscription orgId).any fun subscription => subscription.pendingChangeApplyAt.isSome

/-- A reservation gives the tier up. A withdrawal takes that back, and so does what
brings the organisation a tier when no change is pending. -/
def ErrandEvent.givenUp (store : Store) (orgId : Uuid) (old : Option (Tier × Nat)) : ErrandEvent → Option (Tier × Nat)
  | .errand (.reserveDowngrade own _) _ | .errand (.cancelSubscription own) _ =>
    if own = orgId then
      (store.findSubscription orgId).bind fun subscription => subscription.currentPeriodEnd.map fun periodEnd => (subscription.tier, periodEnd)
    else old
  | .errand (.cancelPendingDowngrade own) _ => if own = orgId then none else old
  | .errand (.applyPending own) _ => if own = orgId ∧ (store.fallsTo orgId).isNone then none else old
  | .errand (.attempt (.checkout own _ _)) _ | .errand (.attempt (.changeTier own _)) _ | .errand (.grantCredit ⟨own, _, _, _, _⟩) _ =>
    if own = orgId ∧ store.changePending orgId = false then none else old
  | _ => old

def ErrandEvent.movedAt (store : Store) (orgId : Uuid) (old : Option Nat) : ErrandEvent → Option Nat
  | .errand (.applyPending own) _ => if own = orgId ∧ store.fallsTo orgId = some .free then some store.now else old
  | .errand (.attempt (.checkout own _ _)) _ | .errand (.attempt (.changeTier own _)) _ | .errand (.grantCredit ⟨own, _, _, _, _⟩) _ =>
    if own = orgId then none else old
  | _ => old

def standingStep (state : Standing) (event : ErrandEvent) : Standing where
  billed := billedStep state.billed event
  givenUp orgId :=
    if state.billed.store.untouched (billedStep state.billed event).store then state.givenUp orgId
    else event.givenUp state.billed.store orgId (state.givenUp orgId)
  movedAt orgId :=
    if state.billed.store.untouched (billedStep state.billed event).store then state.movedAt orgId
    else event.movedAt state.billed.store orgId (state.movedAt orgId)

/-- An order of the organisation was asked for, at a tier, for a period. -/
def Billed.Asked (state : Billed) (orgId : Uuid) (tier : Tier) (periodStart : Nat) : Prop :=
  ∃ orderId billingCycle base overage, orderId.orgId = orgId ∧
    state.terms orderId = some (.period tier billingCycle periodStart base overage)

/-- No confirmed order is at a tier that is given up for a period from then on, nor
for a period from a move to free on. -/
structure Honoured (state : Standing) : Prop where
  givenUp : ∀ orgId tier applyAt, state.givenUp orgId = some (tier, applyAt) → ∀ orderId, Confirmed state.billed.store orderId →
    orderId.orgId = orgId → ∀ billingCycle periodStart base overage,
    state.billed.terms orderId = some (.period tier billingCycle periodStart base overage) → periodStart < applyAt
  moved : ∀ orgId movedAt, state.movedAt orgId = some movedAt → ∀ orderId, Confirmed state.billed.store orderId →
    orderId.orgId = orgId → ∀ tier billingCycle periodStart base overage,
    state.billed.terms orderId = some (.period tier billingCycle periodStart base overage) → periodStart < movedAt

/-- The event respects the reservations: no renewal of a subscription whose change
falls with the end of the period, no reservation when the next period has been asked
for, and no purchase while a change is overdue. -/
def Respects (state : Billed) : ErrandEvent → Bool
  | .errand (.attempt (.renew orgId)) _ => (state.store.findSubscription orgId).all fun subscription =>
      !subscription.due state.store.now || subscription.pendingChangeApplyAt.all fun applyAt =>
        subscription.currentPeriodEnd.all fun periodEnd => periodEnd < applyAt
  | .errand (.reserveDowngrade orgId _) _ | .errand (.cancelSubscription orgId) _ =>
    (state.store.activePaidSub orgId).all fun subscription => state.store.orders.all fun order =>
      order.orderId.orgId ≠ orgId || match state.terms order.orderId with
        | some (.period _ _ periodStart _ _) => subscription.currentPeriodEnd.all fun periodEnd => periodStart < periodEnd
        | _ => true
  | .errand (.attempt (.checkout orgId _ _)) _ | .errand (.attempt (.changeTier orgId _)) _ =>
    (state.store.findSubscription orgId).all fun subscription =>
      subscription.pendingChangeApplyAt.all fun applyAt => state.store.now < applyAt
  | _ => true

section Asking
variable {state : Billed} {event : ErrandEvent} {store : Store} {orgId : Uuid} {orderId : OrderId} {tier : Tier} {periodStart : Nat}

/-- What an attempt asks for a period of: from now on, when it is a purchase, and
from the end of the period, when it is a renewal. -/
inductive AsksFor (store : Store) (orgId : Uuid) (tier : Tier) (periodStart : Nat) : Attempt → Prop where
  | checkout {billingCycle : BillingCycle} (now : periodStart = store.now) :
    AsksFor store orgId tier periodStart (.checkout orgId tier billingCycle)
  | changeTier (now : periodStart = store.now) : AsksFor store orgId tier periodStart (.changeTier orgId tier)
  | renew {subscription : OrgSubscription} (found : store.findSubscription orgId = some subscription)
    (due : subscription.due store.now = true) (same : subscription.tier = tier)
    (ends : subscription.currentPeriodEnd = some periodStart) : AsksFor store orgId tier periodStart (.renew orgId)

theorem asks_for {attempt : Attempt} {billingCycle : BillingCycle} {base overage : Nat}
    (asks : attempt.asks store orderId = some (.period tier billingCycle periodStart base overage)) :
    AsksFor store orderId.orgId tier periodStart attempt := by
  cases attempt with
  | checkout own newTier cycle =>
    simp only [Attempt.asks, Option.bind_eq_bind, Option.bind_eq_some_iff] at asks
    obtain ⟨offering, _, asked⟩ := asks
    split at asked
    next same =>
      subst same
      cases asked
      exact .checkout rfl
    next => cases asked
  | changeTier own newTier =>
    cases orderId with
    | tierChange =>
      simp only [Attempt.asks, Option.bind_eq_bind, Option.bind_eq_some_iff] at asks
      obtain ⟨subscription, _, offering, _, asked⟩ := asks
      split at asked
      next same =>
        obtain ⟨rfl, _⟩ := same
        cases asked
        exact .changeTier rfl
      next => cases asked
    | renewal | checkout | pack => cases asks
  | renew own =>
    simp only [Attempt.asks, Option.bind_eq_bind, Option.bind_eq_some_iff] at asks
    obtain ⟨subscription, found, _, _, offering, _, periodEnd, ends, cycle, _, asked⟩ := asks
    split at asked
    next wanted =>
      obtain ⟨due, rfl⟩ := wanted
      cases asked
      exact .renew found due rfl ends
    next => cases asked
  | purchasePacks own resource quantity idempotencyKey =>
    simp only [Attempt.asks, Option.bind_eq_bind, Option.bind_eq_some_iff] at asks
    obtain ⟨offer, _, asked⟩ := asks
    split at asked <;> cases asked
  | dun => cases asks
  | reconcile => cases asks

theorem asked_turn (asked : (billedStep state event).Asked orgId tier periodStart) :
    state.Asked orgId tier periodStart ∨ (¬ state.store.untouched (billedStep state event).store ∧
      ∃ attempt answers, event = .errand (.attempt attempt) answers ∧ AsksFor state.store orgId tier periodStart attempt) := by
  obtain ⟨orderId, billingCycle, base, overage, rfl, terms⟩ := asked
  by_cases same : (billedStep state event).store.findOrder orderId = state.store.findOrder orderId
  · have noted : (billedStep state event).terms orderId = state.terms orderId := if_pos same
    exact .inl ⟨orderId, billingCycle, base, overage, rfl, noted.symm.trans terms⟩
  · have touched : ¬ state.store.untouched (billedStep state event).store := by
      rintro ⟨_, orders⟩
      exact same (by rw [Store.findOrder, Store.findOrder, orders])
    cases billed_turn state event orderId with
    | kept unchanged => exact absurd unchanged same
    | again _ _ _ _ _ noted => exact .inl ⟨orderId, billingCycle, base, overage, rfl, noted.symm.trans terms⟩
    | @asked attempt answers _ _ tried asks _ _ _ _ noted =>
      rw [terms] at noted
      cases noted
      exact .inr ⟨touched, attempt, answers, tried, asks_for asks⟩

end Asking

/-- What the orders asked for, the subscription and its reservation agree on. -/
structure Honest (found : Option OrgSubscription) (asked : Tier → Nat → Prop) (now : Nat) (givenUp : Option (Tier × Nat))
    (movedAt : Option Nat) : Prop where
  past : ∀ tier periodStart, asked tier periodStart → periodStart ≤ now
  missing : found = none → givenUp = none ∧ movedAt = none
  reserved : ∀ subscription applyAt, found = some subscription → subscription.pendingChangeApplyAt = some applyAt →
    (∃ tier, givenUp = some (tier, applyAt) ∧ ∀ newTier, subscription.pendingTier = some newTier → newTier.rank < tier.rank) ∧
      ∀ tier periodStart, asked tier periodStart → periodStart < applyAt
  applied : ∀ subscription tier applyAt, found = some subscription → subscription.pendingChangeApplyAt = none →
    givenUp = some (tier, applyAt) → subscription.tier.rank < tier.rank ∧ ∀ periodStart, asked tier periodStart → periodStart < applyAt
  moved : ∀ subscription moment, found = some subscription → movedAt = some moment →
    subscription.tier = .free ∧ subscription.pendingChangeApplyAt = none ∧ ∀ tier periodStart, asked tier periodStart → periodStart < moment

section Honest
variable {asked later : Tier → Nat → Prop} {now : Nat} {givenUp : Option (Tier × Nat)} {movedAt : Option Nat}
  {subscription row : OrgSubscription} {found : Option OrgSubscription}

theorem Honest.fewer (honest : Honest found asked now givenUp movedAt) (starts : ∀ tier periodStart, later tier periodStart → asked tier periodStart)
    {clock : Nat} (passes : now ≤ clock) : Honest found later clock givenUp movedAt where
  past tier periodStart start := Nat.le_trans (honest.past tier periodStart (starts tier periodStart start)) passes
  missing := honest.missing
  reserved subscription applyAt there pending := by
    obtain ⟨gave, before⟩ := honest.reserved subscription applyAt there pending
    exact ⟨gave, fun tier periodStart start => before tier periodStart (starts tier periodStart start)⟩
  applied subscription tier applyAt there pending gave := by
    obtain ⟨below, before⟩ := honest.applied subscription tier applyAt there pending gave
    exact ⟨below, fun periodStart start => before periodStart (starts tier periodStart start)⟩
  moved subscription moment there moved := by
    obtain ⟨free, pending, before⟩ := honest.moved subscription moment there moved
    exact ⟨free, pending, fun tier periodStart start => before tier periodStart (starts tier periodStart start)⟩

/-- The tier stays or falls, and at most a renewal of the paid tier is asked for, for
a period before the pending change. -/
theorem Honest.turned (honest : Honest (some subscription) asked now givenUp movedAt)
    (pendingTier : row.pendingTier = subscription.pendingTier)
    (applyAt : row.pendingChangeApplyAt = subscription.pendingChangeApplyAt) (lower : row.tier.rank ≤ subscription.tier.rank)
    (starts : ∀ tier periodStart, later tier periodStart → asked tier periodStart ∨
      (tier = subscription.tier ∧ subscription.tier.paid = true ∧ periodStart ≤ now ∧
        ∀ applyAt, subscription.pendingChangeApplyAt = some applyAt → periodStart < applyAt)) :
    Honest (some row) later now givenUp movedAt where
  past tier periodStart start := by
    rcases starts tier periodStart start with old | ⟨_, _, past, _⟩
    · exact honest.past tier periodStart old
    · exact past
  missing none_ := by cases none_
  reserved other date there pending := by
    cases there
    have waits := applyAt.symm.trans pending
    obtain ⟨gave, before⟩ := honest.reserved subscription date rfl waits
    rw [pendingTier]
    refine ⟨gave, fun tier periodStart start => ?_⟩
    rcases starts tier periodStart start with old | ⟨_, _, _, early⟩
    · exact before tier periodStart old
    · exact early date waits
  applied other tier date there pending gave := by
    cases there
    obtain ⟨below, before⟩ := honest.applied subscription tier date rfl (applyAt.symm.trans pending) gave
    refine ⟨Nat.lt_of_le_of_lt lower below, fun periodStart start => ?_⟩
    rcases starts tier periodStart start with old | ⟨same, _⟩
    · exact before periodStart old
    · rw [same] at below
      exact absurd below (Nat.lt_irrefl _)
  moved other moment there moved := by
    cases there
    obtain ⟨free, pending, before⟩ := honest.moved subscription moment rfl moved
    refine ⟨?_, applyAt.trans pending, fun tier periodStart start => ?_⟩
    · rw [free] at lower
      cases tier : row.tier with
      | free => rfl
      | starter | team | business =>
        rw [tier] at lower
        exact absurd lower (by decide)
    · rcases starts tier periodStart start with old | ⟨_, paid, _⟩
      · exact before tier periodStart old
      · rw [free] at paid
        cases paid

/-- A tier is bought or granted: it ends what was given up, unless a change is still
pending. -/
theorem Honest.raised (honest : Honest found asked now givenUp movedAt)
    (pendingTier : row.pendingTier = found.bind OrgSubscription.pendingTier)
    (applyAt : row.pendingChangeApplyAt = found.bind OrgSubscription.pendingChangeApplyAt)
    (starts : ∀ tier periodStart, later tier periodStart → asked tier periodStart ∨
      (periodStart ≤ now ∧ ∀ applyAt, row.pendingChangeApplyAt = some applyAt → periodStart < applyAt)) :
    Honest (some row) later now (if row.pendingChangeApplyAt.isSome then givenUp else none) none where
  past tier periodStart start := by
    rcases starts tier periodStart start with old | ⟨past, _⟩
    · exact honest.past tier periodStart old
    · exact past
  missing none_ := by cases none_
  reserved other date there pending := by
    cases there
    rw [pending, Option.isSome_some, if_pos rfl]
    obtain ⟨subscription, present, waits⟩ := Option.bind_eq_some_iff.mp (applyAt.symm.trans pending)
    subst present
    obtain ⟨gave, before⟩ := honest.reserved subscription date rfl waits
    rw [pendingTier, Option.bind_some]
    refine ⟨gave, fun tier periodStart start => ?_⟩
    rcases starts tier periodStart start with old | ⟨_, early⟩
    · exact before tier periodStart old
    · exact early date pending
  applied other tier date there pending gave := by
    cases there
    rw [pending] at gave
    cases gave
  moved _ _ _ moved := by cases moved

theorem Honest.reserves (honest : Honest (some subscription) asked now givenUp movedAt) (active : subscription.activePaid = true)
    (offeringVersionId : Uuid) {newTier : Tier} {periodEnd : Nat} (lower : newTier.rank < subscription.tier.rank)
    (before : ∀ tier periodStart, asked tier periodStart → periodStart < periodEnd)
    (starts : ∀ tier periodStart, later tier periodStart → asked tier periodStart) :
    Honest (some (subscription.reserve newTier offeringVersionId (some periodEnd))) later now
      (some (subscription.tier, periodEnd)) movedAt where
  past tier periodStart start := honest.past tier periodStart (starts tier periodStart start)
  missing none_ := by cases none_
  reserved other date there pending := by
    cases there
    cases pending
    refine ⟨⟨subscription.tier, rfl, fun tier reserved => ?_⟩, fun tier periodStart start => ?_⟩
    · cases reserved
      exact lower
    · exact before tier periodStart (starts tier periodStart start)
  applied other tier date there pending := by
    cases there
    cases pending
  moved other moment there moved := by
    obtain ⟨free, _⟩ := honest.moved subscription moment rfl moved
    have rank := active_paid_rank active
    rw [free] at rank
    exact absurd rank (Nat.lt_irrefl _)

theorem Honest.withdrawn (honest : Honest (some subscription) asked now givenUp movedAt)
    (starts : ∀ tier periodStart, later tier periodStart → asked tier periodStart) :
    Honest (some subscription.withdrawn) later now none movedAt where
  past tier periodStart start := honest.past tier periodStart (starts tier periodStart start)
  missing none_ := by cases none_
  reserved other date there pending := by
    cases there
    cases pending
  applied _ _ _ _ _ gave := by cases gave
  moved other moment there moved := by
    cases there
    obtain ⟨free, _, before⟩ := honest.moved subscription moment rfl moved
    exact ⟨free, rfl, fun tier periodStart start => before tier periodStart (starts tier periodStart start)⟩

theorem apply_pending_tier (newTier : Tier) (offeringVersionId : Uuid) (clock : Nat) (billingCycle : Option BillingCycle) :
    (subscription.applyPending newTier offeringVersionId clock billingCycle).tier = newTier := by
  unfold OrgSubscription.applyPending
  split
  next free => exact free.symm
  next => rfl

theorem Honest.applies (honest : Honest (some subscription) asked now givenUp movedAt) (due : subscription.changeDue now = true)
    {newTier : Tier} {offeringVersionId : Uuid} (reserved : subscription.pendingTier = some newTier)
    (starts : ∀ tier periodStart, later tier periodStart → asked tier periodStart) :
    Honest (some (subscription.applyPending newTier offeringVersionId now subscription.billingCycle)) later now givenUp
      (if newTier = .free then some now else movedAt) := by
  obtain ⟨applyAt, pending, passed⟩ := Option.any_eq_true _ _ |>.mp due
  obtain ⟨⟨tier, gave, above⟩, before⟩ := honest.reserved subscription applyAt rfl pending
  have late : applyAt ≤ now := of_decide_eq_true passed
  refine ⟨fun tier periodStart start => ?_, nofun, fun other date there waits => ?_, fun other high date there waits gaveUp => ?_,
    fun other moment there moved => ?_⟩
  · exact honest.past tier periodStart (starts tier periodStart start)
  · cases there
    rw [(applied_unreserved _ _ _ _ _).2] at waits
    cases waits
  · cases there
    rw [gave] at gaveUp
    cases gaveUp
    rw [apply_pending_tier]
    exact ⟨above newTier reserved, fun periodStart start => before _ periodStart (starts _ periodStart start)⟩
  · cases there
    split at moved
    next free =>
      cases moved
      rw [apply_pending_tier]
      refine ⟨free, (applied_unreserved _ _ _ _ _).2, fun tier periodStart start => ?_⟩
      exact Nat.lt_of_lt_of_le (before tier periodStart (starts tier periodStart start)) late
    next =>
      have none_ := (honest.moved subscription moment rfl moved).2.1
      rw [pending] at none_
      cases none_

end Honest

def HonestAt (state : Standing) (orgId : Uuid) : Prop :=
  Honest (state.billed.store.findSubscription orgId) (state.billed.Asked orgId) state.billed.store.now (state.givenUp orgId)
    (state.movedAt orgId)

/-- The terms are those of orders that are there, and no grant lowered a tier. -/
structure Upright (state : Standing) : Prop where
  honest : ∀ orgId, HonestAt state orgId
  noted : ∀ orderId, (state.billed.terms orderId).isSome → (state.billed.store.findOrder orderId).isSome
  rises : ∀ grant ∈ state.billed.store.grants, grant.prevTier.rank ≤ grant.targetTier.rank

section Steps
variable {state : Standing} {errand : Errand} {answers : List Answer} {orgId : Uuid} {tokens : Nat → Prop}

theorem quiet_ghosts (other : errand.own ≠ some orgId) (store : Store) (gave : Option (Tier × Nat)) (moved : Option Nat) :
    (ErrandEvent.errand errand answers).givenUp store orgId gave = gave ∧
      (ErrandEvent.errand errand answers).movedAt store orgId moved = moved := by
  have different : ∀ own, errand.own = some own → own ≠ orgId := by
    rintro own same rfl
    exact other same
  cases errand with
  | attempt tried =>
    cases tried with
    | checkout own => exact ⟨if_neg fun same => different own rfl same.1, if_neg (different own rfl)⟩
    | changeTier own => exact ⟨if_neg fun same => different own rfl same.1, if_neg (different own rfl)⟩
    | renew | purchasePacks | dun | reconcile => exact ⟨rfl, rfl⟩
  | reserveDowngrade own => exact ⟨if_neg (different own rfl), rfl⟩
  | cancelSubscription own => exact ⟨if_neg (different own rfl), rfl⟩
  | cancelPendingDowngrade own => exact ⟨if_neg (different own rfl), rfl⟩
  | applyPending own => exact ⟨if_neg fun same => different own rfl same.1, if_neg fun same => different own rfl same.1⟩
  | grantCredit call => exact ⟨if_neg fun same => different call.orgId rfl same.1, if_neg (different call.orgId rfl)⟩
  | revertExpired => exact ⟨rfl, rfl⟩

theorem asks_own {store : Store} {tier : Tier} {periodStart : Nat} {attempt : Attempt}
    (asks : AsksFor store orgId tier periodStart attempt) : (Errand.attempt attempt).own = some orgId := by
  cases asks <;> rfl

theorem change_pending {store : Store} {row : OrgSubscription}
    (applyAt : row.pendingChangeApplyAt = (store.findSubscription orgId).bind OrgSubscription.pendingChangeApplyAt) :
    store.changePending orgId = row.pendingChangeApplyAt.isSome := by
  rw [applyAt, Store.changePending]
  cases store.findSubscription orgId <;> rfl

theorem rowOf_pending (store : Store) (orgId : Uuid) :
    (store.rowOf orgId).pendingTier = (store.findSubscription orgId).bind OrgSubscription.pendingTier ∧
      (store.rowOf orgId).pendingChangeApplyAt = (store.findSubscription orgId).bind OrgSubscription.pendingChangeApplyAt := by
  unfold Store.rowOf
  cases store.findSubscription orgId <;> exact ⟨rfl, rfl⟩

theorem Upright.bought (upright : Upright state) {row : OrgSubscription} {later : Tier → Nat → Prop}
    (pendingTier : row.pendingTier = (state.billed.store.findSubscription orgId).bind OrgSubscription.pendingTier)
    (applyAt : row.pendingChangeApplyAt = (state.billed.store.findSubscription orgId).bind OrgSubscription.pendingChangeApplyAt)
    (starts : ∀ tier periodStart, later tier periodStart → state.billed.Asked orgId tier periodStart ∨
      (periodStart ≤ state.billed.store.now ∧ ∀ applyAt, row.pendingChangeApplyAt = some applyAt → periodStart < applyAt)) :
    Honest (some row) later state.billed.store.now
      (if orgId = orgId ∧ state.billed.store.changePending orgId = false then none else state.givenUp orgId)
      (if orgId = orgId then none else state.movedAt orgId) := by
  have raised := (upright.honest orgId).raised pendingTier applyAt starts
  rw [change_pending applyAt, if_pos rfl]
  cases waits : row.pendingChangeApplyAt.isSome with
  | true =>
    rw [waits, if_pos rfl] at raised
    rw [if_neg (by simp)]
    exact raised
  | false =>
    rw [waits, if_neg Bool.false_ne_true] at raised
    rw [if_pos ⟨rfl, rfl⟩]
    exact raised

theorem purchase_starts {attempt : Attempt} (purchase : (∃ tier billingCycle, attempt = .checkout orgId tier billingCycle) ∨
      ∃ newTier, attempt = .changeTier orgId newTier)
    (respects : Respects state.billed (.errand (.attempt attempt) answers) = true) {row : OrgSubscription}
    (applyAt : row.pendingChangeApplyAt = (state.billed.store.findSubscription orgId).bind OrgSubscription.pendingChangeApplyAt)
    (tier : Tier) (periodStart : Nat) (asked : (billedStep state.billed (.errand (.attempt attempt) answers)).Asked orgId tier periodStart) :
    state.billed.Asked orgId tier periodStart ∨ (periodStart ≤ state.billed.store.now ∧
      ∀ applyAt, row.pendingChangeApplyAt = some applyAt → periodStart < applyAt) := by
  rcases asked_turn asked with old | ⟨_, other, _, same, asks⟩
  · exact .inl old
  cases same
  have early : ∀ applyAt, row.pendingChangeApplyAt = some applyAt → state.billed.store.now < applyAt := by
    intro date pending
    obtain ⟨subscription, found, waits⟩ := Option.bind_eq_some_iff.mp (applyAt.symm.trans pending)
    obtain ⟨_, _, rfl⟩ | ⟨_, rfl⟩ := purchase
    · simpa [Respects, found, waits] using respects
    · simpa [Respects, found, waits] using respects
  have now : periodStart = state.billed.store.now := by
    obtain ⟨_, _, rfl⟩ | ⟨_, rfl⟩ := purchase
    · cases asks with
      | checkout now => exact now
    · cases asks with
      | changeTier now => exact now
  subst now
  exact .inr ⟨Nat.le_refl _, early⟩

theorem reserve_early (upright : Upright state) {subscription : OrgSubscription} {periodEnd : Nat}
    (active : state.billed.store.activePaidSub orgId = some subscription) (ends : subscription.currentPeriodEnd = some periodEnd)
    (respects : (state.billed.store.activePaidSub orgId).all (fun subscription => state.billed.store.orders.all fun order =>
      order.orderId.orgId ≠ orgId || match state.billed.terms order.orderId with
        | some (.period _ _ periodStart _ _) => subscription.currentPeriodEnd.all fun periodEnd => periodStart < periodEnd
        | _ => true) = true)
    {tier : Tier} {periodStart : Nat} (asked : state.billed.Asked orgId tier periodStart) : periodStart < periodEnd := by
  obtain ⟨orderId, billingCycle, base, overage, own, terms⟩ := asked
  obtain ⟨order, found⟩ := Option.isSome_iff_exists.mp (upright.noted orderId (Option.isSome_of_eq_some terms))
  have name : order.orderId = orderId := Keyed.find_key found
  rw [active, Option.all_some, List.all_eq_true] at respects
  have early := respects order (Keyed.find_mem found)
  rw [name, terms] at early
  simpa [own, ends] using early

theorem falls_over {subscription : OrgSubscription} {newTier : Tier} {offeringVersionId : Uuid} {newOffering : OfferingVersion}
    {store : Store} (falls : Falls orgId subscription newTier offeringVersionId newOffering store)
    (beyond : store.overSeats orgId newTier newOffering) : store.fallsTo orgId = none := by
  simp only [Store.fallsTo, falls.found, falls.tier, falls.onOffering, falls.offered, Option.bind_eq_bind, Option.bind_some]
  exact if_pos beyond

theorem falls_fits {subscription : OrgSubscription} {newTier : Tier} {offeringVersionId : Uuid} {newOffering : OfferingVersion}
    {store : Store} (falls : Falls orgId subscription newTier offeringVersionId newOffering store)
    (fits : ¬ store.overSeats orgId newTier newOffering) : store.fallsTo orgId = some newTier := by
  simp only [Store.fallsTo, falls.found, falls.tier, falls.onOffering, falls.offered, Option.bind_eq_bind, Option.bind_some]
  exact if_neg fits

theorem Upright.turn (upright : Upright state) (respects : Respects state.billed (.errand errand answers) = true)
    (touched : ¬ state.billed.store.untouched (billedStep state.billed (.errand errand answers)).store)
    (turn : Turn tokens state.billed.store (billedStep state.billed (.errand errand answers)).store orgId errand) :
    Honest ((billedStep state.billed (.errand errand answers)).store.findSubscription orgId)
      ((billedStep state.billed (.errand errand answers)).Asked orgId) state.billed.store.now
      ((ErrandEvent.errand errand answers).givenUp state.billed.store orgId (state.givenUp orgId))
      ((ErrandEvent.errand errand answers).movedAt state.billed.store orgId (state.movedAt orgId)) := by
  have honest := upright.honest orgId
  have unasked : (∀ attempt, errand = .attempt attempt → (Errand.attempt attempt).own ≠ some orgId) → ∀ tier periodStart,
      (billedStep state.billed (.errand errand answers)).Asked orgId tier periodStart → state.billed.Asked orgId tier periodStart := by
    intro other tier periodStart asked
    rcases asked_turn asked with old | ⟨_, attempt, _, same, asks⟩
    · exact old
    · cases same
      exact absurd (asks_own asks) (other attempt rfl)
  unfold HonestAt at honest
  cases turn with
  | kept quiet same =>
    rcases quiet with other | unchanged
    · obtain ⟨gave, moved⟩ := quiet_ghosts other state.billed.store (state.givenUp orgId) (state.movedAt orgId)
      rw [gave, moved, same]
      refine honest.fewer (unasked ?_) (Nat.le_refl _)
      rintro attempt rfl
      exact other
    · exact absurd ⟨congrArg (fun store => store.subscriptions) unchanged, congrArg Store.orders unchanged⟩ touched
  | checkedOut left =>
    obtain ⟨pendingTier, applyAt⟩ := rowOf_pending state.billed.store orgId
    obtain ⟨claim, pending | ⟨active, _⟩⟩ := left.row
    · rw [pending]
      exact upright.bought pendingTier applyAt (purchase_starts (.inl ⟨_, _, rfl⟩) respects applyAt)
    · rw [active]
      exact upright.bought pendingTier applyAt (purchase_starts (.inl ⟨_, _, rfl⟩) respects applyAt)
  | @tierChanged newTier subscription newOffering left =>
    have pendingTier : subscription.pendingTier = (state.billed.store.findSubscription orgId).bind OrgSubscription.pendingTier := by
      rw [left.found, Option.bind_some]
    have applyAt : subscription.pendingChangeApplyAt =
        (state.billed.store.findSubscription orgId).bind OrgSubscription.pendingChangeApplyAt := by
      rw [left.found, Option.bind_some]
    obtain ⟨claim, ⟨same, _⟩ | ⟨token, computed, _, _, _, same | ⟨upgraded, _⟩⟩⟩ := left.row
    · rw [same]
      exact upright.bought pendingTier applyAt (purchase_starts (.inr ⟨_, rfl⟩) respects applyAt)
    · rw [same]
      exact upright.bought pendingTier applyAt (purchase_starts (.inr ⟨_, rfl⟩) respects applyAt)
    · rw [upgraded]
      exact upright.bought pendingTier applyAt (purchase_starts (.inr ⟨_, rfl⟩) respects applyAt)
  | @renewed subscription offeringVersionId periodEnd billingCycle own left =>
    subst own
    rw [left.found] at honest
    have due := left.due
    simp only [OrgSubscription.due, OrgSubscription.activePaid, left.ends, Bool.and_eq_true, Option.any_some,
      decide_eq_true_eq] at due
    have starts : ∀ tier periodStart,
        (billedStep state.billed (.errand (.attempt (.renew subscription.orgId)) answers)).Asked subscription.orgId tier periodStart →
        state.billed.Asked subscription.orgId tier periodStart ∨ (tier = subscription.tier ∧ subscription.tier.paid = true ∧
          periodStart ≤ state.billed.store.now ∧ ∀ applyAt, subscription.pendingChangeApplyAt = some applyAt → periodStart < applyAt) := by
      intro tier periodStart asked
      rcases asked_turn asked with old | ⟨_, other, _, same, asks⟩
      · exact .inl old
      cases same
      cases asks with
      | renew there _ tier ends =>
        rw [left.found] at there
        cases there
        rw [left.ends] at ends
        cases ends
        refine .inr ⟨tier.symm, due.1.2, due.2, fun applyAt pending => ?_⟩
        simpa [Respects, left.found, left.due, left.ends, pending] using respects
    obtain same | ⟨rolled, _⟩ | lapsed := left.row
    · rw [same]
      exact honest.turned rfl rfl (Nat.le_refl _) starts
    · rw [rolled]
      exact honest.turned rfl rfl (Nat.le_refl _) starts
    · rw [lapsed]
      exact honest.turned rfl rfl (Nat.le_refl _) starts
  | retried own left =>
    subst own
    have starts := unasked fun attempt same => by
      cases same
      intro own_
      cases own_
    obtain same | ⟨_, subscription, there, ⟨periodEnd, billingCycle, _, _, _, rolled⟩ | lapsed⟩ := left.row
    · rw [same]
      exact honest.fewer starts (Nat.le_refl _)
    · rw [there] at honest
      rw [rolled]
      exact honest.turned rfl rfl (Nat.le_refl _) fun tier periodStart start => .inl (starts tier periodStart start)
    · rw [there] at honest
      rw [lapsed]
      exact honest.turned rfl rfl (Nat.le_refl _) fun tier periodStart start => .inl (starts tier periodStart start)
  | freed own left unrecovered there claimable freed =>
    have starts := unasked fun attempt same => by
      cases same
      intro own_
      cases own_
    rw [there] at honest
    rw [freed]
    exact honest.turned rfl rfl (Nat.zero_le _) fun tier periodStart start => .inl (starts tier periodStart start)
  | enrolled own missing enrolled =>
    have starts := unasked fun attempt same => by
      cases same
      intro own_
      cases own_
    rw [missing] at honest
    obtain ⟨gave, moved⟩ := honest.missing rfl
    rw [enrolled, gave, moved]
    exact honest.raised rfl rfl fun tier periodStart start => .inl (starts tier periodStart start)
  | @reserved _ newTier subscription offering request left row =>
    obtain ⟨found, active, endless⟩ := activePaidSub_found left.active
    obtain ⟨periodEnd, ends⟩ := Option.isSome_iff_exists.mp endless
    have starts := unasked fun attempt same => by
      rcases request with rfl | ⟨rfl, _⟩ <;> cases same
    rw [found] at honest
    rw [row, ends]
    have early : ∀ tier periodStart, state.billed.Asked orgId tier periodStart → periodStart < periodEnd := by
      intro tier periodStart asked
      rcases request with rfl | ⟨rfl, _⟩
      · exact reserve_early upright left.active ends respects asked
      · exact reserve_early upright left.active ends respects asked
    have given := honest.reserves active offering.id left.lower early starts
    rcases request with rfl | ⟨rfl, _⟩
    · simpa [ErrandEvent.givenUp, ErrandEvent.movedAt, found, ends] using given
    · simpa [ErrandEvent.givenUp, ErrandEvent.movedAt, found, ends] using given
  | withdrawn there reserved row =>
    have starts := unasked fun attempt same => by cases same
    rw [there] at honest
    rw [row]
    simpa [ErrandEvent.givenUp, ErrandEvent.movedAt] using honest.withdrawn starts
  | overSeats falls beyond row =>
    have starts := unasked fun attempt same => by cases same
    rw [falls.found] at honest
    rw [row]
    simpa [ErrandEvent.givenUp, ErrandEvent.movedAt, falls_over falls beyond] using honest.withdrawn starts
  | applied falls fits row =>
    have starts := unasked fun attempt same => by cases same
    rw [falls.found] at honest
    rw [row]
    simpa [ErrandEvent.givenUp, ErrandEvent.movedAt, falls_fits falls fits] using honest.applies falls.due falls.tier starts
  | @granted call subscription own found higher lasting row recorded =>
    subst own
    have starts := unasked fun attempt same => by cases same
    rw [row]
    cases call
    refine upright.bought ?_ ?_ fun tier periodStart start => .inl (starts tier periodStart start)
    · rcases found with found | ⟨found, rfl⟩ <;> rw [found] <;> rfl
    · rcases found with found | ⟨found, rfl⟩ <;> rw [found] <;> rfl
  | @reverted grant subscription revertable own expired there unchanged row spent =>
    have starts := unasked fun attempt same => by cases same
    rw [there] at honest
    rw [row]
    refine honest.turned rfl rfl ?_ fun tier periodStart start => .inl (starts tier periodStart start)
    rw [unchanged]
    exact upright.rises grant (List.mem_filter.mp revertable).1

theorem Upright.step (upright : Upright state) {event : ErrandEvent} (respects : Respects state.billed event = true) :
    Upright (standingStep state event) := by
  refine ⟨fun orgId => ?_, fun orderId noted => ?_, ?_⟩
  · have passes := (event_tables state.billed.store event).1
    by_cases touched : state.billed.store.untouched (billedStep state.billed event).store
    · have rows : (billedStep state.billed event).store.findSubscription orgId = state.billed.store.findSubscription orgId := by
        rw [Store.findSubscription, Store.findSubscription, touched.1]
      have starts : ∀ tier periodStart, (billedStep state.billed event).Asked orgId tier periodStart →
          state.billed.Asked orgId tier periodStart := by
        intro tier periodStart asked
        rcases asked_turn asked with old | ⟨moved, _⟩
        · exact old
        · exact absurd touched moved
      simp only [HonestAt, standingStep, if_pos touched, rows]
      exact (upright.honest orgId).fewer starts passes
    · cases event with
      | meanwhile surroundings => exact absurd ⟨rfl, rfl⟩ touched
      | errand errand answers =>
        rcases errand_leaves errand answers state.billed.store with same | leaves
        · exact absurd ⟨congrArg (fun store => store.subscriptions) same, congrArg Store.orders same⟩ touched
        · have now : (billedStep state.billed (.errand errand answers)).store.now = state.billed.store.now := (errand_tables leaves).1
          simp only [HonestAt, standingStep, if_neg touched, now]
          exact upright.turn respects touched (errand_turn leaves orgId)
  · change ((billedStep state.billed event).store.findOrder orderId).isSome
    change ((billedStep state.billed event).terms orderId).isSome at noted
    cases billed_turn state.billed event orderId with
    | kept same terms =>
      rw [same]
      exact upright.noted orderId (terms ▸ noted)
    | asked _ _ _ found => exact Option.isSome_of_eq_some found
    | again _ _ _ found => exact Option.isSome_of_eq_some found
  · cases event with
    | meanwhile surroundings => exact upright.rises
    | errand errand answers =>
      rcases errand_leaves errand answers state.billed.store with same | leaves
      · intro grant listed
        refine upright.rises grant ?_
        rw [← same]
        exact listed
      · intro grant listed
        rcases errand_grants leaves with unchanged | ⟨new, added, _, _, rises⟩
        · exact upright.rises grant (unchanged ▸ listed)
        · rcases List.mem_append.mp (added ▸ listed) with old | last
          · exact upright.rises grant old
          · rw [List.mem_singleton.mp last]
            exact rises

theorem Upright.honoured (upright : Upright state) : Honoured state where
  givenUp orgId tier applyAt gave orderId confirmed own billingCycle periodStart base overage terms := by
    have asked : state.billed.Asked orgId tier periodStart := ⟨orderId, billingCycle, base, overage, own, terms⟩
    have honest := upright.honest orgId
    cases found : state.billed.store.findSubscription orgId with
    | none =>
      rw [(honest.missing found).1] at gave
      cases gave
    | some subscription =>
      cases pending : subscription.pendingChangeApplyAt with
      | none => exact (honest.applied subscription tier applyAt found pending gave).2 periodStart asked
      | some date =>
        obtain ⟨⟨_, same, _⟩, before⟩ := honest.reserved subscription date found pending
        rw [gave] at same
        cases same
        exact before tier periodStart asked
  moved orgId movedAt moved orderId confirmed own tier billingCycle periodStart base overage terms := by
    have honest := upright.honest orgId
    cases found : state.billed.store.findSubscription orgId with
    | none =>
      rw [(honest.missing found).2] at moved
      cases moved
    | some subscription =>
      exact (honest.moved subscription movedAt found moved).2.2 tier periodStart ⟨orderId, billingCycle, base, overage, own, terms⟩

end Steps

/-- In every run whose events respect the reservations, nothing is charged at a tier
that was given up for a period from the change on, and nothing for a period from a
move to free on. -/
theorem given_up_not_charged (now : Nat) (events : List ErrandEvent)
    (respects : Runs.Throughout standingStep (fun state event => Respects state.billed event = true)
      { billed := { store := .opened now } } events) :
    Honoured (Runs.final standingStep { billed := { store := .opened now } } events) := by
  have initial : Upright { billed := { store := .opened now } } := by
    refine ⟨fun orgId => ⟨?_, fun _ => ⟨rfl, rfl⟩, ?_, ?_, ?_⟩, ?_, ?_⟩
    · rintro tier periodStart ⟨_, _, _, _, _, terms⟩
      cases terms
    · intro subscription applyAt found
      cases found
    · intro subscription tier applyAt found
      cases found
    · intro subscription moment found
      cases found
    · intro orderId noted
      cases noted
    · intro grant listed
      cases listed
  have kept : ∀ state event, Respects state.billed event = true → Upright state → Upright (standingStep state event) :=
    fun _ _ respects upright => upright.step respects
  exact (respects.invariant kept initial).honoured

section Scenarios

/-- A month is paid, and the subscription is cancelled for its end. -/
def cancelledTeam : List ErrandEvent :=
  [daysPass 0, runErrand (.attempt (.checkout 1 .team .monthly)) {}, runErrand (.cancelSubscription 1) {}]

/-- The end of the month that is paid, and the order that renews it. -/
def teamEnd : Nat := computePeriodEnd noon .monthly

def teamRenewal : OrderId := .renewal 1 8 (Calendar.date teamEnd)

/-- The cron comes a day late: it renews what is due before it applies what is
reserved. -/
theorem cancelled_team_renewed :
    ¬ Honoured (Runs.final standingStep { billed := { store := .opened noon } }
      (cancelledTeam ++ [daysPass 31, runErrand (.attempt (.renew 1)) {}])) := by
  intro honoured
  generalize finished : Runs.final standingStep { billed := { store := .opened noon } }
    (cancelledTeam ++ [daysPass 31, runErrand (.attempt (.renew 1)) {}]) = state at honoured
  have gave : state.givenUp 1 = some (.team, teamEnd) := by
    rw [← finished]
    decide +kernel
  have status : (state.billed.store.findOrder teamRenewal).map BillingOrder.status = some .confirmed := by
    rw [← finished]
    decide +kernel
  have terms : state.billed.terms teamRenewal = some (.period .team .monthly teamEnd 29900 0) := by
    rw [← finished]
    decide +kernel
  obtain ⟨order, found, confirmed⟩ := Option.map_eq_some_iff.mp status
  have early := honoured.givenUp 1 .team teamEnd gave teamRenewal ⟨order, found, confirmed⟩ rfl .monthly teamEnd 29900 0 terms
  exact absurd early (Nat.lt_irrefl teamEnd)

theorem given_up_not_charged_applied :
    Honoured (Runs.final standingStep { billed := { store := .opened noon } }
      (cancelledTeam ++ [daysPass 31, runErrand (.applyPending 1) {}, runErrand (.attempt (.renew 1)) {}])) := by
  apply given_up_not_charged
  decide +kernel

end Scenarios

end Sprintable.Billing
