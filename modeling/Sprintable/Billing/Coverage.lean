import Sprintable.Billing.Lowering
import Sprintable.Billing.Terms

/-! Whether each period of an active paid subscription was paid for: by an order
that was asked for on the terms of that very period. -/

namespace Sprintable.Billing
open Interleave

structure PaysFor (state : Billed) (subscription : OrgSubscription) (periodStart periodEnd : Nat) (orderId : OrderId) : Prop where
  confirmed : Confirmed state.store orderId
  own : orderId.orgId = subscription.orgId
  terms : ∃ billingCycle base overage, periodEnd = computePeriodEnd periodStart billingCycle ∧
    state.terms orderId = some (.period subscription.tier billingCycle periodStart base overage)

def GrantedPeriod (store : Store) (subscription : OrgSubscription) (periodStart periodEnd : Nat) : Prop :=
  ∃ grant ∈ store.grants, grant.orgId = subscription.orgId ∧ grant.ts = periodStart ∧ grant.grantExpiresAt = periodEnd

/-- While the subscription is active on a paid tier, an administrator granted its
period or an order has paid for it. -/
def Covered (state : Billed) (subscription : OrgSubscription) : Prop :=
  subscription.activePaid = true → ∀ periodStart periodEnd, subscription.currentPeriodStart = some periodStart →
    subscription.currentPeriodEnd = some periodEnd →
    GrantedPeriod state.store subscription periodStart periodEnd ∨ ∃ orderId, PaysFor state subscription periodStart periodEnd orderId

def PaidUp (state : Billed) : Prop :=
  ∀ orgId subscription, state.store.findSubscription orgId = some subscription → Covered state subscription

/-- The renewal that the end of this period asks for. -/
def OrderId.renews (orgId : Uuid) (periodEnd : Nat) : OrderId → Bool
  | .renewal own _ day => own = orgId && day = Calendar.date periodEnd
  | _ => false

/-- The event gives no period away: a checkout does not come back to the confirmed
order of the day, a tier change draws a new token, a renewal is retried for the
period that ends, and only a cancellation is applied. -/
def PaysFirst (store : Store) : ErrandEvent → Bool
  | .errand (.attempt (.checkout orgId tier _)) _ => (store.activeOffering tier).all fun offering =>
      (store.findOrder (.checkout orgId offering.id (Calendar.date store.now))).all fun order => order.status ≠ .confirmed
  | .errand (.attempt (.changeTier _ _)) answers => store.orders.all fun order =>
      match order.orderId with
      | .tierChange _ _ token => order.status ≠ .confirmed || answers.all fun answer => answer.token ≠ token
      | _ => true
  | .errand (.attempt (.dun orderId)) _ => (store.findOrder orderId).all fun order =>
      !orderId.isRenewal || nextDunningAction order store.now store.dunningGraceDays ≠ .retry ||
        (store.findSubscription order.orgId).all fun subscription => subscription.currentPeriodEnd.all fun periodEnd =>
          orderId.renews order.orgId periodEnd
  | .errand (.applyPending orgId) _ => (store.findSubscription orgId).all fun subscription =>
      !subscription.changeDue store.now || subscription.status ≠ .active || subscription.pendingTier.all fun newTier =>
        newTier = .free || (subscription.pendingOfferingVersionId.bind store.findOffering).all fun newOffering =>
          newOffering.includedSeats < store.countHumanSeats orgId
  | _ => true

section Renewals
variable {tokens : Nat → Prop} {before after : Store} {orgId : Uuid} {noted : Option Terms} {day : Nat}
  {subscription row : OrgSubscription}

/-- A renewal of an earlier day is in the past of the subscription, and one of the
day that the period ends is for the period that follows. -/
def Ahead (noted : Option Terms) (day : Nat) (subscription : OrgSubscription) : Prop :=
  ∀ periodEnd, subscription.currentPeriodEnd = some periodEnd → day ≤ Calendar.date periodEnd ∧
    (day = Calendar.date periodEnd → subscription.tier.paid = true → ∃ billingCycle base overage,
      subscription.billingCycle = some billingCycle ∧ noted = some (.period subscription.tier billingCycle periodEnd base overage))

theorem date_mono {first last : Nat} (later : first ≤ last) : Calendar.date first ≤ Calendar.date last :=
  Nat.div_le_div_right later

theorem date_lt_periodEnd (periodStart : Nat) (billingCycle : BillingCycle) :
    Calendar.date periodStart < Calendar.date (computePeriodEnd periodStart billingCycle) := by
  cases billingCycle with
  | monthly => exact Calendar.date_lt_addMonths periodStart (by decide)
  | annual => exact Calendar.date_lt_addMonths periodStart (by decide)

theorem ahead_endless (ends : row.currentPeriodEnd = none) : Ahead noted day row := by
  intro periodEnd found
  rw [ends] at found
  cases found

theorem ahead_later {periodEnd : Nat} (ends : row.currentPeriodEnd = some periodEnd) (later : day < Calendar.date periodEnd) :
    Ahead noted day row := by
  intro other found
  rw [ends] at found
  cases found
  exact ⟨Nat.le_of_lt later, fun same => absurd same (Nat.ne_of_lt later)⟩

theorem Ahead.same (ahead : Ahead noted day subscription) (ends : row.currentPeriodEnd = subscription.currentPeriodEnd)
    (cycle : row.billingCycle = subscription.billingCycle) (tier : row.tier = subscription.tier ∨ row.tier = .free) :
    Ahead noted day row := by
  intro periodEnd found
  obtain ⟨past, next⟩ := ahead periodEnd (ends.symm.trans found)
  refine ⟨past, fun same paid => ?_⟩
  rcases tier with tier | free
  · rw [tier] at paid ⊢
    rw [cycle]
    exact next same paid
  · rw [free] at paid
    cases paid

theorem Ahead.rolled (ahead : Ahead noted day subscription) {periodEnd : Nat} (ends : subscription.currentPeriodEnd = some periodEnd)
    {billingCycle : BillingCycle} (next : row.currentPeriodEnd = some (computePeriodEnd periodEnd billingCycle)) :
    Ahead noted day row := by
  apply ahead_later next
  exact Nat.lt_of_le_of_lt (ahead periodEnd ends).1 (date_lt_periodEnd periodEnd billingCycle)

theorem ahead_turn {errand : Errand} (past : day ≤ Calendar.date before.now)
    (ahead : ∀ subscription, before.findSubscription orgId = some subscription → Ahead noted day subscription)
    (turn : Turn tokens before after orgId errand) (found : after.findSubscription orgId = some row) : Ahead noted day row := by
  have later : ∀ billingCycle, day < Calendar.date (computePeriodEnd before.now billingCycle) := fun billingCycle =>
    Nat.lt_of_le_of_lt past (date_lt_periodEnd before.now billingCycle)
  cases turn with
  | kept _ same => exact ahead row (same.symm.trans found)
  | checkedOut left =>
    obtain ⟨claim, pending | ⟨active, _⟩⟩ := left.row
    · rw [Option.some.inj (found.symm.trans pending)]
      exact ahead_later rfl (later _)
    · rw [Option.some.inj (found.symm.trans active)]
      exact ahead_later rfl (later _)
  | tierChanged left =>
    obtain ⟨claim, ⟨same, _⟩ | ⟨token, computed, _, _, _, same | ⟨upgraded, _⟩⟩⟩ := left.row
    · rw [Option.some.inj (found.symm.trans same)]
      exact (ahead _ left.found).same rfl rfl (.inl rfl)
    · rw [Option.some.inj (found.symm.trans same)]
      exact (ahead _ left.found).same rfl rfl (.inl rfl)
    · rw [Option.some.inj (found.symm.trans upgraded)]
      exact ahead_later rfl (later _)
  | renewed own left =>
    subst own
    obtain same | ⟨rolled, _⟩ | lapsed := left.row
    · rw [Option.some.inj (found.symm.trans same)]
      exact ahead _ left.found
    · rw [Option.some.inj (found.symm.trans rolled)]
      exact (ahead _ left.found).rolled left.ends rfl
    · rw [Option.some.inj (found.symm.trans lapsed)]
      exact (ahead _ left.found).same rfl rfl (.inl rfl)
  | retried own left =>
    subst own
    obtain same | ⟨_, subscription, there, ⟨periodEnd, billingCycle, ends, _, _, rolled⟩ | lapsed⟩ := left.row
    · exact ahead row (same.symm.trans found)
    · rw [Option.some.inj (found.symm.trans rolled)]
      exact (ahead _ there).rolled ends rfl
    · rw [Option.some.inj (found.symm.trans lapsed)]
      exact (ahead _ there).same rfl rfl (.inl rfl)
  | freed own left unrecovered there claimable freed =>
    rw [Option.some.inj (found.symm.trans freed)]
    exact (ahead _ there).same rfl rfl (.inr rfl)
  | enrolled own missing enrolled =>
    rw [Option.some.inj (found.symm.trans enrolled)]
    exact ahead_endless rfl
  | reserved request left reserved =>
    rw [Option.some.inj (found.symm.trans reserved)]
    exact (ahead _ (activePaidSub_found left.active).1).same rfl rfl (.inl rfl)
  | withdrawn there _ withdrawn =>
    rw [Option.some.inj (found.symm.trans withdrawn)]
    exact (ahead _ there).same rfl rfl (.inl rfl)
  | overSeats falls beyond withdrawn =>
    rw [Option.some.inj (found.symm.trans withdrawn)]
    exact (ahead _ falls.found).same rfl rfl (.inl rfl)
  | applied falls fits applied =>
    rw [Option.some.inj (found.symm.trans applied)]
    unfold OrgSubscription.applyPending
    split
    · exact ahead_endless rfl
    · exact ahead_later rfl (later _)
  | granted own there higher lasting granted recorded =>
    rw [Option.some.inj (found.symm.trans granted)]
    apply ahead_later rfl
    exact Nat.lt_of_le_of_lt past (Calendar.date_lt_addMonths before.now lasting)
  | reverted revertable own expired there unchanged reverted spent =>
    rw [Option.some.inj (found.symm.trans reverted)]
    exact ahead_endless rfl

/-- A renewal that was asked for is not of a day to come. -/
structure RenewalDated (state : Billed) (orgId offeringVersionId : Uuid) (day : Nat) : Prop where
  past : day ≤ Calendar.date state.store.now
  ahead : ∀ subscription, state.store.findSubscription orgId = some subscription →
    Ahead (state.terms (.renewal orgId offeringVersionId day)) day subscription

def RenewalsDated (state : Billed) : Prop :=
  ∀ orgId offeringVersionId day, (state.store.findOrder (.renewal orgId offeringVersionId day)).isSome →
    RenewalDated state orgId offeringVersionId day

variable {state : Billed} {event : ErrandEvent}

theorem asks_renewal {attempt : Attempt} {store : Store} {offeringVersionId : Uuid} {terms : Terms}
    (asks : attempt.asks store (.renewal orgId offeringVersionId day) = some terms) :
    ∃ subscription periodEnd billingCycle offering, store.findSubscription orgId = some subscription ∧
      subscription.due store.now = true ∧ subscription.currentPeriodEnd = some periodEnd ∧
      subscription.billingCycle = some billingCycle ∧ day = Calendar.date periodEnd ∧
      terms = store.periodTerms orgId offering subscription.tier billingCycle periodEnd := by
  cases attempt with
  | renew own =>
    simp only [Attempt.asks, Option.bind_eq_bind, Option.bind_eq_some_iff] at asks
    obtain ⟨subscription, found, _, _, offering, _, periodEnd, ends, billingCycle, cycle, asked⟩ := asks
    split at asked
    next wanted =>
      obtain ⟨due, same⟩ := wanted
      cases same
      cases asked
      exact ⟨subscription, periodEnd, billingCycle, offering, found, due, ends, cycle, rfl, rfl⟩
    next => cases asked
  | checkout own tier billingCycle => simp [Attempt.asks] at asks
  | purchasePacks own resource quantity idempotencyKey => simp [Attempt.asks] at asks
  | changeTier own newTier => cases asks
  | dun orderId => cases asks
  | reconcile orderId => cases asks

theorem renewal_noted (dated : RenewalsDated state) {offeringVersionId : Uuid}
    (there : ((billedStep state event).store.findOrder (.renewal orgId offeringVersionId day)).isSome) :
    day ≤ Calendar.date state.store.now ∧ ∀ subscription, state.store.findSubscription orgId = some subscription →
      Ahead ((billedStep state event).terms (.renewal orgId offeringVersionId day)) day subscription := by
  cases billed_turn state event (.renewal orgId offeringVersionId day) with
  | kept same noted =>
    rw [same] at there
    rw [noted]
    exact ⟨(dated _ _ _ there).past, (dated _ _ _ there).ahead⟩
  | again unasked found unconfirmed after amount noted =>
    have old := dated orgId offeringVersionId day (Option.isSome_of_eq_some found)
    rw [noted]
    exact ⟨old.past, old.ahead⟩
  | asked tried asks unclosed found stays fresh noted =>
    obtain ⟨subscription, periodEnd, billingCycle, offering, present, due, ends, cycle, rfl, rfl⟩ := asks_renewal asks
    have passed : periodEnd ≤ state.store.now := by
      simp only [OrgSubscription.due, ends, Bool.and_eq_true, Option.any_some, decide_eq_true_eq] at due
      exact due.2
    refine ⟨date_mono passed, fun other same => ?_⟩
    rw [Option.some.inj (same.symm.trans present), noted]
    intro last found
    rw [ends] at found
    cases found
    exact ⟨Nat.le_refl _, fun _ _ => ⟨billingCycle, _, _, cycle, rfl⟩⟩

theorem RenewalsDated.step (dated : RenewalsDated state) (event : ErrandEvent) : RenewalsDated (billedStep state event) := by
  intro orgId offeringVersionId day there
  obtain ⟨past, ahead⟩ := renewal_noted dated there
  refine ⟨Nat.le_trans past (date_mono (event_tables state.store event).1), fun row found => ?_⟩
  cases event with
  | meanwhile surroundings => exact ahead row found
  | errand errand answers =>
    rcases errand_leaves errand answers state.store with same | leaves
    · refine ahead row ?_
      rw [← same]
      exact found
    · exact ahead_turn past ahead (errand_turn leaves orgId) found

end Renewals

section Periods
variable {state : Billed} {event : ErrandEvent} {orgId : Uuid} {subscription row : OrgSubscription} {tokens : Nat → Prop}

theorem covered_idle (idle : row.activePaid = false) : Covered state row := by
  intro active
  rw [idle] at active
  cases active

theorem covered_endless (endless : row.currentPeriodEnd = none) : Covered state row := by
  intro _ periodStart periodEnd _ ends
  rw [endless] at ends
  cases ends

theorem Covered.stays (covered : Covered state subscription) (event : ErrandEvent) (own : row.orgId = subscription.orgId)
    (tier : row.tier = subscription.tier) (active : row.activePaid = true → subscription.activePaid = true)
    (starts : row.currentPeriodStart = subscription.currentPeriodStart)
    (ends : row.currentPeriodEnd = subscription.currentPeriodEnd) : Covered (billedStep state event) row := by
  intro paid periodStart periodEnd started ended
  obtain ⟨grant, listed, granted⟩ | ⟨orderId, pays⟩ :=
    covered (active paid) periodStart periodEnd (starts.symm.trans started) (ends.symm.trans ended)
  · refine .inl ⟨grant, (event_tables state.store event).2 grant listed, ?_⟩
    rw [own]
    exact granted
  · obtain ⟨confirmed, terms⟩ := confirmed_stays pays.confirmed event
    refine .inr ⟨orderId, confirmed, pays.own.trans own.symm, ?_⟩
    rw [terms, tier]
    exact pays.terms

theorem asked_terms {orderId : OrderId} {terms : Terms} (asks : event.asks state.store orderId = some terms)
    (confirmed : Confirmed (billedStep state event).store orderId) (fresh : ¬ Confirmed state.store orderId) :
    (billedStep state event).terms orderId = some terms := by
  cases billed_turn state event orderId with
  | kept same noted =>
    obtain ⟨order, found, status⟩ := confirmed
    exact absurd ⟨order, same.symm.trans found, status⟩ fresh
  | again unasked =>
    rw [unasked] at asks
    cases asks
  | asked tried asked unclosed found stays fresh noted =>
    subst tried
    rw [noted, ← asked]
    exact asks

theorem covered_by {orderId : OrderId} {periodStart base overage : Nat} {billingCycle : BillingCycle}
    (confirmed : Confirmed state.store orderId) (own : orderId.orgId = row.orgId)
    (terms : state.terms orderId = some (.period row.tier billingCycle periodStart base overage))
    (starts : row.currentPeriodStart = some periodStart)
    (ends : row.currentPeriodEnd = some (computePeriodEnd periodStart billingCycle)) : Covered state row := by
  intro _ start last started ended
  cases started.symm.trans starts
  cases ended.symm.trans ends
  exact .inr ⟨orderId, confirmed, own, billingCycle, base, overage, rfl, terms⟩

theorem covered_renewal {offeringVersionId : Uuid} {periodEnd : Nat} {billingCycle : BillingCycle} (dated : RenewalsDated state)
    (found : state.store.findSubscription orgId = some subscription) (ends : subscription.currentPeriodEnd = some periodEnd)
    (cycle : subscription.billingCycle = some billingCycle)
    (confirmed : Confirmed (billedStep state event).store (.renewal orgId offeringVersionId (Calendar.date periodEnd)))
    (own : row.orgId = subscription.orgId) (tier : row.tier = subscription.tier) (starts : row.currentPeriodStart = some periodEnd)
    (next : row.currentPeriodEnd = some (computePeriodEnd periodEnd billingCycle)) : Covered (billedStep state event) row := by
  intro active
  have ⟨order, there, _⟩ := confirmed
  have paid : subscription.tier.paid = true := by
    rw [← tier]
    exact (Bool.and_eq_true _ _ ▸ active).2
  obtain ⟨_, terms⟩ := (renewal_noted dated (Option.isSome_of_eq_some there)).2 subscription found periodEnd ends
  obtain ⟨other, base, overage, same, noted⟩ := terms rfl paid
  rw [cycle] at same
  cases same
  have key : subscription.orgId = orgId := Keyed.find_key found
  have priced : (billedStep state event).terms (.renewal orgId offeringVersionId (Calendar.date periodEnd)) =
      some (.period row.tier billingCycle periodEnd base overage) := by
    rw [tier]
    exact noted
  exact covered_by confirmed (key.symm.trans own.symm) priced starts next active

theorem PaidUp.errand (paidUp : PaidUp state) (dated : RenewalsDated state) {errand : Errand} {answers : List Answer}
    (first : PaysFirst state.store (.errand errand answers) = true)
    (turn : Turn (fun token => ∃ answer ∈ answers, answer.token = token) state.store
      (billedStep state (.errand errand answers)).store orgId errand)
    (found : (billedStep state (.errand errand answers)).store.findSubscription orgId = some row) :
    Covered (billedStep state (.errand errand answers)) row := by
  have key : row.orgId = orgId := Keyed.find_key found
  cases turn with
  | kept _ same => exact (paidUp orgId row (same.symm.trans found)).stays _ rfl rfl id rfl rfl
  | @checkedOut tier billingCycle offering left =>
    obtain ⟨claim, pending | ⟨active, confirmed⟩⟩ := left.row
    · rw [Option.some.inj (found.symm.trans pending)]
      exact covered_idle rfl
    · have unpaid : ¬ Confirmed state.store (.checkout orgId offering.id (Calendar.date state.store.now)) := by
        rintro ⟨order, there, status⟩
        simp [PaysFirst, left.offered, there, status] at first
      have asks : (ErrandEvent.errand (.attempt (.checkout orgId tier billingCycle)) answers).asks state.store
          (.checkout orgId offering.id (Calendar.date state.store.now)) =
          some (state.store.periodTerms orgId offering tier billingCycle state.store.now) := by
        simp only [ErrandEvent.asks, Attempt.asks, left.offered, Option.bind_eq_bind, Option.bind_some, if_true]
      have terms := asked_terms asks confirmed unpaid
      rw [Option.some.inj (found.symm.trans active)] at key ⊢
      exact covered_by confirmed key.symm terms rfl rfl
  | @tierChanged newTier subscription newOffering left =>
    obtain ⟨claim, ⟨same, _⟩ | ⟨token, computed, drawn, _, _, same | ⟨upgraded, confirmed⟩⟩⟩ := left.row
    · rw [Option.some.inj (found.symm.trans same)]
      exact (paidUp orgId subscription left.found).stays _ rfl rfl id rfl rfl
    · rw [Option.some.inj (found.symm.trans same)]
      exact (paidUp orgId subscription left.found).stays _ rfl rfl id rfl rfl
    · have unpaid : ¬ Confirmed state.store (.tierChange orgId newOffering.id token) := by
        rintro ⟨order, there, status⟩
        have name : order.orderId = .tierChange orgId newOffering.id token := Keyed.find_key there
        obtain ⟨answer, listed, same⟩ := drawn
        rw [PaysFirst, List.all_eq_true] at first
        have spent := first order (Keyed.find_mem there)
        rw [name] at spent
        simp only [status, Bool.or_eq_true, List.all_eq_true, decide_eq_true_eq] at spent
        rcases spent with unconfirmed | fresh
        · exact absurd rfl unconfirmed
        · exact absurd same (fresh answer listed)
      have asks : (ErrandEvent.errand (.attempt (.changeTier orgId newTier)) answers).asks state.store
          (.tierChange orgId newOffering.id token) =
          some (state.store.periodTerms orgId newOffering newTier .monthly state.store.now) := by
        simp only [ErrandEvent.asks, Attempt.asks, left.found, left.offered, Option.bind_eq_bind, Option.bind_some, and_self, if_true]
      have terms := asked_terms asks confirmed unpaid
      rw [Option.some.inj (found.symm.trans upgraded)] at key ⊢
      exact covered_by confirmed key.symm terms rfl rfl
  | renewed own left =>
    subst own
    have covered := paidUp _ _ left.found
    obtain same | ⟨rolled, confirmed⟩ | lapsed := left.row
    · rw [Option.some.inj (found.symm.trans same)]
      exact covered.stays _ rfl rfl id rfl rfl
    · rw [Option.some.inj (found.symm.trans rolled)]
      exact covered_renewal dated left.found left.ends left.cycle confirmed rfl rfl rfl rfl
    · rw [Option.some.inj (found.symm.trans lapsed)]
      exact covered_idle rfl
  | @retried order own left =>
    subst own
    obtain same | ⟨renewal, subscription, there, ⟨periodEnd, billingCycle, ends, cycle, confirmed, rolled⟩ | lapsed⟩ := left.row
    · exact (paidUp _ row (same.symm.trans found)).stays _ rfl rfl id rfl rfl
    · have renews : order.orderId.renews order.orgId periodEnd = true := by
        simpa [PaysFirst, left.found, renewal, left.again, there, ends] using first
      cases name : order.orderId with
      | renewal own offeringVersionId day =>
        simp only [name, OrderId.renews, Bool.and_eq_true, decide_eq_true_eq] at renews
        obtain ⟨rfl, rfl⟩ := renews
        rw [Option.some.inj (found.symm.trans rolled)]
        rw [name] at confirmed
        exact covered_renewal dated there ends cycle confirmed rfl rfl rfl rfl
      | checkout | tierChange | pack =>
        rw [name] at renews
        cases renews
    · rw [Option.some.inj (found.symm.trans lapsed)]
      exact covered_idle rfl
  | freed own left unrecovered there claimable freed =>
    rw [Option.some.inj (found.symm.trans freed)]
    exact covered_idle rfl
  | enrolled own missing enrolled =>
    rw [Option.some.inj (found.symm.trans enrolled)]
    exact covered_idle rfl
  | reserved request left reserved =>
    rw [Option.some.inj (found.symm.trans reserved)]
    exact (paidUp _ _ (activePaidSub_found left.active).1).stays _ rfl rfl id rfl rfl
  | withdrawn there _ withdrawn =>
    rw [Option.some.inj (found.symm.trans withdrawn)]
    exact (paidUp _ _ there).stays _ rfl rfl id rfl rfl
  | overSeats falls beyond withdrawn =>
    rw [Option.some.inj (found.symm.trans withdrawn)]
    exact (paidUp _ _ falls.found).stays _ rfl rfl id rfl rfl
  | @applied subscription newTier offeringVersionId newOffering falls fits applied =>
    rw [Option.some.inj (found.symm.trans applied)]
    by_cases free : newTier = .free
    · subst free
      exact covered_endless rfl
    · apply covered_idle
      have seated : ¬ newOffering.includedSeats < state.store.countHumanSeats orgId := fun beyond => fits ⟨free, beyond⟩
      have inactive : subscription.status ≠ .active := by
        simpa [PaysFirst, falls.found, falls.due, falls.tier, falls.onOffering, falls.offered, free, seated] using first
      unfold OrgSubscription.applyPending OrgSubscription.activePaid
      rw [if_neg free]
      simp [OrgSubscription.withdrawn, inactive]
  | granted own there higher lasting granted recorded =>
    obtain ⟨grant, grants, granteeIs, since, until_, _⟩ := recorded
    rw [Option.some.inj (found.symm.trans granted)] at key ⊢
    intro _ periodStart periodEnd started ended
    cases started
    cases ended
    refine .inl ⟨grant, ?_, granteeIs.trans key.symm, since, until_⟩
    rw [grants]
    exact List.mem_append_right _ (List.mem_singleton_self _)
  | reverted revertable own expired there unchanged reverted spent =>
    rw [Option.some.inj (found.symm.trans reverted)]
    exact covered_endless rfl

theorem PaidUp.step (paidUp : PaidUp state) (dated : RenewalsDated state) (first : PaysFirst state.store event = true) :
    PaidUp (billedStep state event) := by
  intro orgId row found
  cases event with
  | meanwhile surroundings => exact (paidUp orgId row found).stays _ rfl rfl id rfl rfl
  | errand errand answers =>
    rcases errand_leaves errand answers state.store with same | leaves
    · have kept : (billedStep state (.errand errand answers)).store.findSubscription orgId = state.store.findSubscription orgId :=
        congrArg (Store.findSubscription · orgId) same
      exact paidUp.errand dated first (.kept (.inr same) kept) found
    · exact paidUp.errand dated first (errand_turn leaves orgId) found

end Periods

/-- In every run whose events give no period away, each period of an active paid
subscription that was not granted was paid for. -/
theorem paid_periods_covered (now : Nat) (events : List ErrandEvent)
    (first : Runs.Throughout billedStep (fun state event => PaysFirst state.store event = true) { store := .opened now } events) :
    PaidUp (Runs.final billedStep { store := .opened now } events) := by
  have initial : PaidUp { store := .opened now } ∧ RenewalsDated { store := .opened now } := by
    refine ⟨fun orgId subscription found => ?_, fun orgId offeringVersionId day there => ?_⟩
    · cases found
    · cases there
  have kept : ∀ state event, PaysFirst state.store event = true → PaidUp state ∧ RenewalsDated state →
      PaidUp (billedStep state event) ∧ RenewalsDated (billedStep state event) := by
    rintro state event first ⟨paidUp, dated⟩
    exact ⟨paidUp.step dated first, dated.step event⟩
  exact (first.invariant kept initial).1

section Scenarios

/-- A day after the period is over, the cron renews it, and then puts the
subscription on the tier that was reserved. -/
def changedAfterRenewal : List ErrandEvent :=
  teamToStarter ++ [daysPass 31, runErrand (.attempt (.renew 1)) {}, runErrand (.applyPending 1) {}]

/-- The order pays for a period that starts at some other time. -/
def paysElsewhere (state : Billed) (order : BillingOrder) : Bool :=
  match state.terms order.orderId with
  | some (.period _ _ periodStart _ _) => periodStart ≠ state.store.now
  | _ => false

/-- No order pays for the month that starts when the change is applied. -/
theorem applied_change_unpaid : ¬ PaidUp (Runs.final billedStep { store := .opened noon } changedAfterRenewal) := by
  intro paidUp
  generalize finished : Runs.final billedStep { store := .opened noon } changedAfterRenewal = state at paidUp
  have row : (state.store.findSubscription 1).map (fun subscription => (subscription.activePaid,
      subscription.currentPeriodStart, subscription.currentPeriodEnd.isSome)) = some (true, some state.store.now, true) := by
    rw [← finished]
    decide +kernel
  have ungranted : state.store.grants.isEmpty = true := by
    rw [← finished]
    decide +kernel
  have others : state.store.orders.all (paysElsewhere state) = true := by
    rw [← finished]
    decide +kernel
  obtain ⟨subscription, found, columns⟩ := Option.map_eq_some_iff.mp row
  simp only [Prod.mk.injEq] at columns
  obtain ⟨active, starts, ends⟩ := columns
  obtain ⟨periodEnd, ended⟩ := Option.isSome_iff_exists.mp ends
  rcases paidUp 1 subscription found active state.store.now periodEnd starts ended with ⟨grant, listed, _⟩ | ⟨orderId, pays⟩
  · rw [List.isEmpty_iff.mp ungranted] at listed
    cases listed
  · obtain ⟨order, there, _⟩ := pays.confirmed
    obtain ⟨billingCycle, base, overage, _, terms⟩ := pays.terms
    have name : order.orderId = orderId := Keyed.find_key there
    have other := List.all_eq_true.mp others order (Keyed.find_mem there)
    rw [paysElsewhere, name, terms] at other
    simp at other

theorem paid_periods_covered_renewal :
    PaidUp (Runs.final billedStep { store := .opened noon }
      [daysPass 0, runErrand (.attempt (.checkout 1 .team .monthly)) {}, runErrand (.cancelSubscription 1) {}, daysPass 31,
        runErrand (.attempt (.renew 1)) {}, runErrand (.applyPending 1) {}]) := by
  apply paid_periods_covered
  decide +kernel

end Scenarios

end Sprintable.Billing
