import Sprintable.Billing.Moves

/-! What an attempt may leave behind, wherever it is cut off, on the subscription it
is about: one statement for each entry point and each item of a sweep. -/

namespace Sprintable.Billing
open Interleave

/-- The tables hold what they held, but for one subscription and the cards. -/
structure Elsewhere (orgId : Uuid) (before after : Store) : Prop where
  now : after.now = before.now
  offerings : after.offerings = before.offerings
  seats : after.seats = before.seats
  graceDays : after.dunningGraceDays = before.dunningGraceDays
  grants : after.grants = before.grants
  reverts : after.grantReverts = before.grantReverts
  others : ∀ other, other ≠ orgId → after.findSubscription other = before.findSubscription other

section Frames
variable {orgId : Uuid} {store before after : Store}

theorem elsewhere_refl (orgId : Uuid) (store : Store) : Elsewhere orgId store store :=
  ⟨rfl, rfl, rfl, rfl, rfl, rfl, fun _ _ => rfl⟩

theorem Elsewhere.trans {first second third : Store} (early : Elsewhere orgId first second)
    (late : Elsewhere orgId second third) : Elsewhere orgId first third :=
  ⟨late.now.trans early.now, late.offerings.trans early.offerings, late.seats.trans early.seats,
    late.graceDays.trans early.graceDays, late.grants.trans early.grants, late.reverts.trans early.reverts,
    fun other different => (late.others other different).trans (early.others other different)⟩

theorem tables_elsewhere (same : after.toTables = before.toTables) : Elsewhere orgId before after := by
  have lookup : ∀ other, after.findSubscription other = before.findSubscription other := fun other => by
    rw [Store.findSubscription, Store.findSubscription, same]
  exact ⟨by rw [same], by rw [same], by rw [same], by rw [same], by rw [same], by rw [same], fun other _ => lookup other⟩

theorem same_subscription (same : after.toTables = before.toTables) (other : Uuid) :
    after.findSubscription other = before.findSubscription other := by
  rw [Store.findSubscription, Store.findSubscription, same]

theorem update_elsewhere {change : OrgSubscription → OrgSubscription} (kept : ∀ row, (change row).orgId = row.orgId) :
    Elsewhere orgId store (store.updateSubscription orgId change) := by
  refine ⟨rfl, rfl, rfl, rfl, rfl, rfl, fun other different => ?_⟩
  exact (Keyed.find_modify kept).trans (if_neg different.symm)

theorem issue_elsewhere (orgId : Uuid) (store : Store) (answer : Answer) : Elsewhere orgId store (store.issueBillingKey orgId answer).2 := by
  unfold Store.issueBillingKey
  split <;> exact ⟨rfl, rfl, rfl, rfl, rfl, rfl, fun _ _ => rfl⟩

theorem issue_same_books (orgId : Uuid) (store : Store) (answer : Answer) : SameBooks store (store.issueBillingKey orgId answer).2 := by
  unfold Store.issueBillingKey
  split <;> exact ⟨rfl, rfl, rfl, rfl⟩

theorem compute_for_offering_congr (seats : after.seats = before.seats)
    (ledger : after.ledger = before.ledger) (subscription : OrgSubscription) (offering : OfferingVersion) :
    after.computeAmountForOffering subscription offering = before.computeAmountForOffering subscription offering := by
  unfold Store.computeAmountForOffering Store.countHumanSeats Store.computePackChargeMinor
  rw [seats, ledger]

theorem compute_charge_congr (offerings : after.offerings = before.offerings) (seats : after.seats = before.seats)
    (ledger : after.ledger = before.ledger) (subscription : Option OrgSubscription) :
    after.computeChargeAmount subscription = before.computeChargeAmount subscription := by
  unfold Store.computeChargeAmount Store.findOffering
  simp only [offerings, compute_for_offering_congr seats ledger]

end Frames

namespace OrgSubscription

def claimedAt (row : OrgSubscription) (claim : Option Nat) : OrgSubscription := { row with checkoutClaimedAt := claim }

/-- What the claim of a checkout makes of the row. -/
def bought (row : OrgSubscription) (tier : Tier) (billingCycle : BillingCycle) (offeringVersionId : Uuid) (now : Nat) :
    OrgSubscription :=
  { row with
    tier := tier
    billingCycle := some billingCycle
    status := .pending
    currency := some .krw
    offeringVersionId := some offeringVersionId
    currentPeriodStart := some now
    currentPeriodEnd := some (computePeriodEnd now billingCycle)
    checkoutClaimedAt := some now }

/-- What a confirmed tier change makes of the row. -/
def upgraded (row : OrgSubscription) (newTier : Tier) (offeringVersionId : Uuid) (now : Nat) : OrgSubscription :=
  { row with
    tier := newTier
    offeringVersionId := some offeringVersionId
    currentPeriodStart := some now
    currentPeriodEnd := some (computePeriodEnd now .monthly) }

def rolled (row : OrgSubscription) (periodStart : Nat) (billingCycle : BillingCycle) : OrgSubscription :=
  { row with currentPeriodStart := some periodStart, currentPeriodEnd := some (computePeriodEnd periodStart billingCycle) }

end OrgSubscription

/-- The row of an organisation, or the one that its first checkout inserts. -/
def Store.rowOf (store : Store) (orgId : Uuid) : OrgSubscription :=
  (store.findSubscription orgId).getD { id := store.subscriptions.length, orgId }

def Confirmed (store : Store) (orderId : OrderId) : Prop :=
  ∃ order, store.findOrder orderId = some order ∧ order.status = .confirmed

/-- A charge of a computed amount, or none. -/
def Bills (orgId : Uuid) (orderId : OrderId) (computed : Nat × Currency) (entryType : EntryType)
    (ledgerMetadata : Option LedgerMetadata) (before after : Store) : Prop :=
  SameBooks before after ∨
    ∃ positive, Charges (amountCall orgId orderId computed.1 computed.2 entryType ledgerMetadata positive) before after

section Bills
variable {orgId : Uuid} {orderId : OrderId} {computed : Nat × Currency} {entryType : EntryType}
  {ledgerMetadata : Option LedgerMetadata} {first before after last : Store}

theorem Bills.opened (bills : Bills orgId orderId computed entryType ledgerMetadata before after) (same : SameBooks first before) :
    Bills orgId orderId computed entryType ledgerMetadata first after := by
  rcases bills with kept | ⟨positive, charges⟩
  · exact .inl (same.trans kept)
  · exact .inr ⟨positive, charges.opened same⟩

theorem Bills.behind (bills : Bills orgId orderId computed entryType ledgerMetadata before after) (same : SameBooks after last) :
    Bills orgId orderId computed entryType ledgerMetadata before last := by
  rcases bills with kept | ⟨positive, charges⟩
  · exact .inl (kept.trans same)
  · exact .inr ⟨positive, charges.behind same⟩

end Bills

/-- The row is the one that the checkout buys: pending, or active when the order of
the day is confirmed. The amount is that of the row as the session has read it. -/
structure CheckedOut (orgId : Uuid) (tier : Tier) (billingCycle : BillingCycle) (offering : OfferingVersion)
    (before after : Store) : Prop where
  paid : tier ≠ .free
  offered : before.activeOffering tier = some offering
  claimable : ∀ old, before.findSubscription orgId = some old → old.claimable before.now = true ∧
    (old.activePaid = true → old.tier = tier ∧ old.billingCycle = some billingCycle)
  elsewhere : Elsewhere orgId before after
  bills : SameBooks before after ∨ ∃ computed,
    before.computeChargeAmount (some ((before.findSubscription orgId).getD
      ((before.rowOf orgId).bought tier billingCycle offering.id before.now))) = some computed ∧
    Bills orgId (.checkout orgId offering.id (Calendar.date before.now)) computed .charge none before after
  row : ∃ claim, let row := ((before.rowOf orgId).bought tier billingCycle offering.id before.now).claimedAt claim
    after.findSubscription orgId = some row ∨
      (after.findSubscription orgId = some { row with status := .active } ∧
        Confirmed after (.checkout orgId offering.id (Calendar.date before.now)))

/-- The row is as it was, or on the new tier when the order is confirmed. -/
structure TierChanged (tokens : Nat → Prop) (orgId : Uuid) (newTier : Tier) (subscription : OrgSubscription)
    (newOffering : OfferingVersion) (before after : Store) : Prop where
  found : before.findSubscription orgId = some subscription
  offered : before.tierChangeOffering subscription newTier = some newOffering
  elsewhere : Elsewhere orgId before after
  row : ∃ claim, (after.findSubscription orgId = some (subscription.claimedAt claim) ∧ SameBooks before after) ∨
    ∃ token computed, tokens token ∧ before.computeAmountForOffering subscription newOffering = some computed ∧
      Bills orgId (.tierChange orgId newOffering.id token) computed .charge (some (.tierChange subscription.tier newTier))
        before after ∧
      (after.findSubscription orgId = some (subscription.claimedAt claim) ∨
        (after.findSubscription orgId = some ((subscription.upgraded newTier newOffering.id before.now).claimedAt claim) ∧
          Confirmed after (.tierChange orgId newOffering.id token)))

structure PacksBought (orgId : Uuid) (resource : String) (quantity : Int) (idempotencyKey : String) (pack : PackOffer)
    (currency : Currency) (before after : Store) : Prop where
  some_ : 1 ≤ quantity
  offered : before.packOffer orgId resource quantity.toNat = some (pack, currency)
  tables : after.toTables = before.toTables
  bills : Bills orgId (.pack orgId resource idempotencyKey) (pack.priceMinor * quantity.toNat, currency) .packPurchase
    (some (.pack resource quantity.toNat pack.unit)) before after

/-- A due subscription is renewed: its period moves on when the order is confirmed,
and it is past due when not. -/
structure Renewed (subscription : OrgSubscription) (offeringVersionId : Uuid) (periodEnd : Nat) (billingCycle : BillingCycle)
    (before after : Store) : Prop where
  found : before.findSubscription subscription.orgId = some subscription
  due : subscription.due before.now = true
  onOffering : subscription.offeringVersionId = some offeringVersionId
  ends : subscription.currentPeriodEnd = some periodEnd
  cycle : subscription.billingCycle = some billingCycle
  elsewhere : Elsewhere subscription.orgId before after
  bills : ∃ computed, before.computeChargeAmount (some subscription) = some computed ∧
    Bills subscription.orgId (.renewal subscription.orgId offeringVersionId (Calendar.date periodEnd)) computed .charge none
      before after
  row : after.findSubscription subscription.orgId = some subscription ∨
    (after.findSubscription subscription.orgId = some (subscription.rolled periodEnd billingCycle) ∧
      Confirmed after (.renewal subscription.orgId offeringVersionId (Calendar.date periodEnd))) ∨
    after.findSubscription subscription.orgId = some { subscription with status := .pastDue }

/-- A failed order is retried. After the retry of a renewal, the period that the
subscription has now moves on, or the subscription is past due. -/
structure Retried (order : BillingOrder) (before after : Store) : Prop where
  found : before.findOrder order.orderId = some order
  failed : order.status = .failed
  again : nextDunningAction order before.now before.dunningGraceDays = .retry
  elsewhere : Elsewhere order.orgId before after
  charges : Charges order.retryCall before after
  row : after.findSubscription order.orgId = before.findSubscription order.orgId ∨
    order.orderId.isRenewal = true ∧ ∃ subscription, before.findSubscription order.orgId = some subscription ∧
      ((∃ periodEnd billingCycle, subscription.currentPeriodEnd = some periodEnd ∧
          subscription.billingCycle = some billingCycle ∧ Confirmed after order.orderId ∧
          after.findSubscription order.orgId = some { subscription.rolled periodEnd billingCycle with status := .active }) ∨
        after.findSubscription order.orgId = some { subscription with status := .pastDue })

/-- A failed order at the end of its days of grace. -/
structure Downgraded (order : BillingOrder) (before after : Store) : Prop where
  found : before.findOrder order.orderId = some order
  beyond : nextDunningAction order before.now before.dunningGraceDays = .downgradeToFree
  left : after = before.downgradeToFree order.orgId order.orderId

/-- The reconciliation confirms or fails one pending order, and nothing else. -/
structure Reconciled (order : BillingOrder) (before after : Store) : Prop where
  found : before.findOrder order.orderId = some order
  pending : order.status = .pending
  moved : Moved order.retryCall before after

def Attempt.Leaves (tokens : Nat → Prop) (before after : Store) : Attempt → Prop
  | .checkout orgId tier billingCycle => ∃ offering, CheckedOut orgId tier billingCycle offering before after
  | .changeTier orgId newTier => ∃ subscription newOffering, TierChanged tokens orgId newTier subscription newOffering before after
  | .purchasePacks orgId resource quantity idempotencyKey =>
    ∃ pack currency, PacksBought orgId resource quantity idempotencyKey pack currency before after
  | .renew orgId => ∃ subscription offeringVersionId periodEnd billingCycle, subscription.orgId = orgId ∧
      Renewed subscription offeringVersionId periodEnd billingCycle before after
  | .dun orderId => ∃ order, order.orderId = orderId ∧
      (Retried order before after ∨ Downgraded order before after)
  | .reconcile orderId => ∃ order, order.orderId = orderId ∧ Reconciled order before after

end Sprintable.Billing
