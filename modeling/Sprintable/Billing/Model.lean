import Sprintable.Basic
import Sprintable.Logic.Calendar
import Sprintable.Logic.Keyed
import Sprintable.Logic.PyText

/-! The billing tables, the payment provider behind them, and the notes of a run. -/

namespace Sprintable.Billing

inductive Currency where
  | usd | krw
  deriving DecidableEq, Repr

inductive Tier where
  | free | starter | team | business
  deriving DecidableEq, Repr

namespace Tier

def paid : Tier → Bool
  | .free => false
  | .starter | .team | .business => true

def rank : Tier → Nat
  | .free => 0
  | .starter => 1
  | .team => 2
  | .business => 3

end Tier

inductive BillingCycle where
  | monthly | annual
  deriving DecidableEq, Repr

inductive SubscriptionStatus where
  | active | pending | pastDue | canceled
  deriving DecidableEq, Repr

inductive OrderStatus where
  | pending | confirmed | failed | downgraded
  deriving DecidableEq, Repr

inductive EntryType where
  | charge | refund | packPurchase | creditGrant | creditConsume | adjustment
  deriving DecidableEq, Repr

inductive Direction where
  | debit | credit
  deriving DecidableEq, Repr

/-- The parts that the text of an order id is put together from. -/
inductive OrderId where
  | renewal (orgId offeringVersionId : Uuid) (periodEnd : Nat)
  | checkout (orgId offeringVersionId : Uuid) (today : Nat)
  | tierChange (orgId offeringVersionId : Uuid) (token : Nat)
  | pack (orgId : Uuid) (resource idempotencyKey : String)
  deriving DecidableEq, Repr

/-- `order_id.startswith("renewal:")`. -/
def OrderId.isRenewal : OrderId → Bool
  | .renewal .. => true
  | _ => false

/-- A positive amount in the minor unit of its currency; no table takes another. -/
structure Amount where
  minor : Nat
  positive : 0 < minor
  deriving DecidableEq

structure PackOffer where
  priceMinor : Nat
  maxPacks : Option Nat
  unit : String
  deriving DecidableEq, Repr

structure OfferingVersion where
  id : Uuid
  tier : Tier
  currency : Currency
  monthlyPriceMinor : Nat
  annualPriceMinor : Nat
  includedSeats : Nat
  extraSeatPriceMinor : Option Nat := none
  packCatalog : List (String × PackOffer) := []
  effectiveTo : Option Nat := none
  deriving DecidableEq, Repr

structure OrgSubscription where
  id : Uuid
  orgId : Uuid
  tier : Tier := .free
  billingCycle : Option BillingCycle := none
  status : SubscriptionStatus := .active
  currency : Option Currency := none
  currentPeriodStart : Option Nat := none
  currentPeriodEnd : Option Nat := none
  checkoutClaimedAt : Option Nat := none
  offeringVersionId : Option Uuid := none
  pendingTier : Option Tier := none
  pendingOfferingVersionId : Option Uuid := none
  pendingChangeApplyAt : Option Nat := none
  deriving DecidableEq, Repr

structure OrgBillingKey where
  orgId : Uuid
  active : Bool
  issuedAt : Option Nat
  deriving DecidableEq, Repr

abbrev PaymentKey := Nat

structure BillingOrder where
  orgId : Uuid
  orderId : OrderId
  amountMinor : Amount
  currency : Currency
  status : OrderStatus := .pending
  purpose : EntryType := .charge
  paymentKey : Option PaymentKey := none
  failureReason : Option String := none
  createdAt : Nat
  updatedAt : Nat
  deriving DecidableEq

inductive LedgerMetadata where
  | tierChange (fromTier toTier : Tier)
  | pack (resource : String) (quantity : Nat) (unit : String)
  deriving DecidableEq, Repr

structure LedgerEntry where
  orgId : Uuid
  ts : Nat
  entryType : EntryType
  amountMinor : Amount
  currency : Currency
  direction : Direction
  providerRef : Option PaymentKey
  subscriptionId : Option Uuid := none
  entryMetadata : Option LedgerMetadata := none
  deriving DecidableEq

/-- A `credit_grant` entry of the ledger of the kind `tier_grant`, with its metadata. -/
structure TierGrant where
  id : Uuid
  orgId : Uuid
  ts : Nat
  idempotencyKey : String
  amountMinor : Amount
  currency : Currency
  targetTier : Tier
  prevTier : Tier
  grantExpiresAt : Nat
  deriving DecidableEq

/-- A payment that the provider has made, with the amount it was asked for. -/
structure Payment where
  orderId : OrderId
  amount : Amount
  paymentKey : PaymentKey
  deriving DecidableEq

/-- The tables as the statements of `downgrade_to_free` find them, each one its own, and
the instant it takes for now. -/
structure Seen where
  orders : List BillingOrder
  billingKeys : List OrgBillingKey
  now : Nat
  subscriptions : List OrgSubscription
  deriving DecidableEq

/-- What a run did, for the statements about it. No function reads a note. A downgrade
notes what it has seen, and the orders and the subscription that its write finds. -/
inductive Note where
  | reclaimed (orderId : OrderId) (asked stored : Amount)
  | downgrade (orgId : Uuid) (failed : BillingOrder) (seen : Seen) (orders : List BillingOrder)
    (before after : Option OrgSubscription)
  | rolled (orgId : Uuid) (orderId : OrderId)
  deriving DecidableEq

/-- The tables that are neither orders nor ledger. The ledger's entries about grants
stand here too: they have references of their own, and no payment behind them. -/
structure Tables where
  now : Nat
  subscriptions : List OrgSubscription := []
  billingKeys : List OrgBillingKey := []
  offerings : List OfferingVersion := []
  seats : List (Uuid × Nat) := []
  dunningGraceDays : Nat := 7
  grants : List TierGrant := []
  /-- The `reverted_entry_id` of the `tier_grant_revert` entries. -/
  grantReverts : List Uuid := []

/-- The database, the provider's payments, and the notes of the run, newest first. -/
structure Store extends Tables where
  orders : List BillingOrder := []
  ledger : List LedgerEntry := []
  payments : List Payment := []
  history : List Note := []

def staleClaimWindow : Nat := minutes 3

def pendingStaleAfter : Nat := minutes 5

namespace Store
variable (store : Store)

def findOrder (orderId : OrderId) : Option BillingOrder := Keyed.find BillingOrder.orderId store.orders orderId

def findSubscription (orgId : Uuid) : Option OrgSubscription :=
  Keyed.find OrgSubscription.orgId store.subscriptions orgId

def findOffering (id : Uuid) : Option OfferingVersion := Keyed.find OfferingVersion.id store.offerings id

def activeOffering (tier : Tier) : Option OfferingVersion :=
  store.offerings.find? fun offering => offering.tier = tier && offering.currency = .krw && offering.effectiveTo.isNone

def activeBillingKey (orgId : Uuid) : Option OrgBillingKey :=
  store.billingKeys.find? fun key => key.orgId = orgId && key.active

def findPayment (orderId : OrderId) : Option Payment := Keyed.find Payment.orderId store.payments orderId

def note (note : Note) : Store := { store with history := note :: store.history }

def updateOrder (orderId : OrderId) (change : BillingOrder → BillingOrder) : Store :=
  { store with orders := Keyed.modify BillingOrder.orderId store.orders orderId change }

def updateSubscription (orgId : Uuid) (change : OrgSubscription → OrgSubscription) : Store :=
  { store with subscriptions := Keyed.modify OrgSubscription.orgId store.subscriptions orgId change }

/-- `INSERT .. ON CONFLICT (org_id) DO UPDATE .. WHERE`. -/
def upsertSubscription (row : OrgSubscription) (allowed : OrgSubscription → Bool)
    (change : OrgSubscription → OrgSubscription) : Store :=
  match store.findSubscription row.orgId with
  | none => { store with subscriptions := store.subscriptions ++ [row] }
  | some old => if allowed old then store.updateSubscription row.orgId change else store

end Store

/-- No checkout or tier change holds the subscription, or its claim is stale. -/
def OrgSubscription.claimable (subscription : OrgSubscription) (now : Nat) : Bool :=
  subscription.checkoutClaimedAt.all fun claimed => claimed + staleClaimWindow < now

def OrgSubscription.activePaid (subscription : OrgSubscription) : Bool :=
  subscription.status = .active && subscription.tier.paid

end Sprintable.Billing
