import Mathlib.Data.List.Dedup
import Sprintable.Basic
import Sprintable.Logic.UniqueRows

/-! The references between entities. What a text refers to is kept as rows of the table, and each time
the text is saved the rows are made to agree with what it refers to now. -/

namespace Sprintable.References

inductive Form where
  | mention | embed | proof
  deriving DecidableEq, Repr

inductive Relation where
  | none | createdFrom
  deriving DecidableEq, Repr

inductive Origin where
  | explicit | auto
  deriving DecidableEq, Repr

/-- `ENTITY_RESOLVERS`, by its keys. -/
def ENTITY_TYPES : List String := ["doc", "story", "epic", "task", "sprint", "artifact", "hypothesis", "evidence"]

def SOURCE_ONLY_TYPES : List String := ["chat_message", "meeting"]

def TARGET_ONLY_TYPES : List String := ["chat_message", "gate", "pull_request", "member"]

def DELETABLE_TYPES : List String := ["doc", "story", "task", "artifact", "pull_request", "member"]

def isValidTargetType (type : String) : Bool := ENTITY_TYPES.contains type || TARGET_ONLY_TYPES.contains type

def isValidSourceType (type : String) : Bool := ENTITY_TYPES.contains type || SOURCE_ONLY_TYPES.contains type

structure Entity where
  type : String
  id : Uuid
  orgId : Uuid
  deletedAt : Option Nat := none
  deriving DecidableEq, Repr

/-- What the resolver of the type finds of this id. A type without a resolver has nothing. -/
def resolves (entities : List Entity) (orgId : Uuid) (type : String) (id : Uuid) : Bool :=
  isValidTargetType type && entities.any fun entity =>
    entity.type == type && entity.id == id && entity.orgId == orgId &&
      (entity.deletedAt.isNone || !DELETABLE_TYPES.contains type)

/-- A field of an entity of the organisation. -/
structure Place where
  orgId : Uuid
  sourceType : String
  sourceField : String
  sourceId : Uuid
  deriving DecidableEq, Repr

/-- What is referred to, and how it shows. -/
structure Target where
  targetType : String
  targetId : Uuid
  form : Form
  deriving DecidableEq, Repr

/-- What a text refers to. The parsers find mentions and embeds only. -/
structure ExtractedRef where
  target : Target
  origin : Origin
  textual : target.form ≠ .proof
  deriving DecidableEq

structure Reference where
  place : Place
  target : Target
  relation : Relation := .none
  origin : Origin := .explicit
  createdBy : Option Uuid := none
  proofPayload : Option String := none
  deriving DecidableEq, Repr

namespace Reference

/-- The columns of `uq_entity_references_non_proof`. The organisation is none of them. -/
def key (row : Reference) : (String × String × Uuid) × Target × Relation :=
  ((row.place.sourceType, row.place.sourceField, row.place.sourceId), row.target, row.relation)

def covered (row : Reference) : Bool := decide (row.target.form ≠ .proof)

def extracted (row : Reference) (textual : row.target.form ≠ .proof) : ExtractedRef := ⟨row.target, row.origin, textual⟩

end Reference

structure Table where
  rows : List Reference := []
  unique : UniqueRows.Unique Reference.covered Reference.key rows := by exact UniqueRows.Unique.nil _ _

inductive ReferenceError where
  | unregisteredSourceType | unregisteredTargetType | uniqueViolation
  deriving DecidableEq, Repr

/-- `insert_reference`. A row that repeats a key of the index is refused by the database. -/
def insertReference (table : Table) (row : Reference) : Except ReferenceError Table :=
  if isValidSourceType row.place.sourceType = false then .error .unregisteredSourceType
  else if isValidTargetType row.target.targetType = false then .error .unregisteredTargetType
  else if (table.rows.any fun held => held.covered && decide (held.key = row.key)) then .error .uniqueViolation
  else .ok ⟨UniqueRows.insert Reference.covered Reference.key table.rows row, table.unique.insert row⟩

inductive DropReason where
  | unregisteredTargetType | targetNotFound
  deriving DecidableEq, Repr

structure Dropped where
  targetType : String
  targetId : Uuid
  reason : DropReason
  deriving DecidableEq, Repr

structure ReconcileResult where
  stored : Nat
  removed : Nat
  dropped : List Dropped
  deriving DecidableEq, Repr

section Reconcile
variable (entities : List Entity) (targetTypes : List String) (place : Place)

def ownEntity (ref : ExtractedRef) : Bool := ref.target.targetType == place.sourceType && ref.target.targetId == place.sourceId

/-- The references of a registered type to other entities. -/
def candidates (extracted : List ExtractedRef) : List ExtractedRef :=
  ((extracted.filter fun ref => targetTypes.contains ref.target.targetType).filter fun ref => !ownEntity place ref).dedup

def found (ref : ExtractedRef) : Bool := resolves entities place.orgId ref.target.targetType ref.target.targetId

def targetRefs (extracted : List ExtractedRef) : List ExtractedRef :=
  (candidates targetTypes place extracted).filter (found entities place)

def dropped (extracted : List ExtractedRef) : List Dropped :=
  ((extracted.filter fun ref => !targetTypes.contains ref.target.targetType).map fun ref =>
    ⟨ref.target.targetType, ref.target.targetId, .unregisteredTargetType⟩) ++
  (((candidates targetTypes place extracted).filter fun ref => !found entities place ref).map fun ref =>
    ⟨ref.target.targetType, ref.target.targetId, .targetNotFound⟩)

def ofPlace (row : Reference) : Option ExtractedRef :=
  if textual : row.target.form ≠ .proof then
    if row.place = place then some (row.extracted textual) else none
  else none

def existingRefs (rows : List Reference) : List ExtractedRef := (rows.filterMap (ofPlace place)).dedup

def staleRefs (rows : List Reference) (targets : List ExtractedRef) : List ExtractedRef :=
  (existingRefs place rows).filter fun ref => !targets.contains ref

/-- The deletion goes by the target, whatever the origin and the relation. -/
def deleteStale (rows : List Reference) (stale : List ExtractedRef) : List Reference :=
  rows.filter fun row => !(decide (row.place = place) && stale.any fun ref => decide (ref.target = row.target))

def newRow (createdBy : Option Uuid) (ref : ExtractedRef) : Reference :=
  { place, target := ref.target, origin := ref.origin, createdBy }

/-- `reconcile_entity_references`. The creator is given as its canonical member. -/
def reconcileEntityReferences (extracted : List ExtractedRef) (createdBy : Option Uuid) (knownNew : Bool) (table : Table) :
    Table × ReconcileResult :=
  let targets := targetRefs entities targetTypes place extracted
  let existing := if knownNew then [] else existingRefs place table.rows
  let stale := if knownNew then [] else staleRefs place table.rows targets
  let new := targets.filter fun ref => !existing.contains ref
  (⟨UniqueRows.insertAll Reference.covered Reference.key (deleteStale place table.rows stale) (new.map (newRow place createdBy)),
      (table.unique.filter _).insertAll _⟩,
    { stored := new.length, removed := stale.length, dropped := dropped entities targetTypes place extracted })

end Reconcile

end Sprintable.References
