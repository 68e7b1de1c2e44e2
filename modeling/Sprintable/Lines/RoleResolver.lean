import Mathlib.Data.Prod.Lex
import Sprintable.Lines.Model
import Sprintable.Logic.Ranked

/-! Who holds a role when a step asks for one. The assignments are tried in order, those of the project
before those of the whole organisation and each by its priority; the first that can stand is taken. -/

namespace Sprintable.Lines

structure TeamMemberRow where
  id : Uuid
  isActive : Bool := true
  deriving DecidableEq, Repr

structure RoleAssignment where
  id : Uuid
  orgId : Uuid
  projectId : Option Uuid := none
  roleKey : String
  memberId : Uuid
  memberType : String
  priority : Int := 100
  isActive : Bool := true
  deputyMemberId : Option Uuid := none
  deputyMemberType : Option String := none
  availabilityStatus : String := "available"
  effectiveFrom : Option Nat := none
  effectiveTo : Option Nat := none
  delegationPolicy : Json := .obj []

structure ResolvedCandidate where
  memberId : Uuid
  memberType : String
  originalApproverMemberId : Option Uuid
  viaDeputy : Bool
  roleAssignmentId : Uuid
  deriving DecidableEq, Repr

structure RoleQuery where
  orgId : Uuid
  roleKey : String
  projectId : Option Uuid := none
  preferHuman : Bool := true
  sodExclude : List Uuid := []
  now : Nat

def unavailable : List String := ["ooo", "unavailable"]

def memberActive (team : List TeamMemberRow) (memberId : Uuid) : Bool :=
  (team.find? (·.id == memberId)).any TeamMemberRow.isActive

namespace RoleAssignment
variable (assignment : RoleAssignment)

def deputyAllowed : Bool := (assignment.delegationPolicy.get "deputy_allowed").truthy

/-- The assigned member, or the deputy of one who is not available. -/
def stand : Option ResolvedCandidate :=
  if assignment.availabilityStatus ∈ unavailable then
    match assignment.deputyMemberId with
    | none => none
    | some deputy =>
      if assignment.deputyAllowed then
        some ⟨deputy, (assignment.deputyMemberType.filter (· ≠ "")).getD "human", some assignment.memberId, true, assignment.id⟩
      else none
  else some ⟨assignment.memberId, assignment.memberType, none, false, assignment.id⟩

end RoleAssignment

namespace RoleQuery
variable (query : RoleQuery) (team : List TeamMemberRow) (assignments : List RoleAssignment)

def rows : List RoleAssignment :=
  assignments.filter fun assignment =>
    assignment.orgId == query.orgId && assignment.roleKey == query.roleKey && assignment.isActive

def projRank (assignment : RoleAssignment) : Nat :=
  if query.projectId.isSome ∧ assignment.projectId = query.projectId then 0
  else if assignment.projectId = none then 1
  else 2

def place (assignment : RoleAssignment) : Nat ×ₗ Int := toLex (query.projRank assignment, assignment.priority)

/-- What one round of the loop returns of an assignment; it goes on to the next at `none`. -/
def candidate (assignment : RoleAssignment) : Option ResolvedCandidate :=
  if query.projRank assignment = 2 then none
  else if assignment.effectiveFrom.any (query.now < ·) then none
  else if assignment.effectiveTo.any (· < query.now) then none
  else
    match assignment.stand with
    | none => none
    | some resolved =>
      if query.preferHuman ∧ resolved.memberType = "agent" then none
      else if !memberActive team resolved.memberId then none
      else if resolved.memberId ∈ query.sodExclude then none
      else some resolved

end RoleQuery

def resolveRoleCandidate (query : RoleQuery) (team : List TeamMemberRow) (assignments : List RoleAssignment) :
    Option ResolvedCandidate :=
  ((query.rows assignments).insertionSort fun first second => query.place first ≤ query.place second).findSome?
    (query.candidate team)

/-- A step without a holder shows it on the board. -/
def resolveOrMarkUnresolved (query : RoleQuery) (team : List TeamMemberRow) (assignments : List RoleAssignment)
    (stepRun : StepRun) : StepRun × Option ResolvedCandidate :=
  match resolveRoleCandidate { query with orgId := stepRun.orgId, projectId := some stepRun.projectId } team assignments with
  | none => ({ stepRun with deliveryStatus := "unresolved_assignee" }, none)
  | some resolved => ({ stepRun with resolvedMemberId := some resolved.memberId }, some resolved)

/-- The assignment lets this person hold the role: the five conditions, each on its own. -/
structure Eligible (query : RoleQuery) (team : List TeamMemberRow) (assignment : RoleAssignment) (who : ResolvedCandidate) :
    Prop where
  asked : assignment.orgId = query.orgId ∧ assignment.roleKey = query.roleKey
  active : assignment.isActive = true
  scope : assignment.projectId = none ∨ assignment.projectId = query.projectId
  started : ∀ start, assignment.effectiveFrom = some start → start ≤ query.now
  running : ∀ finish, assignment.effectiveTo = some finish → query.now ≤ finish
  stands : assignment.stand = some who
  human : query.preferHuman = true → who.memberType ≠ "agent"
  working : memberActive team who.memberId = true
  separate : who.memberId ∉ query.sodExclude

/-- An assignment of the project comes before one of the organisation, then the lower priority. -/
def RoleAssignment.Precedes (first second : RoleAssignment) : Prop :=
  (first.projectId.isSome ∧ second.projectId = none) ∨
    (first.projectId.isSome = second.projectId.isSome ∧ first.priority ≤ second.priority)

section Search
variable {query : RoleQuery} {team : List TeamMemberRow} {assignments : List RoleAssignment} {assignment : RoleAssignment}
  {who : ResolvedCandidate}

theorem in_scope_iff : query.projRank assignment ≠ 2 ↔
    assignment.projectId = none ∨ assignment.projectId = query.projectId := by
  unfold RoleQuery.projRank
  split
  next own => simp [own.2]
  next other =>
    split
    next whole => simp [whole]
    next foreign =>
      have apart : assignment.projectId ≠ query.projectId := by
        intro same
        apply other
        exact ⟨Option.isSome_iff_ne_none.mpr fun none_ => foreign (same.trans none_), same⟩
      simp [foreign, apart]

theorem candidate_iff (listed : assignment ∈ query.rows assignments) :
    query.candidate team assignment = some who ↔ Eligible query team assignment who := by
  obtain ⟨-, selected⟩ := List.mem_filter.mp listed
  simp only [Bool.and_eq_true, beq_iff_eq] at selected
  unfold RoleQuery.candidate
  simp only [Option.ite_none_left_eq_some]
  constructor
  · intro ⟨scope, started, running, stands⟩
    cases standing : assignment.stand with
    | none =>
      rw [standing] at stands
      cases stands
    | some resolved =>
      rw [standing] at stands
      simp only [Option.ite_none_left_eq_some] at stands
      obtain ⟨human, working, separate, same⟩ := stands
      cases same
      refine ⟨selected.1, selected.2, in_scope_iff.mp scope, ?_, ?_, standing, ?_, by simpa using working, separate⟩
      · intro start starts
        simpa [starts] using started
      · intro finish stops
        simpa [stops] using running
      · exact fun wanted agent => human ⟨wanted, agent⟩
  · intro eligible
    refine ⟨in_scope_iff.mpr eligible.scope, ?_, ?_, ?_⟩
    · cases starts : assignment.effectiveFrom with
      | none => exact Bool.false_ne_true
      | some start =>
        have begun := eligible.started start starts
        simpa using begun
    · cases stops : assignment.effectiveTo with
      | none => exact Bool.false_ne_true
      | some finish =>
        have lasting := eligible.running finish stops
        simpa using lasting
    · rw [eligible.stands]
      simp only [Option.ite_none_left_eq_some, eligible.working]
      exact ⟨fun both => eligible.human both.1 both.2, by simp, eligible.separate, trivial⟩

theorem Eligible.listed (eligible : Eligible query team assignment who) (member : assignment ∈ assignments) :
    assignment ∈ query.rows assignments := by
  apply List.mem_filter.mpr
  simp [member, eligible.asked, eligible.active]

theorem Eligible.rank (eligible : Eligible query team assignment who) :
    query.projRank assignment = if assignment.projectId.isSome then 0 else 1 := by
  unfold RoleQuery.projRank
  cases scope : query.projectId with
  | none => rcases eligible.scope with whole | own <;> simp [*]
  | some project => rcases eligible.scope with whole | own <;> simp [*]

theorem resolve_none_iff : resolveRoleCandidate query team assignments = none ↔
    ∀ assignment ∈ assignments, ∀ who, ¬ Eligible query team assignment who := by
  rw [resolveRoleCandidate, Ranked.findSome_none_iff query.place (query.candidate team)]
  constructor
  · intro silent assignment member who eligible
    have standing := (candidate_iff (eligible.listed member)).mpr eligible
    rw [silent assignment (eligible.listed member)] at standing
    cases standing
  · intro nobody assignment listed
    apply Option.eq_none_iff_forall_ne_some.mpr
    intro who answers
    exact nobody assignment (List.mem_of_mem_filter listed) who ((candidate_iff listed).mp answers)

/-- A run is marked exactly where nobody of its project is eligible. -/
theorem unresolved_marked {stepRun : StepRun} (unmarked : stepRun.deliveryStatus ≠ "unresolved_assignee") :
    (resolveOrMarkUnresolved query team assignments stepRun).1.deliveryStatus = "unresolved_assignee" ↔
      ∀ assignment ∈ assignments, ∀ who,
        ¬ Eligible { query with orgId := stepRun.orgId, projectId := some stepRun.projectId } team assignment who := by
  rw [← resolve_none_iff, resolveOrMarkUnresolved]
  split
  next nobody => exact iff_of_true rfl nobody
  next someone => exact iff_of_false unmarked (by simp [someone])

end Search

/-- What the resolution of a role promises: an eligible person whose assignment comes first among all
eligible ones, and nobody exactly where nobody is eligible. -/
structure Resolved (query : RoleQuery) (team : List TeamMemberRow) (assignments : List RoleAssignment)
    (answer : Option ResolvedCandidate) : Prop where
  least : ∀ who, answer = some who → ∃ assignment ∈ assignments, Eligible query team assignment who ∧
    ∀ other ∈ assignments, ∀ rival, Eligible query team other rival → assignment.Precedes other
  nobody : answer = none ↔ ∀ assignment ∈ assignments, ∀ who, ¬ Eligible query team assignment who

end Sprintable.Lines
