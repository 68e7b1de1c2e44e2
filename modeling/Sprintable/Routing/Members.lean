import Mathlib.Data.Finset.Image
import Sprintable.Basic

/-! Who is a member of an organisation. A team-member row is a view of the members that are not
deleted and of their places in projects; a person without a place is known by the organisation's own
row. The rules that pick members read both. -/

namespace Sprintable.Routing

inductive MemberType where
  | human | agent
  deriving DecidableEq, Repr

structure Member where
  id : Uuid
  orgId : Uuid
  type : MemberType
  isActive : Bool := true
  deletedAt : Option Nat := none
  deriving DecidableEq, Repr

structure ProjectAccess where
  memberId : Uuid
  projectId : Uuid
  granted : Bool
  deriving DecidableEq, Repr

structure AgentProjectProfile where
  memberId : Uuid
  projectId : Uuid
  deriving DecidableEq, Repr

structure OrgMember where
  id : Uuid
  orgId : Uuid
  deletedAt : Option Nat := none
  deriving DecidableEq, Repr

structure MemberIdentityAlias where
  aliasId : Uuid
  memberId : Uuid
  deriving DecidableEq, Repr

structure TeamMember where
  id : Uuid
  projectId : Uuid
  orgId : Uuid
  type : MemberType
  isActive : Bool
  deriving DecidableEq, Repr

structure Roster where
  members : List Member := []
  projectAccess : List ProjectAccess := []
  profiles : List AgentProjectProfile := []
  orgMembers : List OrgMember := []
  aliases : List MemberIdentityAlias := []
  deriving DecidableEq, Repr

namespace Roster
variable (roster : Roster)

/-- The projects of a member: a person's by access rows, an agent's by profiles and by granted access. -/
def places (member : Member) : List Uuid :=
  let accesses := roster.projectAccess.filter (·.memberId == member.id)
  let profiles := (roster.profiles.filter (·.memberId == member.id)).map (·.projectId)
  match member.type with
  | .human => accesses.map (·.projectId)
  | .agent =>
    profiles ++ (accesses.filter fun access => access.granted && !profiles.contains access.projectId).map (·.projectId)

/-- The view `team_members`. -/
def teamMembers : List TeamMember :=
  (roster.members.filter (·.deletedAt.isNone)).flatMap fun member =>
    (roster.places member).map fun projectId =>
      { id := member.id, projectId, orgId := member.orgId, type := member.type, isActive := member.isActive }

/-- A team-member row of the organisation has this id. -/
def inTeam (orgId id : Uuid) : Bool := roster.teamMembers.any fun row => row.id == id && row.orgId == orgId

/-- An organisation membership that is not deleted has this id. -/
def inOrg (orgId id : Uuid) : Bool :=
  roster.orgMembers.any fun row => row.id == id && row.orgId == orgId && row.deletedAt.isNone

/-- `resolve_member_identity` finds someone. -/
def hasIdentity (orgId id : Uuid) : Bool := roster.inTeam orgId id || roster.inOrg orgId id

def filterOrgMemberIds (orgId : Uuid) (ids : Finset Uuid) : Finset Uuid :=
  let team := ids.filter fun id => roster.inTeam orgId id
  team ∪ (ids \ team).filter fun id => roster.inOrg orgId id

/-- `canonicalize_member_ids`, of one id. -/
def canonicalize (id : Uuid) : Uuid :=
  match roster.aliases.find? (·.aliasId == id) with
  | some row => row.memberId
  | none => id

def orgRecipientIds (orgId : Uuid) (ids : Finset Uuid) : Finset Uuid :=
  roster.filterOrgMemberIds orgId (ids.image roster.canonicalize)

def activeMemberIds (orgId : Uuid) (ids : Finset Uuid) : Finset Uuid :=
  let withRow := ids.filter fun id => roster.inTeam orgId id
  let active := ids.filter fun id => roster.teamMembers.any fun row => row.id == id && row.orgId == orgId && row.isActive
  active ∪ (ids \ withRow).filter fun id => roster.inOrg orgId id

/-- A member of the organisation who is not deleted: an undeleted member with a place in one of its
projects, or an undeleted membership of it. -/
def Living (orgId id : Uuid) : Prop :=
  (∃ member ∈ roster.members, member.id = id ∧ member.orgId = orgId ∧ member.deletedAt = none ∧ roster.places member ≠ []) ∨
    ∃ row ∈ roster.orgMembers, row.id = id ∧ row.orgId = orgId ∧ row.deletedAt = none

instance Living.decidable (orgId id : Uuid) : Decidable (roster.Living orgId id) :=
  inferInstanceAs (Decidable (_ ∨ _))

variable {roster} {orgId id : Uuid}

theorem inTeam_living (found : roster.inTeam orgId id = true) : roster.Living orgId id := by
  obtain ⟨row, inside, same⟩ := List.any_eq_true.mp found
  obtain ⟨member, kept, placed⟩ := List.mem_flatMap.mp inside
  obtain ⟨held, undeleted⟩ := List.mem_filter.mp kept
  obtain ⟨project, place, rfl⟩ := List.mem_map.mp placed
  simp only [Bool.and_eq_true, beq_iff_eq] at same
  exact .inl ⟨member, held, same.1, same.2, Option.isNone_iff_eq_none.mp undeleted, List.ne_nil_of_mem place⟩

theorem inOrg_living (found : roster.inOrg orgId id = true) : roster.Living orgId id := by
  obtain ⟨row, inside, same⟩ := List.any_eq_true.mp found
  simp only [Bool.and_eq_true, beq_iff_eq, Option.isNone_iff_eq_none] at same
  exact .inr ⟨row, inside, same.1.1, same.1.2, same.2⟩

theorem hasIdentity_living (found : roster.hasIdentity orgId id = true) : roster.Living orgId id := by
  rcases Bool.or_eq_true_iff.mp found with team | org
  · exact inTeam_living team
  · exact inOrg_living org

theorem filterOrgMemberIds_living {ids : Finset Uuid} (member : id ∈ roster.filterOrgMemberIds orgId ids) : roster.Living orgId id := by
  rcases Finset.mem_union.mp member with team | rest
  · exact inTeam_living (Finset.mem_filter.mp team).2
  · exact inOrg_living (Finset.mem_filter.mp rest).2

theorem orgRecipientIds_living {ids : Finset Uuid} (member : id ∈ roster.orgRecipientIds orgId ids) : roster.Living orgId id :=
  filterOrgMemberIds_living member

theorem activeMemberIds_living {ids : Finset Uuid} (member : id ∈ roster.activeMemberIds orgId ids) : roster.Living orgId id := by
  rcases Finset.mem_union.mp member with active | rest
  · obtain ⟨row, inside, same⟩ := List.any_eq_true.mp (Finset.mem_filter.mp active).2
    have found : roster.inTeam orgId id = true := List.any_eq_true.mpr ⟨row, inside, (Bool.and_eq_true_iff.mp same).1⟩
    exact inTeam_living found
  · exact inOrg_living (Finset.mem_filter.mp rest).2

end Roster

end Sprintable.Routing
