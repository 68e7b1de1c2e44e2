import Mathlib.Data.List.Sort
import Sprintable.Basic
import Sprintable.Logic.PyText

/-! Organisations, who is in them, and what each person may open. A team-member row is a view of a
member and of a placement, so its organisation is the member's and its project is the placement's. -/

namespace Sprintable.Organizations

structure OrgMember where
  id : Uuid
  orgId : Uuid
  userId : Uuid
  role : String := "member"
  createdAt : Nat
  deletedAt : Option Nat := none
  deriving DecidableEq, Repr

structure Project where
  id : Uuid
  orgId : Uuid
  createdAt : Nat
  deletedAt : Option Nat := none
  deriving DecidableEq, Repr

inductive MemberType where
  | human | agent
  deriving DecidableEq, Repr

structure Member where
  id : Uuid
  orgId : Uuid
  type : MemberType
  userId : Option Uuid := none
  isActive : Bool := true
  createdAt : Nat
  deletedAt : Option Nat := none
  deriving DecidableEq, Repr

structure ProjectAccess where
  projectId : Uuid
  orgMemberId : Option Uuid := none
  memberId : Option Uuid := none
  permission : String := "granted"
  role : String := "member"
  createdAt : Nat
  deriving DecidableEq, Repr

structure AgentProjectProfile where
  memberId : Uuid
  projectId : Uuid
  deriving DecidableEq, Repr

structure TeamMember where
  id : Uuid
  projectId : Uuid
  orgId : Uuid
  userId : Option Uuid
  type : MemberType
  role : String
  isActive : Bool
  createdAt : Nat
  deriving DecidableEq, Repr

inductive InviteStatus where
  | pending | accepted | revoked
  deriving DecidableEq, Repr

structure OrgInvite where
  id : Uuid
  token : String
  organizationId : Uuid
  email : String
  role : String := "member"
  status : InviteStatus := .pending
  projectIds : List Uuid := []
  createdAt : Nat
  expiresAt : Nat
  deriving DecidableEq, Repr

/-- The columns of an account that a session's context is resolved from. -/
structure User where
  id : Uuid
  email : String
  emailVerified : Bool := false
  isActive : Bool := true
  passwordSetAt : Option Nat := none
  lastProjectId : Option Uuid := none
  lastOrgId : Option Uuid := none
  deriving DecidableEq, Repr

structure Directory where
  organizations : List Uuid := []
  orgMembers : List OrgMember := []
  projects : List Project := []
  members : List Member := []
  projectAccess : List ProjectAccess := []
  profiles : List AgentProjectProfile := []
  invites : List OrgInvite := []
  deriving DecidableEq, Repr

/-- The first row by a creation time and an id, as `ORDER BY created_at, id LIMIT 1` picks it. -/
def earliest {α : Type} (createdAt id : α → Nat) (rows : List α) : Option α :=
  (rows.insertionSort fun first second =>
    createdAt first < createdAt second ∨ createdAt first = createdAt second ∧ id first ≤ id second).head?

theorem earliest_mem {α : Type} {createdAt id : α → Nat} {rows : List α} {row : α}
    (picked : earliest createdAt id rows = some row) : row ∈ rows :=
  (List.mem_insertionSort _).mp (List.mem_of_head? picked)

/-- The first row by its creation time. Rows of one time come in the order of the table. -/
def oldest {α : Type} (createdAt : α → Nat) (rows : List α) : Option α := earliest createdAt (fun _ => 0) rows

def ROLE_RANK (role : String) : Nat :=
  if role = "owner" then 4 else if role = "admin" then 3 else if role = "manager" then 2 else if role = "member" then 1 else 0

def PROJECT_ROLES : List String := ["owner", "admin", "member"]

def clampProjectRole (role : String) : String := if role ∈ PROJECT_ROLES then role else "member"

/-- The comparison form of an address: spaces around it dropped, in small letters. -/
def inviteEmailKey (email : String) : String :=
  let trimmed := fun (text : List Char) => text.dropWhile (· ∈ [' ', '\t', '\r', '\n'])
  PyText.lower (String.ofList (trimmed (trimmed email.toList).reverse).reverse)

namespace Directory
variable (directory : Directory)

def project? (id : Uuid) : Option Project := directory.projects.find? (·.id == id)

def liveProject (id : Uuid) : Option Project := (directory.project? id).filter (·.deletedAt.isNone)

def projectOrg (id : Uuid) : Option Uuid := (directory.project? id).map (·.orgId)

/-- The memberships of a person that are not deleted, whether or not the organisation still exists. -/
def memberships (userId : Uuid) : List OrgMember :=
  directory.orgMembers.filter fun row => row.userId == userId && row.deletedAt.isNone

def orgRole (userId orgId : Uuid) : Option String :=
  ((directory.memberships userId).find? (·.orgId == orgId)).map (·.role)

/-- `_live_org_ids`: the organisations that exist and that the person is in, by the age of the membership. -/
def liveOrgIds (userId : Uuid) : List Uuid :=
  (((directory.memberships userId).filter fun row => directory.organizations.contains row.orgId).insertionSort
    fun first second => first.createdAt < second.createdAt ∨ first.createdAt = second.createdAt ∧ first.id ≤ second.id).map
    (·.orgId)

section View

/-- The projects of a member with the role there: a person's by access rows, an agent's by profiles and by granted access. -/
def placements (member : Member) : List (Uuid × String) :=
  let accesses := directory.projectAccess.filter (·.memberId == some member.id)
  let profiles := (directory.profiles.filter (·.memberId == member.id)).map (·.projectId)
  match member.type with
  | .human => accesses.map fun access => (access.projectId, access.role)
  | .agent =>
    (profiles.map fun projectId => (projectId, ((accesses.find? (·.projectId == projectId)).map (·.role)).getD "member")) ++
    (accesses.filter fun access => access.permission == "granted" && !profiles.contains access.projectId).map
      fun access => (access.projectId, access.role)

/-- The view `team_members`. -/
def teamMembers : List TeamMember :=
  (directory.members.filter (·.deletedAt.isNone)).flatMap fun member =>
    (directory.placements member).map fun place =>
      { id := member.id, projectId := place.1, orgId := member.orgId, userId := member.userId, type := member.type
        role := place.2, isActive := member.isActive, createdAt := member.createdAt }

end View

def activeRows (userId : Uuid) : List TeamMember :=
  directory.teamMembers.filter fun row => (row.userId == some userId || row.id == userId) && row.isActive

/-- The ones of projects that are not deleted, in one organisation where one is given. -/
def landingRows (userId : Uuid) (orgId : Option Uuid) : List TeamMember :=
  (directory.activeRows userId).filter fun row =>
    (directory.liveProject row.projectId).isSome && orgId.all (· == row.orgId)

section Access
variable (userId : Uuid)

def isGranted (access : ProjectAccess) (orgMember : OrgMember) : Bool :=
  access.orgMemberId == some orgMember.id && access.permission == "granted"

/-- `has_project_access`. The organisation, where one is given, is the project's own and that of the row that grants. -/
def hasProjectAccess (projectId : Uuid) (orgId : Option Uuid) : Bool :=
  (directory.liveProject projectId).any fun project =>
    orgId.all (· == project.orgId) &&
    ((directory.activeRows userId).any (fun row => row.projectId == projectId && row.type == .human) ||
      (directory.memberships userId).any (fun orgMember => orgId.all (· == orgMember.orgId) &&
        directory.projectAccess.any fun access => access.projectId == projectId && isGranted access orgMember) ||
      directory.members.any (fun member => member.id == userId && member.type == .agent && member.deletedAt.isNone &&
        member.isActive && orgId.all (· == member.orgId) &&
        directory.projectAccess.any fun access =>
          access.projectId == projectId && access.memberId == some member.id && access.permission == "granted") ||
      (directory.memberships userId).any fun orgMember =>
        ["owner", "admin"].contains orgMember.role && orgMember.orgId == project.orgId && orgId.all (· == orgMember.orgId))

/-- The team-member row that a landing in the organisation takes first. -/
def firstRow (orgId : Uuid) : Option TeamMember :=
  oldest (·.createdAt) ((directory.landingRows userId (some orgId)).filter (·.type == .human))

def grantsIn (orgId : Uuid) : List ProjectAccess :=
  directory.projectAccess.filter fun access =>
    ((directory.memberships userId).any fun orgMember => orgMember.orgId == orgId && isGranted access orgMember) &&
      (directory.liveProject access.projectId).isSome

def firstGrant (orgId : Uuid) : Option ProjectAccess := oldest (·.createdAt) (directory.grantsIn userId orgId)

/-- An owner or an administrator may open every project of the organisation. -/
def firstProject (orgId : Uuid) : Option Project :=
  if (directory.memberships userId).any fun orgMember => orgMember.orgId == orgId && ["owner", "admin"].contains orgMember.role then
    oldest (·.createdAt) (directory.projects.filter fun project => project.orgId == orgId && project.deletedAt.isNone)
  else none

def firstAccessibleProjectId (orgId : Uuid) : Option Uuid :=
  ((directory.firstRow userId orgId).map (·.projectId)).or
    (((directory.firstGrant userId orgId).map (·.projectId)).or ((directory.firstProject userId orgId).map (·.id)))

end Access

section Accepting

/-- What a request brings to the database: its clock, an id for a row that it makes, and whether the plan has no seat left. -/
structure Request where
  now : Nat
  newId : Uuid := 0
  seatsTaken : Bool := false
  deriving DecidableEq, Repr

variable (request : Request)

/-- A second membership of one person in one organisation is not made, also where the first one is deleted. -/
def insertOrgMember (orgId userId : Uuid) (role : String) : Directory :=
  if directory.orgMembers.any fun row => row.orgId == orgId && row.userId == userId then directory
  else { directory with
    orgMembers := directory.orgMembers ++ [{ id := request.newId, orgId, userId, role, createdAt := request.now }] }

def membershipOf (orgId userId : Uuid) : Option OrgMember := (directory.memberships userId).find? (·.orgId == orgId)

def ensureHumanMember (orgMember : OrgMember) : Directory :=
  if directory.organizations.contains orgMember.orgId = false ∨ directory.members.any (·.id == orgMember.id) = true then directory
  else { directory with
    members := directory.members ++
      [{ id := orgMember.id, orgId := orgMember.orgId, type := .human, userId := some orgMember.userId, createdAt := request.now }] }

def insertGrant (orgMember : OrgMember) (role : String) (directory : Directory) (projectId : Uuid) : Directory :=
  if directory.projectAccess.any fun access => access.projectId == projectId && access.orgMemberId == some orgMember.id then directory
  else { directory with
    projectAccess := directory.projectAccess ++
      [{ projectId, orgMemberId := some orgMember.id, role := clampProjectRole role, createdAt := request.now }] }

/-- `_ensure_member_anchor`, then `_grant_invite_project_access`: of the projects that the invite names, those of its own organisation. -/
def settleMembership (invite : OrgInvite) (userId : Uuid) : Directory :=
  match directory.membershipOf invite.organizationId userId with
  | none => directory
  | some orgMember =>
    let wanted := invite.projectIds.filter fun projectId =>
      (directory.liveProject projectId).any (·.orgId == invite.organizationId)
    wanted.foldl (insertGrant request orgMember invite.role) (directory.ensureHumanMember request orgMember)

inductive AcceptAnswer where
  | ok | notFound | alreadyAccepted | invalidStatus | expired | emailMismatch
  deriving DecidableEq, Repr

def markAccepted (invite : OrgInvite) : Directory :=
  { directory with
    invites := directory.invites.map fun row => if row.id = invite.id then { row with status := .accepted } else row }

/-- `OrgInviteRepository.accept`. It raises when the plan has no seat left. -/
def accept (token : String) (userId : Uuid) (userEmail : String) : Option (Directory × AcceptAnswer) :=
  match directory.invites.find? (·.token == token) with
  | none => some (directory, .notFound)
  | some invite =>
    if invite.status = .accepted then
      if inviteEmailKey invite.email = inviteEmailKey userEmail then
        some ((directory.insertOrgMember request invite.organizationId userId invite.role).settleMembership request invite userId, .ok)
      else some (directory, .alreadyAccepted)
    else if invite.status ≠ .pending then some (directory, .invalidStatus)
    else if invite.expiresAt < request.now then some (directory, .expired)
    else if inviteEmailKey invite.email ≠ inviteEmailKey userEmail then some (directory, .emailMismatch)
    else if request.seatsTaken then none
    else
      some ((((directory.insertOrgMember request invite.organizationId userId invite.role).settleMembership request invite
        userId).markAccepted invite), .ok)

/-- The invite that waits for an address, the oldest of them. -/
def pendingInvite (email : String) : Option OrgInvite :=
  earliest (·.createdAt) (·.id) (directory.invites.filter fun invite =>
    inviteEmailKey invite.email == inviteEmailKey email && invite.status == .pending && decide (request.now < invite.expiresAt))

end Accepting

end Directory

end Sprintable.Organizations
