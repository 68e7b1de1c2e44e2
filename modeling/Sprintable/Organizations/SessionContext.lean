import Sprintable.Organizations.Directory

/-! The organisation and the project that a session's token names. A cascade of lookups resolves them,
and without the de-fallback flag it also writes where it has landed into the account's defaults. -/

namespace Sprintable.Organizations

structure ProjectClaim where
  id : Uuid
  orgId : Uuid
  role : String
  deriving DecidableEq, Repr

structure AppMetadata where
  orgId : Option Uuid := none
  projectId : Option Uuid := none
  role : Option String := none
  projects : Option (List ProjectClaim) := none
  deriving DecidableEq, Repr

/-- What a resolution leaves behind, and what the token is to say. -/
structure Resolved where
  directory : Directory
  user : User
  metadata : AppMetadata
  deriving DecidableEq, Repr

section Roles
variable (directory : Directory) (userId : Uuid)

def effectiveRole (projectRole : String) (orgId : Uuid) : String :=
  let orgRole := (directory.orgRole userId orgId).getD ""
  if ROLE_RANK projectRole < ROLE_RANK orgRole then orgRole else projectRole

def userProjectsClaim : List ProjectClaim :=
  (directory.activeRows userId).map fun row => ⟨row.projectId, row.orgId, effectiveRole directory userId row.role row.orgId⟩

end Roles

section Explicit
variable (directory : Directory) (user : User)

def resolveExplicitAppMetadata (projectId : Uuid) (orgId : Option Uuid) : AppMetadata :=
  let resolvedOrg := (directory.projectOrg projectId).or orgId
  let orgRole := resolvedOrg.bind (directory.orgRole user.id)
  let role :=
    match (directory.activeRows user.id).find? (·.projectId == projectId) with
    | some row => if ROLE_RANK row.role < ROLE_RANK (orgRole.getD "") then orgRole.getD "" else row.role
    | none => orgRole.getD "member"
  { orgId := resolvedOrg, projectId := some projectId, role := some role, projects := some (userProjectsClaim directory user.id) }

def persistResolvedContext (metadata : AppMetadata) : User :=
  { user with lastProjectId := metadata.projectId, lastOrgId := metadata.orgId.or user.lastOrgId }

end Explicit

section Build
variable (defallback : Bool) (request : Directory.Request) (directory : Directory) (user : User)

/-- The project that is meant, under the flag: the one asked for, or else the stored one, when the person may open it. -/
def explicitProject (orgId projectId : Option Uuid) : Option Uuid :=
  if defallback then (projectId.or user.lastProjectId).filter fun id => directory.hasProjectAccess user.id id orgId else none

def storedRow (orgId : Option Uuid) : Option TeamMember :=
  user.lastProjectId.bind fun projectId =>
    earliest (·.id) (fun _ => 0) ((directory.landingRows user.id orgId).filter (·.projectId == projectId))

/-- Without the flag, the oldest of the person's rows does where the stored project has none. -/
def memberRow (orgId : Option Uuid) : Option TeamMember :=
  (storedRow directory user orgId).or
    (if defallback then none else earliest (·.createdAt) (·.id) (directory.landingRows user.id orgId))

/-- In an organisation where the person has no row, the first project that the person may open. -/
def landInOrganization (orgId : Uuid) : Resolved :=
  let projectId := directory.firstAccessibleProjectId user.id orgId
  { directory
    user := if defallback then user else { user with lastProjectId := projectId, lastOrgId := some orgId }
    metadata :=
      { orgId := some orgId, projectId, role := some ((directory.orgRole user.id orgId).getD "member")
        projects := some (userProjectsClaim directory user.id) } }

def linkMember (row : TeamMember) : Directory :=
  if row.userId.isSome then directory
  else { directory with
    members := directory.members.map fun member =>
      if member.id = row.id then { member with userId := some user.id } else member }

/-- The row that is found was read before the member is linked. -/
def landOnRow (row : TeamMember) : Resolved :=
  let linked := linkMember directory user row
  { directory := linked
    user := if defallback then user else { user with lastProjectId := some row.projectId, lastOrgId := some row.orgId }
    metadata :=
      { orgId := some row.orgId, projectId := some row.projectId
        role := some (effectiveRole linked user.id row.role row.orgId), projects := some (userProjectsClaim linked user.id) } }

/-- The last fallback: the oldest membership, of an organisation that may be gone. -/
def landOnMembership : Resolved :=
  match earliest (·.createdAt) (·.id) (directory.memberships user.id) with
  | some orgMember =>
    { directory, user
      metadata :=
        { orgId := some orgMember.orgId, projectId := directory.firstAccessibleProjectId user.id orgMember.orgId
          role := some orgMember.role } }
  | none => { directory, user, metadata := {} }

def acceptPending : Option Resolved :=
  match (if user.emailVerified then directory.pendingInvite request user.email else none) with
  | none => some (landOnMembership directory user)
  | some invite =>
    match directory.accept request invite.token user.id user.email with
    | none => none
    | some (accepted, .ok) =>
      some { directory := accepted, user, metadata := { orgId := some invite.organizationId, role := some invite.role } }
    | some (refused, _) => some (landOnMembership refused user)

def buildAppMetadata (orgId projectId : Option Uuid) : Option Resolved :=
  let scope := orgId.or user.lastOrgId
  match explicitProject defallback directory user scope projectId with
  | some explicit => some { directory, user, metadata := resolveExplicitAppMetadata directory user explicit scope }
  | none =>
    match memberRow defallback directory user scope, scope with
    | some row, _ => some (landOnRow defallback directory user row)
    | none, some org => some (landInOrganization defallback directory user org)
    | none, none => acceptPending request directory user

end Build

section Session
variable (defallback : Bool) (request : Directory.Request) (directory : Directory) (user : User)

structure SessionOrg where
  orgId : Option Uuid := none
  projectId : Option Uuid := none
  deriving DecidableEq, Repr

structure Scope where
  user : User
  orgId : Uuid
  projectId : Option Uuid
  deriving DecidableEq, Repr

/-- A session goes on in its own organisation while that is live, with its project as the stored one.
Otherwise the stored organisation is taken, or else the oldest. -/
def scopeOf (live : List Uuid) (oldestOrg : Uuid) (session : SessionOrg) : Scope :=
  match session.orgId.filter live.contains with
  | some org => { user := { user with lastProjectId := session.projectId.or user.lastProjectId }, orgId := org, projectId := session.projectId }
  | none => { user, orgId := (user.lastOrgId.filter live.contains).getD oldestOrg, projectId := none }

def withoutLiveOrg : Option Resolved :=
  (buildAppMetadata defallback request directory { user with lastOrgId := none } none none).map fun resolved =>
    if resolved.metadata.orgId.any fun org => !(resolved.directory.liveOrgIds user.id).contains org then
      { resolved with user := { resolved.user with lastOrgId := none }, metadata := {} }
    else resolved

def refreshSessionContext (session : SessionOrg) : Option Resolved :=
  match directory.liveOrgIds user.id with
  | [] => withoutLiveOrg defallback request directory user
  | oldestOrg :: others =>
    let scope := scopeOf user (oldestOrg :: others) oldestOrg session
    buildAppMetadata defallback request directory scope.user (some scope.orgId) scope.projectId

/-- The account is written by the caller where the resolution does not. -/
def resolveSession (session : SessionOrg) : Option Resolved :=
  (refreshSessionContext defallback request directory user session).map fun resolved =>
    if defallback then { resolved with user := persistResolvedContext resolved.user resolved.metadata } else resolved

end Session

end Sprintable.Organizations
