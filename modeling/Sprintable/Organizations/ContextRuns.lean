import Sprintable.Organizations.SessionContext
import Sprintable.Logic.Runs

/-! What the tokens of sign-ins, refreshes and account switches name, over runs in which other requests
remove memberships, organisations, projects and grants between them. The organisation is always a live
one. The project is one of it, unless a row of another organisation's project comes first. -/

namespace Sprintable.Organizations
open Runs

namespace Directory
variable {directory : Directory} {userId orgId : Uuid}

/-- The organisation exists, and the person has a membership of it that is not deleted. -/
def LiveIn (directory : Directory) (userId orgId : Uuid) : Prop :=
  orgId ∈ directory.organizations ∧
    ∃ row ∈ directory.orgMembers, row.userId = userId ∧ row.orgId = orgId ∧ row.deletedAt = none

theorem mem_memberships {row : OrgMember} :
    row ∈ directory.memberships userId ↔ row ∈ directory.orgMembers ∧ row.userId = userId ∧ row.deletedAt = none := by
  simp [memberships]

theorem mem_liveOrgIds : orgId ∈ directory.liveOrgIds userId ↔ directory.LiveIn userId orgId := by
  unfold liveOrgIds LiveIn
  simp only [List.mem_map, List.mem_insertionSort, List.mem_filter, mem_memberships, List.contains_iff_mem]
  constructor
  · rintro ⟨row, ⟨⟨member, person, kept⟩, exists_⟩, rfl⟩
    exact ⟨exists_, row, member, person, rfl, kept⟩
  · rintro ⟨exists_, row, member, person, rfl, kept⟩
    exact ⟨row, ⟨⟨member, person, kept⟩, exists_⟩, rfl⟩

/-- A row that a landing may take is of the organisation asked for, and its project is not deleted. -/
theorem landingRows_org {row : TeamMember} (member : row ∈ directory.landingRows userId (some orgId)) : row.orgId = orgId := by
  have kept := (List.mem_filter.mp member).2
  simp only [Option.all_some, Bool.and_eq_true, beq_iff_eq] at kept
  exact kept.2.symm

def HasProject (directory : Directory) (orgId projectId : Uuid) : Prop :=
  ∃ project ∈ directory.projects, project.id = projectId ∧ project.orgId = orgId

theorem hasProjectAccess_org {projectId : Uuid} {scope : Option Uuid} (access : directory.hasProjectAccess userId projectId scope = true) :
    ∃ org, directory.projectOrg projectId = some org ∧ ∀ asked, scope = some asked → org = asked := by
  obtain ⟨project, live, allowed⟩ := (Option.any_eq_true ..).mp access
  obtain ⟨found, _⟩ := Option.filter_eq_some_iff.mp live
  refine ⟨project.orgId, by simp [projectOrg, found], ?_⟩
  rintro asked rfl
  simp only [Option.all_some, Bool.and_eq_true, beq_iff_eq] at allowed
  exact allowed.1.symm

theorem projectOrg_has {projectId : Uuid} (found : directory.projectOrg projectId = some orgId) : directory.HasProject orgId projectId := by
  obtain ⟨project, picked, same⟩ := Option.map_eq_some_iff.mp found
  exact ⟨project, List.mem_of_find?_eq_some picked, by simpa using List.find?_some picked, same⟩

theorem firstProject_has {project : Project} (found : directory.firstProject userId orgId = some project) :
    directory.HasProject orgId project.id := by
  unfold firstProject at found
  split at found
  · have member := List.mem_filter.mp (earliest_mem found)
    simp only [Bool.and_eq_true, beq_iff_eq] at member
    exact ⟨project, member.1, rfl, member.2.1⟩
  · cases found

theorem firstAccessible_has :
    (∀ projectId, directory.firstAccessibleProjectId userId orgId = some projectId → directory.HasProject orgId projectId) ↔
      (∀ row, directory.firstRow userId orgId = some row → directory.HasProject orgId row.projectId) ∧
      (directory.firstRow userId orgId = none →
        ∀ grant, directory.firstGrant userId orgId = some grant → directory.HasProject orgId grant.projectId) := by
  unfold firstAccessibleProjectId
  cases row : directory.firstRow userId orgId with
  | some row => simp
  | none =>
    cases grant : directory.firstGrant userId orgId with
    | some grant => simp
    | none =>
      cases project : directory.firstProject userId orgId with
      | some project => simpa using firstProject_has project
      | none => simp

end Directory

section Resolution
variable (defallback : Bool) (request : Directory.Request) (directory : Directory) (user : User) {orgId : Uuid}

/-- Whatever the resolution in an organisation comes upon first is of a project of it: the person's row
there, or else the first row or the first grant that the landing takes. -/
structure HomeFirst (orgId : Uuid) : Prop where
  own : ∀ row, memberRow defallback directory user (some orgId) = some row → directory.HasProject orgId row.projectId
  first : memberRow defallback directory user (some orgId) = none →
    ∀ row, directory.firstRow user.id orgId = some row → directory.HasProject orgId row.projectId
  grant : memberRow defallback directory user (some orgId) = none → directory.firstRow user.id orgId = none →
    ∀ grant, directory.firstGrant user.id orgId = some grant → directory.HasProject orgId grant.projectId

/-- The project of the token is one of its organisation. -/
def ProjectHome (resolved : Resolved) : Prop :=
  ∀ projectId, resolved.metadata.projectId = some projectId →
    ∃ org, resolved.metadata.orgId = some org ∧ resolved.directory.HasProject org projectId

/-- What the rules of the session read of memberships, organisations and projects is as it was. -/
def SameRoster (other : Directory) : Prop :=
  other.organizations = directory.organizations ∧ other.orgMembers = directory.orgMembers ∧ other.projects = directory.projects

theorem linkMember_same (row : TeamMember) : SameRoster directory (linkMember directory user row) := by
  unfold linkMember
  split <;> exact ⟨rfl, rfl, rfl⟩

theorem memberRow_org {row : TeamMember} (found : memberRow defallback directory user (some orgId) = some row) : row.orgId = orgId := by
  rcases Option.or_eq_some_iff.mp found with stored | ⟨_, guessed⟩
  · obtain ⟨_, _, picked⟩ := Option.bind_eq_some_iff.mp stored
    exact Directory.landingRows_org (List.mem_of_mem_filter (earliest_mem picked))
  · split at guessed
    · cases guessed
    · exact Directory.landingRows_org (earliest_mem guessed)

theorem explicitProject_org {scope projectId : Option Uuid} {explicit : Uuid}
    (meant : explicitProject defallback directory user scope projectId = some explicit) :
    ∃ org, directory.projectOrg explicit = some org ∧ ∀ asked, scope = some asked → org = asked := by
  unfold explicitProject at meant
  split at meant
  · exact Directory.hasProjectAccess_org (Option.filter_eq_some_iff.mp meant).2
  · cases meant

/-- In a given organisation the resolution names it, and the project is of it exactly where what comes first is. -/
theorem buildAppMetadata_scoped (orgId : Uuid) (projectId : Option Uuid) :
    ∃ resolved, buildAppMetadata defallback request directory user (some orgId) projectId = some resolved ∧
      resolved.metadata.orgId = some orgId ∧ SameRoster directory resolved.directory ∧
      (ProjectHome resolved ↔
        (explicitProject defallback directory user (some orgId) projectId = none → HomeFirst defallback directory user orgId)) := by
  unfold buildAppMetadata
  simp only [Option.some_or]
  cases meant : explicitProject defallback directory user (some orgId) projectId with
  | some explicit =>
    have access : directory.projectOrg explicit = some orgId := by
      obtain ⟨org, held, asked⟩ := explicitProject_org defallback directory user meant
      rw [held, asked orgId rfl]
    refine ⟨_, rfl, by simp [resolveExplicitAppMetadata, access], ⟨rfl, rfl, rfl⟩, ?_⟩
    simp [ProjectHome, resolveExplicitAppMetadata, access, Directory.projectOrg_has access]
  | none =>
    cases found : memberRow defallback directory user (some orgId) with
    | some row =>
      have own := memberRow_org defallback directory user found
      have same := linkMember_same directory user row
      refine ⟨_, rfl, by simp [landOnRow, own], same, ?_⟩
      have home : ProjectHome (landOnRow defallback directory user row) ↔ directory.HasProject orgId row.projectId := by
        simp [ProjectHome, landOnRow, own, Directory.HasProject, same.2.2]
      constructor
      · intro reached _
        constructor
        · intro other taken
          cases found.symm.trans taken
          exact home.mp reached
        · intro absent
          exact absurd (found.symm.trans absent) (by simp)
        · intro absent
          exact absurd (found.symm.trans absent) (by simp)
      · intro first
        exact home.mpr ((first rfl).own row found)
    | none =>
      refine ⟨_, rfl, rfl, ⟨rfl, rfl, rfl⟩, ?_⟩
      have home : ProjectHome (landInOrganization defallback directory user orgId) ↔
          ∀ projectId, directory.firstAccessibleProjectId user.id orgId = some projectId → directory.HasProject orgId projectId := by
        simp [ProjectHome, landInOrganization]
      rw [home, Directory.firstAccessible_has]
      constructor
      · intro landed _
        exact ⟨fun row taken => absurd (found.symm.trans taken) (by simp), fun _ => landed.1, fun _ => landed.2⟩
      · intro first
        exact ⟨(first rfl).first found, (first rfl).grant found⟩

theorem accept_refused {token email : String} {userId : Uuid} {after : Directory} {answer : Directory.AcceptAnswer}
    (answered : directory.accept request token userId email = some (after, answer)) (refused : answer ≠ .ok) :
    after = directory := by
  unfold Directory.accept at answered
  cases found : directory.invites.find? (·.token == token) with
  | none =>
    rw [found] at answered
    cases answered
    rfl
  | some invite =>
    rw [found] at answered
    dsimp only at answered
    split_ifs at answered <;> cases answered
    all_goals first | rfl | exact absurd rfl refused

theorem landOnMembership_same : (landOnMembership directory user).directory = directory := by
  unfold landOnMembership
  split <;> rfl

theorem landOnMembership_org {projectId : Uuid} (named : (landOnMembership directory user).metadata.projectId = some projectId) :
    (landOnMembership directory user).metadata.orgId.isSome = true := by
  unfold landOnMembership at named ⊢
  split at named
  · rfl
  · cases named

/-- Without an organisation, a project is named only with its organisation, and then no membership has
changed: the taking of an invite names none. -/
theorem buildAppMetadata_unscoped {resolved : Resolved} {projectId : Uuid} (nowhere : user.lastOrgId = none)
    (built : buildAppMetadata defallback request directory user none none = some resolved)
    (named : resolved.metadata.projectId = some projectId) :
    SameRoster directory resolved.directory ∧ resolved.metadata.orgId.isSome = true := by
  unfold buildAppMetadata at built
  simp only [Option.none_or, nowhere] at built
  split at built
  · rename_i explicit meant
    cases built
    obtain ⟨org, held, _⟩ := explicitProject_org defallback directory user meant
    exact ⟨⟨rfl, rfl, rfl⟩, by simp [resolveExplicitAppMetadata, held]⟩
  · split at built
    · cases built
      exact ⟨linkMember_same directory user _, rfl⟩
    · rename_i scope
      cases scope
    · unfold acceptPending at built
      split at built
      · cases built
        refine ⟨?_, landOnMembership_org directory user named⟩
        rw [landOnMembership_same]
        exact ⟨rfl, rfl, rfl⟩
      · split at built
        · cases built
        · cases built
          cases named
        · rename_i other answered
          cases built
          refine ⟨?_, landOnMembership_org _ user named⟩
          rw [landOnMembership_same, accept_refused request directory answered other]
          exact ⟨rfl, rfl, rfl⟩

end Resolution

section Session
variable {defallback : Bool} {request : Directory.Request} {directory : Directory} {user : User}

theorem scopeOf_live (oldestOrg : Uuid) (others : List Uuid) (session : SessionOrg) :
    (scopeOf user (oldestOrg :: others) oldestOrg session).orgId ∈ oldestOrg :: others := by
  unfold scopeOf
  split
  · rename_i org kept
    exact List.contains_iff_mem.mp (Option.filter_eq_some_iff.mp kept).2
  · cases stored : user.lastOrgId.filter (oldestOrg :: others).contains with
    | none => exact List.mem_cons_self
    | some org => exact List.contains_iff_mem.mp (Option.filter_eq_some_iff.mp stored).2

theorem scopeOf_keeps {live : List Uuid} {oldestOrg org : Uuid} {session : SessionOrg} (own : session.orgId = some org)
    (kept : org ∈ live) : (scopeOf user live oldestOrg session).orgId = org := by
  have filtered : session.orgId.filter live.contains = some org :=
    Option.filter_eq_some_iff.mpr ⟨own, List.contains_iff_mem.mpr kept⟩
  unfold scopeOf
  rw [filtered]

/-- What a token may name: an organisation that the person is in, and a project of it. -/
structure Names (directory : Directory) (userId : Uuid) (metadata : AppMetadata) : Prop where
  org : ∀ org, metadata.orgId = some org → directory.LiveIn userId org
  project : ∀ projectId, metadata.projectId = some projectId →
    ∃ org, metadata.orgId = some org ∧ directory.HasProject org projectId

/-- Where the resolution is in an organisation and no project is meant, what it comes upon first is of a project of it. -/
def LandsHome (defallback : Bool) (directory : Directory) (user : User) (session : SessionOrg) : Prop :=
  ∀ oldestOrg others, directory.liveOrgIds user.id = oldestOrg :: others →
    let scope := scopeOf user (oldestOrg :: others) oldestOrg session
    explicitProject defallback directory scope.user (some scope.orgId) scope.projectId = none →
      HomeFirst defallback directory scope.user scope.orgId

theorem resolveSession_refreshes {session : SessionOrg} {resolved : Resolved}
    (answered : resolveSession defallback request directory user session = some resolved) :
    ∃ inner, refreshSessionContext defallback request directory user session = some inner ∧
      resolved.directory = inner.directory ∧ resolved.metadata = inner.metadata := by
  obtain ⟨inner, reached, rfl⟩ := Option.map_eq_some_iff.mp answered
  refine ⟨inner, reached, ?_⟩
  split <;> exact ⟨rfl, rfl⟩

theorem liveIn_same {before after : Directory} (same : SameRoster before after) {userId orgId : Uuid} :
    after.LiveIn userId orgId ↔ before.LiveIn userId orgId := by
  unfold Directory.LiveIn
  rw [same.1, same.2.1]

/-- A person in no organisation gets a token without one, or of the organisation whose invite was taken just now. -/
theorem withoutLiveOrg_names {resolved : Resolved} (nowhere : directory.liveOrgIds user.id = [])
    (answered : withoutLiveOrg defallback request directory user = some resolved) :
    Names resolved.directory user.id resolved.metadata := by
  obtain ⟨inner, built, rfl⟩ := Option.map_eq_some_iff.mp answered
  split
  · constructor
    · intro org named
      cases named
    · intro projectId named
      cases named
  · rename_i lives
    simp only [Option.any_eq_true, Bool.not_eq_true', not_exists, not_and, Bool.not_eq_false, List.contains_iff_mem] at lives
    refine ⟨fun org named => Directory.mem_liveOrgIds.mp (lives org named), fun projectId named => ?_⟩
    obtain ⟨same, someOrg⟩ := buildAppMetadata_unscoped defallback request directory _ rfl built named
    obtain ⟨org, reached⟩ := Option.isSome_iff_exists.mp someOrg
    have live := (liveIn_same same).mp (Directory.mem_liveOrgIds.mp (lives org reached))
    exact absurd (nowhere ▸ Directory.mem_liveOrgIds.mpr live) List.not_mem_nil

/-- The token names a live organisation, that of the session while it is live, and a project of it exactly
where the resolution lands at home. -/
theorem refreshSessionContext_exact {session : SessionOrg} {resolved : Resolved}
    (answered : refreshSessionContext defallback request directory user session = some resolved) :
    (∀ org, resolved.metadata.orgId = some org → resolved.directory.LiveIn user.id org) ∧
    (∀ org, session.orgId = some org → directory.LiveIn user.id org → resolved.metadata.orgId = some org) ∧
    (ProjectHome resolved ↔ LandsHome defallback directory user session) := by
  unfold refreshSessionContext at answered
  cases live : directory.liveOrgIds user.id with
  | nil =>
    rw [live] at answered
    have names := withoutLiveOrg_names live answered
    refine ⟨names.org, fun org _ kept => ?_, fun _ oldestOrg others found => ?_, fun _ => names.project⟩
    · exact absurd (live ▸ Directory.mem_liveOrgIds.mpr kept) List.not_mem_nil
    · cases live.symm.trans found
  | cons oldestOrg others =>
    rw [live] at answered
    dsimp only at answered
    let scope := scopeOf user (oldestOrg :: others) oldestOrg session
    obtain ⟨built, reached, named, same, home⟩ :=
      buildAppMetadata_scoped defallback request directory scope.user scope.orgId scope.projectId
    cases reached.symm.trans answered
    have alive : directory.LiveIn user.id scope.orgId :=
      Directory.mem_liveOrgIds.mp (live ▸ scopeOf_live oldestOrg others session)
    refine ⟨?_, ?_, ?_⟩
    · intro org other
      cases named.symm.trans other
      exact (liveIn_same same).mpr alive
    · intro org own kept
      have member : org ∈ oldestOrg :: others := live ▸ Directory.mem_liveOrgIds.mpr kept
      have goes : scope.orgId = org := scopeOf_keeps own member
      rw [named, goes]
    · rw [home]
      constructor
      · intro lands first rest found
        cases live.symm.trans found
        exact lands
      · intro lands
        exact lands oldestOrg others live

end Session

section Worlds

structure RefreshToken where
  id : Uuid
  userId : Uuid
  session : SessionOrg := {}
  expiresAt : Nat
  revokedAt : Option Nat := none
  sessionStartedAt : Option Nat := none
  deriving DecidableEq, Repr

structure World where
  directory : Directory
  users : List User
  tokens : List RefreshToken := []
  deriving DecidableEq, Repr

/-- What a person asks for. A sign-in comes with the checks of its credentials passed. -/
inductive Ask where
  | signIn (userId : Uuid)
  | refresh (tokenId : Uuid)
  | switchAccount (tokenId : Uuid)
  deriving DecidableEq, Repr

/-- Other requests write what they will between two calls: memberships, organisations, projects and grants
are removed and made, and defaults are stored. -/
inductive SessionEvent where
  | ask (request : Directory.Request) (newToken : Uuid) (expiresAt : Nat) (ask : Ask)
  | others (world : World)
  deriving DecidableEq, Repr

def CHAIN_RESOLVE_WINDOW : Nat := seconds 180

structure Caller where
  user : User
  session : SessionOrg
  sessionStartedAt : Option Nat
  fresh : Bool
  deriving DecidableEq, Repr

/-- `_is_session_stale_after_password_change`. The session's start is in seconds. -/
def isSessionStale (user : User) (sessionStartedAt : Option Nat) : Bool :=
  user.passwordSetAt.any fun changed => sessionStartedAt.all fun started => decide (started < changed / seconds 1)

namespace World
variable (world : World) (now : Nat)

def activeUser (id : Uuid) : Option User := world.users.find? fun user => user.id == id && user.isActive

def liveToken (id : Uuid) : Option RefreshToken :=
  world.tokens.find? fun token => token.id == id && token.revokedAt.isNone && decide (now < token.expiresAt)

/-- A token that another request rotated a moment ago. -/
def straggler (id : Uuid) : Option RefreshToken :=
  world.tokens.find? fun token =>
    token.id == id && token.revokedAt.any (fun revoked => decide (now < revoked + CHAIN_RESOLVE_WINDOW)) && decide (now < token.expiresAt)

def bearer (token : RefreshToken) : Option Caller :=
  (world.activeUser token.userId).map fun user => ⟨user, token.session, token.sessionStartedAt, false⟩

def caller : Ask → Option Caller
  | .signIn userId => (world.activeUser userId).map fun user => ⟨user, {}, some (now / seconds 1), true⟩
  | .refresh id => ((world.liveToken now id).or (world.straggler now id)).bind world.bearer
  | .switchAccount id => (world.liveToken now id).bind world.bearer

def rotate : Ask → World
  | .signIn _ => world
  | .refresh id | .switchAccount id =>
    { world with
      tokens := world.tokens.map fun token =>
        if token.id = id ∧ token.revokedAt = none ∧ now < token.expiresAt then { token with revokedAt := some now } else token }

def putUser (user : User) : World :=
  { world with users := world.users.map fun held => if held.id = user.id then user else held }

end World

variable (defallback : Bool)

/-- A session whose password has changed since gets no new token, but the resolution has been written. -/
def Caller.refused (caller : Caller) : Bool := !caller.fresh && isSessionStale caller.user caller.sessionStartedAt

def Caller.resolved (caller : Caller) (request : Directory.Request) (directory : Directory) : Option Resolved :=
  resolveSession defallback request directory caller.user caller.session

def World.step (world : World) : SessionEvent → World
  | .others written => written
  | .ask request newToken expiresAt ask =>
    match world.caller request.now ask with
    | none => world.rotate request.now ask
    | some caller =>
      match caller.resolved defallback request world.directory with
      | none => world
      | some resolved =>
        let written := { (world.rotate request.now ask).putUser resolved.user with directory := resolved.directory }
        if caller.refused then written
        else { written with
          tokens := written.tokens ++
            [{ id := newToken, userId := caller.user.id, session := ⟨resolved.metadata.orgId, resolved.metadata.projectId⟩
               expiresAt, sessionStartedAt := caller.sessionStartedAt }] }

/-- The event issues a token to the caller, with what was resolved for it. -/
def World.Issues (world : World) (event : SessionEvent) (caller : Caller) (resolved : Resolved) : Prop :=
  ∃ request newToken expiresAt ask, event = .ask request newToken expiresAt ask ∧ world.caller request.now ask = some caller ∧
    caller.refused = false ∧ caller.resolved defallback request world.directory = some resolved

/-- A token that is issued names a live organisation of the person or none, the session's own while that is
live, and a project of that organisation or none. -/
def IssuesLive (world : World) (event : SessionEvent) : Prop :=
  ∀ caller resolved, world.Issues defallback event caller resolved →
    Names resolved.directory caller.user.id resolved.metadata ∧
    ∀ org, caller.session.orgId = some org → world.directory.LiveIn caller.user.id org → resolved.metadata.orgId = some org

def IssuesAtHome (world : World) (event : SessionEvent) : Prop :=
  ∀ caller resolved, world.Issues defallback event caller resolved →
    LandsHome defallback world.directory caller.user caller.session

theorem issues_exact (world : World) (event : SessionEvent) :
    IssuesAtHome defallback world event ↔ IssuesLive defallback world event := by
  have exactly : ∀ caller resolved, world.Issues defallback event caller resolved →
      (LandsHome defallback world.directory caller.user caller.session ↔
        Names resolved.directory caller.user.id resolved.metadata ∧
        ∀ org, caller.session.orgId = some org → world.directory.LiveIn caller.user.id org → resolved.metadata.orgId = some org) := by
    rintro caller resolved ⟨request, newToken, expiresAt, ask, rfl, called, allowed, answered⟩
    obtain ⟨inner, reached, directory, metadata⟩ := resolveSession_refreshes answered
    obtain ⟨live, keeps, home⟩ := refreshSessionContext_exact reached
    rw [directory, metadata, ← home]
    constructor
    · intro landed
      exact ⟨⟨live, landed⟩, keeps⟩
    · intro named
      exact named.1.project
  constructor
  · intro lands caller resolved issued
    exact (exactly caller resolved issued).mp (lands caller resolved issued)
  · intro lives caller resolved issued
    exact (exactly caller resolved issued).mpr (lives caller resolved issued)

/-- Every token of a run names what it may exactly where every resolution lands at home. -/
theorem session_context_exact (start : World) (events : List SessionEvent) :
    Throughout (World.step defallback) (IssuesAtHome defallback) start events ↔
      Throughout (World.step defallback) (IssuesLive defallback) start events := by
  constructor
  · exact Throughout.weaken fun world event => (issues_exact defallback world event).mp
  · exact Throughout.weaken fun world event => (issues_exact defallback world event).mpr

end Worlds

/-! A member of organisation 1 whom an owner of organisation 2 has granted one of its projects. -/

section Mixed

def mixedDirectory : Directory :=
  { organizations := [1, 2]
    orgMembers := [{ id := 11, orgId := 1, userId := 7, createdAt := 0 }]
    projects := [{ id := 21, orgId := 2, createdAt := 0 }]
    members := [{ id := 11, orgId := 1, type := .human, userId := some 7, createdAt := 0 }]
    projectAccess := [{ projectId := 21, orgMemberId := some 11, memberId := some 11, createdAt := 0 }] }

def mixedWorld : World := { directory := mixedDirectory, users := [{ id := 7, email := "a@b.c" }] }

def mixedSignIn : SessionEvent := .ask { now := seconds 1 } 31 (seconds 100) (.signIn 7)

theorem foreign_project_named : ¬ Throughout (World.step false) (IssuesLive false) mixedWorld [mixedSignIn] := by
  intro lives
  have issued : mixedWorld.Issues false mixedSignIn ⟨{ id := 7, email := "a@b.c" }, {}, some 1, true⟩
      { directory := mixedDirectory, user := { id := 7, email := "a@b.c", lastProjectId := some 21, lastOrgId := some 1 }
        metadata := { orgId := some 1, projectId := some 21, role := some "member", projects := some [⟨21, 1, "member"⟩] } } :=
    ⟨_, _, _, _, rfl, by decide, by decide, by decide⟩
  obtain ⟨org, named, project, member, _, home⟩ := (lives.1 _ _ issued).1.project 21 rfl
  obtain rfl := List.mem_singleton.mp member
  cases named
  cases home

end Mixed

end Sprintable.Organizations
