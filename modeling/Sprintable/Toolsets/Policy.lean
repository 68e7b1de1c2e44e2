import Mathlib.Data.List.Sort
import Mathlib.Data.List.Dedup
import Sprintable.Logic.PyText

/-! The tools and the paths that an API key may use. One table of keywords puts each tool into a group,
another each path; the tokens of the key's scope name the groups that are allowed. -/

namespace Sprintable.Toolsets

def groupKeywords : List (String × List String) :=
  [("rewards", ["reward", "wallet", "leaderboard"]),
    ("analytics", ["velocity", "health", "dashboard", "overview", "stats", "sprint_summary", "recent_activity",
      "agent_stats", "blocked_stories", "unassigned_stories", "member_workload", "overdue", "epic_progress",
      "goal_progress"]),
    ("agent_runs", ["agent_run", "run_status", "update_run"]),
    ("audit", ["audit"]),
    ("webhooks", ["webhook"]),
    ("notifications", ["notification"]),
    ("meetings", ["meeting"]),
    ("retro", ["retro"]),
    ("standup", ["standup"]),
    ("docs", ["doc", "search_docs", "submit_for_approval"]),
    ("chat", ["chat", "message", "conversation", "user_block"]),
    ("sprints", ["sprint"]),
    ("hypotheses", ["hypothes"]),
    ("epics", ["epic", "goal"]),
    ("tasks", ["task"]),
    ("stories", ["story", "stories", "backlog", "claim", "checkin"]),
    ("canvas", ["artifact", "canonical_version", "spec_pin"]),
    ("admin", ["give_reward", "emit_event", "trigger_ai", "activate_sprint", "close_sprint", "create_sprint",
      "upsert_webhook", "delete_webhook", "register_event_definition", "update_event_definition"]),
    ("events", ["event"]),
    ("content", ["channel_post", "site_post", "channel_connection", "post_comment", "insight", "content_rule"])]

def core : String := "core"

def alwaysAllowed : List String :=
  ["ping", "sprintable_my_dashboard", "sprintable_check_notifications", "sprintable_get_workflow_guide",
    "sprintable_list_team_members", "sprintable_poll_events", "sprintable_get_loop_context", "sprintable_lock_files",
    "sprintable_unlock_files", "sprintable_link_gate_to_task", "sprintable_add_evidence", "sprintable_request_decision",
    "sprintable_add_judgment", "sprintable_list_judgments", "sprintable_get_session_context", "sprintable_list_projects",
    "sprintable_set_default_project", "sprintable_get_standup", "sprintable_save_standup",
    "sprintable_list_standup_entries", "sprintable_standup_history", "sprintable_standup_missing",
    "sprintable_list_agent_cards", "sprintable_watch", "sprintable_unwatch", "sprintable_list_watches"]

def destructiveScopes : List String := ["admin", "destructive"]

def allGroups : List String := (groupKeywords.map Prod.fst).filter (· ≠ "admin") ++ [core]

/-- `part in text`. -/
def contains (text part : String) : Bool := text.toList.tails.any fun tail => part.toList.isPrefixOf tail

/-- `text.startswith(start)`. -/
def startsWith (text start : String) : Bool := start.toList.isPrefixOf text.toList

/-- `sorted` of a set. -/
def sorted (names : List String) : List String := names.dedup.insertionSort (· ≤ ·)

section Names
variable (lower : String → String) (toolName : String)

/-- The name is read without its prefix, which would put every tool among the sprints. -/
def toolGroup : String :=
  let lowered := lower toolName
  let name := if startsWith lowered "sprintable_" then String.ofList (lowered.toList.drop "sprintable_".length) else lowered
  match groupKeywords.find? fun entry => entry.2.any (contains name) with
  | some (group, _) => group
  | none => core

def isDestructive : Bool :=
  let name := lower toolName
  contains name "delete" || contains name "give_reward" || contains name "_delete_" ||
    startsWith name "sprintable_delete" || contains name "close_sprint"

end Names

section Scopes
variable (lower : String → String) (scope : Option (List String))

def scopeTokens : List String :=
  ((scope.getD []).filter fun token => PyText.notBlank (some token)).map fun token => lower (PyText.strip token)

def isToolAllowed (toolName : String) : Bool :=
  if toolName ∈ alwaysAllowed then true
  else
    let tokens := scopeTokens lower scope
    let group := toolGroup lower toolName
    let explicitGroups := tokens.filter fun token => token ∈ allGroups ∨ token = "admin"
    let hasDestructiveGrant := tokens.any (· ∈ destructiveScopes)
    let groupOk := explicitGroups.isEmpty || group ∈ tokens || (group == "admin" && "admin" ∈ tokens)
    if !groupOk then false
    else if isDestructive lower toolName && !hasDestructiveGrant then false
    else true

structure Policy where
  scope : List String
  allowedGroups : List String
  destructiveAllowed : Bool
  allGroups : List String
  deriving DecidableEq, Repr

def resolvePolicy : Policy :=
  let tokens := scopeTokens lower scope
  let explicit := tokens.filter (· ∈ allGroups)
  { scope := sorted tokens
    allowedGroups := if explicit.isEmpty then sorted allGroups else sorted explicit
    destructiveAllowed := tokens.any (· ∈ destructiveScopes)
    allGroups := sorted allGroups }

end Scopes

def alwaysAllowedPathPrefixes : List String :=
  ["/api/v2/notifications", "/api/v2/events", "/api/v2/team-members", "/api/v2/dashboard", "/api/v2/mcp", "/api/v2/me",
    "/api/v2/auth", "/api/v2/current-project", "/api/v2/agent", "/api/v2/evidence", "/api/v2/judgments",
    "/api/v2/standups"]

def pathGroupPrefixes : List (String × String) :=
  [("/api/v2/rewards", "rewards"), ("/api/v2/wallet", "rewards"), ("/api/v2/leaderboard", "rewards"),
    ("/api/v2/audit-logs", "audit"), ("/api/v2/webhooks", "webhooks"), ("/api/v2/conversations", "chat"),
    ("/api/v2/user-blocks", "chat"), ("/api/v2/meetings", "meetings"), ("/api/v2/retros", "retro"),
    ("/api/v2/stories", "stories"), ("/api/v2/tasks", "tasks"), ("/api/v2/sprints", "sprints"),
    ("/api/v2/hypotheses", "hypotheses"), ("/api/v2/epics", "epics"), ("/api/v2/goals", "epics"),
    ("/api/v2/docs", "docs"), ("/api/v2/agent-runs", "agent_runs"), ("/api/v2/analytics", "analytics"),
    ("/api/v2/visual-artifacts", "canvas")]

def orgScopedPathGroupSegments : List (String × String) :=
  [("channel-posts", "content"), ("site-posts", "content"), ("publication-commands", "content"),
    ("channel-connections", "content"), ("publications", "content"), ("comments", "content"), ("insights", "content"),
    ("insights-board", "content"), ("publishing-metrics", "content"), ("content-rules", "content"),
    ("engagement", "content")]

def under (path start : String) : Bool := path == start || startsWith path (start ++ "/")

/-- The segment after the organisation of `/api/v2/organizations/<org_id>/<segment>`. -/
def orgScopedContentGroup (path : String) : Option String :=
  match ((path.toList.splitOn '/').filter fun part => !part.isEmpty).map String.ofList with
  | "api" :: "v2" :: "organizations" :: _ :: segment :: _ => (orgScopedPathGroupSegments.find? (·.1 == segment)).map Prod.snd
  | _ => none

def pathToToolGroup (path : String) : Option String :=
  if alwaysAllowedPathPrefixes.any (under path) then none
  else ((pathGroupPrefixes.find? fun entry => under path entry.1).map Prod.snd).or (orgScopedContentGroup path)

/-- A path without a group, or of a group that is unknown, is left alone. -/
def pathAllowedForScope (lower : String → String) (path : String) (scope : Option (List String)) : Bool :=
  match pathToToolGroup path with
  | none => true
  | some group => if group ∈ allGroups then decide (group ∈ (resolvePolicy lower scope).allowedGroups) else true

end Sprintable.Toolsets
