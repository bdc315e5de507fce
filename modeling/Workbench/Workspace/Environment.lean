import Workbench.Workspace.Scope

/-!
# Environment of a project

Gathers what later work needs to know of a project: its repository, its user, its board and
milestone, its scopes and labels, and the issues of the branch.
-/

namespace Workbench.Workspace

open Tool Text Value

def environmentPath : Tool Path := do
  makeDir environmentFile.parent.toString true
  return environmentFile

def gh? (args : List String) (default : Option String) : Tool (Option String) :=
  guarded (do return (← output? ("gh" :: args)).or default) Fault.isMissing fun _ => do
    complain "Error: GitHub CLI (gh) not found. Install from https://cli.github.com/"
    return none

def git? (args : List String) (default : Option String) : Tool (Option String) :=
  guarded (do return (← output? ("git" :: args)).or default) Fault.isMissing fun _ => return default

def repositoryInfo : Tool Value := do
  let out ← gh? ["repo", "view", "--json", "owner,name,url"] none
  match out with
  | none | some "" => return .null
  | some text =>
    let read : Tool Value := do
      let data ← parseJson text
      let owner ← data.pathOr ["owner", "login"] "unknown"
      let name ← data.fieldOr "name" "unknown"
      return .object [("owner", owner), ("name", name),
        ("fullName", s!"{owner.display}/{name.display}"), ("url", ← data.fieldOr "url" "")]
    guarded read Fault.isJson fun _ => return .null

def userInfo : Tool Value := do
  match ← gh? ["api", "user", "--jq", ".login,.name"] none with
  | none | some "" => return .null
  | some out =>
    let lines := split out "\n"
    return .object [("login", lines.headD ""), ("name", (lines.drop 1).headD "")]

def firstBoard (owner : String) : Tool Value := do
  let out ← gh? ["project", "list", "--owner", owner, "--format", "json", "--limit", "5"] none
  match out with
  | none | some "" => return .null
  | some text =>
    let read : Tool Value := do
      let boards ← (← parseJson text).fieldOr "projects" (.list [])
      if !boards.truthy then return .null
      let board ← boards.item 0
      return .object [("number", ← board.fieldOrNull "number"),
        ("title", ← board.fieldOr "title" ""), ("url", ← board.fieldOr "url" "")]
    guarded read Fault.isJson fun _ => return .null

def projectBoard (owner : Value) : Tool Value := do
  let mine ← firstBoard "@me"
  if mine.truthy then return mine
  if owner.truthy && !owner.same "unknown" then firstBoard owner.display else return .null

def activeMilestone (owner name : Value) : Tool Value := do
  if !owner.truthy || !name.truthy then return .null
  let out ← gh? ["api", s!"repos/{owner.display}/{name.display}/milestones", "--jq",
    ".[0] | \x7btitle: .title, number: .number, dueOn: .due_on\x7d"] none
  match out with
  | none | some "" => return .null
  | some text =>
    let read : Tool Value := do
      let data ← parseJson text
      if !(← data.fieldOrNull "title").truthy then return .null
      return .object [("title", ← data.fieldOr "title" ""), ("number", ← data.fieldOrNull "number"),
        ("dueOn", ← data.fieldOr "dueOn" "")]
    guarded read Fault.isJson fun _ => return .null

def scopeOfBranch (branch : String) (scopes : Value) : Result (Option (String × String)) := do
  return (← scopeAmong? scopeIn? branch scopes).map fun s => (s, scopeLabel s)

def branchInfo (scopes : Value) : Tool Value := do
  match ← git? ["rev-parse", "--abbrev-ref", "HEAD"] none with
  | none | some "" => return .null
  | some name =>
    let issues ← issuesIn name
    let scope ← scopeOfBranch name scopes
    return .object
      [("name", name), ("relatedIssues", .list (issues.map int)),
       ("detectedScope", ofOption (fun (s : String × String) => .str s.1) scope),
       ("scopeLabel", ofOption (fun (s : String × String) => .str s.2) scope)]

def unscopedDirectories : List String :=
  ["node_modules", "dist", "build", "coverage", ".git", ".claude", "__pycache__", ".venv", "venv"]

def suggestedScopes : Tool Value := do
  let configured ← configuredScopes
  if configured.truthy then return configured
  let plugins ← recover pluginNames []
  if !plugins.isEmpty then return strings plugins
  let names := (← recover topDirectories []).map Path.name
  return strings (names.filter fun n => !unscopedDirectories.contains n && !startsWith n ".")

def typeLabels : List String :=
  ["bug", "feature", "enhancement", "documentation", "refactor", "chore"]

def standardLabels : List String :=
  typeLabels ++ ["priority:critical", "priority:high", "priority:medium", "priority:low"]

/-- The labels that there are and those that lack. -/
structure LabelStock where
  existing : Nat
  missing : List String

def labelStock : Tool LabelStock := do
  let out ← gh? ["label", "list", "--json", "name", "--limit", "100"] none
  let names ← match out with
    | none | some "" => pure []
    | some text =>
      let read : Tool (List Value) := do
        let members ← (← parseJson text).parts
        let found ← members.mapM fun l => (l.fieldOr "name" "" : Result Value)
        (list found).distinct
      guarded read Fault.isJson fun _ => return []
  let missing := standardLabels.filter fun l => !names.any (·.same (.str l))
  return ⟨names.length, sort missing⟩

def LabelStock.fields (s : LabelStock) : List (String × Value) :=
  [("existing", s.existing), ("missing", strings s.missing), ("recommended", strings typeLabels)]

def cacheInfo : Tool Value := do
  let file := (environmentFile.parent / "active-issues.json").toString
  if !(← pathExists file) then return .null
  let read : Tool Value := do
    let data ← readJson file
    return .object [("count", ← (← data.fieldOr "issues" (.list [])).size),
      ("lastSync", ← data.fieldOr "lastSync" ""), ("filter", ← data.fieldOr "filter" "")]
  recover read .null

def syncIssues : Tool Bool := do
  let tracker ← beside "issue-tracker.py"
  if !(← pathExists tracker.toString) then return false
  let r ← run ["python3", tracker.toString, "sync", "assigned"] "None"
  return r.code == 0

def loadEnvironment : Tool Value := do
  let file ← environmentPath
  jsonOrNull file.toString

def isFresh : Tool Bool := do
  let environment ← loadEnvironment
  if !environment.truthy then return false
  let judge : Tool Bool := do
    let made ← (← environment.field "initialized").awareTimeIn
    return (← nowUtc).instant - made.instant < 86400000000
  recover judge false

/-! ### Showing -/

def showEnvironment : Tool Unit := do
  let environment ← loadEnvironment
  if environment.truthy then sayJson environment
  else say "Environment not initialized. Run: python init-environment.py"

def issuesShown (branch : Value) : Result String := do
  let issues ← branch.fieldOrNull "relatedIssues"
  if !issues.truthy then return ""
  return " → Issues #" ++ join ", #" ((← issues.parts).map display)

def dueShown (milestone : Value) (before after : String) : Result String := do
  if !(← milestone.fieldOrNull "dueOn").truthy then return ""
  return before ++ (← (← milestone.field "dueOn").front 10).display ++ after

def sayProject (e : Value) : Tool Unit := do
  let repository ← e.fieldOrNull "repository"
  if repository.truthy then say ("Repository: " ++ (← repository.field "fullName").display)
  let user ← e.fieldOrNull "user"
  if user.truthy then say ("User: " ++ (← user.field "login").display)
  let board ← e.fieldOrNull "projectBoard"
  if board.truthy then
    say ("Project Board: " ++ (← board.field "title").display ++ " (#" ++
      (← board.field "number").display ++ ")")
  let milestone ← e.fieldOrNull "milestone"
  if milestone.truthy then
    let due ← dueShown milestone " - due " ""
    say ("Milestone: " ++ (← milestone.field "title").display ++ due)
  let branch ← e.fieldOrNull "branch"
  if branch.truthy then
    let issues ← issuesShown branch
    say ("Branch: " ++ (← branch.field "name").display ++ issues)
    let scope ← branch.fieldOrNull "detectedScope"
    if scope.truthy then
      say (s!"  Scope: {scope.display} (" ++ (← branch.fieldOr "scopeLabel" "").display ++ ")")
  let scopes ← e.pathOr ["labels", "suggestedScopes"] .null
  if scopes.truthy then
    say ("Suggested Scopes: " ++ (← joinTexts ", " (← scopes.front 5)))
  let cache ← e.fieldOrNull "issueCache"
  if cache.truthy then say ("Cached Issues: " ++ (← cache.field "count").display)

def sayLabels (labels : Value) : Tool Unit := do
  say "\n📋 Label Stocktake:"
  say ("  Existing: " ++ (← labels.fieldOr "existing" (.int 0)).display ++ " labels")
  let missing ← labels.fieldOrNull "missing"
  if missing.truthy then
    let count ← missing.size
    say s!"  Missing: {count} standard labels"
    for l in ← (← missing.front 5).parts do say s!"    - {l.display}"
    if 5 < count then say s!"    ... and {count - 5} more"

def sayPreferences (preferences : Value) : Tool Unit := do
  say "\n⚙️  Preferences:"
  say ("  Project Type: " ++ (← preferences.fieldOr "projectType" "personal").display)
  say ("  Default Issue Filter: " ++ (← preferences.fieldOr "defaultIssueFilter" "all").display)
  let board ← preferences.fieldOrNull "defaultProject"
  if board.truthy then say s!"  Default Project: #{board.display}"

def sayAdvice (setup : Value) : Tool Unit := do
  let line := fun (key good bad : String) => do
    if (← setup.fieldOrNull key).truthy then say s!"  ✅ {good}" else say s!"  ⚠️  {bad}"
  say "\n🔧 Setup Recommendations:"
  line "labelsComplete" "All standard labels present"
    "Missing labels - run /github-workflows:label-sync standard to create"
  line "projectBoardExists" "Project board exists"
    "No project board - run /github-workflows:project-create to create"
  line "milestonesExist" "Active milestone found"
    "No active milestone - run /github-workflows:milestone-create to create"

def saySummary (e : Value) : Tool Unit := do
  say "\n📋 Workflow Environment Summary\n"
  sayProject e
  let labels ← e.fieldOrNull "labels"
  if labels.truthy then sayLabels labels
  let preferences ← e.fieldOrNull "preferences"
  if preferences.truthy then sayPreferences preferences
  let setup ← e.fieldOrNull "setup"
  if setup.truthy then sayAdvice setup
  sayAll
    ["\n💡 Tips:", "  - Use /commit-smart to commit with auto issue refs",
     "  - Use /workflow-status for detailed workflow state",
     "  - Use /issue-track to refresh issue cache"]

/-! ### Gathering -/

def gather : Tool Unit := do
  say "Initializing GitHub workflow environment...\n"
  let made := (← nowUtc).iso
  put "  Detecting repository... "
  let repository ← repositoryInfo
  if !repository.truthy then
    say "✗ Not found"
    return
  say ("✓ " ++ (← repository.field "fullName").display)
  put "  Getting user info... "
  let user ← userInfo
  if user.truthy then say ("✓ " ++ (← user.field "login").display) else say "✗ Not authenticated"
  put "  Finding project board... "
  let owner ← repository.field "owner"
  let board ← projectBoard owner
  if board.truthy then
    say ("✓ " ++ (← board.field "title").display ++ " (#" ++
      (← board.field "number").display ++ ")")
  else say "- None found"
  put "  Getting milestone... "
  let milestone ← activeMilestone owner (← repository.field "name")
  if milestone.truthy then
    let due ← dueShown milestone " (due " ")"
    say ("✓ " ++ (← milestone.field "title").display ++ due)
  else say "- None active"
  put "  Analyzing project scopes... "
  let scopes ← suggestedScopes
  if scopes.truthy then say s!"✓ {← scopes.size} scopes" else say "- None detected"
  put "  Checking labels... "
  let stock ← labelStock
  say (s!"✓ {stock.existing} labels ("
    ++ (if stock.missing.isEmpty then "all standard present"
      else s!"{stock.missing.length} missing") ++ ")")
  put "  Detecting branch... "
  let branch ← branchInfo scopes
  if branch.truthy then
    let issues ← issuesShown branch
    let scope ← branch.field "detectedScope"
    say ("✓ " ++ (← branch.field "name").display ++ issues
      ++ (if scope.truthy then " [" ++ scope.display ++ "]" else ""))
  else say "- Not in git repo"
  put "  Syncing issues... "
  let synced ← syncIssues
  let cache ← if synced then cacheInfo else pure .null
  if !synced then say "- Sync failed"
  else if cache.truthy then say ("✓ " ++ (← cache.field "count").display ++ " issues cached")
  else say "✓ Done"
  let kept := fun (k : String) (v : Value) => if v.truthy then [(k, v)] else []
  let environment := object (
    [("initialized", .str made), ("repository", repository)] ++ kept "user" user
    ++ kept "projectBoard" board ++ kept "milestone" milestone
    ++ [("labels", .object (stock.fields
      ++ [("suggestedScopes", if scopes.truthy then scopes else .list [])]))]
    ++ kept "branch" branch ++ kept "issueCache" cache
    ++ [("preferences", .object
          [("projectType", "personal"), ("defaultIssueFilter", "all"),
           ("defaultProject", if board.truthy then (board.get? "number").getD .null else .null)]),
        ("setup", .object
          [("labelsComplete", stock.missing.isEmpty), ("projectBoardExists", board.truthy),
           ("milestonesExist", milestone.truthy)])])
  let file ← environmentPath
  dumpJson file.toString environment
  say s!"\n✅ Environment saved to {file.toString}"
  say ("\n" ++ times "=" 50)
  saySummary environment

def gatherDaily : Tool Unit := do
  if ← isFresh then
    say "Environment already initialized today. Use --force to re-initialize."
    showEnvironment
  else gather

def environmentUsage : String :=
  "\nInitialize GitHub workflow environment.\n\nUsage:\n"
  ++ "    python init-environment.py              # Initialize environment\n"
  ++ "    python init-environment.py --force      # Force re-initialization\n"
  ++ "    python init-environment.py --check      # Check if initialized\n"
  ++ "    python init-environment.py --show       # Show current environment\n"

def environmentCommand (argv : List String) : Tool Unit := do
  match argv with
  | [] => gatherDaily
  | "--force" :: _ => gather
  | "--check" :: _ =>
    if ← isFresh then
      say "initialized"
      exit 0
    if (← loadEnvironment).truthy then
      say "stale"
      exit 1
    say "not_initialized"
    exit 2
  | "--show" :: _ => showEnvironment
  | "--summary" :: _ =>
    let environment ← loadEnvironment
    if environment.truthy then saySummary environment else say "Not initialized"
  | other :: _ => sayAll [s!"Unknown argument: {other}", environmentUsage]

end Workbench.Workspace
