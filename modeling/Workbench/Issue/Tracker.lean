import Workbench.Workspace.Scope

/-!
# Cache of issues

Open issues are fetched from the hosting service and kept in a file.
-/

namespace Workbench.Issue

open Decimal Tool Text Value

open Workspace (environmentFile savedEnvironment issueIn?)

def cacheFile : Tool Path := do
  let dir := environmentFile.parent
  makeDir dir.toString true
  return dir / "active-issues.json"

/-! ### Fetching -/

/-- The document that the hosting service prints; null if it fails or prints none. -/
def ghDocument (args : List String) : Tool Value := do
  let r ← run ("gh" :: args) "None"
  if r.code != 0 then
    complain s!"Error running gh command: {r.err}"
    return .null
  if trim r.out == "" then return .list []
  guarded (parseJson r.out) Fault.isJson fun e => do
    complain s!"Error parsing JSON: {e.message}"
    return .null

def repositoryName : Tool Value := do
  let unknown := str "unknown/unknown"
  let read : Tool Value := do
    let r ← runChecked ["gh", "repo", "view", "--json", "nameWithOwner"]
    (← parseJson r.out).fieldOr "nameWithOwner" unknown
  recover read unknown

def selection (filter : String) (value : Option String) : List String :=
  let given := value.getD ""
  if filter == "labeled" && given != "" then ["--label", given]
  else if filter == "milestone" && given != "" then ["--milestone", given]
  else if filter == "all" then []
  else ["--assignee", "@me"]

def namesUnder (issue : Value) (list key : String) : Result Value := do
  let members ← (← issue.fieldOr list (.list [])).parts
  return .list (← members.mapM fun m => m.fieldOr key "")

def recordOf (issue : Value) : Result Value := do
  let milestone ← issue.fieldOrNull "milestone"
  let body ← issue.fieldOr "body" ""
  return .object
    [("number", ← issue.fieldOrNull "number"), ("title", ← issue.fieldOr "title" ""),
     ("state", ← issue.fieldOr "state" "open"), ("labels", ← namesUnder issue "labels" "name"),
     ("assignees", ← namesUnder issue "assignees" "login"),
     ("milestone", ← if milestone.truthy then milestone.fieldOrNull "title" else .ok .null),
     ("created_at", ← issue.fieldOr "createdAt" ""), ("updated_at", ← issue.fieldOr "updatedAt" ""),
     ("url", ← issue.fieldOr "url" ""),
     ("body_preview", ← (if body.truthy then body else .str "").front 500)]

/-- Fetches issues and keeps them.  Nothing is kept if they cannot be fetched. -/
def sync (filter : String) (value : Option String) : Tool Bool := do
  complain s!"Syncing issues (filter: {filter})..."
  let issues ← ghDocument (["issue", "list", "--state", "open", "--json",
    "number,title,state,labels,assignees,milestone,createdAt,updatedAt,url,body"] ++
      selection filter value)
  if issues.same .null then return false
  let records ← (← issues.parts).mapM fun i => (recordOf i : Result Value)
  let now := (← nowUtc).iso
  let cache := object
    [("lastSync", now), ("repository", ← repositoryName), ("filter", filter),
     ("filterValue", ofOption .str value), ("issues", .list records)]
  let file ← cacheFile
  dumpJson file.toString cache
  complain s!"Cached {records.length} issues to {file.toString}"
  return true

def load : Tool Value := do
  let file ← cacheFile
  if !(← pathExists file.toString) then return .null
  guarded (readJson file.toString) (fun e => !e.isExit) fun e => do
    complain s!"Error loading cache: {e.message}"
    return .null

def issuesOf (cache : Value) : Result Value := cache.fieldOr "issues" (.list [])

def find (number : Int) : Tool Value := do
  let cache ← load
  if !cache.truthy then return .null
  for issue in ← (← issuesOf cache).parts do
    if (← issue.field "number").same number then return issue
  return .null

/-! ### Filters -/

def keep (issues : Value) (p : Value → Result Bool) : Result Value := do
  return .list (← (← issues.parts).filterM p)

def withScope (issues label : Value) : Result Value := do
  if !label.truthy then return issues
  let name := replace (← label.textFor "replace") "scope:" ""
  keep issues fun issue => do
    let labels ← issue.fieldOr "labels" (.list [])
    if ← labels.has label then return true
    if ← labels.hasText s!"scope:{name}" then return true
    labels.hasText name

def withAssignee (issues login : Value) : Result Value := do
  if !login.truthy then return issues
  keep issues fun issue => do (← issue.fieldOr "assignees" (.list [])).has login

def boardQuery (kind : String) : String :=
  let begins := " \x7b\n"
  let indent := fun (n : Nat) => times " " n
  s!"\n{indent 12}query($owner: String!, $number: Int!){begins}"
  ++ s!"{indent 16}{kind}(login: $owner){begins}"
  ++ s!"{indent 20}projectV2(number: $number){begins}"
  ++ s!"{indent 24}items(first: 100){begins}"
  ++ s!"{indent 28}nodes{begins}"
  ++ s!"{indent 32}content{begins}"
  ++ s!"{indent 36}... on Issue{begins}"
  ++ s!"{indent 40}number\n"
  ++ String.join ([36, 32, 28, 24, 20, 16, 12].map fun n => s!"{indent n}\x7d\n")
  ++ indent 12

def boardItems (kind : String) (owner number : Value) : Tool (Except String Value) := do
  let r ← run ["gh", "api", "graphql", "-f", s!"query={boardQuery kind}", "-f",
    s!"owner={owner.display}", "-F", s!"number={number.display}"] "None"
  if r.code != 0 then return .error r.err
  let data ← parseJson r.out
  let errors ← data.fieldOrNull "errors"
  if errors.truthy then
    return .error (← (← errors.item 0).fieldOr "message" "Unknown GraphQL error").display
  return .ok (← data.pathOr ["data", kind, "projectV2", "items", "nodes"] (.list []))

def boardNumbers (items : Value) : Result (List Value) := do
  let found ← (← items.parts).mapM fun item => do
    let content ← item.fieldOr "content" (.map [])
    if !content.truthy then return none
    let number ← content.fieldOrNull "number"
    return if number.truthy then some number else none
  return found.filterMap id

def withBoard (issues number : Value) : Tool Value := do
  if !number.truthy then return issues
  let environment ← savedEnvironment
  if !environment.truthy then
    complain "Warning: No environment loaded, skipping project filtering"
    return issues
  let owner ← environment.pathOr ["user", "login"] ""
  if !owner.truthy then
    complain "Warning: No user login in environment, skipping project filtering"
    return issues
  let organization ← environment.pathOr ["repository", "owner"] ""
  let mine ← boardItems "user" owner number
  let missing := match mine with
    | .ok items => items.same .null
    | .error _ => true
  let found ← if missing && organization.truthy && !organization.same owner then
      boardItems "organization" organization number
    else pure mine
  let give := fun (reason : String) => do
    complain s!"Warning: Project filtering failed: {reason}"
    complain s!"Troubleshooting: Check that project #{number.display} exists and you have access"
    return issues
  match found with
  | .error reason => give reason
  | .ok items =>
    if items.same .null then give "None"
    else
      let numbers ← boardNumbers items
      keep issues fun issue => do return numbers.any (·.same (← issue.field "number"))

/-- The issues that the context of the work asks for: on its board, of its scope unless none would
be left, and in a team those of the user. -/
def inContext (issues environment : Value) : Tool Value := do
  if !environment.truthy then return issues
  let board ← environment.pathOr ["preferences", "defaultProject"] .null
  let issues ← if board.truthy then withBoard issues board else pure issues
  let label ← environment.pathOr ["branch", "scopeLabel"] .null
  let ofScope ← withScope issues label
  let issues := if label.truthy && ofScope.truthy then ofScope else issues
  let type ← environment.pathOr ["preferences", "projectType"] .null
  if !type.same "team" then return issues
  let login ← environment.pathOr ["user", "login"] .null
  if login.truthy then withAssignee issues login else return issues

def selectedNumbers (environment : Value) : Result Value :=
  if environment.truthy then environment.pathOr ["branch", "relatedIssues"] (.list [])
  else .ok (.list [])

def labelOf (environment : Value) : Result Value :=
  if environment.truthy then environment.pathOr ["branch", "scopeLabel"] .null else .ok .null

/-! ### Showing -/

def ageInMinutes (cache : Value) : Tool Float := do
  let last ← (← cache.field "lastSync").awareTimeIn
  return ofInt ((← nowUtc).instant - last.instant) / 1000000.0 / 60.0

def isUrgent (issue : Value) : Result Bool := do
  anyM (fun l => do return contains (lower (← l.textFor "lower")) "high")
    (← (← issue.fieldOr "labels" (.list [])).parts)

def sayIssue (withMilestone : Bool) (issue : Value) : Tool Unit := do
  let labels ← joinTexts ", " (← issue.fieldOr "labels" (.list []))
  let milestone ← if withMilestone then issue.fieldOrNull "milestone" else pure .null
  let number := (← issue.field "number").display
  say (s!"┌─ #{number} " ++ (← issue.field "title").display)
  say ("│  Labels: " ++ (if labels == "" then "none" else labels))
  if milestone.truthy && !milestone.same "none" then say s!"│  Milestone: {milestone.display}"
  sayAll [s!"└─ Use: Closes #{number} or Refs #{number}", ""]

def sayByPriority (withMilestone : Bool) (issues : List Value) : Tool Unit := do
  let marked ← issues.mapM fun i => do return (i, ← (isUrgent i : Result Bool))
  let part := fun (heading : String) (urgent : Bool) => do
    let members := marked.filter (·.2 == urgent)
    if !members.isEmpty then
      say heading
      members.forM fun m => sayIssue withMilestone m.1
  part "HIGH PRIORITY:" true
  part "NORMAL PRIORITY:" false

def nothingKept : String := "No cached issues. Run: python issue-tracker.py sync"

def showAll : Tool Unit := do
  let cache ← load
  if !cache.truthy then
    say nothingKept
    return
  let age ← ageInMinutes cache
  let minutes := toString (truncate age)
  if 60.0 < age then
    sayAll [s!"⚠️  Cache is {minutes} minutes old. Consider running: sync", ""]
  say s!"📋 Active Issues (synced {minutes} minutes ago)"
  say ("Repository: " ++ (← cache.field "repository").display)
  say ("Filter: " ++ (← cache.field "filter").display)
  let value ← cache.fieldOrNull "filterValue"
  if value.truthy then say s!"Value: {value.display}"
  say ""
  let issues ← issuesOf cache
  if !issues.truthy then
    say "No issues found."
    return
  sayByPriority true (← issues.parts)
  say "💡 Tip: Use /commit-smart to auto-suggest these in commits"

def filtered (filter : String) (issues environment : Value) : Tool (Value × String) := do
  match filter with
  | "context" => return (← inContext issues environment, "context (project + scope + assignment)")
  | "scope" =>
    let label ← labelOf environment
    if label.truthy then return (← withScope issues label, s!"scope: {label.display}")
    return (issues, "scope (none detected)")
  | "branch" =>
    let selected ← selectedNumbers (← savedEnvironment)
    let kept ← keep issues fun i => do selected.has (← i.field "number")
    return (kept, s!"branch issues: {selected.display}")
  | _ => return (issues, "all")

def showFiltered (filter : String) : Tool Unit := do
  let cache ← load
  if !cache.truthy then
    say nothingKept
    return
  let (issues, description) ← filtered filter (← issuesOf cache) (← savedEnvironment)
  let age ← ageInMinutes cache
  sayAll [s!"📋 Filtered Issues ({description})", s!"Synced {truncate age} minutes ago", ""]
  if !issues.truthy then say "No issues match this filter."
  else sayByPriority false (← issues.parts)

/-! ### References -/

/-- An issue and how it is related to the work. -/
structure Related where
  issue : Value
  score : Nat
  reasons : List String

/-- The work that issues are compared with. -/
structure Work where
  files : List String
  /-- The numbers selected for the branch. -/
  selected : Value
  /-- The number in the name of the branch. -/
  branchIssue : Option Int
  /-- The label of the scope. -/
  label : Value

def fileWords (file : String) : List String :=
  words (replace (replace (Path.ofString file).stem "-" " ") "_" " ")

def Work.isBranchIssue (w : Work) (number : Value) : Bool :=
  match w.branchIssue with
  | some n => n != 0 && number.same n
  | none => false

def Work.owns (w : Work) (number : Value) : Result Bool := do
  if ← w.selected.has number then return true
  return w.isBranchIssue number

def branchPoints (w : Work) (issue : Value) : Result (Nat × List String) := do
  let number ← issue.field "number"
  if ← w.selected.has number then return (100, ["branch selected issue"])
  if w.isBranchIssue number then return (100, ["branch name match"])
  return (0, [])

def scopePoints (w : Work) (issue : Value) : Result (Nat × List String) := do
  if !w.label.truthy then return (0, [])
  if ← (← issue.fieldOr "labels" (.list [])).has w.label then
    return (50, [s!"scope match: {w.label.display}"])
  return (0, [])

def mentionedWords (w : Work) (issue : Value) : Result (List String) := do
  let title ← issue.field "title"
  let body ← issue.fieldOr "body_preview" ""
  let text := lower s!"{title.display} {body.display}"
  return (w.files.flatMap fileWords).filter fun word =>
    2 < word.length && contains text (lower word)

def themePoints (w : Work) (issue : Value) : Result Nat := do
  let labels ← issue.fieldOr "labels" (.list [])
  let counts ← w.files.mapM fun file => do
    let hits ← ["test", "auth", "api"].filterM fun theme => do
      if !contains file theme then return false
      anyM (fun l => do return contains (lower (← l.textFor "lower")) theme) (← labels.parts)
    return hits.length
  return 5 * (counts.foldr (· + ·) 0)

def relation (w : Work) (issue : Value) : Result Related := do
  let (branch, branchReason) ← branchPoints w issue
  let (scope, scopeReason) ← scopePoints w issue
  let words ← mentionedWords w issue
  let themes ← themePoints w issue
  return { issue, score := branch + scope + 10 * words.length + themes
           reasons := branchReason ++ scopeReason ++ (dedup words).map ("file keyword: " ++ ·) }

def relatedTo (w : Work) (issues : List Value) : Result (List Related) := do
  let scored ← issues.mapM (relation w)
  return (scored.filter fun r => 0 < r.score).mergeSort fun a b => b.score ≤ a.score

/-- The files that are to be committed. -/
def stagedFiles : Tool (List String) := do
  let out ← recover (output? ["git", "diff", "--cached", "--name-only"]) none
  match out with
  | none | some "" => return []
  | some text => return split text "\n"

/-- The number in the name of the branch. -/
def branchIssue : Tool (Option Int) := do
  match ← currentBranch? with
  | none | some "" => return none
  | some name => issueIn? name

def findRelated (files : List String) : Tool (List Related) := do
  let cache ← load
  if !cache.truthy then
    complain "No cached issues. Run sync first."
    return []
  let issues ← issuesOf cache
  if !issues.truthy then return []
  let files ← if files.isEmpty then stagedFiles else pure files
  let number ← branchIssue
  let environment ← savedEnvironment
  let selected ← selectedNumbers environment
  let label ← labelOf environment
  if environment.truthy then
    let _ ← environment.pathOr ["preferences", "defaultProject"] .null
  relatedTo ⟨files, selected, number, label⟩ (← issues.parts)

def Related.value (r : Related) : Value :=
  .object [("issue", r.issue), ("score", r.score), ("reasons", strings r.reasons)]

def keyword (owned : Bool) (score : Nat) : String × String :=
  if owned || 50 ≤ score then ("Closes", "HIGH")
  else if 20 ≤ score then ("Refs", "MEDIUM")
  else ("Refs", "LOW")

def footer (rs : List (Related × Value × Bool)) : List String :=
  let own :=
    rs.filterMap fun (_, number, owned) => if owned then some s!"Closes #{number.display}" else none
  let others := rs.filterMap fun (r, number, owned) =>
    if !owned && 20 ≤ r.score then some s!"Refs #{number.display}" else none
  own ++ others.take 2

def suggest : Tool Unit := do
  let related ← findRelated []
  if related.isEmpty then
    say "No related issues found."
    return
  let number ← branchIssue
  let selected ← selectedNumbers (← savedEnvironment)
  let w : Work := ⟨[], selected, number, .null⟩
  say "Suggested issue references for your commit:\n"
  let mut judged := #[]
  for (r, i) in (related.take 5).zipIdx do
    let n ← r.issue.field "number"
    let owned ← w.owns n
    let (word, confidence) := keyword owned r.score
    say s!"{i + 1}. [{confidence}] {word} #{n.display}"
    say ("   Title: " ++ (← r.issue.field "title").display)
    sayAll ["   Match: " ++ join ", " r.reasons, ""]
    judged := judged.push (r, n, owned)
  say "Suggested commit footer:"
  sayAll (footer judged.toList)

/-! ### Selecting -/

/-- Numbers as a list in brackets, none of them longer than a number may be. -/
def numbersText (ns : List Int) : Result String :=
  if ns.any fun n => Decimal.digitLimit < (Nat.toDigits 10 n.natAbs).length then
    .error (.invalid (Json.WriteError.tooManyDigits Decimal.digitLimit).message)
  else .ok (list (ns.map int)).display

/-- Sets the issues of the branch in the saved environment. -/
def select (numbers : List Int) : Tool Bool := do
  let environment ← savedEnvironment
  if !environment.truthy then
    say "Environment not initialized. Run /github-workflows:init first."
    return false
  let cache ← load
  if cache.truthy then
    let kept ← (← (← issuesOf cache).parts).mapM fun i => (i.field "number" : Result Value)
    let known ← (list kept).distinct
    let unknown := numbers.filter fun n => !known.any (·.same (.int n))
    if !unknown.isEmpty then
      sayAll [s!"Warning: Issues not in cache: {← numbersText unknown}",
        "Run /issue-track sync to update cache."]
  let environment ← if ← environment.hasText "branch" then pure environment
    else environment.setField "branch" (.object [("name", ""), ("relatedIssues", .list [])])
  let branch ← (← environment.field "branch").setField "relatedIssues" (.list (numbers.map int))
  let changed ← environment.setField "branch" branch
  dumpJson environmentFile.toString changed
  say s!"✓ Selected issues for branch: {← numbersText numbers}"
  return true

def clear : Tool Unit := do
  let file ← cacheFile
  if ← pathExists file.toString then
    removeFile file.toString
    say s!"Cleared cache: {file.toString}"
  else say "No cache to clear."

def trackerUsage : String :=
  let line := fun (s : String) => s!"    python issue-tracker.py {s}\n"
  "\nIssue Tracker - Sync and cache GitHub issues for commit integration.\n\nUsage:\n"
  ++ line "sync [filter] [value]   # Sync issues from GitHub"
  ++ line "show                    # Display cached issues"
  ++ line "context                 # Show issues filtered by context"
  ++ line "scope                   # Show issues matching branch scope"
  ++ line "branch                  # Show only branch-selected issues"
  ++ line "select <numbers...>     # Select issues for current branch"
  ++ line "find-related [files...] # Find related issues"
  ++ line "get [number]            # Get specific issue"
  ++ line "suggest-refs            # Suggest issue refs for staged changes"
  ++ line "clear                   # Clear the cache"

def showOne (text : String) : Tool Unit := do
  let number ← wholeOf text
  let issue ← find number
  if issue.truthy then sayJson issue
  else say s!"Issue #{number} not found in cache."

def trackerCommand (argv : List String) : Tool Unit := do
  match argv with
  | [] => showAll
  | "sync" :: rest => if ← sync (rest.headD "assigned") rest[1]? then showAll
  | "show" :: _ => showAll
  | "context" :: _ => showFiltered "context"
  | "scope" :: _ => showFiltered "scope"
  | "branch" :: _ => showFiltered "branch"
  | ["select"] =>
    sayAll ["Usage: issue-tracker.py select <issue_numbers...>",
      "Example: issue-tracker.py select 42 43 44"]
  | "select" :: numbers =>
    let chosen : Tool Unit := do
      let ns ← numbers.mapM fun n => (wholeOf n : Result Int)
      let _ ← select ns
    guarded chosen Fault.isInvalid fun _ => say "Error: Issue numbers must be integers"
  | "find-related" :: files => sayJson (.list ((← findRelated files).map Related.value))
  | "suggest-refs" :: _ => suggest
  | ["get"] => say "Usage: issue-tracker.py get <number>"
  | "get" :: number :: _ => showOne number
  | "clear" :: _ => clear
  | "json" :: _ =>
    let cache ← load
    if cache.truthy then sayJson cache else say "\x7b\x7d"
  | other :: _ => sayAll [s!"Unknown command: {other}", trackerUsage]

end Workbench.Issue
