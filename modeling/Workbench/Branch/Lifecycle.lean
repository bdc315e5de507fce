import Workbench.Branch.Name
import Workbench.Options.Basic
import Workbench.Release.Version

/-!
# Life of a branch

Starts a branch, finishes it along the flow of its type, shows and cleans branches, and changes the
configuration.
-/

namespace Workbench.Branch

open Options Value Tool Text

/-- The configuration of the repository. -/
def load : Tool Config := do loadFrom (configFile (← root)) builtIn

def save (c : Config) : Tool Unit := do
  let file := configFile (← root)
  makePath file.parent
  dumpJson file.toString c
  say s!"Configuration saved to: {file.toString}"

def doesExist (branch : String) (remote : Bool) : Tool Bool :=
  orElse (do
    let _ ← git ["rev-parse", "--verify", (if remote then "origin/" else "") ++ branch]
    return true) (return false)

def commitType (type : String) : String :=
  match type with
  | "bugfix" | "hotfix" => "fix"
  | "docs" => "docs"
  | "refactor" => "refactor"
  | "release" => "chore"
  | _ => "feat"

def gitOrSay (args : List String) (warning : String) : Tool Unit :=
  orElse (do let _ ← git args) (say warning)

def run (args : List String) : Tool Unit := do let _ ← git args

/-! ### Starting -/

def baseOf (flow : Value) (c : Config) : Result Value := do
  let base ← flow.fieldOr "from" "main"
  if (← c.strategy "gitflow").same "github-flow" then c.main else return base

def start (type description : String) (issue : Int) : Tool Unit := do
  let c ← load
  let _ ← c.strategy "gitflow"
  let flows ← c.flows
  if !(← flows.hasText type) then
    say s!"Error: Unknown branch type '{type}'"
    let known ← flows.pairs
    say ("Available types: " ++ join ", " (known.map (·.1.display)))
    exit 1
  let base := (← baseOf (← flows.field type) c).display
  let name ← makeName type description issue c
  sayAll [s!"Starting {type} branch: {name}", s!"Base branch: {base}", ""]
  if (← current) != base then
    say s!"Switching to {base}..."
    run ["checkout", base]
  say s!"Updating {base} from origin..."
  gitOrSay ["pull", "origin", base] s!"Warning: Could not pull from origin/{base}"
  say s!"Creating branch: {name}"
  run ["checkout", "-b", name]
  sayAll ["", s!"✅ Branch created: {name}", s!"✅ Based on: {base}"]
  if issue != 0 then say s!"✅ Linked to: #{issue}"
  sayAll ["", "Next steps:", "1. Make your changes",
    s!"2. Commit with: {commitType type}(scope): description"]
  if issue != 0 then say s!"3. Reference issue: Refs #{issue}"
  say s!"4. When done: branch-manager.py finish {name}"

/-! ### Finishing -/

def versionAtFront? (s : Chars) : Option Chars := do
  let (a, s) ← Release.Version.digits? s
  let (b, s) ← Release.Version.digits? (← Release.Version.dropDot? s)
  let (c, _) ← Release.Version.digits? (← Release.Version.dropDot? s)
  return a ++ '.' :: b ++ '.' :: c

def versionIn? : Chars → Option Chars
  | [] => none
  | c :: s => (versionAtFront? (c :: s)).or (versionIn? s)

/-- What is to be done with a branch. -/
structure Finish where
  branch : String
  targets : List String
  squash : Bool
  tag : Bool
  delete : Bool

def mergeInto (f : Finish) (target : String) : Tool Unit := do
  say s!"Merging to {target}..."
  run ["checkout", target]
  gitOrSay ["pull", "origin", target] s!"Warning: Could not pull from origin/{target}"
  run ["merge", if f.squash then "--squash" else "--no-ff", f.branch]
  if f.squash then run ["commit", "-m", s!"Merge {f.branch} into {target}"]
  say s!"Pushing {target} to origin..."
  run ["push", "origin", target]
  say s!"✅ Merged to {target}"

def tagVersion (branch : String) : Tool Unit := do
  match versionIn? branch.toList with
  | none => return
  | some digits =>
    let version := String.ofList digits
    let tag := s!"v{version}"
    say s!"Creating tag: {tag}"
    run ["tag", "-a", tag, "-m", s!"Release {version}"]
    run ["push", "origin", tag]
    say s!"✅ Created tag: {tag}"

def deleteBranch (branch : String) : Tool Unit := do
  say s!"Deleting branch: {branch}"
  run ["branch", "-d", branch]
  orElse
    (do
      run ["push", "origin", "--delete", branch]
      say "✅ Deleted remote branch")
    (say "Note: Remote branch may not exist or already deleted")
  say "✅ Deleted local branch"

def Finish.carryOut (f : Finish) : Tool Unit := do
  let status ← git ["status", "--porcelain"]
  if status != "" then
    sayAll ["Error: You have uncommitted changes", "Please commit or stash them first"]
    exit 1
  f.targets.forM (mergeInto f)
  if f.tag then tagVersion f.branch
  if f.delete then deleteBranch f.branch
  sayAll ["", s!"✅ Branch {f.branch} completed!"]

/-- How the branches of a type are finished. -/
structure Flow where
  /-- The branch that is merged to, or several. -/
  goals : Value
  squash : Bool
  tag : Bool
  delete : Bool

/-- How a type of branches is finished. -/
def flowOf (type : String) (c : Config) : Result Flow := do
  let flow ← (← c.flows).fieldOr type (.map [])
  let goal ← flow.fieldOr "to" "develop"
  let delete ← flow.fieldOr "deleteAfterMerge" true
  let squash ← flow.fieldOr "squashMerge" false
  let tag ← flow.fieldOr "createTag" false
  let goals := match goal with
    | .str s => strings [s]
    | other => other
  return { goals, squash := squash.truthy, tag := tag.truthy, delete := delete.truthy }

def Flow.targets (f : Flow) : Result (List String) := do return (← f.goals.parts).map display

def finishAlong (type branch : String) (flow : Flow) : Tool Unit := do
  say s!"Finishing {type} branch: {branch}"
  say ("Target(s): " ++ (← joinTexts ", " flow.goals))
  say ""
  let targets ← flow.targets
  Finish.carryOut { branch, targets, squash := flow.squash, tag := flow.tag, delete := flow.delete }

def chosen (given : Option String) : Tool String :=
  match given with
  | some b => pure b
  | none => current

def finishBranch (branch : String) (c : Config) : Tool Unit := do
  match ← typeOf? branch c with
  | none | some "" =>
    sayAll [s!"Error: Cannot determine type for branch '{branch}'",
      "Branch should start with a known prefix (feature/, bugfix/, etc.)"]
    exit 1
  | some type =>
    let flow ← flowOf type c
    finishAlong type branch flow

/-- Merge a branch along its flow, and tag and delete it if the flow says so. -/
def finish (given : Option String) : Tool Unit := do
  let c ← load
  let branch ← chosen given
  finishBranch branch c

/-! ### Showing -/

def sayRecent (c : Config) : Tool Unit := do
  let main := (← c.main).display
  let commits ← git ["log", s!"{main}..HEAD", "--oneline", "-5"]
  if commits == "" then say s!"No commits ahead of {main}"
  else sayAll [s!"Recent commits (since {main}):", commits]

def sayActive (c : Config) : Tool Unit := do
  let prefixes ← c.prefixes
  say "Active branches by type:"
  let lines := split (← git ["branch", "--list"]) "\n"
  for (type, lead) in ← prefixes.pairs do
    let found ← lines.filterM fun l => ((str l).has lead : Result Bool)
    if !found.isEmpty then
      say s!"  {type.display}: {found.length}"
      sayAll ((found.take 3).map fun l => s!"    - {unmarked l}")
      if 3 < found.length then say s!"    ... and {found.length - 3} more"

def status : Tool Unit := do
  let c ← load
  let branch ← current
  let type ← typeOf? branch c
  sayAll ["Branch Status", times "=" 40, s!"Current branch: {branch}"]
  say ("Strategy: " ++ (← c.strategy "unknown").display)
  match type with
  | none | some "" => say "Branch type: (not a flow branch)"
  | some t =>
    say s!"Branch type: {t}"
    let flow ← (← c.flows).fieldOr t (.map [])
    say ("Base: " ++ (← flow.fieldOr "from" "unknown").display)
    say ("Target: " ++ (← flow.fieldOr "to" "unknown").display)
  say ""
  let changes ← git ["status", "--short"]
  if changes == "" then say "Working directory clean" else sayAll ["Uncommitted changes:", changes]
  say ""
  orElse (sayRecent c) (return ())
  say ""
  sayActive c

def hasPrefix (lead : Value) (branch : String) : Result Bool := do
  if contains branch s!"/{lead.display}" then return true
  startsWithPrefix branch lead

def withPrefix (lead : Value) (branches : List String) : Result (List String) :=
  branches.filterM (hasPrefix lead)

def sayBranches (bs : List String) : Tool Unit := sayAll (bs.map ("  - " ++ ·))

def listAll (prefixes : Value) (branches : List String) : Tool Unit := do
  sayAll ["All branches by type:", times "=" 40]
  let prefixes ← prefixes.pairs
  for (type, lead) in prefixes do
    let found ← withPrefix lead branches
    if !found.isEmpty then
      say s!"\n{upper type.display} ({found.length}):"
      sayBranches found
  let matched ← prefixes.mapM fun (_, lead) => (withPrefix lead branches : Result (List String))
  let others := branches.filter fun b => !matched.flatten.contains b
  if !others.isEmpty then
    say s!"\nOTHER ({others.length}):"
    sayBranches others

def listType (type : String) (prefixes : Value) (branches : List String) : Tool Unit := do
  let lead ← prefixes.fieldOrNull type
  if !lead.truthy then
    say s!"Error: Unknown branch type '{type}'"
    say ("Available types: " ++ join ", " ((← prefixes.pairs).map (·.1.display)))
    exit 1
  let found ← withPrefix lead branches
  say s!"{upper type} branches ({found.length}):"
  for b in found do
    orElse
      (do
        let age ← git ["log", "-1", "--format=%cr", replace b "remotes/origin/" ""]
        say s!"  - {b} ({age})")
      (say s!"  - {b}")

def list (type : Option String) (all : Bool) : Tool Unit := do
  let c ← load
  let prefixes ← c.prefixes
  let branches := listed (← git ["branch", "--list", "-a"])
  match all, type with
  | true, _ => listAll prefixes branches
  | false, some t => if t != "" then listType t prefixes branches else summary prefixes branches
  | false, none => summary prefixes branches
where
  /-- Counts the branches of each type. -/
  summary (prefixes : Value) (branches : List String) : Tool Unit := do
    sayAll ["Branch summary:", times "=" 40]
    for (type, lead) in ← prefixes.pairs do
      let found ← withPrefix lead branches
      if !found.isEmpty then say s!"{type.display}: {found.length}"
    sayAll ["", "Use --all for full list or specify type"]

/-! ### Cleaning -/

def confirmed (question : String) (noTerminal : List String) : Tool Bool := do
  if !(← get).terminal then
    sayAll noTerminal
    return false
  let answer ← ask question
  if lower (trim answer) == "y" then return true
  say "Cancelled"
  return false

def cleanOne (branch : String) : Tool Unit :=
  guarded
    (do
      run ["branch", "-d", branch]
      say s!"✅ Deleted: {branch}"
      let _ ← gitUnchecked ["push", "origin", "--delete", branch])
    Fault.isFailed
    fun e => say s!"❌ Failed to delete {branch}: {e.message}"

def needsYes : List String :=
  ["Error: Cannot prompt for confirmation in non-interactive mode",
   "Use --yes flag to skip confirmation"]

def clean (dryRun yes : Bool) : Tool Unit := do
  let c ← load
  let main ← c.main
  let develop ← c.develop
  sayAll ["Checking for merged branches...", ""]
  let merged ← orElse (listed <$> git ["branch", "--merged", main.display]) (return [])
  let kept ← (Value.list [main, develop, .str "HEAD"]).distinct
  let found := merged.filter fun b => !kept.any (·.same (.str b)) && !startsWith b "remotes/"
  if found.isEmpty then
    say "No merged branches to clean"
    return
  say s!"Found {found.length} merged branch(es):"
  sayBranches found
  say ""
  if dryRun then
    say "Dry run - no branches deleted"
    return
  let sure ← if yes then pure true else confirmed "Delete these branches? [y/N] " needsYes
  if sure then
    found.forM cleanOne
    sayAll ["", "Cleanup complete!"]

/-! ### Configuring -/

/-- Puts a value at a path of keys; missing objects on the way are made.  What is on the way must be
an object. -/
def setPath (v : Value) : List String → Value → Result Value
  | [], c => .ok c
  | [k], c => c.setField k v
  | k :: ks, c =>
    match c with
    | .map es => do
      let inner ← setPath v ks ((lookup k es).getD (.map []))
      return .map (put k inner es)
    | other => .error (.kind s!"'{other.kindText}' object does not support item assignment")

def settingOf (text : String) : Result Value :=
  match parseJson text with
  | .ok v => .ok v
  | .error e => if e.isJson then .ok text else .error e

def set (setting : String) : Tool Unit := do
  let c ← load
  match splitAtMost setting "=" 1 with
  | [key, text] =>
    -- The path must be passable before the value is looked at.
    let path := split key "."
    let _ ← setPath .null path.dropLast c
    let v ← settingOf text
    save (← setPath v path c)
    say s!"Set {key} = {v.display}"
  | _ =>
    say "Error: Use format key=value"
    exit 1

def init (strategy : String) : Tool Unit := do
  let _ ← load
  let file := (← beside "assets/templates/branching-config-templates.json").toString
  if !(← pathExists file) then
    say "Error: Templates file not found"
    exit 1
  let document ← readJson file
  let templates ← document.fieldOr "templates" (.map [])
  if ← templates.hasText strategy then
    let c ← (← templates.field strategy).fieldOr "config" (.map [])
    save c
    say s!"Initialized with {strategy} configuration"
  else
    say s!"Error: Unknown strategy '{strategy}'"
    say ("Available: " ++ join ", " ((← templates.pairs).map (·.1.display)))
    exit 1

/-! ### Command line -/

def forms : Options.Commands where
  forms :=
    [("start",
      { operands := [{ dest := "type" }, { dest := "name" }]
        switches := [{ valued "issue" ["--issue", "-i"] with kind := .whole }] }),
     ("finish",
      { operands := [{ dest := "branch", arity := .optional }]
        switches := [flagged "current" ["--current", "-c"]] }),
     ("status", {}),
     ("list",
      { operands := [{ dest := "type", arity := .optional }]
        switches := [flagged "all" ["--all", "-a"]] }),
     ("clean",
      { switches := [flagged "dry_run" ["--dry-run", "-n"], flagged "yes" ["--yes", "-y"]] }),
     ("config",
      { switches := [flagged "show" ["--show"], valued "set" ["--set"],
          valued "init" ["--init"]] })]

def configure (a : Options.Args) : Tool Unit := do
  let given := fun k => (a.text? k).getD ""
  if a.flag "show" then
    let c ← load
    sayAll ["Branching Configuration", times "=" 40]
    sayJson c
  else if given "set" != "" then set (given "set")
  else if given "init" != "" then init (given "init")
  else
    let _ ← load

def command (argv : List String) : Tool Unit := do
  let a ← settle (forms.read argv)
  reportingGit do
    match a.command? with
    | some "start" => start (a.text "type") (a.text "name") ((a.whole? "issue").getD 0)
    | some "finish" =>
      let given := if a.flag "current" then none else (a.text? "branch").filter (· != "")
      finish given
    | some "status" => status
    | some "list" => list (a.text? "type") (a.flag "all")
    | some "clean" => clean (a.flag "dry_run") (a.flag "yes")
    | some "config" => configure a
    | _ =>
      sayHelp
      exit 1

end Workbench.Branch
