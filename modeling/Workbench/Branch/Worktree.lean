import Workbench.Branch.Lifecycle

/-!
# Worktrees

Directories in which branches are checked out beside each other.
-/

namespace Workbench.Branch.Worktree

open Tool Options Text

def git (args : List String) : Tool String := gitReporting true args

/-- A worktree as git describes it.  What git does not say is missing. -/
structure Record where
  path : Option String := none
  commit : Option String := none
  branch : Option String := none
  bare : Bool := false
  detached : Bool := false
deriving DecidableEq, Repr

def Record.isEmpty (r : Record) : Bool := r == {}

/-- A line of the listing taken into account: a path starts a new record, all else adds to the last
one. -/
def addLine (state : List Record × Record) (line : String) : List Record × Record :=
  let (done, now) := state
  let s := line.toList
  let behind := fun (lead : String) => (dropFront? lead.toList s).map String.ofList
  match behind "worktree ", behind "HEAD ", behind "branch " with
  | some path, _, _ => (if now.isEmpty then done else done ++ [now], { path := some path })
  | none, some hash, _ => (done, { now with commit := some (take hash 8) })
  | none, none, some name => (done, { now with branch := some (replace name "refs/heads/" "") })
  | none, none, none =>
    if line == "bare" then (done, { now with bare := true })
    else if line == "detached" then (done, { now with detached := true })
    else (done, now)

def ofListing (listing : String) : List Record :=
  let (done, last) := (split listing "\n").foldl addLine ([], {})
  if last.isEmpty then done else done ++ [last]

def all : Tool (List Record) := do return ofListing (← git ["worktree", "list", "--porcelain"])

def Record.value (r : Record) : Value :=
  let optional := fun (k : String) (s : Option String) => s.toList.map fun t => (k, Value.str t)
  .object (optional "path" r.path ++ optional "commit" r.commit ++ optional "branch" r.branch
    ++ (if r.bare then [("bare", .bool true)] else []) ++
      (if r.detached then [("detached", .bool true)] else []))

def Record.place (r : Record) : String := r.path.getD ""

def shown (s : Option String) : String := s.getD "None"

def loadConfig : Tool Config := do
  loadFrom (configFile (← git ["rev-parse", "--show-toplevel"])) builtInForWorktrees

def baseDir (c : Config) : Tool Path := do
  let top := Path.ofString (← git ["rev-parse", "--show-toplevel"])
  return top / (← (← c.pathOr ["worktrees", "baseDir"] "../worktrees").pathText)

def isDirty (place : String) : Tool Bool := do
  return trim (← Tool.run ["git", "-C", place, "status", "--porcelain"] "None").out != ""

/-! ### Adding -/

def baseFor (branch : String) (c : Config) : List (Value × Value) → Result Value
  | [] => .ok "main"
  | (type, flow) :: rest => do
    let lead ← (← c.prefixes).fieldOr type.display ""
    if ← startsWithPrefix branch lead then flow.fieldOr "from" "main" else baseFor branch c rest

def isKnown (name : String) : Tool Bool :=
  orElse (do
    let _ ← git ["rev-parse", "--verify", name]
    return true) (return false)

def isKnownAnywhere (branch : String) : Tool Bool := do
  if ← isKnown branch then return true
  isKnown s!"origin/{branch}"

def placeFor (branch : String) (path : Option String) (auto : Bool) (c : Config) : Tool Path := do
  match path with
  | some p => return Path.ofString p
  | none =>
    let base ← baseDir c
    let name := if auto then replace (replace branch "/" "-") "\\" "-"
      else (split branch "/").getLast?.getD ""
    return base / name

def create (branch dir : String) (c : Config) : Tool Unit := do
  let flows ← (← c.flows).pairs
  let base := (← baseFor branch c flows).display
  say s!"Creating new branch from {base}"
  let _ ← git ["worktree", "add", "-b", branch, dir, base]

def add (branch : String) (path : Option String) (auto : Bool) : Tool Unit := do
  let c ← loadConfig
  let place ← placeFor branch path auto c
  makePath place.parent
  let dir := place.toString
  sayAll ["Creating worktree...", s!"  Branch: {branch}", s!"  Path: {dir}", ""]
  if ← isKnownAnywhere branch then
    let _ ← git ["worktree", "add", dir, branch]
  else create branch dir c
  sayAll ["", s!"✅ Worktree created: {dir}", "", "To work in this worktree:", s!"  cd {dir}"]

/-! ### Listing -/

def list : Tool Unit := do
  let records ← all
  sayAll ["Active Worktrees", times "=" 60]
  for (r, i) in records.zipIdx do
    let commit := r.commit.getD ""
    let branch := if r.detached then s!"(detached at {commit})"
      else if r.branch.getD "" == "" then "(bare)" else r.branch.getD ""
    sayAll [s!"{i + 1}. {r.place}", s!"   Branch: {branch}" ++ (if i == 0 then " (main)" else ""),
      s!"   Commit: {commit}"]
    if !r.bare then
      say (if ← isDirty r.place then "   Status: uncommitted changes" else "   Status: clean")
    say ""
  say s!"Total: {records.length} worktree(s)"

def status : Tool Unit := do
  let records ← all
  let c ← loadConfig
  sayAll ["Worktree Status", times "=" 60]
  match ← records.findM? fun r => isHere r.place with
  | some r => sayAll [s!"Current: {shown r.path}", "Branch: " ++ r.branch.getD "detached"]
  | none => sayAll [s!"Current directory: {(← cwd).toString}", "(not in a worktree)"]
  say ""
  let dirt ← (records.filter fun r => !r.bare).mapM fun r => isDirty r.place
  sayAll [s!"Total worktrees: {records.length}",
    s!"  Clean: {(dirt.filter (!·)).length}", s!"  With changes: {(dirt.filter id).length}"]
  sayAll ["", "Configuration:"]
  let setting ← c.fieldOr "worktrees" (.map [])
  say ("  Enabled: " ++ (← setting.fieldOr "enabled" true).display)
  say ("  Base dir: " ++ (← setting.fieldOr "baseDir" "../worktrees").display)
  let auto ← setting.fieldOr "autoCreate" (.map [])
  if auto.truthy then
    let types := ((← auto.pairs).filter (·.2.truthy)).map (·.1.display)
    if !types.isEmpty then say ("  Auto-create for: " ++ join ", " types)

/-! ### Removing -/

def Record.isNamed (r : Record) (name : String) : Bool :=
  endsWith r.place name || (Path.ofString r.place).name == name

/-- How a worktree is removed. -/
structure Removal where
  force : Bool
  keepBranch : Bool
  yes : Bool

def noTerminal : List String := ["Error: Cannot prompt in non-interactive mode. Use --yes to skip."]

def mayLoseChanges (place : String) (how : Removal) : Tool Bool := do
  if how.force then return true
  if !(← isDirty place) then return true
  sayAll ["", "Warning: Worktree has uncommitted changes!"]
  if how.yes then return true
  confirmed "Continue anyway? [y/N] " noTerminal

def removeDir (place : String) (force : Bool) : Tool Unit :=
  guarded
    (do
      let _ ← git (["worktree", "remove"] ++ (if force then ["--force"] else []) ++ [place])
      say s!"✅ Worktree removed: {place}")
    Fault.isFailed
    fun e => do
      if containsAny e.message ["not empty", "changes"] then
        say "Worktree has changes. Use --force to remove anyway."
      throw e

def dropBranch (branch : String) : Tool Unit := do
  let _ ← git ["branch", "-d", branch]
  say s!"✅ Branch deleted: {branch}"

def offerDeletion (branch : String) (yes : Bool) : Tool Unit := do
  let merged ← gitUnchecked ["branch", "--merged", "main"]
  if contains merged branch then
    if yes then dropBranch branch
    else if (← get).terminal then
      let answer ← ask s!"Delete merged branch '{branch}'? [y/N] "
      if lower (trim answer) == "y" then dropBranch branch

def remove (name : String) (how : Removal) : Tool Unit := do
  let records ← all
  match records.find? (·.isNamed name) with
  | none =>
    sayAll ([s!"Error: Worktree '{name}' not found", "Available worktrees:"]
      ++ records.map fun r => s!"  - {r.place}")
    exit 1
  | some r =>
    let branch := r.branch.getD ""
    say s!"Removing worktree: {shown r.path}"
    if branch != "" then say s!"Branch: {branch}"
    if ← mayLoseChanges r.place how then
      removeDir r.place how.force
      if branch != "" && !how.keepBranch then orElse (offerDeletion branch how.yes) (return ())

def cleanOne (r : Record) : Tool Unit :=
  guarded
    (do
      let _ ← git ["worktree", "remove", r.place]
      say s!"✅ Removed: {shown r.path}"
      let drop : Tool Unit := do
        let _ ← git ["branch", "-d", r.branch.getD ""]
        say s!"✅ Deleted branch: {shown r.branch}"
      orElse drop (return ()))
    Fault.isFailed
    fun e => say s!"❌ Failed to remove {shown r.path}: {e.message}"

def Record.isDone (r : Record) (main : Value) (merged : List String) : Bool :=
  merged.contains (r.branch.getD "") && !main.same (.str (r.branch.getD ""))

def cleanAll (found : List Record) (dryRun yes : Bool) : Tool Unit := do
  if found.isEmpty then
    say "No worktrees to clean"
    return
  say s!"Found {found.length} worktree(s) with merged branches:"
  sayAll (found.map fun r => s!"  - {shown r.path} ({shown r.branch})")
  say ""
  if dryRun then
    say "Dry run - no worktrees removed"
    return
  let sure ← if yes then pure true else confirmed "Remove these worktrees? [y/N] " noTerminal
  if sure then
    found.forM cleanOne
    let _ ← git ["worktree", "prune"]
    sayAll ["", "Cleanup complete!"]

def clean (dryRun yes : Bool) : Tool Unit := do
  let records ← all
  let c ← loadConfig
  let main ← c.main
  let merged ← orElse (listed <$> git ["branch", "--merged", main.display]) (return [])
  cleanAll ((records.drop 1).filter (·.isDone main merged)) dryRun yes

def forms : Options.Commands where
  forms :=
    [("add",
      { operands := [{ dest := "branch" }]
        switches := [valued "path" ["--path", "-p"], flagged "auto_path" ["--auto-path", "-a"]] }),
     ("list", {}),
     ("remove",
      { operands := [{ dest := "name" }]
        switches :=
          [flagged "force" ["--force", "-f"], flagged "keep_branch" ["--keep-branch", "-k"],
           flagged "yes" ["--yes", "-y"]] }),
     ("clean",
      { switches := [flagged "dry_run" ["--dry-run", "-n"], flagged "yes" ["--yes", "-y"]] }),
     ("status", {})]

def command (argv : List String) : Tool Unit := do
  let a ← settle (forms.read argv)
  reportingGit do
    match a.command? with
    | some "add" => add (a.text "branch") ((a.text? "path").filter (· != "")) (a.flag "auto_path")
    | some "list" => list
    | some "remove" => remove (a.text "name") ⟨a.flag "force", a.flag "keep_branch", a.flag "yes"⟩
    | some "clean" => clean (a.flag "dry_run") (a.flag "yes")
    | some "status" => status
    | _ =>
      sayHelp
      exit 1

end Workbench.Branch.Worktree
