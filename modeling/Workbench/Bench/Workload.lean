import Workbench.Bench.Shell
import Workbench.Branch.Lifecycle
import Workbench.Branch.Merge
import Workbench.Commit.Message
import Workbench.Issue.Milestone
import Workbench.Issue.Tracker
import Workbench.Notes.Setup
import Workbench.Release.Bump
import Workbench.Research.Cache
import Workbench.Research.Learning
import Workbench.Review.Compliance

/-!
# Workloads

A workload sets up data of some size once and then runs tools on it, any number of times.
-/

open List

namespace Workbench.Bench

open Tool Value

/-- A workload: what is set up once, and what each run does and gives. -/
structure Workload where
  prepare : Tool Unit := return
  run : Tool Value

/-- Where a workload is run. -/
structure Desk where
  work : Path
  own : Path

def world (d : Desk) (w : World) : World :=
  { w with
    cwd := d.work.parts, respond := shell d.work.toString, oneLineJson := true, memory := some {}
    input := Text.times "n\n" 1000 }

def quietly {α : Type} (t : Tool α) : Tool α := do
  let before ← get
  let hush : Tool Unit := modify fun w => { w with out := before.out, err := before.err }
  let a ← tryCatch t fun e => do
    hush
    throw e
  hush
  return a

def orExit (t : Tool Value) : Tool Value :=
  tryCatch t fun e => match e with
    | .exit code => return .list ["<exit>", .int code]
    | .usage _ => return .list ["<exit>", .int 2]
    | other => throw other

def cycle {α : Type} [Inhabited α] (xs : List α) (i : Nat) : α := xs.getD (i % xs.length) default

def count {α : Type} (xs : List α) : Value := .int xs.length

/-! ### Versions -/

def versions : List String := ["1.2.3", "0.0.1", "10.20.30", "2.0.0"]

def versionWork (text : String) : Result (List Value) := do
  let raised ← ["major", "minor", "patch"].mapM fun kind => str <$> Release.bumpText text kind
  let v ← Release.Version.parse text
  return raised ++ [.list [.int v.major, .int v.minor, .int v.patch], .str (← v.format)]

def versionBump (d : Desk) (n : Nat) : Workload where
  prepare := do
    makePath d.own
    writeText (d.own / "package.json").toString
      (line (.object [("name", "root"), ("version", "1.0.0")]))
    for i in range n do
      let dir := d.own / s!"plugin-{i}" / ".claude-plugin"
      makePath dir
      writeText (dir / "plugin.json").toString (line (.object [("version", "1.0.0")]))
  run := quietly do
    let raised ← versions.mapM fun v => (versionWork v : Result (List Value))
    let files ← Release.Bump.versionFiles d.own
    let current ← Release.Bump.currentVersion d.own
    let _ ← Release.Bump.updateFile (d.own / "package.json") "2.0.0" false
    return .list (raised.flatten ++ [count files, current])

/-! ### Branches -/

def branchLines : List (List String) :=
  [["config", "--set", "strategy=gitflow"], ["config", "--show"], ["list"], ["status"]]

def branchCommands (d : Desk) (n : Nat) : Workload where
  prepare := makePath d.work
  run := quietly do
    let rounds ← (range n).mapM fun _ => do
      let ends ← branchLines.mapM fun argv =>
        recover (orExit do Branch.command argv; return .null) .null
      return count ends
    return .list rounds

def branchSamples : List (String × String × Int × String) :=
  [("feature", "add login", 0, "Feature_Add_Login"), ("bugfix", "fix crash", 1, "feature//double"),
   ("hotfix", "urgent thing", 0, Text.times "x" 80)]

def strictConfig : Result Branch.Config := do
  let naming ← (← field Branch.builtIn "naming").setField "requireIssue" true
  setField Branch.builtIn "naming" naming

def nameValue (r : Branch.NameReport) : Value :=
  .list [.bool r.valid, .strings r.errors, .strings r.warnings]

def branchWork : String × String × Int × String → Tool (List Value)
  | (type, title, number, bad) => do
    let config ← strictConfig
    let name ← Branch.makeName type title number config
    let trunkBased ← setField config "strategy" "trunk-based"
    let flow ← Branch.checkFlow name trunkBased
    let merges ← [(name, "main"), (name, "develop"), (name, "main"), ("develop", "main"),
      (name, "feature/other")].mapM
      fun (source, target) => do
        let v ← Branch.judgeMerge source target config
        return list [.bool v.allowed, .strings v.reasons]
    return [.str name, ofOption str (← Branch.typeOf? name config), .str (Branch.commitType type),
      nameValue (← Branch.checkName name config), nameValue (← Branch.checkName bad config),
      .list [.bool flow.compliant, .strings flow.issues, flow.flow]] ++ merges

def branchFlow (_ : Desk) (n : Nat) : Workload where
  run := quietly do
    let checks ← (range n).mapM fun i => branchWork (cycle branchSamples i)
    return .list checks.flatten

/-! ### Commits -/

def messages : List String :=
  ["feat(auth): add login flow", "fix(api): handle empty answers", "docs: describe the setup",
   "chore: raise versions"]

def commitMessages (_ : Desk) (n : Nat) : Workload where
  run :=
    return .list ((range n).map fun i => .bool (Commit.messageIssues (cycle messages i)).isEmpty)

/-! ### Issues -/

def keptIssue (number : Nat) : Value :=
  .object
    [("number", .int number), ("title", .str s!"Fix auth api bug {number}"),
     ("labels", .strings ["bug", "scope:auth", "priority:high"]), ("assignees", .strings ["alice"]),
     ("milestone", "v1.0"), ("body_preview", "auth token handler api test")]

def branchNames : List String :=
  ["feature/issue-42-auth-login", "bugfix/99-crash", "issue-42", "12-quick-fix", "main",
   "feature/login"]

def issueEnvironment : Value :=
  .object [("user", .object [("login", "alice")]),
    ("branch", .object [("scopeLabel", "scope:auth")])]

def issueTracker (d : Desk) (n : Nat) : Workload :=
  let kept := list ((range n).map fun i => keptIssue (i + 1))
  let dir := d.work / ".claude" / "github-workflows"
  { prepare := do
      makePath dir
      writeText (dir / "env.json").toString (line issueEnvironment)
      writeText (dir / "active-issues.json").toString
        (line (.object [("lastSync", "2024-01-01T00:00:00+00:00"), ("issues", kept)]))
    run := quietly do
      let ofScope ← (← Issue.withScope kept "scope:auth").size
      let ofPerson ← (← Issue.withAssignee kept "alice").size
      let ofBoard ← (← Issue.withBoard kept (.int 1)).size
      let numbers ← branchNames.mapM fun b => do return ofOption int (← Workspace.issueIn? b)
      let inContext ← (← Issue.inContext kept issueEnvironment).size
      let first ← Issue.find 1
      return .list ([.int ofScope, .int ofPerson, .int ofBoard] ++ numbers ++
        [.int inContext, first]) }

def dueDates : List String := ["2024-06-15", "06/15/2024", "14", "someday"]

def labelsAndMilestones (_ : Desk) (n : Nat) : Workload where
  run := quietly do
    let rounds ← (range n).mapM fun _ =>
      dueDates.mapM fun t => orExit do return .str (← Issue.Milestone.dueDate (.str t))
    return .list (rounds.flatten ++ [.int (← (← Issue.Label.current).size)])

/-! ### Reviews -/

def advice : List (List String) :=
  [["bare_except", "no_tests", "eval_usage"], ["missing_docs", "long_function"],
   ["hardcoded_secret", "no_tests", "shell_injection", "wildcard_import"]]

def relapses (i : Nat) (given : List String) : List String := given.take (i % (given.length + 1))

def session (name : String) (given found : List String) : Tool Value := do
  let _ ← Review.Compliance.record name (.strings given)
  Review.Compliance.check name (.strings found)

def compliance (d : Desk) (n : Nat) : Workload where
  prepare := modify fun w => { w with environment := ("HOME", d.own.toString) :: w.environment }
  run := quietly do
    let file ← Review.Compliance.databaseFile
    makePath (← Review.Compliance.logDir)
    keepText file (line Review.Compliance.emptyDatabase)
    let rates ← (range n).mapM fun i => do
      let given := cycle advice i
      (← session s!"sess-{i}" given (relapses i given)).field "compliance_rate"
    let stats ← Review.Compliance.stats
    let overall ← stats.pathOr ["overall", "overall_compliance_rate"] .null
    let tips ← (← stats.field "recommendations").size
    let _ ← session "sX" ["a", "b"] ["a"]
    return .list (rates ++ [overall, .int tips])

/-! ### Research -/

/-- A kept finding.  Every third one has expired, and each is a day younger than the one before
it. -/
def finding (i : Nat) : String :=
  let day := Calendar.Date.ofDayNumber (Calendar.Date.dayNumber ⟨2024, 1, 1⟩ + i)
  let expiry := if i % 3 == 0 then "2020-01-01" else "2099-01-01"
  Research.joinFront
    s!"topic: Finding {i}\ndate: '{day.iso}'\nexpiry: '{expiry}'\ntags:\n- research\n"
    ("\nWhat was found.\n")

def findingFile (d : Desk) (i : Nat) : Path :=
  d.own / ".research-cache" / cycle Research.Cache.categories i / s!"entry-{Calendar.padded 3 i}.md"

def cacheWork : Tool (List Value) := do
  let all ← Research.Cache.list none true
  let investigations ← Research.Cache.list (some "investigations") true
  let found ← Research.Cache.search "research"
  let first ← Research.Cache.find? "entry-000"
  let stats ← Research.Cache.stats
  let now ← now
  let newest ← (all.take 5).mapM fun e => do
    return [bool (← Research.Cache.isExpired e now), .bool (← e.matchesQuery "research")]
  let gone ← Research.Cache.clear false true none
  return [count all, count investigations, count found, .bool first.isSome, .int stats.total] ++
    newest.flatten
    ++ [.int gone]

def unapplied : Tool (List Research.Entry) := do
  (← Research.Learning.list none none).filterM fun e => do
    return !(← Research.Learning.applied e).truthy

def learningWork : Tool (List Value) := do
  let before ← Research.Learning.list none none
  let found ← Research.Learning.search "nothing of the kind"
  let waiting ← unapplied
  let stats ← Research.Learning.stats
  let missing ← Research.Learning.find? "missing"
  let file ← Research.Learning.add
    { topic := "New Topic", tags := ["x", "y"], source := "test", confidence := "high" }
  let added ← pathExists file.toString
  let after ← Research.Learning.list none none
  let marked ← Research.Learning.markApplied "missing"
  let left ← unapplied
  let _ ← Research.Learning.add { topic := "Another", tags := ["a", "b"], source := "s" }
  return [count before, count found, count waiting, .int stats.total, .bool missing.isSome,
    .bool added, count after, .bool marked, count left]

def research (d : Desk) (n : Nat) : Workload where
  prepare := do
    modify fun w => { w with base := d.own }
    for i in range n do
      let file := findingFile d i
      makePath file.parent
      writeText file.toString (finding i)
  run := quietly do return .list ((← cacheWork) ++ (← learningWork))

/-! ### Notes -/

def noteGraphs (d : Desk) (n : Nat) : Workload where
  prepare := do
    modify fun w => { w with environment := ("HOME", d.own.toString) :: w.environment }
    for i in range n do makePath (d.own / "logseq" / s!"graph-{i}" / "logseq")
  run := do return .list ((← Notes.Setup.graphs).map fun g => .str (Text.take g.toString 30))

end Workbench.Bench
