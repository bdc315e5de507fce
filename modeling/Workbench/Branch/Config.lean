import Workbench.Value.Access
import Workbench.World.Shell

/-!
# Branching configuration

A configuration says which strategy a project follows, how its branches are called, which prefix
each type of branch has, and from where to where a branch of each type flows.
-/

namespace Workbench.Branch

open Tool Text

abbrev Config := Value

namespace Config

def strategy (c : Config) (default : String) : Result Value := c.fieldOr "strategy" default

def main (c : Config) : Result Value := c.pathOr ["branches", "main"] "main"

def develop (c : Config) : Result Value := c.pathOr ["branches", "develop"] "develop"

def prefixes (c : Config) : Result Value := c.pathOr ["branches", "prefixes"] (.map [])

def flows (c : Config) : Result Value := c.fieldOr "flows" (.map [])

def maxLength (c : Config) : Result Value := c.pathOr ["naming", "maxLength"] (.int 64)

def allowedChars (c : Config) : Result Value := c.pathOr ["naming", "allowedChars"] "a-z0-9-"

end Config

def startsWithPrefix (name : String) (p : Value) : Result Bool :=
  match p with
  | .str s => .ok (startsWith name s)
  | other =>
    .error (.kind ("startswith first arg must be str or a tuple of str, not " ++ other.kindText))

def typeAmong? (branch : String) : List (Value × Value) → Result (Option String)
  | [] => .ok none
  | (type, p) :: rest => do
    if ← startsWithPrefix branch p then return some type.display
    typeAmong? branch rest

/-- The type whose prefix a branch has. -/
def typeOf? (branch : String) (c : Config) : Result (Option String) := do
  typeAmong? branch (← (← c.prefixes).pairs)

/-! ### Built-in configurations -/

def ownPrefixes (types : List String) : Value := .object (types.map fun t => (t, .str (t ++ "/")))

def builtInNaming : Value :=
  .object [("pattern", "\x7bprefix\x7d\x7bissue?-\x7d\x7bname\x7d"), ("requireIssue", false),
    ("maxLength", .int 64), ("allowedChars", "a-z0-9-")]

def builtInWorktrees : Value :=
  .object [("enabled", true), ("baseDir", "../worktrees"),
    ("autoCreate", .object [("hotfix", true), ("release", true)])]

def builtInBranches (types : List String) : Value :=
  .object [("main", "main"), ("develop", "develop"), ("prefixes", ownPrefixes types)]

def bothBranches : Value := Value.strings ["main", "develop"]

/-- The configuration for starting and finishing branches where a project has none. -/
def builtIn : Config :=
  let flow := fun (start : String) (goal : Value) (last : String × Value) =>
    Value.object [("from", .str start), ("to", goal), ("deleteAfterMerge", true), last]
  .object
    [("version", "1.0.0"), ("strategy", "gitflow"),
     ("branches", builtInBranches ["feature", "bugfix", "hotfix", "release", "docs", "refactor"]),
     ("naming", builtInNaming),
     ("flows", .object
       [("feature", flow "develop" "develop" ("squashMerge", false)),
        ("bugfix", flow "develop" "develop" ("squashMerge", false)),
        ("hotfix", flow "main" bothBranches ("createTag", true)),
        ("release", flow "develop" bothBranches ("createTag", true))]),
     ("worktrees", builtInWorktrees),
     ("policies",
      .object [("requirePRForMain", true), ("preventDirectPush", Value.strings ["main"])])]

def builtInForChecks : Config :=
  let flow :=
    fun (start : String) (goal : Value) => Value.object [("from", .str start), ("to", goal)]
  .object
    [("strategy", "gitflow"),
      ("branches", builtInBranches ["feature", "bugfix", "hotfix", "release"]),
     ("naming", builtInNaming),
     ("flows", .object
       [("feature", flow "develop" "develop"), ("bugfix", flow "develop" "develop"),
        ("hotfix", flow "main" bothBranches), ("release", flow "develop" bothBranches)])]

def builtInForWorktrees : Config := .object [("worktrees", builtInWorktrees)]

/-! ### Reading -/

def configFile (root : String) : Path :=
  Path.ofString root / ".claude" / "github-workflows" / "branching-config.json"

def loadFrom (file : Path) (default : Config) : Tool Config := do
  if ← pathExists file.toString then readJson file.toString else return default

def gitReporting (terse : Bool) (args : List String) : Tool String := do
  let argv := "git" :: args
  let r ← run argv "None"
  if r.code != 0 then
    if !terse || r.err != "" then complain ("Error: " ++ trim r.err)
    throw (.failed argv r.code r.out r.err)
  return trim r.out

def git (args : List String) : Tool String := gitReporting false args

def gitUnchecked (args : List String) : Tool String := do
  return trim (← run ("git" :: args) "None").out

def orElse {α : Type} (t : Tool α) (other : Tool α) : Tool α :=
  guarded t Fault.isFailed fun _ => other

def reportingGit (t : Tool Unit) : Tool Unit :=
  guarded t Fault.isFailed fun e => do
    complain ("Git error: " ++ e.message)
    exit 1

def root : Tool String := git ["rev-parse", "--show-toplevel"]

def current : Tool String := git ["rev-parse", "--abbrev-ref", "HEAD"]

/-! ### Listings -/

def unmarked (line : String) : String := trimStartSet (trim line) "* "

def listed (listing : String) : List String :=
  ((split listing "\n").filter fun l => trim l != "").map unmarked

end Workbench.Branch
