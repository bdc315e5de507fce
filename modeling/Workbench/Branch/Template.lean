import Workbench.Branch.Config

/-!
# Configurations to start from

The configurations that come with the tools, one for each strategy.
-/

namespace Workbench.Branch.Template

open Value

def flow (start : String) (goal : Value) (settings : List (String × Value)) : Value :=
  .object ([("from", .str start), ("to", goal)] ++ settings)

def naming (form chars : String) (settings : List (String × Value)) : Value :=
  .object ([("pattern", .str form), ("requireIssue", .bool false), ("maxLength", .int 64),
    ("allowedChars", .str chars)]
    ++ settings)

def branches (develop : Value) (prefixes : List (String × String)) : Value :=
  .object [("main", "main"), ("develop", develop),
    ("prefixes", .object (prefixes.map fun p => (p.1, .str p.2)))]

def prefixed : String := "\x7bprefix\x7d\x7bname\x7d"

def worktrees (own : List (String × Value)) : Value :=
  .object [("enabled", true), ("baseDir", "../worktrees"), ("autoCreate", .object own)]

def gitflow : Config := .object
  [("strategy", "gitflow"),
   ("branches", branches "develop"
     [("feature", "feature/"), ("bugfix", "bugfix/"), ("hotfix", "hotfix/"),
     ("release", "release/"), ("support", "support/")]),
   ("naming", naming "\x7bprefix\x7d\x7bissue?-\x7d\x7bname\x7d" "a-z0-9-" []),
   ("flows", .object
     [("feature", flow "develop" "develop"
       [("deleteAfterMerge", true), ("squashMerge", false), ("requirePR", false)]),
      ("bugfix", flow "develop" "develop"
        [("deleteAfterMerge", true), ("squashMerge", false), ("requirePR", false)]),
      ("release", flow "develop" bothBranches [("deleteAfterMerge", true), ("createTag", true),
        ("tagPattern", "v\x7bversion\x7d"), ("requirePR", true)]),
      ("hotfix", flow "main" bothBranches [("deleteAfterMerge", true), ("createTag", true),
        ("tagPattern", "v\x7bversion\x7d"), ("requirePR", true)]),
      ("support", flow "main" "support/*" [("deleteAfterMerge", false), ("createTag", true)])]),
   ("worktrees", worktrees [("hotfix", true), ("release", true), ("feature", false)]),
   ("policies", .object [("requirePRForMain", true), ("requirePRForDevelop", false),
     ("preventDirectPush", strings ["main"]), ("requireLinearHistory", false),
     ("deleteBranchOnMerge", true)])]

def githubFlow : Config := .object
  [("strategy", "github-flow"),
   ("branches", branches .null
     [("feature", "feature/"), ("bugfix", "fix/"), ("hotfix", "hotfix/"), ("docs", "docs/"),
     ("refactor", "refactor/")]),
   ("naming", naming prefixed "a-z0-9-" []),
   ("flows", .object
     [("feature", flow "main" "main"
       [("deleteAfterMerge", true), ("squashMerge", true), ("requirePR", true)]),
      ("bugfix", flow "main" "main"
        [("deleteAfterMerge", true), ("squashMerge", true), ("requirePR", true)]),
      ("hotfix", flow "main" "main"
        [("deleteAfterMerge", true), ("squashMerge", false), ("requirePR", true),
        ("createTag", true)])]),
   ("worktrees", worktrees [("hotfix", true), ("release", false), ("feature", false)]),
   ("policies", .object [("requirePRForMain", true), ("preventDirectPush", strings ["main"]),
     ("requireLinearHistory", true), ("deleteBranchOnMerge", true)])]

def gitlabFlow : Config := .object
  [("strategy", "gitlab-flow"),
   ("branches", branches .null
     [("feature", "feature/"), ("bugfix", "fix/"), ("hotfix", "hotfix/")]),
   ("environments", .object
     [("enabled", true),
      ("branches", .object [("development", "main"), ("staging", "staging"),
        ("production", "production")]),
      ("promotionOrder", strings ["main", "staging", "production"])]),
   ("naming", naming prefixed "a-z0-9-" []),
   ("flows", .object
     [("feature", flow "main" "main"
       [("deleteAfterMerge", true), ("squashMerge", true), ("requirePR", true)]),
      ("promote", .object
        [("staging", flow "main" "staging" [("requirePR", true), ("createTag", false)]),
         ("production", flow "staging" "production" [("requirePR", true), ("createTag", true)])]),
      ("hotfix", flow "production" (strings ["production", "staging", "main"])
        [("deleteAfterMerge", true), ("createTag", true)])]),
   ("worktrees", worktrees [("hotfix", true), ("feature", false)]),
   ("policies", .object [("requirePRForMain", true), ("requirePRForStaging", true),
     ("requirePRForProduction", true),
     ("preventDirectPush", strings ["main", "staging", "production"]),
     ("deleteBranchOnMerge", true)])]

/-- A single trunk with short-lived branches, most of them without a prefix. -/
def trunkBased : Config := .object
  [("strategy", "trunk-based"),
   ("branches", branches .null [("feature", ""), ("bugfix", ""), ("hotfix", "hotfix/")]),
   ("naming", naming "\x7buser\x7d/\x7bname\x7d" "a-z0-9-/"
     [("shortLived", true), ("maxAgeDays", .int 2)]),
   ("flows", .object
     [("feature", flow "main" "main"
       [("deleteAfterMerge", true), ("squashMerge", true), ("requirePR", true),
        ("maxAge", "2 days")]),
      ("hotfix", flow "main" "main"
        [("deleteAfterMerge", true), ("squashMerge", false), ("requirePR", false),
        ("createTag", true)])]),
   ("featureFlags", .object [("enabled", true), ("provider", .null), ("warnOnLongBranch", true)]),
   ("worktrees", .object [("enabled", false), ("baseDir", "../worktrees")]),
   ("policies", .object [("requirePRForMain", true), ("preventDirectPush", strings ["main"]),
     ("requireLinearHistory", true), ("deleteBranchOnMerge", true), ("warnStaleBranches", true),
     ("staleBranchDays", .int 2)])]

def simple : Config := .object
  [("strategy", "simple"),
   ("branches", branches .null [("feature", ""), ("bugfix", ""), ("hotfix", "")]),
   ("naming", naming "\x7bname\x7d" "a-z0-9-" []),
   ("flows", .object
     [("feature", flow "main" "main"
       [("deleteAfterMerge", true), ("squashMerge", false), ("requirePR", false)])]),
   ("worktrees", .object [("enabled", false)]),
   ("policies", .object [("requirePRForMain", false), ("preventDirectPush", .list []),
     ("deleteBranchOnMerge", true)])]

def all : List (String × Config) :=
  [("gitflow", gitflow), ("github-flow", githubFlow), ("gitlab-flow", gitlabFlow),
    ("trunk-based", trunkBased),
   ("simple", simple)]

end Workbench.Branch.Template
