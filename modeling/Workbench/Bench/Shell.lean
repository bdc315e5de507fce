import Workbench.World.Basic

/-!
# A shell with fixed answers

Benchmarks run without other programs.
-/

namespace Workbench.Bench

open Value Text

def mentions (argv : Argv) (text : String) : Bool := argv.any (contains · text)

def choose (argv : Argv) (options : List (String × String)) (otherwise : String) : String :=
  ((options.find? fun o => mentions argv o.1).map (·.2)).getD otherwise

def line (v : Value) : String := Json.text .line v

/-! ### Version control -/

def currentBranch : String := "feature/issue-42-auth-login"

def serial (i : Nat) : String := Calendar.padded 7 i

def longSubject : String :=
  "This is a " ++ times "very " 11 ++ "long commit subject that exceeds limits."

def fullLog : String :=
  let subjects :=
    ["feat(auth): add jwt handler", "fix(api): resolve null error", "wip temp stuff",
     "docs: update readme closes #12", "refactor(core)!: drop legacy BREAKING CHANGE: removed",
     "chore: bump deps", "feat(auth): add jwt handler",
     longSubject]
  join "\n\n" (subjects.zipIdx.map fun (s, i) =>
    join "|" [s!"{serial i}abcdef1234", s, s!"Body refs #{i + 1} Closes #{i + 2}", s!"Author{i}",
      s!"a{i}@x.com"])

def shortLog : String :=
  let subjects := ["feat(auth): add jwt", "fix: bug", "bad message", "docs: update"]
  join "\n" (subjects.zipIdx.map fun (s, i) => s!"{serial (i + 1)}abc|{s}")

def zeroLog : String :=
  let subjects :=
    ["feat(auth): add jwt handler", "fix(api): resolve null error", "docs(readme): update guide",
     "refactor!: drop legacy", "chore: bump deps", "perf(db): faster query"]
  join "\n" (subjects.zipIdx.map fun (s, i) =>
    join "\x00" [s!"{serial i}abc", s, s!"Body #{i + 1}\nBREAKING CHANGE: x", s!"Author{i}"])

def changedLines : String :=
  join "\n" ["10\t5\tsrc/auth/jwt.ts", "3\t1\tsrc/components/Button.tsx",
    "0\t20\ttests/auth/jwt.test.ts", "50\t0\tdocs/README.md", "2\t2\t.github/workflows/ci.yml",
    "15\t30\tlib/core/engine.py", "-\t-\tassets/logo.png"]

def branches : String :=
  join "\n" [s!"* {currentBranch}", "  feature/new-ui", "  bugfix/fix-crash", "  hotfix/urgent",
    "  release/1.2.0", "  main", "  develop", "  remotes/origin/feature/remote-one"]

def withoutDirectory : Argv → Argv
  | "-C" :: _ :: rest => rest
  | other => other

def git (work : String) (argv : Argv) : String :=
  match (withoutDirectory argv).head? with
  | some "rev-parse" =>
    choose argv [("--show-toplevel", work), ("--abbrev-ref", currentBranch),
      ("--is-inside-work-tree", "true")]
      "abc123def456"
  | some "log" =>
    choose argv
      [("%H|%s|%b", fullLog), ("%H|%s", shortLog), ("%x00", zeroLog),
        ("%aN", "Alice\nBob\nAlice\nCarol"),
       ("%cr", "2 weeks ago"), ("--oneline", "abc123 feat: add thing\ndef456 fix: bug"),
       ("--reverse", "3 weeks ago")]
      "abc123 feat: add thing"
  | some "show" =>
    choose argv
      [("--stat", " file.py | 10 ++++\n 3 files changed, 123 insertions(+), 45 deletions(-)")] ""
  | some "diff" =>
    choose argv
      [("--numstat", changedLines),
        ("--name-only", "src/auth/jwt.ts\ntests/auth/handler.test.ts\napi/routes.py"),
       ("--cached", "src/auth/jwt.ts\ntests/auth/handler.test.ts")]
      "diff --git a/f b/f\n+added\n-removed"
  | some "branch" =>
    choose argv
      [("--merged", "  feature/done-1\n  feature/done-2\n  bugfix/old\n* main"),
        ("--show-current", currentBranch)]
      branches
  | some "describe" => "v1.2.3"
  | some "tag" => "v1.0.0\nv1.1.0\nv1.2.0"
  | _ => ""

/-! ### Hosting -/

def named (names : List String) : Value := .list (names.map fun n => .object [("name", .str n)])

def issue (number : Nat) : Value :=
  let n := toString number
  .object
    [("number", .int number), ("title", .str s!"Fix auth bug in module {n}"), ("state", "OPEN"),
     ("labels", named ["bug", "scope:auth", if number % 2 == 1 then "priority:high"
       else "priority:low"]),
     ("assignees", .list [.object [("login", "alice")]]),
     ("milestone", .object [("title", "v1.0")]), ("createdAt", "2024-01-01T00:00:00Z"),
     ("updatedAt", "2024-01-02T00:00:00Z"),
     ("url", .str s!"https://github.com/o/r/issues/{n}"), ("body", "auth token handler api")]

def issues (n : Nat) : Value := .list ((List.range n).map fun i => issue (i + 1))

def issueDetails : Value :=
  .object
    [("number", .int 1), ("title", "Fix critical bug in api backend"),
     ("body", "urgent security vulnerability in auth api endpoint"), ("labels", named ["bug"]),
     ("author", .object [("login", "alice")]), ("createdAt", "2024-01-01T00:00:00Z"),
     ("assignees", .list []), ("milestone", .null), ("comments", .list [])]

def changedFiles (paths : List String) : Value :=
  .list (paths.map fun p => .object [("path", .str p)])

def pullRequests : Value :=
  .list [.object
    [("number", .int 10), ("title", "feat: new"), ("headRefName", "feature/x"),
      ("author", .object [("login", "bob")]),
     ("files", changedFiles ["src/auth/jwt.ts", "docs/README.md"]), ("labels", .list [])]]

def pullRequest : Value :=
  .object
    [("number", .int 10), ("title", "feat(auth): new login"), ("headRefName", "feature/auth-login"),
     ("author", .object [("login", "bob")]),
     ("files", changedFiles ["src/auth/jwt.ts", "tests/auth.test.ts", "docs/README.md"]),
     ("labels", .list []), ("body", "Closes #5"), ("reviewRequests", .list []),
     ("assignees", .list [])]

def label (name color : String) : List (String × Value) :=
  [("name", .str name), ("color", .str color)]

def firstLabels : List (List (String × Value)) :=
  [label "bug" "d73a4a", label "Feature Request" "a2eeef", label "high" "ff0000"]

def labels : Value :=
  .list ((firstLabels ++ [label "frontend" "00ff00"]).zipIdx.map fun (l, i) =>
    .object (l ++ [("description", .str (if i == 0 then "Bug" else ""))]))

def milestone (number : Nat) (title : String) (opened closed : Nat) (due : Value)
    (created description : String) :
    Value :=
  .object
    [("number", .int number), ("title", .str title), ("open_issues", .int opened),
      ("closed_issues", .int closed),
     ("due_on", due), ("created_at", .str created), ("description", .str description),
     ("state", "open")]

def milestones : Value :=
  .list
    [milestone 1 "v1.0" 5 10 "2099-12-31T00:00:00Z" "2024-01-01T00:00:00Z" "Release milestone",
     milestone 2 "v2.0" 3 0 .null "2024-02-01T00:00:00Z" ""]

def board : Value :=
  let member := fun (n : Nat) => object [("content", .object [("number", .int n)])]
  let items := object [("nodes", .list [member 1, member 2])]
  .object [("data", .object [("user", .object [("projectV2", .object [("items", items)])])])]

def hosting (argv : Argv) : String :=
  match argv with
  | "api" :: _ =>
    choose argv
      [("graphql", line board), ("milestones", line milestones),
        ("labels", line (.list (firstLabels.map object)))]
      (line (.object [("title", "v1.0"), ("number", .int 1), ("dueOn", "2099-01-01")]))
  | "issue" :: "list" :: _ => line (issues 6)
  | "issue" :: "view" :: _ => line issueDetails
  | "pr" :: "list" :: _ => line pullRequests
  | "pr" :: "view" :: _ => line pullRequest
  | "label" :: "list" :: _ => line labels
  | "project" :: "list" :: _ =>
    line (.object [("projects", .list [.object
      [("number", .int 1), ("title", "Board"), ("url", "https://github.com/p/1")]])])
  | _ => ""

def reply (work : String) : Argv → String
  | "git" :: argv => git work argv
  | "gh" :: argv => hosting argv
  | "logseq" :: _ => line (.list [.object [("block/uuid", "u1"), ("block/content", "hello")]])
  | "npx" :: _ => "/usr/bin/fake"
  | _ => ""

def shell (work : String) : Responder := fun _ call => .finished 0 (reply work call) ""

end Workbench.Bench
