import Workbench.Commit.History

/-!
# Groups of changed files

Changed files that belong into one commit: those of one type and one scope, both read off the path
and the size of the change.
-/

namespace Workbench.Commit.Grouping

open Tool Color

/-- A changed file. -/
structure Change where
  path : String
  added : Int
  removed : Int
deriving DecidableEq, Repr

def Change.ofValue (v : Value) : Result Change := do
  return { path := ← v.textAt "path", added := ((← v.field "added").whole?).getD 0
           removed := ((← v.field "removed").whole?).getD 0 }

def Change.total (c : Change) : Int := c.added + c.removed

def scopeOf (path : String) : String :=
  match (Path.ofString path).names with
  | top :: next :: _ =>
    if ["src", "lib", "app"].contains top then
      if ["components", "pages", "views", "layouts"].contains next then "ui" else next
    else if top == "tests" then next
    -- Two slashes at the front, and no third one, are a root of their own.
    else if Text.startsWith path "//" && !Text.startsWith path "///" then "//"
    else top
  | _ => "root"

def typePatterns : List (String × List String) :=
  [("test", ["\\.test\\.(ts|js|tsx|jsx|py)$", "\\.spec\\.(ts|js|tsx|jsx)$", "^tests?/"]),
   ("docs", ["\\.md$", "^docs?/"]),
   ("config", ["package\\.json$", "tsconfig\\.json$", "\\.config\\.(ts|js)$", "\\.(yml|yaml)$"])]

def typeOfPath? (path : String) : Option String :=
  (typePatterns.find? fun (_, patterns) =>
    patterns.any fun p => (Pattern.ofString p { ignoreCase := true }).occurs path).map (·.1)

def typeOfSize (added removed : Int) : String :=
  if removed == 0 && 0 < added then "feat"
  else if added < removed && 10 < removed then "refactor"
  else if 20 < added then "feat"
  else "fix"

def typeOf (path : String) (added removed : Int) : String :=
  (typeOfPath? path).getD (typeOfSize added removed)

/-- The type of a change. -/
def Change.type (c : Change) : String := typeOf c.path c.added c.removed

def Change.scope (c : Change) : String := scopeOf c.path

def groupBy {α β : Type} [BEq α] (key : β → α) (cs : List β) : List (α × List β) :=
  let keys := cs.foldl (fun ks c => if ks.contains (key c) then ks else ks ++ [key c]) []
  keys.map fun k => (k, cs.filter fun c => key c == k)

/-- Changes of one type and scope. -/
structure Group where
  type : String
  scope : String
  changes : List Change
deriving DecidableEq, Repr

namespace Group

def size (g : Group) : Nat := g.changes.length

def added (g : Group) : Int := (g.changes.map Change.added).foldr (· + ·) 0

def removed (g : Group) : Int := (g.changes.map Change.removed).foldr (· + ·) 0

def rank (type : String) : Nat :=
  (["feat", "fix", "refactor", "test", "docs", "config", "chore"].idxOf? type).map
    (· + 1) |>.getD 99

def le (a b : Group) : Bool :=
  if rank a.type == rank b.type then Text.le a.scope b.scope else rank a.type < rank b.type

end Group

def groups (cs : List Change) : List Group :=
  ((groupBy (fun c => (c.type, c.scope)) cs).map fun ((t, s), changes) =>
    ⟨t, s, changes⟩).mergeSort Group.le

def subjectFor (type scope : String) (size : Int) (paths : List String) : Result String := do
  let first : Result String := match paths.head? with
    | some p => .ok p
    | none => .error (.index "list index out of range")
  match type with
  | "feat" =>
    if size == 1 then return s!"add {(Path.ofString (← first)).stem} functionality"
    else return s!"add {scope} features"
  | "fix" => return s!"resolve {scope} errors"
  | "test" => return s!"add {scope} tests"
  | "docs" =>
    if Text.contains (← first) "README" then return "update README" else return s!"document {scope}"
  | "refactor" => return s!"refactor {scope} implementation"
  | _ => return s!"update {scope}"

def iconOf (type : String) : String :=
  match type with
  | "feat" => "📦"
  | "fix" => "🐛"
  | "test" => "✅"
  | "docs" => "📚"
  | "refactor" => "♻️"
  | "perf" => "⚡"
  | "chore" => "🔧"
  | _ => "📝"

def Change.line (c : Change) : String :=
  "  " ++ (if c.removed ≤ c.added then "+" else "~") ++ s!" {c.path} (+{c.added}, -{c.removed})"

def display (type scope : String) (size total : Int) (changes : List Change) (index : String) :
    Result String := do
  let head := s!"{iconOf type} Group {index}: {type}({scope}) - {size} files, {total} LOC"
  let subject ← subjectFor type scope size (changes.map Change.path)
  return s!"{paint cyan head}\n" ++ Text.join "\n" (changes.map Change.line)
    ++ paint yellow s!"\n  Suggested: {type}({scope}): {subject}"

def Group.display (g : Group) (index : Nat) : Result String :=
  Grouping.display g.type g.scope g.size (g.added + g.removed) g.changes (toString index)

/-! ### Values -/

def Change.fields (c : Change) : List (String × Value) :=
  [("path", c.path), ("added", .int c.added), ("removed", .int c.removed),
    ("total_changes", .int c.total)]

def Group.value (g : Group) : Value :=
  .object
    [("type", g.type), ("scope", g.scope),
     ("files", .list (g.changes.map fun c =>
       .object (c.fields ++ [("scope", .str g.scope), ("type", .str g.type)]))),
     ("file_count", g.size), ("lines_added", .int g.added), ("lines_removed", .int g.removed),
     ("total_changes", .int (g.added + g.removed))]

def valuesByScope (files : Value) : Result Value := do
  let keyed ← (← files.parts).mapM fun f => do return (scopeOf (← (← f.field "path").subject), f)
  return .object ((groupBy Prod.fst keyed).map fun (k, xs) => (k, .list (xs.map Prod.snd)))

def subjectOfValue (g : Value) : Result String := do
  let type ← g.textAt "type"
  let scope ← g.textAt "scope"
  let size ← g.field "file_count"
  let paths ← (← (← g.field "files").parts).mapM (Value.textAt · "path")
  subjectFor type scope (size.whole?.getD 0) paths

def displayOfValue (g index : Value) : Result String := do
  let type ← g.textAt "type"
  let scope ← g.textAt "scope"
  let size ← g.field "file_count"
  let total ← g.field "total_changes"
  let changes ← (← (← g.field "files").parts).mapM Change.ofValue
  display type scope (size.whole?.getD 0) (total.whole?.getD 0) changes index.display

/-! ### Changes from git -/

/-- The change that a line of numbers describes.  A hyphen stands for a number that is not known. -/
def changeOf (line : String) : Result (Option Change) :=
  if Text.trim line == "" then .ok none
  else match Text.split line "\t" with
    | added :: removed :: path :: _ => do
      let known := fun (s : String) => if s == "-" then "0" else s
      return some ⟨path, ← wholeOf (known added), ← wholeOf (known removed)⟩
    | _ => .ok none

def changes (mode : String) : Tool (List Change) := do
  let log ← History.git (if mode == "staged" then ["diff", "--cached", "--numstat"]
    else ["diff", "HEAD", "--numstat"])
  let tracked ← (Text.split log "\n").mapM fun line => (changeOf line : Result (Option Change))
  let untracked ← if mode == "all" then History.git ["ls-files", "--others", "--exclude-standard"]
    else pure ""
  let names := ((Text.split untracked "\n").map Text.trim).filter (· != "")
  return tracked.filterMap id ++ names.map fun n => ⟨n, 0, 0⟩

def form : Options.Form where
  switches :=
    [{ Options.valued "mode" ["--mode"] with
      choices := ["all", "staged", "scope"], default := .str "all" },
     Options.flagged "json" ["--json"], Options.flagged "analyze" ["--analyze"]]

def sayByScope (cs : List Change) : Tool Unit := do
  say ("\n" ++ paint blue "Files grouped by scope:" ++ "\n")
  for (scope, members) in groupBy Change.scope cs do
    say (paint green s!"{scope}:" ++ s!" {members.length} files")
    sayAll (members.map fun c => s!"  - {c.path}")

def command (argv : List String) : Tool Unit := do
  let a ← Options.settle (form.read argv)
  let cs ← changes (a.text "mode")
  if cs.isEmpty then
    say (paint yellow "No changes detected.")
    return
  if a.text "mode" == "scope" then sayByScope cs
  else
    let gs := groups cs
    if a.flag "json" then
      sayJson (.object
        [("total_files", cs.length), ("total_groups", gs.length),
          ("groups", .list (gs.map Group.value))])
    else
      say ("\n" ++ paint blue s!"Found {cs.length} changed files in {gs.length} logical groups:" ++
        "\n")
      for (g, i) in gs.zipIdx do sayAll [← g.display (i + 1), ""]

end Workbench.Commit.Grouping
