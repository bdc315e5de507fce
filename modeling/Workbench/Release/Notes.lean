import Workbench.Pattern.Reader
import Workbench.Release.Changelog

/-!
# Release notes

Notes for the readers of a release: highlights, changes by theme, how to install it, the issues it
touches and who contributed.
-/

namespace Workbench.Release

open Text Options Tool Color

/-- The chapters of release notes. -/
inductive Theme where
  | breaking
  | features
  | fixes
  | improvements
  | other
deriving DecidableEq, Repr

def Theme.all : List Theme := [.breaking, .features, .fixes, .improvements, .other]

def Theme.name : Theme → String
  | .breaking => "breaking"
  | .features => "features"
  | .fixes => "fixes"
  | .improvements => "improvements"
  | .other => "other"

def Theme.ofSubject (s : Workbench.Commit.Subject) : Theme :=
  if s.breaking then .breaking
  else match s.type with
    | "feat" => .features
    | "fix" => .fixes
    | "perf" | "refactor" | "docs" => .improvements
    | _ => .other

/-- A line of release notes. -/
structure Note where
  description : String
  scope : String
deriving DecidableEq, Repr

def Commit.note (c : Commit) : Note := ⟨c.parsed.description, c.parsed.scope⟩

abbrev Themes := Theme → List Note

def themes (cs : List Commit) : Themes :=
  fun t => (cs.filter fun c => Theme.ofSubject c.parsed == t).map Commit.note

def Note.ofValue (v : Value) : Result Note := do
  return { scope := (← v.field "scope").displayIfAny, description := ← v.textAt "description" }

def Themes.ofValue (v : Value) : Result Themes := do
  let fields ← Theme.all.dropLast.mapM fun k => do return (k, ← v.field k.name)
  let read ← fields.mapM fun (k, x) => do return (k, ← (← x.partsIfAny).mapM Note.ofValue)
  return fun k => (read.lookup k).getD []

def themesValue (t : Themes) : Value :=
  .object (Theme.all.map fun k =>
    (k.name,
     .list ((t k).map fun n => .object [("description", n.description), ("scope", n.scope)])))

/-! ### Surroundings of a release -/

/-- A repository of the service. -/
structure Repository where
  owner : String := ""
  name : String := ""
deriving DecidableEq, Repr

def Repository.ofRemote (remote : String) : Repository :=
  match (Pattern.ofString "github\\.com[:/]([^/]+)/([^/.]+)").search remote with
  | some m => ⟨m.group 1, m.group 2⟩
  | none => {}

def repository : Tool Repository := do return .ofRemote (← git ["remote", "get-url", "origin"])

def Repository.value (r : Repository) : Value := .object [("owner", r.owner), ("repo", r.name)]

def Repository.ofValue (v : Value) : Result Repository := do
  let name ← v.fieldOrNull "repo"
  let owner ← if name.truthy then v.field "owner" else v.fieldOrNull "owner"
  let name ← if owner.truthy then v.field "repo" else pure name
  return ⟨owner.displayIfAny, name.displayIfAny⟩

def Commit.ofTexts (v : Value) : Result Commit := do
  let subject ← (← v.field "subject").subject
  return { hash := "", subject, body := ← (← v.fieldOr "body" "").subject }

def issueNumbers (text : String) : Result (List Int) :=
  ((Pattern.ofString "#(\\d+)").all text).mapM fun m => wholeOf (m.group 1)

def ascending (ns : List Int) : List Int :=
  (ns.foldl (fun acc n => if acc.contains n then acc else acc ++ [n]) []).mergeSort fun a b => a ≤ b

def issuesOf (cs : List Commit) : Result (List Int) := do
  return ascending (← cs.mapM fun c => issueNumbers s!"{c.subject} {c.body}").flatten

def contributors (tag : Option String) : Tool (List String) := do
  let log ← git ["log", rangeSince tag, "--format=%aN"]
  return if log == "" then [] else sort (dedup (split log "\n"))

/-! ### Text -/

def Note.line (n : Note) : String :=
  "- " ++ (if n.scope == "" then "" else "**" ++ n.scope ++ "**: ") ++ n.description

def Note.highlight (n : Note) : String :=
  "- " ++ (if n.scope == "" then "" else "(" ++ n.scope ++ ") ") ++ n.description

def highlightLines (t : Themes) : List String :=
  let count := fun (k : Theme) => toString (t k).length
  (if (t .breaking).isEmpty then []
    else [s!"**⚠️ Breaking Changes**: This release includes {count .breaking} breaking change(s). "
      ++ "Please review the migration notes below.", ""])
  ++ (if (t .features).isEmpty then []
    else [s!"This release introduces {count .features} new feature(s):"]
      ++ ((t .features).take 3).map Note.highlight
      ++ (if 3 < (t .features).length then [s!"- ...and {(t .features).length - 3} more"] else [])
      ++ [""])
  ++ (if (t .fixes).isEmpty then []
    else [s!"Includes {count .fixes} bug fix(es) and {count .improvements} improvement(s).", ""])

def chapter (title : String) (notes : List Note) (after : List String) : List String :=
  if notes.isEmpty then [] else [s!"## {title}", ""] ++ notes.map Note.line ++ [""] ++ after

def installLines (version : String) (r : Repository) : List String :=
  ["## 📦 Installation", ""]
  ++ (if r.name == "" then ["See repository README for installation instructions."]
    else
      ["\x60\x60\x60bash", "# Clone the repository",
       s!"git clone https://github.com/{r.owner}/{r.name}.git", "", "# Or update to this version",
       "git fetch origin", s!"git checkout v{version}", "\x60\x60\x60"])
  ++ [""]

def issueLines (issues : List String) (r : Repository) : List String :=
  let place := s!"{r.owner}/{r.name}"
  if issues.isEmpty then []
  else
    ["## 🔗 Related Issues", ""]
    ++ (issues.take 10).map (fun n =>
      if r.owner == "" then s!"- #{n}"
      else s!"- [{place}#{n}](https://github.com/{place}/issues/{n})")
    ++ (if 10 < issues.length then [s!"- ...and {issues.length - 10} more"] else [])
    ++ [""]

def contributorLines (people : List String) : List String :=
  if people.isEmpty then []
  else
    ["## 👥 Contributors", "", "Thank you to everyone who contributed to this release:", ""]
    ++ people.map ("- " ++ ·) ++ [""]

def longDate (d : Calendar.Date) : String :=
  (Calendar.monthNames[d.month - 1]?).getD "" ++ s!" {Calendar.padded 2 d.day}, {d.year}"

def noteLines (version : String) (today : Calendar.Date) (t : Themes) (people issues : List String)
    (r : Repository) : List String :=
  [s!"# Release v{version}", "", s!"Released: {longDate today}", "", "## Highlights", ""]
  ++ highlightLines t
  ++ chapter "⚠️ Breaking Changes" (t .breaking)
    ["### Migration Guide", "", "<!-- Add migration instructions for each breaking change -->", ""]
  ++ chapter "✨ New Features" (t .features) []
  ++ chapter "🐛 Bug Fixes" (t .fixes) []
  ++ chapter "🔧 Improvements" (t .improvements) []
  ++ installLines version r
  ++ issueLines issues r
  ++ contributorLines people
  ++ ["---", ""]

def notes (version : String) (t : Themes) (people issues : List String) (r : Repository) :
    Tool String := do
  let lines := noteLines version (← now).date t people issues r
  let last ← if r.owner == "" then pure "See git history"
    else do
      let start := (← lastTag?).getD "initial"
      pure s!"https://github.com/{r.owner}/{r.name}/compare/{start}...v{version}"
  return join "\n" (lines ++ [s!"**Full Changelog**: {last}"])

def notesForm : Options.Form where
  operands := [{ dest := "version" }]
  switches :=
    [valued "since" ["--since"], valued "output" ["--output", "-o"],
     flagged "json" ["--json"]]

def notesCommand (argv : List String) : Tool Unit := do
  let a ← settle (notesForm.read argv)
  let version := a.text "version"
  let tag ← tagSince (a.text? "since")
  complain (paint blue "Release Notes Generator")
  complain s!"Version: {version}"
  complain ("Since: " ++ tag.getD "beginning" ++ "\n")
  let commits ← commitsSince tag
  if commits.isEmpty then
    complain (paint yellow "No commits found")
    exit 0
  let people ← contributors tag
  let issues ← issuesOf commits
  let r ← repository
  complain s!"Commits: {commits.length}"
  complain s!"Contributors: {people.length}"
  complain s!"Issue refs: {issues.length}\n"
  let made ← if a.flag "json" then
      renderJson .indented (.object
        [("version", version), ("date", (← now).iso), ("categories", themesValue (themes commits)),
         ("contributors", Value.strings people), ("issues", .list (issues.map Value.int)),
         ("repository", r.value)])
    else notes version (themes commits) people (issues.map toString) r
  match a.text? "output" with
  | none => say made
  | some file =>
    let name := (Path.ofString file).toString
    writeText name made
    complain (paint green s!"✓ Saved to {name}")

end Workbench.Release
