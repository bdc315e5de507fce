import Workbench.Commit.Conventional
import Workbench.Options.Basic
import Workbench.World.Color
import Workbench.World.Shell
import Workbench.Value.Access

/-!
# Changelog

The commits since the last release, sorted into kinds, make a section of the changelog.
-/

namespace Workbench.Release

open Options Tool Text Color

/-- A commit as the log tells it. -/
structure Commit where
  hash : String
  subject : String
  body : String := ""
deriving DecidableEq, Repr

def entryEnd : String := "|||"

def Commit.ofEntry? (entry : String) : Option Commit :=
  let entry := trim entry
  if entry == "" then none
  else match splitAtMost entry "|" 2 with
    | hash :: subject :: rest => some { hash, subject, body := rest.headD "" }
    | _ => none

def commitsOfLog (log : String) : List Commit :=
  if log == "" then [] else (split log entryEnd).filterMap Commit.ofEntry?

def git (args : List String) : Tool String := output ("git" :: args)

def lastTag? : Tool (Option String) := do
  let tag ← git ["describe", "--tags", "--abbrev=0"]
  return if tag == "" then none else some tag

def rangeSince (tag : Option String) : String :=
  match tag with
  | none | some "" => "HEAD"
  | some t => t ++ "..HEAD"

def commitsSince (tag : Option String) : Tool (List Commit) := do
  return commitsOfLog (← git ["log", rangeSince tag, "--pretty=format:%H|%s|%b|||"])

def Commit.short (c : Commit) : Commit := { c with hash := take c.hash 7 }

def breakingMark : String := "BREAKING CHANGE"

def Commit.parsed (c : Commit) : Workbench.Commit.Subject :=
  let s := Workbench.Commit.Subject.ofText c.subject
  if contains c.body breakingMark then { s with breaking := true } else s

/-! ### Kinds -/

/-- The kinds of changes. -/
inductive Kind where
  | breaking
  | feat
  | fix
  | docs
  | perf
  | refactor
  | test
  | ci
  | chore
  | other
deriving DecidableEq, Repr

def Kind.all : List Kind :=
  [.breaking, .feat, .fix, .docs, .perf, .refactor, .test, .ci, .chore, .other]

def Kind.name : Kind → String
  | .breaking => "breaking"
  | .feat => "feat"
  | .fix => "fix"
  | .docs => "docs"
  | .perf => "perf"
  | .refactor => "refactor"
  | .test => "test"
  | .ci => "ci"
  | .chore => "chore"
  | .other => "other"

def Kind.ofType (type : String) : Kind := (Kind.all.find? (·.name == type)).getD .other

/-- A commit as a changelog shows it. -/
structure Entry where
  hash : String
  scope : String
  description : String
deriving DecidableEq, Repr

/-- A commit as a changelog shows it. -/
def Commit.entry (c : Commit) : Entry := ⟨c.hash, c.parsed.scope, c.parsed.description⟩

def Commit.entriesFor (c : Commit) (k : Kind) : List Entry :=
  (if c.parsed.breaking && k == .breaking then [c.entry] else [])
  ++ (if Kind.ofType c.parsed.type == k then [c.entry] else [])

abbrev Categories := Kind → List Entry

/-- The entries of commits by their kinds. -/
def categorize (cs : List Commit) : Categories := fun k => cs.flatMap (·.entriesFor k)

def Entry.value (e : Entry) : Value :=
  .object [("hash", e.hash), ("scope", e.scope), ("description", e.description)]

def Commit.value (c : Commit) : Value :=
  .object [("hash", c.hash), ("subject", c.subject), ("body", c.body)]

def bodyOfValue (v : Value) : Result String :=
  match v with
  | .str s => .ok s
  | other => do return if ← other.hasText breakingMark then breakingMark else ""

def Commit.ofValue (hashed : Bool) (v : Value) : Result Commit := do
  let subject ← (← v.field "subject").subject
  let body ← bodyOfValue (← v.fieldOr "body" "")
  return { subject, body, hash := ← if hashed then v.textAt "hash" else pure "" }

def Entry.ofValue (k : Kind) (v : Value) : Result Entry := do
  let scope ← if k == .other then pure "" else do pure (← v.field "scope").displayIfAny
  let description ← v.textAt "description"
  return ⟨← v.textAt "hash", scope, description⟩

def categoriesValue (c : Categories) : Value :=
  .object (Kind.all.map fun k => (k.name, .list ((c k).map Entry.value)))

def bumpFor (breaking features : Bool) : String :=
  if breaking then "major" else if features then "minor" else "patch"

def suggestedBump (c : Categories) : String := bumpFor (!(c .breaking).isEmpty) (!(c .feat).isEmpty)

def suggestedBumpOf (v : Value) : Result String := do
  return bumpFor (← v.fieldOrNull "breaking").truthy (← v.fieldOrNull "feat").truthy

/-! ### Sections -/

def sectionTitles : List (Kind × String) :=
  [(.breaking, "⚠️ Breaking Changes"), (.feat, "✨ Features"), (.fix, "🐛 Bug Fixes"),
    (.perf, "⚡ Performance"),
   (.docs, "📚 Documentation"), (.refactor, "♻️ Refactoring"), (.test, "🧪 Tests"), (.ci, "🔧 CI/CD"),
   (.chore, "🏠 Maintenance")]

def Categories.ofValue (v : Value) : Result Categories := do
  let read ← (sectionTitles.map Prod.fst ++ [Kind.other]).mapM fun (k : Kind) => do
    return (k, ← (← (← v.fieldOr k.name (.list [])).partsIfAny).mapM (Entry.ofValue k))
  return fun k => (read.lookup k).getD []

def Entry.scopedLine (e : Entry) : String :=
  "- " ++ (if e.scope == "" then "" else "**" ++ e.scope ++ "**: ") ++ e.description ++
    " (" ++ e.hash ++ ")"

def Entry.plainLine (e : Entry) : String := "- " ++ e.description ++ " (" ++ e.hash ++ ")"

def partLines (title : String) (line : Entry → String) (es : List Entry) : List String :=
  if es.isEmpty then [] else ["### " ++ title, ""] ++ es.map line ++ [""]

def sectionLines (version date : String) (c : Categories) : List String :=
  ["## [" ++ version ++ "] - " ++ date, ""]
  ++ sectionTitles.flatMap (fun (k, title) => partLines title Entry.scopedLine (c k))
  ++ partLines "Other Changes" Entry.plainLine (c .other)

def changelogSection (version date : String) (c : Categories) : String :=
  join "\n" (sectionLines version date c)

def changelogHead : String :=
  "# Changelog\n\nAll notable changes to this project will be documented in this file.\n\n"

def isHeadLine (line : String) : Bool :=
  (startsWith line "#" && !startsWith line "## [") || trim line == ""

def prepend (existing added : String) : String :=
  match find? existing "\n## " with
  | some i => take existing i ++ "\n" ++ added ++ drop existing i
  | none =>
    let lines := split existing "\n"
    let head := lines.takeWhile isHeadLine
    join "\n" head ++ "\n" ++ added ++ join "\n" (lines.drop head.length)

/-! ### Command line -/

def changelogForm : Options.Form where
  operands := [{ dest := "version" }]
  switches :=
    [valued "since" ["--since"], valued "date" ["--date"],
     valued "output" ["--output", "-o"], flagged "prepend" ["--prepend"],
     flagged "analyze" ["--analyze"]]

def sectionDate (date : Option String) : Tool String := do
  match date with
  | none | some "" => return (← now).date.plain
  | some d => return d

def tagSince (since : Option String) : Tool (Option String) :=
  match since with
  | none | some "" => lastTag?
  | some t => return some t

def addToFile (file : Path) (atFront : Bool) (added : String) : Tool Unit := do
  let name := file.toString
  let present ← pathExists name
  if present && atFront then
    let existing ← readText name
    writeText name (prepend existing added)
    say (paint green ("✓ Prepended to " ++ name))
  else if present then
    appendText name ("\n" ++ added)
    say (paint green ("✓ Appended to " ++ name))
  else
    writeText name (changelogHead ++ added)
    say (paint green ("✓ Created " ++ name))

def changelogCommand (argv : List String) : Tool Unit := do
  let a ← settle (changelogForm.read argv)
  let tag ← tagSince (a.text? "since")
  sayAll [paint blue "Changelog Generator", "Version: " ++ a.text "version",
    "Since: " ++ tag.getD "beginning" ++ "\n"]
  let commits := (← commitsSince tag).map Commit.short
  if commits.isEmpty then
    say (paint yellow "No commits found")
    exit 0
  let c := categorize commits
  if a.flag "analyze" then
    say ("Analyzed " ++ toString commits.length ++ " commits:\n")
    sayAll (Kind.all.filterMap fun k =>
      if (c k).isEmpty then none else some ("  " ++ k.name ++ ": " ++ toString (c k).length))
    say ("\nSuggested bump: " ++ suggestedBump c)
    exit 0
  let made := changelogSection (a.text "version") (← sectionDate (a.text? "date")) c
  match a.text? "output" with
  | none => say made
  | some file => addToFile (Path.ofString file) (a.flag "prepend") made

end Workbench.Release
