import Workbench.Markdown.Fence
import Workbench.Pattern.Reader
import Workbench.Review.Issue
import Workbench.Review.Syntax

/-!
# Quality of code

Scores code from 100 down.
-/

namespace Workbench.Review

open Tool Source Markdown

/-- What is wrong with a code. -/
structure Flaw where
  severity : Severity
  message : String
deriving DecidableEq, Repr

def Flaw.value (f : Flaw) : Value := .object [("severity", f.severity.name), ("message", f.message)]

/-- What is said of a code. -/
structure Quality where
  score : Int
  flaws : List Flaw
  metrics : List (String × Nat)
deriving DecidableEq, Repr

def Quality.fields (q : Quality) : List (String × Value) :=
  [("score", q.score), ("issues", .list (q.flaws.map Flaw.value)),
   ("metrics", .object (q.metrics.map fun (k, n) => (k, (n : Value))))]

def Quality.value (q : Quality) : Value := .object q.fields

/-- Points that a code loses. -/
structure Deduction where
  points : Int
  flaw : Option Flaw := none

def reported (points : Int) (severity : Severity) (message : String) : Deduction :=
  ⟨points, some ⟨severity, message⟩⟩

def scoreAfter (ds : List Deduction) : Int :=
  max 0 (100 - ((ds.map Deduction.points).foldr (· + ·) 0))

def resultFree : List String := ["__init__", "__str__", "__repr__"]

def functionDeductions (name : String) (f : Tree) : List Deduction :=
  let quoted := s!"'{name}'"
  let parameters := parameterCount f ["args", "kwonlyargs"]
  (if !isDocumented f && 3 < linesAfterFirst f then
    [reported 2 .minor s!"Function {quoted} lacks docstring"] else [])
  ++ (if !declaresResult f && !resultFree.contains name then [⟨1, none⟩] else [])
  ++ (if 7 < parameters then
    [reported 5 .important
      s!"Function {quoted} has {parameters} arguments (consider refactoring)"] else [])
  ++ (bareHandlers f).map fun _ => reported 10 .important s!"Bare except in {quoted}"

def programDeductions (t : Tree) : List Deduction :=
  ((functions t).flatMap fun (name, f) => functionDeductions name f)
    ++ (wildcardImports t).map fun m => reported 3 .minor s!"Wildcard import from {m}"

def pythonQuality (code : String) : Quality :=
  let lines := ("lines", lineCount code)
  match Source.parse code with
  | .error r =>
    { score := 0
      flaws := [⟨.critical, s!"Syntax error: {r.message} at line {lineText r}"⟩]
      metrics :=
        [("functions", 0), ("classes", 0), ("documented_functions", 0),
          ("type_hinted_functions", 0), lines] }
  | .ok tree =>
    let fs := functions tree
    let ds := programDeductions tree
    { score := scoreAfter ds
      flaws := ds.filterMap Deduction.flaw
      metrics :=
        [("functions", fs.length), ("classes", classCount tree),
         ("documented_functions", (fs.filter fun (_, f) => isDocumented f).length),
         ("type_hinted_functions", (fs.filter fun (_, f) => declaresResult f).length), lines] }

def occurrences (pattern code : String) : Nat := ((Pattern.ofString pattern).all code).length

def javascriptQuality (code : String) : Quality :=
  let uses := occurrences "\\bvar\\s+" code
  let loose := occurrences "[^=!]==[^=]" code
  let console := occurrences "console\\.(log|warn|error)\\s*\\(" code
  let silent := occurrences "catch\\s*\\([^)]*\\)\\s*\\\x7b\\s*\\\x7d" code
  let found := fun (n : Nat) (what : String) => s!"Found {n} {what}"
  let ds :=
    (if 0 < uses then [reported (uses * 2) .minor (found uses "uses of 'var' - prefer let/const")]
      else [])
    ++ (if 0 < loose then [reported loose .minor (found loose "uses of '==' - prefer '==='")]
      else [])
    ++ (if 3 < console then [reported 2 .minor (found console "console statements")] else [])
    ++ (if 0 < silent then [reported (silent * 10) .important (found silent "empty catch blocks")]
      else [])
  { score := scoreAfter ds
    flaws := ds.filterMap Deduction.flaw
    metrics :=
      [("functions", occurrences
          "\\bfunction\\s+\\w+\\s*\\(|const\\s+\\w+\\s*=\\s*(?:async\\s*)?\\([^)]*\\)\\s*=>" code),
       ("lines", lineCount code)] }

def snippetQuality (s : Snippet) : Quality :=
  if ["python", "py", "python3", ""].contains s.language then pythonQuality s.code
  else if ["javascript", "js", "typescript", "ts"].contains s.language then javascriptQuality s.code
  else { score := 100, flaws := [], metrics := [("lines", lineCount s.code)] }

def codeWords : List String := ["def ", "class ", "function ", "const ", "import ", "from "]

def reviewed (text : String) : List Snippet :=
  match snippets text with
  | [] => if Text.containsAny text codeWords then [⟨"unknown", text⟩] else []
  | ss => ss

def meanScore (qs : List Quality) : Int := (qs.map Quality.score).foldr (· + ·) 0 / qs.length

def qualityReport (text : String) : Value :=
  match reviewed text with
  | [] =>
    .object [("overall_score", (100 : Nat)), ("blocks_analyzed", (0 : Nat)), ("results", .list []),
      ("summary", "No code blocks found")]
  | ss =>
    let overall := meanScore (ss.map snippetQuality)
    .object
      [("overall_score", overall), ("blocks_analyzed", ss.length),
       ("results", .list (ss.map fun s =>
         .object ((snippetQuality s).fields ++ [("language", .str s.language)]))),
       ("summary", s!"Analyzed {ss.length} code blocks with average score {overall}/100")]

def qualityCommand (argv : List String) : Tool Unit := do
  match argv with
  | [] =>
    complain "Usage: check-code-quality.py <file-or-text>"
    complain "       echo 'code' | check-code-quality.py -"
    exit 1
  | a :: _ => sayJson (qualityReport (← subjectOf a))

end Workbench.Review
