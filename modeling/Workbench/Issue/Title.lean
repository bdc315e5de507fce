import Workbench.Options.Basic
import Workbench.Pattern.Reader

/-!
# Titles of issues

A title has no prefix that names a type, has a fitting length, and starts with a verb.
-/

namespace Workbench.Issue.Title

open Text Options Value Tool

def typePrefixes : List String :=
  ["[BUG]", "[FEATURE]", "[ENHANCEMENT]", "[ENH]", "[DOCS]", "[DOC]", "[DOCUMENTATION]",
   "[REFACTOR]", "[CHORE]", "[TEST]", "[FIX]", "BUG:", "FEATURE:", "ENHANCEMENT:", "DOC:", "DOCS:"]

def dropWord? : (word : Chars) → Chars → Option Chars
  | [], s => some s
  | _ :: _, [] => none
  | p :: ps, c :: s => if (Pattern.caseVariants c).contains p.toNat then dropWord? ps s else none

def removeWord (word : Chars) : (skip : Nat) → Chars → Chars
  | _, [] => []
  | skip + 1, _ :: s => removeWord word skip s
  | 0, c :: s =>
    match dropWord? word (c :: s) with
    | some rest => removeWord word (s.length - (rest.dropWhile isBlank).length) s
    | none => c :: removeWord word 0 s

def typePrefix? (title : String) : Option String :=
  typePrefixes.find? fun p => (dropWord? p.toList title.toList).isSome

def without (word title : String) : String := trim (.ofList (removeWord word.toList 0 title.toList))

/-- What is said of a title. -/
structure Judgement where
  errors : List String := []
  warnings : List String := []
  suggestions : List String := []
deriving DecidableEq, Repr

def Judgement.valid (j : Judgement) : Bool := j.errors.isEmpty

def Judgement.join (a b : Judgement) : Judgement :=
  ⟨a.errors ++ b.errors, a.warnings ++ b.warnings, a.suggestions ++ b.suggestions⟩

def prefixJudgement (title : String) : Judgement :=
  match typePrefix? title with
  | none => {}
  | some p =>
    let fixed := without p title
    { errors := ["Contains type prefix (remove it, use labels instead)"]
      suggestions := if fixed == "" then [] else [s!"Suggested: \"{fixed}\""] }

def lengthJudgement (title : String) : Judgement :=
  let n := title.length
  let chars := s!"({n} chars, "
  if n < 10 then
    { errors := [s!"Too short {chars}minimum 10)"]
      suggestions := ["Be more descriptive about what needs to be done"] }
  else if 72 < n then
    { warnings := [s!"Too long {chars}recommend 50-72)"]
      suggestions := ["Consider shortening while keeping clarity"] }
  else if 50 < n then { warnings := [s!"Slightly long {chars}ideal is 50 or less)"] }
  else {}

def vaguePatterns : List (String × String) :=
  [("^fix\\s+bug$", "Too vague - describe what bug"),
    ("^update\\s+code$", "Too vague - describe what update"),
   ("^add\\s+feature$", "Too vague - describe what feature"),
   ("^fix\\s+issue$", "Too vague - describe what issue"),
   ("^change\\s+", "Consider using more specific verb"),
   ("^do\\s+", "Too vague - use specific action verb")]

def moodPatterns : List (String × String) :=
  [("^(the|a|an)\\s+", "Should start with verb (imperative mood)"),
   ("^(this|that|these)\\s+", "Should start with verb (imperative mood)"),
   ("^(i|we)\\s+", "Should start with verb, not pronoun")]

def verbPattern : String :=
  "^(fix|add|update|remove|improve|implement|refactor|create|delete|move|rename|extract|"
  ++ "simplify|optimize|validate|check|ensure|enable|disable|support|handle|"
  ++ "convert|migrate|upgrade|downgrade)\\s+"

def startsAs (title pattern : String) : Bool :=
  (Pattern.ofString pattern { ignoreCase := true }).starts title

def wordingJudgement (title : String) : Judgement :=
  { warnings := ((vaguePatterns.filter fun p => startsAs title p.1).map (·.2))
      ++ ((moodPatterns.find? fun p => startsAs title p.1).map (·.2)).toList }

def adviceJudgement (title : String) (faulty : Bool) : Judgement :=
  { suggestions := if startsAs title verbPattern || faulty then []
      else ["Consider starting with an action verb: Fix, Add, Update, Improve, etc."]
    warnings := if endsWith title "." then ["Titles typically do not end with a period"] else [] }

def judge (text : String) : Judgement :=
  let title := trim text
  if title == "" then
    { errors := ["Title is empty"], suggestions := ["Provide a descriptive title"] }
  else
    let j := ((prefixJudgement title).join (lengthJudgement title)).join (wordingJudgement title)
    j.join (adviceJudgement title (!j.valid))

def Judgement.value (j : Judgement) : Value :=
  .object [("valid", j.valid), ("errors", strings j.errors), ("warnings", strings j.warnings),
    ("suggestions", strings j.suggestions)]

def Judgement.text (j : Judgement) (title : String) : String :=
  let part := fun (name : String) (xs : List String) => if xs.isEmpty then []
    else s!"\n{name}:" :: xs.map ("  - " ++ ·)
  let quoted := s!"\"{title}\""
  let head := if j.valid && j.warnings.isEmpty then s!"✅ Title is valid: {quoted}"
    else if j.valid then s!"⚠️ Title is valid with warnings: {quoted}"
    else s!"❌ Title has issues: {quoted}"
  Text.join "\n" (head :: part "Errors" j.errors ++ part "Warnings" j.warnings ++
    part "Suggestions" j.suggestions)

def form : Options.Form where
  operands := [{ dest := "title", arity := .optional }]
  switches := [valued "file" ["--file", "-f"], flagged "json" ["--json"]]

def judgeFile (file : String) : Tool Unit := do
  let text ← guarded (readText file) Fault.isMissing fun _ => do
    complain s!"Error: File not found: {file}"
    exit 1
  let titles := ((split text "\n").map trim).filter (· != "")
  for t in titles do sayAll [(judge t).text t, ""]
  exit (if titles.all fun t => (judge t).valid then 0 else 1)

def command (argv : List String) : Tool Unit := do
  let a ← settle (form.read argv)
  match a.text? "file", a.text? "title" with
  | some file, title =>
    if file != "" then judgeFile file
    else judgeOne a (title.getD "")
  | none, title => judgeOne a (title.getD "")
where
  /-- Judges the title of the command line. -/
  judgeOne (a : Options.Args) (title : String) : Tool Unit := do
    if title == "" then
      sayHelp
      exit 1
    let j := judge title
    if a.flag "json" then sayJson j.value else say (j.text title)
    exit (if j.valid then 0 else 1)

end Workbench.Issue.Title
