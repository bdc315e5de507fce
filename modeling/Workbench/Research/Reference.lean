import Workbench.Options.Basic

/-!
# References to files

A reference is a path, a colon and a line or a range of lines, all between backticks.
-/

namespace Workbench.Research

open Text Tool

/-- A path with lines. -/
structure Reference where
  path : Chars
  lines : Chars
deriving DecidableEq, Repr

def isRange (s : Chars) : Bool :=
  let first := s.takeWhile isDecimal
  match s.dropWhile isDecimal with
  | [] => !first.isEmpty
  | '-' :: second => !first.isEmpty && !second.isEmpty && second.all isDecimal
  | _ => false

def splitLastColon (s : Chars) : Option (Chars × Chars) :=
  let r := s.reverse
  match r.dropWhile (· != ':') with
  | [] => none
  | _ :: before => some (before.reverse, (r.takeWhile (· != ':')).reverse)

def Reference.ofInside? (s : Chars) : Option Reference := do
  let (path, lines) ← splitLastColon s
  if path.isEmpty || !isRange lines then none else some ⟨path, lines⟩

def untilBacktick (s : Chars) : Option (Chars × Chars) :=
  match s.dropWhile (· != '\x60') with
  | [] => none
  | _ :: rest => some (s.takeWhile (· != '\x60'), rest)

def openReference? (s : Chars) : Option (Reference × Chars) := do
  let (inside, rest) ← untilBacktick s
  let r ← Reference.ofInside? inside
  return (r, rest)

def referencesFrom : (fuel : Nat) → Chars → List Reference
  | 0, _ => []
  | _, [] => []
  | fuel + 1, c :: s =>
    if c == '\x60' then
      match openReference? s with
      | some (r, rest) => r :: referencesFrom fuel rest
      | none => referencesFrom fuel s
    else referencesFrom fuel s

def references (text : String) : List Reference := referencesFrom (text.length + 1) text.toList

def hasReferences (text : String) : Bool := !(references text).isEmpty

def Reference.pathText (r : Reference) : String := .ofList r.path

def Reference.linesText (r : Reference) : String := .ofList r.lines

def Reference.text (r : Reference) : String := s!"\x60{r.pathText}:{r.linesText}\x60"

/-! ### Evidence -/

def rangeOf (s : String) : Result (Int × Int) := do
  if contains s "-" then
    match ← (split s "-").mapM wholeOf with
    | [a, b] => return (a, b)
    | _ => throw (.invalid "too many values to unpack (expected 2)")
  else
    let n ← wholeOf s
    return (n, n)

/-- Whether a reference holds. -/
structure Verdict where
  valid : Bool
  message : String
deriving DecidableEq, Repr

def rangeVerdict (lines : String) (first last : Int) (total : Nat) : Verdict :=
  if first < 1 || (total : Int) < last then
    ⟨false, s!"Line range {lines} exceeds file length ({total} lines)"⟩
  else ⟨true, "Valid"⟩

def checkReference (path lines : String) (dir : Path) : Tool Verdict := do
  let file := (dir / path).toString
  if !(← pathExists file) then return ⟨false, s!"File not found: {path}"⟩
  let (first, last) ← rangeOf lines
  guarded
    (do
      let text ← readText file
      return rangeVerdict lines first last (Text.lines text).length)
    (fun e => !e.isExit)
    fun e => return ⟨false, s!"Error reading file: {e.message}"⟩

def evidenceForm : Options.Form where
  operands := [{ dest := "research_file" }]
  switches := [{ Options.valued "codebase_dir" ["--codebase-dir"] with default := .str "." }]

def pageRule : String := times "=" 60

def readExamined (what : String) (file : Path) (missing : String) : Tool String := do
  if !(← pathExists file.toString) then
    say missing
    exit 1
  guarded (readText file.toString) (fun e => !e.isExit) fun e => do
    say s!"Error reading {what}: {e.message}"
    exit 1

def evidenceCommand (argv : List String) : Tool Unit := do
  let a ← Options.settle (evidenceForm.read argv)
  let file := Path.ofString (a.text "research_file")
  let dir ← resolve (Path.ofString (a.text "codebase_dir"))
  if !(← pathExists file.toString) then
    say s!"Error: Research file '{file.toString}' does not exist"
    exit 1
  if !(← pathExists dir.toString) then
    say s!"Error: Codebase directory '{dir.toString}' does not exist"
    exit 1
  let content ← readExamined "research file" file ""
  let refs := references content
  sayAll [s!"\n{pageRule}", s!"Evidence Validation: {file.name}", s!"Codebase: {dir.toString}",
    s!"{pageRule}\n"]
  if refs.isEmpty then
    sayAll ["⚠️  No file references found in research output",
      "   Research should include file references like: \x60path/to/file.ts:42\x60"]
    exit 1
  say s!"Found {refs.length} file reference(s)\n"
  let checked ← refs.mapM fun r => do
    let v ← checkReference r.pathText r.linesText dir
    say ("  " ++ (if v.valid then "✓ " else "✗ ") ++ s!"{r.text} - {v.message}")
    return (r, v)
  let valid := (checked.filter (·.2.valid)).length
  let percent := Decimal.fixed (Float.ofNat valid / Float.ofNat refs.length * 100.0) 0
  sayAll
    [s!"\n{pageRule}",
     s!"Results: {valid}/{refs.length} references valid ({percent}%)",
     s!"{pageRule}\n"]
  let invalid := checked.filter fun c => !c.2.valid
  if invalid.isEmpty then
    say "✅ All file references are valid!"
    exit 0
  sayAll ("❌ Some file references are invalid:"
    :: invalid.map fun (r, v) => s!"   • {r.text} - {v.message}")
  exit 1

end Workbench.Research
