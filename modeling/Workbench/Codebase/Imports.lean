import Workbench.Codebase.Shapes

/-!
# Imports between files

The imports of a file are read off its text.
-/

namespace Workbench.Codebase

open Options Tool

/-- What a script imports. -/
def webImports (text : String) : List String :=
  let all := fun p => ((Pattern.ofString p).all text).map (·.group 1)
  all "import\\s+.*?\\s+from\\s+['\"]([^'\"]+)['\"]" ++ all "require\\(['\"]([^'\"]+)['\"]\\)"

def moduleImports (text : String) : List String :=
  let all := fun p => ((Pattern.ofString p { multiline := true }).all text).map (·.group 1)
  all "^\\s*import\\s+(\\S+)" ++ all "^\\s*from\\s+(\\S+)\\s+import"

def importsOf? (suffix text : String) : Option (List String) :=
  if [".ts", ".tsx", ".js", ".jsx"].contains suffix then some (webImports text)
  else if suffix == ".py" then some (moduleImports text)
  else none

def impliedExtensions : List String := ["", ".ts", ".tsx", ".js", ".jsx", ".py"]

def candidates (place : Path) : List Path :=
  impliedExtensions.flatMap fun e => [place.parent / (place.name ++ e), place / s!"index{e}"]

/-- The file that an import leads to. -/
def placeOfImport (file : Path) (target : String) : Tool (Option Path) := do
  if !Text.startsWith target "." then return none
  let place ← resolve (file.parent / target)
  let found ← (candidates place).findM? fun p => pathExists p.toString
  return some (found.getD place)

/-- A file with what it imports. -/
inductive Trace where
  | cut
  | file (name : String) (imports : List (String × Trace)) (external : List String)

/-- The text of a file, if there is one that can be read. -/
def textOf? (file : Path) : Tool (Option String) := do
  if !(← pathExists file.toString) then return none
  guarded (some <$> readText file.toString) (fun e => !e.isExit) fun _ => return none

/-- How a tracer looks at files: it reads one, it finds the place of an import, and it sees whether
something is at a place. -/
structure Sight (m : Type → Type) where
  read : Path → m (Option String)
  place : Path → String → m (Option Path)
  there : Path → m Bool

/-- The files as they are. -/
def Sight.files : Sight Tool := ⟨textOf?, placeOfImport, fun p => pathExists p.toString⟩

section Tracing

variable {m : Type → Type} [Monad m] (sight : Sight m)

/-- Follows an import with the tracer `go`, if it leads to something. -/
def follow (go : Path → StateT (List Path) m Trace) (file : Path) (target : String) :
    StateT (List Path) m ((String × Trace) ⊕ String) := do
  match ← (sight.place file target : m (Option Path)) with
  | none => return Sum.inr target
  | some place =>
    if ← (sight.there place : m Bool) then
      let t ← go place
      return Sum.inl (place.toString, t)
    else return Sum.inr target

/-- Follows the imports in the text of a file, if it has one and imports can be read off it. -/
def expand (go : Path → StateT (List Path) m Trace) (file : Path) (text : Option String) :
    StateT (List Path) m Trace := do
  let some targets := text.bind (importsOf? file.suffix) | return .cut
  let steps ← targets.mapM (follow sight go file)
  return .file file.toString (steps.filterMap Sum.getLeft?) (steps.filterMap Sum.getRight?)

/-- Traces a file to a depth, unless it was visited before. -/
def traceFrom : (depth : Nat) → Path → StateT (List Path) m Trace
  | 0, _ => return .cut
  | depth + 1, file => do
    if (← get).contains file then return .cut
    modify (file :: ·)
    expand sight (traceFrom depth) file (← (sight.read file : m (Option String)))

/-- Traces the imports of a file, to a depth, as far as a sight goes. -/
def traceBy (file : Path) (depth : Int) : m Trace := do
  let (t, _) ← (traceFrom sight depth.toNat file).run []
  return t

end Tracing

def trace (file : Path) (depth : Int) : Tool Trace := traceBy .files file depth

mutual

def Trace.value : Trace → Value
  | .cut => .object []
  | .file name imports external =>
    .object [("file", .str name), ("imports", .list (importValues imports)),
      ("external", Value.strings external)]
termination_by structural x => x

def importValues : List (String × Trace) → List Value
  | [] => []
  | (path, t) :: rest => .object [("path", .str path), ("children", t.value)] :: importValues rest
termination_by structural x => x

end

def Trace.hasImports : Trace → Bool
  | .cut => false
  | .file _ imports _ => !imports.isEmpty

def externalLines (lead : String) (external : List String) : List String :=
  if external.isEmpty then []
  else
    [s!"{lead}  └─ External: " ++ Text.join ", " (external.take 5)]
    ++ (if 5 < external.length then [s!"{lead}     ... and {external.length - 5} more"] else [])

mutual

def Trace.lines (lead : String) : Trace → List String
  | .cut => []
  | .file name imports external =>
    s!"{lead}📄 {(Path.ofString name).name}" :: importLines lead imports ++
      externalLines lead external
termination_by structural x => x

def importLines (lead : String) : List (String × Trace) → List String
  | [] => []
  | (path, t) :: rest =>
    (s!"{lead}  ├─ {(Path.ofString path).name}"
      :: (if t.hasImports then t.lines s!"{lead}    " else []))
    ++ importLines lead rest
termination_by structural x => x

end

def importsForm : Options.Form where
  switches :=
    [{ valued "file" ["--file"] with required := true },
     { valued "depth" ["--depth"] with kind := .whole, default := .int 3 }]

def importsCommand (argv : List String) : Tool Unit := do
  let a ← settle (importsForm.read argv)
  let file ← resolve (Path.ofString (a.text "file"))
  if !(← pathExists file.toString) then
    say s!"Error: File '{file.toString}' does not exist"
    return
  let depth := a.whole "depth"
  sayAll ["# Import Dependency Tree", s!"Starting file: {file.name}", s!"Max depth: {depth}", ""]
  let t ← trace file depth
  sayAll (t.lines "" ++ "" :: signature "investigating-codebases")

end Workbench.Codebase
