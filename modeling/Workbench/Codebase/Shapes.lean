import Workbench.Options.Basic
import Workbench.Pattern.Reader

/-!
# Design patterns in a codebase

A design pattern is recognised by signatures in the text of a file.
-/

namespace Workbench.Codebase

open Options Tool Text

/-- A design and the patterns that give it away. -/
structure Shape where
  name : String
  signatures : List String

def shapes : List Shape :=
  [⟨"Factory Pattern", ["(factory|create\\w+|build\\w+)\\s*\\(", "class.*Factory"]⟩,
   ⟨"Singleton Pattern",
    ["getInstance|getinstance", "private\\s+static\\s+\\w+\\s+instance",
     "static\\s+\\w+\\s*=\\s*null"]⟩,
   ⟨"Observer Pattern", ["(addEventListener|subscribe|on)\\s*\\(", "(emit|publish|notify)\\s*\\(",
     "class.*Observer"]⟩,
   ⟨"Strategy Pattern", ["(strategy|algorithm)\\s*(interface|class)", "class.*Strategy"]⟩,
   ⟨"Repository Pattern", ["class.*Repository", "interface.*Repository"]⟩,
   ⟨"Decorator Pattern", ["@\\w+\\s*\\(", "class.*Decorator"]⟩,
   ⟨"Adapter Pattern", ["class.*Adapter", "interface.*Adapter"]⟩,
   ⟨"Builder Pattern", ["class.*Builder", "\\.with\\w+\\("]⟩,
   ⟨"Command Pattern", ["class.*Command", "execute\\s*\\(\\s*\\)"]⟩]

def Shape.occurs (s : Shape) (text : String) : Bool :=
  s.signatures.any fun p => (Pattern.ofString p { ignoreCase := true }).occurs text

def searchedExtensions : List String := [".ts", ".js", ".tsx", ".jsx", ".py", ".java", ".go", ".rs"]

/-- A file and its text, read from below a directory; an unreadable file is left out. -/
def readTexts (dir : Path) (extensions : List String) : Tool (List (Path × String)) := do
  let files ← extensions.mapM fun e => glob dir ["**", s!"*{e}"]
  let texts ← files.flatten.mapM fun f =>
    guarded (do let t ← readText f.toString; return some (f, t)) (fun e => !e.isExit)
      fun _ => return none
  return texts.filterMap id

def nameBelow (dir file : Path) : String := ((file.relativeTo? dir).getD file).toString

/-- The files in which each design pattern occurs; patterns without files are left out. -/
def findShapes (dir : Path) (extensions : List String) : Tool (List (String × List String)) := do
  let texts ← readTexts dir extensions
  return shapes.filterMap fun s =>
    match sort (dedup ((texts.filter fun t => s.occurs t.2).map fun t => nameBelow dir t.1)) with
    | [] => none
    | files => some (s.name, files)

def shapeLines (name : String) (files : List String) : List String :=
  [s!"### {name}", s!"**Occurrences**: {files.length}", "", "**Files:**"]
  ++ (files.take 10).map (fun f => s!"- \x60{f}\x60")
  ++ (if 10 < files.length then [s!"- ... and {files.length - 10} more"] else [])
  ++ [""]

def shapesForm : Options.Form where
  switches :=
    [{ valued "directory" ["--directory"] with default := .str "." },
     valued "extensions" ["--extensions"]]

def dottedExtension (s : String) : String := if startsWith s "." then trim s else s!".{trim s}"

def signature (tool : String) : List String := ["---", "Generated by research-agent/" ++ tool]

def shapesCommand (argv : List String) : Tool Unit := do
  let a ← settle (shapesForm.read argv)
  let dir ← resolve (Path.ofString (a.text "directory"))
  if !(← pathExists dir.toString) then
    say s!"Error: Directory '{dir.toString}' does not exist"
    return
  let extensions := match a.text? "extensions" with
    | some e => if e == "" then searchedExtensions else (split e ",").map dottedExtension
    | none => searchedExtensions
  sayAll ["# Pattern Detection Report", s!"Project: {dir.name}", s!"Path: {dir.toString}", ""]
  let found ← findShapes dir extensions
  if found.isEmpty then
    sayAll ["## No Patterns Detected", "Common design patterns not found in the codebase.", ""]
  else
    sayAll [s!"## Patterns Found: {found.length}", ""]
    for name in sort (found.map (·.1)) do sayAll (shapeLines name ((found.lookup name).getD []))
  sayAll (signature "analyzing-patterns")

end Workbench.Codebase
