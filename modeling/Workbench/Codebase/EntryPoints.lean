import Workbench.Codebase.Shapes

/-!
# Entry points of a project

The files by which a project of some kind is usually started, and the scripts that build or run it.
-/

namespace Workbench.Codebase

open Tool

/-- A kind of project and the files it starts from. -/
structure ProjectKind where
  name : String
  files : List (List String)

def projectKinds : List ProjectKind :=
  let plain := List.map fun (s : String) => [s]
  [⟨"node", plain ["index.js", "index.ts", "main.js", "main.ts", "server.js", "server.ts",
    "app.js", "app.ts"]⟩,
   ⟨"python", plain ["__main__.py", "main.py", "app.py", "cli.py", "run.py"]⟩,
   ⟨"go", [["main.go"], ["cmd", "main.go"]]⟩,
   ⟨"rust", plain ["main.rs", "lib.rs"]⟩,
   ⟨"java", plain ["Main.java", "Application.java"]⟩,
   ⟨"web", plain ["index.html", "App.tsx", "App.jsx"]⟩]

def entryPoints (dir : Path) : Tool (List (String × List Path)) := do
  let found ← projectKinds.mapM fun k => do
    let files ← k.files.mapM fun f => glob dir ("**" :: f)
    return (k.name, files.flatten)
  return found.filter fun f => !f.2.isEmpty

def buildScripts (dir : Path) : Tool (List Path) :=
  (["package.json", "Makefile", "build.sh", "run.sh", "start.sh"].map (dir / ·)).filterM fun f =>
    pathExists f.toString

def entryPointsForm : Options.Form where
  switches := [{ Options.valued "directory" ["--directory"] with default := .str "." }]

def listed (dir : Path) (files : List Path) : List String :=
  files.map fun f => s!"- \x60{nameBelow dir f}\x60"

def entryPointsCommand (argv : List String) : Tool Unit := do
  let a ← Options.settle (entryPointsForm.read argv)
  let dir ← resolve (Path.ofString (a.text "directory"))
  if !(← pathExists dir.toString) then
    complain s!"Error: Directory '{dir.toString}' does not exist"
    exit 1
  sayAll ["# Entry Point Analysis", s!"Project: {dir.name}", s!"Path: {dir.toString}", ""]
  let found ← entryPoints dir
  if found.isEmpty then
    sayAll ["## No Entry Points Found", "Common entry point patterns not detected.", ""]
  else
    sayAll ["## Entry Points Found", ""]
    for (kind, files) in found do sayAll (s!"### {Text.upper kind}" :: listed dir files ++ [""])
  let scripts ← buildScripts dir
  if !scripts.isEmpty then sayAll (["## Build/Run Scripts", ""] ++ listed dir scripts ++ [""])
  sayAll (signature "investigating-codebases")

end Workbench.Codebase
