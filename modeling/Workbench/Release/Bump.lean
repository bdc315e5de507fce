import Workbench.Options.Basic
import Workbench.Release.Version
import Workbench.Value.Access
import Workbench.World.Color

/-!
# Raising the version of a project

Finds the files of a project that carry its version and writes the next version into them.
-/

namespace Workbench.Release.Bump

open Options Tool Color

def isUnreadable (e : Fault) : Bool := e.isJson || e.isSystem

def updateLine (dryRun : Bool) (file old new : String) : String :=
  "  " ++ (if dryRun then paint yellow "[DRY-RUN]" ++ " Would update "
    else paint green "✓" ++ " Updated ") ++ file ++ ": " ++ old ++ " → " ++ new

def setVersion (file version : String) (dryRun : Bool) : Tool Unit := do
  let data ← readJson file
  let old ← data.fieldOr "version" "0.0.0"
  let data ← data.setField "version" version
  if !dryRun then
    dumpJson file data
    appendText file "\n"
  say (updateLine dryRun file old.display version)

def updateFile (file : Path) (version : String) (dryRun : Bool) : Tool Bool := do
  if !(← pathExists file.toString) then return false
  guarded (do setVersion file.toString version dryRun; return true) isUnreadable fun e => do
    say ("  " ++ paint red "✗" ++ " Error updating " ++ file.toString ++ ": " ++ e.message)
    return false

def places : List (List String) :=
  [["package.json"], ["**", "plugin.json"], ["**", ".claude-plugin", "plugin.json"],
    ["**", "marketplace.json"]]

def versionFiles (root : Path) : Tool (List Path) := do
  let found ← places.mapM fun segments => glob root segments
  let files ← found.flatten.filterM fun p => do
    return (← isFile p.toString) && !p.parts.any fun part => Text.startsWith part ".git"
  return files.eraseDups.mergeSort Path.le

def versionIn (file : Path) : Tool (Option Value) := do
  if !(← pathExists file.toString) then return none
  guarded (do
    let data ← readJson file.toString
    if ← data.hasText "version" then return some (← data.field "version") else return none)
    isUnreadable fun _ => return none

def currentVersion (root : Path) : Tool Value := do
  match ← versionIn (root / "package.json") with
  | some v => return v
  | none => return (← versionIn (root / ".claude-plugin/marketplace.json")).getD .null

def form : Options.Form :=
  { operands :=
    [{ dest := "bump_type", arity := .optional, choices := ["major", "minor", "patch"] }]
    switches := [valued "set_version" ["--set"], flagged "dry_run" ["--dry-run"],
      valued "root" ["--root"]] }

def nextVersion (current : Value) (set : Option String) (kind : String) : Tool String :=
  match set with
  | some v => guarded (do
      let _ ← Version.parse v
      return Text.trimStartSet v "v") Fault.isInvalid fun e => do
        say (paint red ("Error: " ++ e.message))
        exit 1
  | none => do bumpText (← current.subject) kind

def updateAll (root : Path) (version : String) (dryRun : Bool) : Tool Unit := do
  let files ← versionFiles root
  if files.isEmpty then
    say (paint yellow "No version files found")
    exit 0
  say ("Updating " ++ toString files.length ++ " file(s):")
  let done ← files.mapM fun f => updateFile f version dryRun
  let n := toString (done.filter id).length
  say ""
  say (if dryRun then paint blue ("Would update " ++ n ++ " file(s)")
    else paint green ("Updated " ++ n ++ " file(s)"))
  sayAll ["", "New version: " ++ version]

def command (argv : List String) : Tool Unit := do
  let args ← settle (form.read argv)
  let set := (args.text? "set_version").filter (· != "")
  let kind := args.text "bump_type"
  if kind == "" && set.isNone then throw (.usage "Either bump_type or --set is required")
  let root ← match args.text? "root" with
    | some r => resolve (Path.ofString r)
    | none => cwd
  sayAll [paint blue "Version Bump", "Project root: " ++ root.toString, ""]
  let current ← currentVersion root
  if !current.truthy && set.isNone then
    sayAll [paint red "Error: Could not determine current version",
      "Use --set to specify version explicitly"]
    exit 1
  let version ← nextVersion current set kind
  say ("Version: " ++ (if current.truthy then current.display else "unknown") ++ " → " ++ version)
  if args.flag "dry_run" then say (paint yellow "(dry run - no files will be modified)")
  say ""
  updateAll root version (args.flag "dry_run")

end Workbench.Release.Bump
