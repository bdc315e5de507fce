import Workbench.Workspace.BranchName
import Workbench.World.Shell

/-!
# Scopes of a project

A project has scopes: those that it configures, or else its plugins or directories.
-/

namespace Workbench.Workspace

open Tool

def environmentFile : Path := Path.ofString ".claude/github-workflows/env.json"

/-- The environment that was saved. -/
def savedEnvironment : Tool Value := jsonOrNull environmentFile.toString

def configuredScopes : Tool Value := do
  let file := "git-conventional-commits.json"
  if !(← pathExists file) then return .null
  let read : Tool Value := do
    let v ← readJson file
    v.pathOr ["convention", "commitScopes"] (.list [])
  recover read .null

def topDirectories : Tool (List Path) := do
  (← children (Path.ofString ".")).filterM fun p => isDir p.toString

def pluginNames : Tool (List String) := do
  let dirs ← (← topDirectories).filterM fun d => do
    let plain := d / "plugin.json"
    if ← pathExists plain.toString then return true
    let nested := d / ".claude-plugin/plugin.json"
    pathExists nested.toString
  return dirs.map Path.name

def availableScopes (environment : Value) : Tool Value := do
  if environment.truthy then return ← environment.pathOr ["labels", "suggestedScopes"] (.list [])
  let plugins ← recover pluginNames []
  let configured ← configuredScopes
  return if configured.truthy then configured else Value.strings plugins

def keptLabel (environment : Value) : Result Value := do
  if !environment.truthy then return .null
  let label ← environment.pathOr ["branch", "scopeLabel"] .null
  return if label.truthy then label else .null

def branchLabel? (branch : String) (scopes : Value) : Result (Option String) := do
  return (← scopeAmong? exactScopeIn? branch scopes).map scopeLabel

def detect : Tool (Option (String × String) × Value) := do
  let environment ← savedEnvironment
  let scopes ← availableScopes environment
  let kept ← keptLabel environment
  if kept.truthy then return (some (kept.display, "environment"), scopes)
  match ← currentBranch? with
  | none => return (none, scopes)
  | some branch =>
    let label ← branchLabel? branch scopes
    return (label.map fun l => (l, "branch"), scopes)

def sayScopes (scopes : Value) : Tool Unit := do
  let members ← scopes.sorted
  sayAll (members.map fun s => "  scope:" ++ s.display)

def listScopes : Tool Unit := do
  let scopes ← availableScopes (← savedEnvironment)
  if !scopes.truthy then
    say "No scopes detected. Run /github-workflows:init to analyze project structure."
  else
    say "Available scopes:"
    sayScopes scopes

def checkLabel (label : String) : Tool Bool := do
  let scopes ← availableScopes (← savedEnvironment)
  let name := Text.lower (Text.replace label "scope:" "")
  let known ← (← scopes.parts).mapM fun s => do return Text.lower (← s.textFor "lower")
  if known.contains name then
    say ("✅ Valid scope: " ++ label)
    return true
  sayAll ["⚠️ Unknown scope: " ++ label, "\nAvailable scopes:"]
  sayScopes scopes
  return false

def scopeUsage : String :=
  "\nDetect Scope - Automatically detect scope label from context.\n\nUsage:\n"
  ++ "    python detect-scope.py              # Auto-detect scope\n"
  ++ "    python detect-scope.py --list       # List available scopes\n"
  ++ "    python detect-scope.py --validate \"scope:name\"  # Validate scope exists\n\nReturns:\n"
  ++ "    Detected scope label (e.g., \"scope:github-workflows\") or empty if not detected.\n"

def scopeCommand (argv : List String) : Tool Unit := do
  match argv with
  | [] =>
    let (found, scopes) ← detect
    match found with
    | some (label, source) => sayAll ["Detected: " ++ label, "Source: " ++ source]
    | none =>
      say "Could not auto-detect scope."
      if scopes.truthy then
        say "\nAvailable scopes:"
        sayScopes scopes
      else say "No scopes configured. Run /github-workflows:init to analyze project structure."
      exit 1
  | "--list" :: _ => listScopes
  | "--validate" :: rest =>
    match rest with
    | [] =>
      say "Usage: detect-scope.py --validate <scope-label>"
      exit 1
    | label :: _ =>
      let known ← checkLabel label
      exit (if known then 0 else 1)
  | other :: _ =>
    sayAll ["Unknown argument: " ++ other, scopeUsage]
    exit 1

end Workbench.Workspace
