import Workbench.Component.Frontmatter
import Workbench.Component.Finding
import Workbench.Value.Access

/-!
# Hooks

Checks a hooks configuration: a map from events to lists of entries, each with a matcher, where the
event is about a tool, and a list of actions.
-/

namespace Workbench.Component.Hooks

open Tool Text

def toolEvents : List String := ["PreToolUse", "PostToolUse"]

def sessionEvents : List String :=
  ["UserPromptSubmit", "Stop", "SessionStart", "SessionEnd", "Notification",
   "SubagentStop", "PreCompact"]

def events : List String := toolEvents ++ sessionEvents

def ofMatcher (intro : String) (matcher : Value) : Result (List Finding) := do
  match matcher with
  | .str m =>
    let bad ← match Pattern.parse {} m with
      | .ok _ => pure []
      | .error .tooManyRounds => throw (.overflow (Pattern.Error.tooManyRounds.message m))
      | .error e => pure (errorIf true s!"{intro}Invalid regex in matcher '{m}': {e.message m}")
    return errorIf (m == "") s!"{intro}Empty matcher (use '*' for all tools)" ++ bad
  | _ => throw (.kind "first argument must be string or compiled pattern")

def ofMatching (event intro : String) (entry : Value) : Result (List Finding) := do
  let given ← entry.hasText "matcher"
  if toolEvents.contains event then
    if !given then return errorIf true s!"{intro}Missing required 'matcher' field"
    ofMatcher intro (← entry.field "matcher")
  else if given then
    return errorIf (← entry.field "matcher").truthy
      s!"{intro}Should not have 'matcher' field (lifecycle events don't use matchers)"
  else return []

def ofScript (script : String) : Tool (List Finding) := do
  match ← nodeAt script with
  | none => return warnIf true s!"Script file does not exist: {script}"
  | some (.file _ executable) =>
    return warnIf (!executable) s!"Script file is not executable: {script}"
  | some .dir => return []

def ofCommand (intro command : String) : Tool (List Finding) := do
  let empty := errorIf (trim command == "") s!"{intro}Empty command"
  if startsWith command "bash " || startsWith command "sh " then
    match (words command)[1]? with
    | some script =>
      if startsWith script "/" then return empty ++ (← ofScript script) else return empty
    | none => return empty
  else return empty

def ofAction (intro : String) (action : Value) : Tool (List Finding) := do
  if !(← action.hasText "type") then return errorIf true s!"{intro}Missing 'type' field"
  match ← action.field "type" with
  | .str "command" =>
    if !(← action.hasText "command") then
      return errorIf true s!"{intro}Missing 'command' field for command type"
    ofCommand intro (← (← action.field "command").textFor "strip")
  | .str "prompt" =>
    if !(← action.hasText "prompt") then
      return errorIf true s!"{intro}Missing 'prompt' field for prompt type"
    let prompt ← (← action.field "prompt").textFor "strip"
    return errorIf (trim prompt == "") s!"{intro}Empty prompt"
  | other =>
    return errorIf true s!"{intro}Invalid type '{other.display}'. Valid types: 'command', 'prompt'"

def ofActions (intro : String) (entry : Value) : Tool (List Finding) := do
  if !(← entry.hasText "hooks") then return errorIf true s!"{intro}: Missing 'hooks' array"
  match ← entry.field "hooks" with
  | .list actions =>
    let fss ← actions.zipIdx.mapM fun (a, j) => ofAction s!"{intro}, item #{j + 1}: " a
    return fss.flatten
  | _ => return errorIf true s!"{intro}: 'hooks' must be an array"

def ofEntry (event : String) (number : Nat) (entry : Value) : Tool (List Finding) := do
  let intro := s!"Event '{event}' hook #{number}"
  return (← ofMatching event s!"{intro}: " entry) ++ (← ofActions intro entry)

def ofEvent (event : String) (entries : Value) : Tool (List Finding) := do
  if !events.contains event then
    return errorIf true (s!"Invalid event name '{event}'. Valid events: " ++ join ", " events)
  match entries with
  | .list es => return (← es.zipIdx.mapM fun (e, i) => ofEntry event (i + 1) e).flatten
  | _ => return errorIf true s!"Event '{event}' must contain a list of hook configurations"

def review (config : Value) : Tool Verdict := do
  if !(← config.hasText "hooks") then return refusal "Missing top-level 'hooks' field"
  match ← config.field "hooks" with
  | .map hooks =>
    let fss ← hooks.mapM fun (event, entries) => ofEvent event.display entries
    return lenient (fss.flatten ++ warnIf hooks.isEmpty "No hooks defined (hooks object is empty)")
  | _ => return refusal "'hooks' field must be an object"

def check (file : String) : Tool Verdict := do
  let path := (Path.ofString file).toString
  if !(← pathExists path) then return refusal s!"File does not exist: {file}"
  match ← readOr path "Failed to read file: " with
  | .error m => return refusal m
  | .ok content =>
    match parseJson content with
    | .ok config => review config
    | .error e => if e.isJson then return refusal s!"Invalid JSON syntax: {e.message}" else throw e

def command (argv : List String) : Tool Unit := do
  match argv with
  | [] =>
    say "Usage: validate-hooks.py <hooks.json>"
    exit 1
  | file :: _ => (← check file).conclude "Hooks configuration" file

end Workbench.Component.Hooks
