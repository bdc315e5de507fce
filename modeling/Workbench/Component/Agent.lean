import Workbench.Component.Frontmatter
import Workbench.Component.Finding

/-!
# Agents

Checks an agent file: its front matter and the sections of its body.
-/

namespace Workbench.Component.Agent

open Text Tool

def ofName (fields : Value) : Result (List Finding) := do
  if !(← fields.hasText "name") then return [⟨.error, "Missing required field: 'name'"⟩]
  return nameFindings "name" (← (← fields.field "name").subject)

def ofDescription (fields : Value) : Result (List Finding) := do
  if !(← fields.hasText "description") then
    return [⟨.error, "Missing required field: 'description'"⟩]
  let n ← (← fields.field "description").size
  return errorIf (1024 < n) s!"Description too long: {n} characters (max 1024)"
    ++ warnIf (n < 20) (s!"Description is very short ({n}"
      ++ " chars). Consider adding more detail about when to use this agent.")

def ofCapability (i : Nat) : Value → List Finding
  | .str cap =>
    if trim cap == "" then errorIf true s!"Invalid capability at index {i}: cannot be empty"
    else adviseIf (!isKebab cap)
      s!"Capability '{cap}' should use kebab-case (lowercase with hyphens)"
  | _ => errorIf true s!"Invalid capability at index {i}: must be a string"

def ofCapabilities (fields : Value) : Result (List Finding) := do
  if !(← fields.hasText "capabilities") then
    return adviseIf true
      ("Add 'capabilities' field listing specialized tasks this agent can perform "
      ++ "(e.g., capabilities: [\"task1\", \"task2\"])")
  match ← fields.field "capabilities" with
  | .list caps =>
    return (caps.zipIdx.flatMap fun (c, i) => ofCapability i c)
      ++ warnIf (10 < caps.length)
        s!"{caps.length} capabilities listed. Consider keeping it focused (3-7 is ideal)"
      ++ warnIf caps.isEmpty
        ("Capabilities array is empty. Add task descriptions to help Claude understand "
        ++ "when to invoke this agent.")
  | _ =>
    return errorIf true
      "Invalid capabilities field: must be an array (e.g., [\"task1\", \"task2\"])"

def ofTools (fields : Value) : Result (List Finding) := do
  if !(← fields.hasText "tools") then return []
  match ← fields.field "tools" with
  | .str s =>
    let tools := toolList s
    return toolFindings tools ++ warnIf (tools.contains "Task")
      ("Agent has 'Task' tool but subagents cannot spawn other subagents. Consider "
        ++ "removing Task or using a skill for orchestration patterns.")
  | _ => return []

def models : List String := ["sonnet", "opus", "haiku", "inherit"]

def ofModel (fields : Value) : Result (List Finding) := do
  if !(← fields.hasText "model") then return []
  let model ← fields.field "model"
  return errorIf (!models.any fun m => Value.same m model)
    (s!"Invalid model '{model.display}'. Valid models: " ++ join ", " models)

def isColor (s : String) : Bool :=
  match dropFinalNewline s.toList with
  | '#' :: ds => ds.length == 6 && ds.all fun c => (Json.hexValue? c).isSome
  | _ => false

def ofColor (fields : Value) : Result (List Finding) := do
  if !(← fields.hasText "color") then
    return adviseIf true
      "Add 'color' field for visual identification in terminal (e.g., color: \"#3498DB\")"
  match ← fields.field "color" with
  | .str color =>
    return errorIf (!isColor color)
      s!"Invalid color format '{color}': must be 6-digit hex with # prefix (e.g., \"#3498DB\")"
  | _ => return errorIf true "Invalid color type: must be a string (e.g., \"#3498DB\")"

def ofBody (body : String) : List Finding :=
  warnIf ((trim body).length < 100)
      ("Agent body is very short. Consider adding more detailed instructions, examples, and "
        ++ "guidelines.")
    ++ adviseIf (!containsAny body ["## Your Capabilities", "## Capabilities"])
      "Add a capabilities section to document what the agent can do"
    ++ adviseIf (!containsAny body ["## Your Workflow", "## Workflow"])
      "Add a workflow section to document the agent's process"

def findings (fields : Value) (body : String) : Result (List Finding) := do
  return (← ofName fields) ++ (← ofDescription fields) ++ (← ofCapabilities fields) ++
    (← ofTools fields)
    ++ (← ofModel fields) ++ (← ofColor fields) ++ ofBody body

def review (content : String) : Result Verdict := do
  match Sheet.ofText? content with
  | none => return refusal "Missing YAML frontmatter (must start with --- and end with ---)"
  | some sheet =>
    match ← sheet.fields with
    | .error m => return refusal s!"Invalid YAML syntax: {m}"
    | .ok fields =>
      let fs ← findings fields sheet.body
      return ⟨fs.isEmpty, fs⟩

def check (file : String) : Tool Verdict := do
  match ← readOr (Path.ofString file).toString "Failed to read file: " with
  | .error m => return refusal m
  | .ok content => review content

def line (f : Finding) : String := (if f.severity == .error then "  ❌ " else "  ⚠️  ") ++ f.message

def command (argv : List String) : Tool Unit := do
  match argv with
  | [] =>
    say "Usage: validate-agent.py <agent-file.md>"
    exit 1
  | file :: _ =>
    let v ← check file
    if v.valid then
      say s!"✓ Agent '{file}' is valid!"
      exit 0
    sayAll ([s!"✗ Agent '{file}' has validation issues:", ""] ++ v.findings.map line)
    exit v.exitCode

end Workbench.Component.Agent
