import Workbench.Pattern.Reader
import Workbench.Value.Access
import Workbench.World.Basic

/-!
# Reminders

Before a component file is written, the writer is reminded of the skill that helps with that kind of
component.
-/

namespace Workbench.Component.Reminder

open Tool

/-- A kind of component and the skill for it. -/
structure Kind where
  name : String
  skill : String
deriving DecidableEq, Repr

def places : List (Pattern.Node × Kind) :=
  [(".*/skills/[^/]+/SKILL\\.md$", ⟨"skill", "building-skills"⟩),
   (".*/commands/[^/]+\\.md$", ⟨"command", "building-commands"⟩),
   (".*/agents/[^/]+\\.md$", ⟨"agent", "building-agents"⟩),
   (".*/hooks/hooks\\.json$", ⟨"hook", "building-hooks"⟩),
   (".*/\\.claude/hooks\\.json$", ⟨"hook", "building-hooks"⟩),
   (".*/\\.claude-plugin/plugin\\.json$", ⟨"plugin", "building-plugins"⟩)].map fun (p, k) =>
     (Pattern.ofString p .caseless, k)

def kind? (file : String) : Option Kind :=
  let path := Text.replace file "\\" "/"
  (places.find? fun (p, _) => p.starts path).map (·.2)

def answer (file : String) : Value :=
  match kind? file with
  | some k => .object
      [("decision", "approve"), ("reason", .str s!"Writing {k.name} file"),
       ("additionalContext", .str (s!"REMINDER: You are writing a {k.name} file. "
          ++ s!"Ensure you have invoked 'agent-builder:{k.skill}' for guidance. "
          ++ s!"Use templates from agent-builder/skills/{k.skill}/templates/."))]
  | none => .object [("decision", "approve"), ("suppressOutput", true)]

def unknown : Value := .object
  [("decision", "approve"), ("reason", "Could not determine file path, deferring to prompt hook")]

def pathIn (input : String) : Result Value :=
  match parseJson input with
  | .ok data => data.fieldOr "file_path" ""
  | .error e => if e.isJson then .ok "" else .error e

def command (_ : List String) : Tool Unit := do
  let named ← env "TOOL_INPUT_FILE_PATH" ""
  let file ← if named == "" then pathIn (← env "TOOL_INPUT" "\x7b\x7d") else pure (Value.str named)
  let result ← if file.truthy then do pure (answer (← file.textFor "replace")) else pure unknown
  say (← renderJson .line result)
  exit 0

end Workbench.Component.Reminder
