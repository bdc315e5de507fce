import Workbench.Component.Frontmatter
import Workbench.Component.Finding

/-!
# Commands

Checks a command file: its file name, its front matter, and what its body does with arguments.
-/

namespace Workbench.Component.Command

open Pattern Text

def verbs : List String :=
  ["add", "build", "check", "clean", "commit", "create", "delete", "deploy", "generate",
   "get", "install", "list", "make", "push", "remove", "review", "run", "search", "show", "test",
   "update", "validate"]

def ofFileName (name : String) : List Finding :=
  let intro := s!"Invalid filename '{name}.md': "
  errorIf (!isKebab name) s!"{intro}must be lowercase letters, numbers, and hyphens only"
    ++ errorIf (contains name "_") s!"{intro}underscores not allowed, use hyphens instead"
    ++ adviseIf (!verbs.any (startsWith name))
      (s!"Command names are typically action-oriented (start with a verb): '{name}' → "
        ++ s!"consider 'run-{name}', 'create-{name}', etc.")

def ofDescription (fields : Value) : Result (List Finding) := do
  if !(← fields.hasText "description") then
    return adviseIf true "Add 'description' field to help users understand what the command does"
  let n ← (← fields.field "description").size
  return warnIf (n < 10) s!"Description is very short ({n} chars)"

def ofTools (fields : Value) : Result (List Finding) := do
  if !(← fields.hasText "allowed-tools") then return []
  match ← fields.field "allowed-tools" with
  | .str s => return toolFindings (toolList s)
  | _ => return []

def shortModels : List (String × String) :=
  [("haiku", "claude-haiku-4-5"), ("sonnet", "claude-sonnet-4-5"), ("opus", "claude-opus-4-5"),
   ("inherit", "claude-sonnet-4-5")]

def shortModelText (file model full : String) : String :=
  s!"CRITICAL ERROR: Commands cannot use short aliases. Found: 'model: {model}'\n\n"
    ++ "   📝 Quick Fix Options:\n\n"
    ++ "   Option 1 (Recommended): Remove the model field entirely\n"
    ++ s!"     sed -i '/^model:/d' {file}\n\n"
    ++ "   Option 2: Use version alias instead\n"
    ++ s!"     sed -i 's/model: {model}/model: {full}/' {file}\n\n"
    ++ "   ℹ️  Why? Commands execute in conversation context and must use explicit\n"
    ++ s!"      version aliases. Only agents can use short aliases like '{model}'.\n\n"
    ++ "   📚 See: agent-builder/skills/building-commands/templates/ for examples"

def ofModel (file : String) (fields : Value) : Result (List Finding) := do
  if !(← fields.hasText "model") then return []
  let model ← fields.field "model"
  match model.str?.bind fun m => (shortModels.lookup m).map fun full => (m, full) with
  | some (m, full) => return errorIf true (shortModelText file m full)
  | none =>
    let m ← model.textFor "startswith"
    return warnIf (!startsWith m "claude-")
      (s!"Model '{m}' doesn't match expected format 'claude-*'. Ensure this is a valid "
        ++ "Anthropic model ID (e.g., 'claude-haiku-4-5' or 'claude-haiku-4-5-20251001').")

def hintText : Value → String
  | .list xs => join " " (xs.map Value.display)
  | v => v.display

def ofHint (fields : Value) : Result (List Finding) := do
  if !(← fields.hasText "argument-hint") then return []
  let hint := hintText (← fields.field "argument-hint")
  return warnIf (!startsWith hint "[")
    s!"argument-hint typically uses brackets: '{hint}' → '[{hint}]'"

def positional : Pattern.Node := ofString "\\$\\d+"

def ofArguments (fields : Value) (body : String) : Result (List Finding) := do
  let uses := positional.occurs body
  if uses || contains body "$ARGUMENTS" then
    return adviseIf (!(← fields.hasText "argument-hint"))
        "Add 'argument-hint' field since the command uses arguments ($1, $2, or $ARGUMENTS)"
      ++ adviseIf (uses && !contains body "## Arguments")
        "Add an '## Arguments' section to document what each positional argument does"
  else return []

def ofSections (body : String) : List Finding :=
  adviseIf (!containsAny body ["## Workflow", "## Steps"])
      "Add a workflow section to document the command's execution steps"
    ++ adviseIf (!containsAny body ["## Example", "## Usage"])
      "Add usage examples showing how to invoke the command"

def dangers : List (Pattern.Node × String) :=
  [(ofString "\\$\\w+\\s*(?:&&|\\||;|\x60)",
    "Potential command injection risk with unsanitized arguments"),
   (ofString "rm\\s+-rf\\s+\\$", "Dangerous rm -rf with variable - add validation"),
   (ofString "eval\\s+\\$", "Using eval with arguments is dangerous")]

def ofShell (fields : Value) (body : String) : Result (List Finding) := do
  if !(← (← fields.fieldOr "allowed-tools" "").hasText "Bash") then return []
  return dangers.flatMap fun (p, text) => adviseIf (p.occurs body)
    s!"{text} (review if $variables are used in actual bash blocks)"

def findings (file : String) (fields : Value) (body : String) : Result (List Finding) := do
  return (← ofDescription fields) ++ (← ofTools fields) ++ (← ofModel file fields) ++
    (← ofHint fields)
    ++ (← ofArguments fields body) ++ ofSections body ++ (← ofShell fields body)

def review (file content : String) : Result Verdict := do
  let named := ofFileName (Path.ofString file).stem
  let refused := fun (text : String) => (⟨false, named ++ [⟨.error, text⟩]⟩ : Verdict)
  match Sheet.ofText? content with
  | none => return refused "Missing YAML frontmatter (must start with --- and end with ---)"
  | some sheet =>
    match ← sheet.fields with
    | .error m => return refused s!"Invalid YAML syntax: {m}"
    | .ok fields => return lenient (named ++ (← findings file fields sheet.body))

def check (file : String) : Tool Verdict := do
  let path := (Path.ofString file).toString
  if !(← Tool.pathExists path) then return refusal s!"File does not exist: {file}"
  match ← readOr path "Failed to read file: " with
  | .error m => return refusal m
  | .ok content => review file content

def command (argv : List String) : Tool Unit := do
  match argv with
  | [] =>
    Tool.say "Usage: validate-command.py <command-file.md>"
    Tool.exit 1
  | file :: _ => (← check file).conclude "Command" file

end Workbench.Component.Command
