import Workbench.Component.Frontmatter
import Workbench.Component.Finding

/-!
# Skills

Checks a skill directory: the front matter and body of its main file, and the files beside it.
-/

namespace Workbench.Component.Skill

open Tool Text

def activityWords : List String :=
  ["-ing-", "analyzing", "building", "creating", "generating", "processing", "writing"]

def ofName (dir : String) (fields : Value) : Result (List Finding) := do
  if !(← fields.hasText "name") then return [⟨.error, "Missing required field: 'name'"⟩]
  let name ← (← fields.field "name").subject
  return nameFindings "name" name
    ++ warnIf (dir != name) s!"Skill name '{name}' does not match directory name '{dir}'"
    ++ adviseIf (!endsWith name "ing" && !containsAny name activityWords)
      (s!"Skill names typically use gerund form (verb + -ing): '{name}' → "
        ++ s!"consider 'building-{name}' or '{name}ing'")

def triggers : List String := ["use when", "when", "for", "whenever", "if"]

def ofDescription (fields : Value) : Result (List Finding) := do
  if !(← fields.hasText "description") then
    return [⟨.error, "Missing required field: 'description'"⟩]
  let description ← fields.field "description"
  let n ← description.size
  let text ← description.textFor "lower"
  return errorIf (1024 < n) s!"Description too long: {n} characters (max 1024)"
    ++ warnIf (n < 30)
      (s!"Description is very short ({n} chars). For skills, describe WHEN Claude should "
        ++ "auto-invoke.")
    ++ adviseIf (!containsAny (lower text) triggers)
      "Skill description should clearly state WHEN Claude should use it (e.g., 'Use when...')"

def versionStart : Pattern.Node := Pattern.ofString "^\\d+\\.\\d+\\.\\d+"

def ofVersion (fields : Value) : Result (List Finding) := do
  if !(← fields.hasText "version") then return []
  let version := (← fields.field "version").display
  return warnIf (!versionStart.starts version)
    s!"Version '{version}' doesn't follow semantic versioning (e.g., 1.0.0)"

def ofToolItems (tools : List Value) : Result (List Finding) := do
  let correct ← Value.joinTexts ", " (.list tools)
  let lines :=
    ["CRITICAL ERROR: 'allowed-tools' must be a comma-separated string, NOT a YAML list!", "",
      "   Current format (WRONG):", "   allowed-tools:"]
    ++ (tools.take 3).map (fun t => s!"     - {t.display}")
    ++ (if 3 < tools.length then ["     ..."] else [])
    ++ ["", s!"   Correct format: allowed-tools: {correct}", ""]
  return lines.map fun l => ⟨.error, l⟩

def ofTools (fields : Value) : Result (List Finding) := do
  if !(← fields.hasText "allowed-tools") then return []
  match ← fields.field "allowed-tools" with
  | .list tools => ofToolItems tools
  | .str s => return toolFindings (toolList s)
  | _ => return []

def ofModel (fields : Value) : Result (List Finding) := do
  return errorIf (← fields.hasText "model")
    ("Invalid field 'model': Skills do not support model specification. Only agents can "
      ++ "specify a model. Remove this field.")

def standardDirs : List String := ["scripts", "references", "assets"]

def baseWord : String := "\x7bbaseDir\x7d"

/-- Findings about the body; `entries` are the names in the skill's directory. -/
def ofBody (body : String) (entries : List String) : List Finding :=
  warnIf ((trim body).length < 100)
      "Skill body is very short. Consider adding detailed instructions and examples."
    ++ adviseIf (standardDirs.any entries.contains && !contains body baseWord)
      s!"Use {baseWord} variable to reference resources in scripts/, references/, or assets/"
    ++ adviseIf (!contains (lower body) "## when to use")
      "Add a 'When to Use This Skill' section to document auto-invocation triggers"
    ++ adviseIf (!contains (lower body) "## capabilities")
      "Add a capabilities section to document what the skill can do"

def ofDirs (dirs : List String) : List Finding :=
  dirs.flatMap fun d => warnIf (!standardDirs.contains d && !startsWith d ".")
    (s!"Unexpected subdirectory '{d}'. Standard subdirs: " ++ join ", " standardDirs)

def ofScripts (dir : Path) : Tool (List Finding) := do
  if !(← pathExists dir.toString) then return []
  let fss ← (← children dir).mapM fun script => do
    match ← nodeAt script.toString with
    | some (.file _ executable) =>
      return warnIf (!executable && [".sh", ".py"].contains script.suffix)
        s!"Script '{script.name}' is not executable. Run: chmod +x {script.toString}"
    | _ => return []
  return fss.flatten

def ofFiles (dir : Path) : Tool (List Finding) := do
  let dirs ← (← children dir).filterM fun p => isDir p.toString
  return ofDirs (dirs.map Path.name) ++ (← ofScripts (dir / "scripts"))

def ofFields (dir : String) (fields : Value) : Result (List Finding) := do
  return (← ofName dir fields) ++ (← ofDescription fields) ++ (← ofVersion fields) ++
    (← ofTools fields)
    ++ (← ofModel fields)

def check (skillDir : String) : Tool Verdict := do
  let dir := Path.ofString skillDir
  if !(← pathExists dir.toString) then return refusal s!"Skill directory does not exist: {skillDir}"
  if !(← isDir dir.toString) then return refusal s!"Path is not a directory: {skillDir}"
  let file := (dir / "SKILL.md").toString
  if !(← pathExists file) then return refusal "Missing required file: SKILL.md"
  match ← readOr file "Failed to read SKILL.md: " with
  | .error m => return refusal m
  | .ok content =>
    match Sheet.ofText? content with
    | none =>
      return refusal "SKILL.md missing YAML frontmatter (must start with --- and end with ---)"
    | some sheet =>
      match ← sheet.fields with
      | .error m => return refusal s!"Invalid YAML syntax in SKILL.md: {m}"
      | .ok fields =>
        let entries := (← children dir).map Path.name
        return lenient ((← ofFields dir.name fields) ++ ofBody sheet.body entries ++
          (← ofFiles dir))

def command (argv : List String) : Tool Unit := do
  match argv with
  | [] =>
    say "Usage: validate-skill.py <skill-directory>"
    exit 1
  | dir :: _ => (← check dir).conclude "Skill" dir

end Workbench.Component.Skill
