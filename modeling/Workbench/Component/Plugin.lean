import Workbench.Component.Finding
import Workbench.Pattern.Reader

/-!
# Plugins

Checks a plugin directory: its manifest, the components that the manifest lists, and the files
beside it.
-/

namespace Workbench.Component.Plugin

open Tool Text

/-- What is said of a plugin's parts. -/
structure Report where
  errors : List String := []
  warnings : List String := []
  components : Nat := 0
deriving DecidableEq, Repr

def Report.append (a b : Report) : Report :=
  ⟨a.errors ++ b.errors, a.warnings ++ b.warnings, a.components + b.components⟩

instance : Append Report := ⟨Report.append⟩

def error (text : String) : Report := { errors := [text] }

def warning (text : String) : Report := { warnings := [text] }

def component : Report := { components := 1 }

def when (c : Bool) (r : Report) : Report := if c then r else {}

def join (rs : List Report) : Report := rs.foldl (· ++ ·) {}

/-! ### The manifest -/

def ofName (m : Value) : Result Report := do
  if !(← m.hasText "name") then return error "Missing required field in plugin.json: 'name'"
  let name ← (← m.field "name").subject
  return { errors := (nameFindings "plugin name" name).map Finding.message }

def dropDigits? (s : Chars) : Option Chars :=
  if s.head?.any isDecimal then some (s.dropWhile isDecimal) else none

def dropDot? : Chars → Option Chars
  | '.' :: s => some s
  | _ => none

def isVersion (s : String) : Bool :=
  (dropDigits? (dropFinalNewline s.toList)
    >>= dropDot? >>= dropDigits? >>= dropDot? >>= dropDigits?) == some []

def ofVersionText (version : String) : Report :=
  when (!isVersion version)
    (error s!"Invalid version '{version}': must follow semantic versioning (e.g., 1.0.0)")

def ofVersion (m : Value) : Result Report := do
  if !(← m.hasText "version") then return error "Missing required field in plugin.json: 'version'"
  return ofVersionText (← (← m.field "version").subject)

def ofDescription (m : Value) : Result Report := do
  if !(← m.hasText "description") then
    return error "Missing required field in plugin.json: 'description'"
  let n ← (← m.field "description").size
  return when (n < 20)
      (warning s!"Description is very short ({n} chars). Consider adding more detail.")
    ++ when (1024 < n) (error s!"Description too long: {n} characters (max 1024)")

def ofAuthor (m : Value) : Result Report := do
  if !(← m.hasText "author") then
    return warning "Recommendation: Add 'author' field with name, email, and url"
  match ← m.field "author" with
  | .map es =>
    let has := fun (k : String) => (Value.get? (.map es) k).isSome
    return when (!has "name") (warning "Author object missing 'name' field")
      ++ when (!has "url" && !has "email")
        (warning "Author object missing contact information (url or email)")
  | _ => return {}

def ofKeywords (m : Value) : Result Report := do
  if !(← m.hasText "keywords") then
    return warning "Recommendation: Add 'keywords' array for better discoverability"
  match ← m.field "keywords" with
  | .list ks => return when (ks.length < 3) (warning (s!"Only {ks.length}"
      ++ " keyword(s). Consider adding more for better discoverability."))
  | _ => return error "Field 'keywords' must be an array"

def recommended (m : Value) (field text : String) : Result Report := do
  return when (!(← m.hasText field)) (warning s!"Recommendation: Add {text}")

def ofFields (m : Value) : Result Report := do
  return join [← ofName m, ← ofVersion m, ← ofDescription m, ← ofAuthor m,
    ← recommended m "license" "'license' field (e.g., 'MIT', 'Apache-2.0')", ← ofKeywords m,
    ← recommended m "repository" "'repository' URL", ← recommended m "homepage" "'homepage' URL"]

/-! ### The components -/

def target (dir : Path) (listed : String) : Path := dir / trimStartSet listed "./"

def ofPaths (field example_ : String) (check : String → Tool Report) (items : List Value) :
    Tool Report := do
  let rs ← items.zipIdx.mapM fun (item, i) => do
    let place := s!"Field '{field}[{i}]'"
    match item with
    | .map _ => return error (s!"{place} is an object but must be a string path. Use \"{example_}"
        ++ "\" instead of \x7b\"name\": ..., \"path\": ...\x7d")
    | .str s => check s
    | other => return error s!"{place} must be a string path, got {other.kindText}"
  return join rs

def ofFile (dir : Path) (what listed : String) : Tool Report := do
  if ← pathExists (target dir listed).toString then return component
  return error s!"{what} does not exist: {listed}"

def ofAgents (dir : Path) (m : Value) : Tool Report := do
  if !(← m.hasText "agents") then return {}
  match ← m.field "agents" with
  | .str _ => return error ("Field 'agents' must be an array of paths, not a string. "
      ++ "Use: [\"./agents/agent.md\"] instead of \"./agents/agent.md\"")
  | .list xs => ofPaths "agents" "./agents/file.md" (ofFile dir "Agent file") xs
  | _ => return {}

def ofSkillFile (skill : Path) (shown : String) : Tool Report := do
  return when (!(← pathExists (skill / "SKILL.md").toString))
    (error s!"Skill directory missing SKILL.md: {shown}")

def ofSkillsDir (dir : Path) (listed : String) : Tool Report := do
  let place := target dir listed
  match ← nodeAt place.toString with
  | none => return error s!"Skills directory does not exist: {listed}"
  | some .dir =>
    let dirs ← (← children place).filterM fun p => isDir p.toString
    let empty := when dirs.isEmpty
      (warning s!"Skills directory exists but contains no subdirectories: {listed}")
    let rs ← dirs.mapM fun d => ofSkillFile d d.name
    return { components := dirs.length } ++ empty ++ join rs
  | some _ => return {}

def ofSkills (dir : Path) (m : Value) : Tool Report := do
  if !(← m.hasText "skills") then return {}
  match ← m.field "skills" with
  | .str s => ofSkillsDir dir s
  | .list xs => ofPaths "skills" "./skills/skill-name" (fun s => do
      if !(← pathExists (target dir s).toString) then
        return error s!"Skill directory does not exist: {s}"
      return component ++ (← ofSkillFile (target dir s) s)) xs
  | _ => return {}

def ofCommandsDir (dir : Path) (listed : String) : Tool Report := do
  let place := target dir listed
  match ← nodeAt place.toString with
  | none => return error s!"Commands directory does not exist: {listed}"
  | some .dir =>
    let n := (← glob place ["**", "*.md"]).length
    return { components := n } ++ when (n == 0)
      (warning s!"Commands directory exists but contains no .md files: {listed}")
  | some _ => return {}

def ofCommands (dir : Path) (m : Value) : Tool Report := do
  if !(← m.hasText "commands") then return {}
  match ← m.field "commands" with
  | .str s => ofCommandsDir dir s
  | .list xs => ofPaths "commands" "./commands/cmd.md" (ofFile dir "Command file") xs
  | _ => return {}

def ofHooksFile (dir : Path) (listed : String) : Tool Report := do
  let place := (target dir listed).toString
  if !(← pathExists place) then return error s!"Hooks file does not exist: {listed}"
  if !endsWith listed ".json" then return component
  match parseJson (← readText place) with
  | .ok data =>
    let known ← if ← data.hasText "matchers" then pure true else data.hasText "hooks"
    return component ++ when (!known)
      (warning s!"Hooks file missing 'matchers' or 'hooks' field: {listed}")
  | .error e =>
    if e.isJson then return component ++ error s!"Invalid JSON in hooks file {listed}: {e.message}"
    throw e

def ofHooks (dir : Path) (m : Value) : Tool Report := do
  if !(← m.hasText "hooks") then return {}
  match ← m.field "hooks" with
  | .str s => ofHooksFile dir s
  | .list xs => ofPaths "hooks" "./hooks/hooks.json" (ofHooksFile dir) xs
  | _ => return error "Field 'hooks' must be a string path or array of paths"

def ofComponents (dir : Path) (m : Value) : Tool Report := do
  let r := join [← ofAgents dir m, ← ofSkills dir m, ← ofCommands dir m, ← ofHooks dir m]
  return r ++ when (r.components == 0)
    (warning "Plugin contains no components (agents, skills, commands, or hooks)")

/-! ### The files beside -/

def ofReadme (dir : Path) : Tool Report := do
  match ← nodeAt (dir / "README.md").toString with
  | none => return error "Missing required file: README.md"
  | some (.file c _) => return when (c.size < 200) (warning (s!"README.md is very short ({c.size}"
      ++ " bytes). Consider adding more documentation."))
  | some .dir => return {}

def ofLicense (dir : Path) (m : Value) : Tool Report := do
  if !(← m.hasText "license") then return {}
  if !(← m.field "license").truthy then return {}
  return when (!(← pathExists (dir / "LICENSE").toString))
    (warning "License specified in plugin.json but LICENSE file not found")

def secretFiles : List String := [".env", "credentials.json", "secrets.json", ".env.local"]

def removesAll : Pattern.Node := Pattern.ofString "rm\\s+-rf\\s+/"

def evaluates : Pattern.Node := Pattern.ofString "eval\\s+"

def ofScriptText (shown content : String) : List String :=
  (if removesAll.occurs content then [s!"Security: Dangerous pattern 'rm -rf /' in {shown}"]
    else [])
    ++ (if evaluates.occurs content then [s!"Security: Potentially dangerous 'eval' in {shown}"]
      else [])

def security (dir : Path) : Tool (List String) := do
  let secrets ← secretFiles.filterM fun f => pathExists (dir / f).toString
  let scripts ← (← glob dir ["**", "*.sh"]).mapM fun p => do
    if !(← isFile p.toString) then return []
    let shown := ((p.relativeTo? dir).getD p).toString
    guarded (do return ofScriptText shown (← readText p.toString)) (fun e => !e.isExit) fun _ =>
      return []
  return secrets.map (fun f =>
    s!"Security: Found potential secrets file '{f}'. Ensure it's in .gitignore") ++ scripts.flatten

/-! ### The plugin -/

/-- What is said of a plugin. -/
structure Outcome where
  valid : Bool
  errors : List String
  warnings : List String
deriving DecidableEq, Repr

def refused (text : String) : Outcome := ⟨false, [text], []⟩

def readManifest (raw : String) : Tool (Except String Value) :=
  guarded (do return .ok (← readJson raw)) (fun e => !e.isExit) fun e =>
    return .error
      ((if e.isJson then "Invalid JSON in plugin.json: " else "Failed to read plugin.json: ")
      ++ e.message)

def check (pluginDir : String) : Tool Outcome := do
  let dir := Path.ofString pluginDir
  if !(← isDir dir.toString) then return refused s!"Plugin directory does not exist: {pluginDir}"
  let manifest := (dir / ".claude-plugin" / "plugin.json").toString
  if !(← pathExists manifest) then
    return refused "Missing required file: .claude-plugin/plugin.json"
  match ← readManifest manifest with
  | .error m => return refused m
  | .ok m =>
    let r := join [← ofFields m, ← ofComponents dir m, ← ofReadme dir, ← ofLicense dir m]
    return ⟨r.errors.isEmpty, r.errors, r.warnings ++ (← security dir)⟩

def messageLines (heading : String) (xs : List String) : List String :=
  if xs.isEmpty then []
  else ["", s!"{heading} ({xs.length}):"] ++ xs.map ("   • " ++ ·)

def Outcome.lines (o : Outcome) (name : String) : List String :=
  ["", (if o.valid then "✅" else "❌") ++ s!" PLUGIN VALIDATION: {name}", times "━" 50]
    ++ messageLines "❌ ERRORS" o.errors ++ messageLines "⚠️  WARNINGS" o.warnings
    ++ (if !o.errors.isEmpty then []
        else if o.warnings.isEmpty then ["", "✅ All validations passed! Plugin is ready."]
        else ["", s!"✅ Validation passed with {o.warnings.length} warning(s)"])
    ++ [times "━" 50]

def command (argv : List String) : Tool Unit := do
  match argv with
  | [] =>
    sayAll ["Usage: python3 validate-plugin.py <plugin-directory>", "", "Example:",
      "  python3 validate-plugin.py ./my-plugin/"]
    exit 1
  | dir :: _ =>
    let o ← check dir
    sayAll (o.lines (Path.ofString dir).name)
    exit (if !o.errors.isEmpty then 1 else if !o.warnings.isEmpty then 2 else 0)

end Workbench.Component.Plugin
