import Workbench.Notes.Backend

/-!
# Setup

Asks for everything that is needed to reach a graph of notes, or takes it from the environment, and
saves it.
-/

namespace Workbench.Notes.Setup

open Value Tool Text Color

def systemName : Tool String := do
  return match lower (← get).platform with
    | "darwin" => "macos"
    | "windows" => "windows"
    | _ => "linux"

def searchPlaces (system : String) (home : Path) (appData : String) : List Path :=
  let documents := home / "Documents" / "logseq"
  match system with
  | "macos" => [documents, home / "logseq", home / "Library" / "Application Support" / "Logseq"]
  | "windows" => [documents, home / "logseq", Path.ofString appData / "Logseq"]
  | _ => [home / "logseq", documents, home / ".logseq"]

def isGraph (dir : Path) : Tool Bool := do
  if !(← isDir dir.toString) then return false
  if ← pathExists (dir / "logseq").toString then return true
  pathExists (dir / "db.sqlite").toString

def graphsIn (dir : Path) : Tool (List Path) := do
  if !(← isDir dir.toString) then return []
  (← children dir).filterM isGraph

def graphs : Tool (List Path) := do
  let places := searchPlaces (← systemName) (← home) (← env "APPDATA" "")
  return (← places.mapM graphsIn).flatten

/-! ### Questions -/

def askOr {α : Type} (message hint : String) (fallback : α) (read : String → α) : Tool α := do
  let text := trim (← ask s!"{message}{hint}: ")
  return if text == "" then fallback else read text

def hintFor (default : String) : String := if default == "" then "" else s!" [{default}]"

def ask (message default : String) : Tool String := askOr message (hintFor default) default id

def isYes (answer : String) : Bool := ["y", "yes", "true", "1"].contains (lower answer)

def yesNoHint (default : Bool) : String := if default then " [Y/n]" else " [y/N]"

def askYesNo (message : String) (default : Bool) : Tool Bool :=
  askOr message (yesNoHint default) default isYes

def sayHeading (text : String) : Tool Unit :=
  let line := fun (t : String) => bold ++ paint blue t
  sayAll ["\n" ++ line (times "=" 50), line text, line (times "=" 50) ++ "\n"]

def sayStep (n : Nat) (text : String) : Tool Unit := say (paint cyan s!"[{n}]" ++ s!" {text}")

/-! ### Configurations -/

/-- The settings that are saved. -/
structure Configuration where
  url : String := defaultUrl
  token : String := ""
  graphPath : String := ""
  serverEnabled : Bool := true
  serverPath : String := ""
  defaultGraph : Option String := none
  confirmWrites : Bool := false
  backupBeforeWrite : Bool := false
  system : String
deriving DecidableEq, Repr

def Configuration.value (c : Configuration) : Value :=
  .object
    [("backend", .str "auto"), ("http", .object [("url", .str c.url), ("token", .str c.token)]),
     ("cli", .object [("graphPath", .str c.graphPath), ("inApp", .bool false)]),
     ("mcp", .object [("enabled", .bool c.serverEnabled), ("serverPath", .str c.serverPath)]),
     ("preferences", .object [("defaultGraph", ofOption str c.defaultGraph),
       ("confirmWrites", .bool c.confirmWrites), ("backupBeforeWrite", .bool c.backupBeforeWrite)]),
     ("initialized", .bool true), ("os", .str c.system)]

def tokenReference : String := "$\x7bLOGSEQ_API_TOKEN\x7d"

def colored (good : Bool) (yes no : String) : String :=
  if good then paint green yes else paint darkYellow no

def askToken : Tool String := do
  if (← env "LOGSEQ_API_TOKEN" "") != "" then
    say ("  " ++ paint green "Found LOGSEQ_API_TOKEN in environment")
    if ← askYesNo "  Use environment variable for token?" true then return tokenReference
    ask "  Enter API token" ""
  else
    sayAll ["  " ++ paint darkYellow "No LOGSEQ_API_TOKEN found in environment",
      "  To create a token in Logseq: Settings > Advanced > Authorization tokens"]
    let token ← ask "  Enter API token (or leave empty to skip)" ""
    if token != "" then
      say ("  " ++ paint darkYellow "Tip: Set LOGSEQ_API_TOKEN environment variable for security")
    return token

def isNumber (s : String) : Bool := s != "" && s.toList.all isDigitMark

def chosenGraph (found : List Path) (answer : String) : Result (String × Option String) := do
  if !isNumber answer then return (answer, none)
  let n ← wholeOf answer
  if n ≤ 0 then return (answer, none)
  match found[n.toNat - 1]? with
  | some g => return (g.toString, some g.name)
  | none => return (answer, none)

def askGraph : Tool (String × Option String) := do
  let found ← graphs
  if found.isEmpty then
    say ("  " ++ paint darkYellow "No graphs found automatically")
    return (← ask "  Enter graph path (or leave empty)" "", none)
  say s!"\n  Found {found.length} graph(s):"
  for (g, i) in found.zipIdx do
    let kind := if ← pathExists (g / "db.sqlite").toString then "DB" else "MD"
    say s!"    {i + 1}. {g.name} ({kind}) - {g.toString}"
  say ""
  let answer ← ask "  Select default graph (number) or enter path" ""
  chosenGraph found answer

def saySurvey (web program server : Bool) : Tool Unit :=
  sayAll ["  HTTP API: " ++ colored web "Available" "Not running",
    "  CLI:      " ++ colored program "Available" "Not installed",
    "  MCP:      " ++ colored server "Available" "Not built", ""]

def saySummary (c : Configuration) : Tool Unit := do
  sayHeading "Configuration Summary"
  sayAll ["Backend priority: " ++ paint cyan "auto" ++ " (MCP > HTTP > CLI)", s!"HTTP URL: {c.url}",
    "HTTP Token: " ++ (if c.token == "" then "not set" else "configured"),
    "Graph path: " ++ (if c.graphPath == "" then "not set" else c.graphPath),
    s!"MCP enabled: {(bool c.serverEnabled).display}", ""]

def sayProgram (p : Backend.Program) : Tool Unit := do
  if p.available then
    say ("  " ++ paint green "CLI is available")
    sayAll (Backend.textLine "Path" p.path)
  else say ("  " ++ paint darkYellow "CLI not installed. Install with: npm install -g @logseq/cli")

def sayServer (s : Backend.Server) : Tool Unit := do
  if s.available then say ("  " ++ paint green "MCP server is built and ready")
  else
    say ("  " ++ paint darkYellow "MCP server not built yet")
    sayAll ((s.path.filter (· != "")).toList.map fun p =>
      s!"  To build: cd {p} && npm install && npm run build")

def interview : Tool Configuration := do
  sayHeading "Logseq Expert Plugin Setup"
  let system ← systemName
  sayStep 1 "Detecting available backends..."
  say ""
  let web ← Backend.checkWeb defaultUrl .null
  let program ← Backend.checkProgram
  let server ← Backend.checkServer .null
  saySurvey web.available program.available server.available
  sayStep 2 "HTTP API Configuration"
  if web.available then say ("  " ++ paint green "Logseq is running with HTTP API enabled")
  else
    sayAll ["  " ++ paint darkYellow "To enable HTTP API:", "    1. Open Logseq",
      "    2. Settings > Advanced > Developer mode: ON",
      "    3. Settings > Advanced > HTTP APIs server: ON", ""]
  let url ← ask "  HTTP API URL" defaultUrl
  let token ← askToken
  say ""
  sayStep 3 "CLI Configuration"
  sayProgram program
  let (graphPath, defaultGraph) ← askGraph
  say ""
  sayStep 4 "MCP Server Configuration"
  sayServer server
  let serverEnabled ← askYesNo "  Enable MCP server?" true
  say ""
  sayStep 5 "Preferences"
  let confirmWrites ← askYesNo "  Confirm before write operations?" false
  let backupBeforeWrite ← askYesNo "  Create backups before writes?" false
  say ""
  let serverPath := if server.available then server.path.getD "" else ""
  let c : Configuration :=
    { url, token, graphPath, serverEnabled, serverPath, defaultGraph, confirmWrites,
      backupBeforeWrite, system }
  saySummary c
  return c

def automatic : Tool Configuration := do
  let system ← systemName
  let url ← environmentUrl
  let token := if (← env "LOGSEQ_API_TOKEN" "") == "" then "" else tokenReference
  let graphPath ← env "LOGSEQ_GRAPH_PATH" ""
  let server ← Backend.checkServer .null
  return { url, token, graphPath, serverPath := server.path.getD "", system }

def save (config : Value) (force : Bool) : Tool Bool := do
  let file ← localSettings
  let path := file.toString
  let present ← pathExists path
  let sure ← if present && !force then (do
      say (paint darkYellow s!"Configuration already exists at {path}")
      askYesNo "Overwrite?" false)
    else pure true
  if !sure then return false
  makePath file.parent
  dumpJson path config
  say (paint green s!"Configuration saved to {path}")
  return true

def sayPresent (path : String) : Tool Unit := do
  say (paint darkYellow "Already initialized. Use --force to reinitialize.")
  let config ← readJson path
  say s!"\nCurrent config: {path}"
  sayJson config

def command (argv : List String) : Tool Unit := do
  let force := argv.contains "--force"
  let path := (← localSettings).toString
  let present ← pathExists path
  if present && !force then
    sayPresent path
    return
  let asks := !argv.contains "--non-interactive"
  let config ← if asks then interview else automatic
  let wanted ← if asks then askYesNo "Save configuration?" true else pure true
  if !wanted then
    say "Setup cancelled."
    return
  let _ ← save config.value force
  sayAll ["\n" ++ paint green "Setup complete!", "\nNext steps:",
    "  1. Ensure Logseq is running with HTTP API enabled",
    "  2. Set LOGSEQ_API_TOKEN environment variable if not done",
    "  3. Use /logseq:status to verify connection"]

end Workbench.Notes.Setup
