import Workbench.Notes.Access
import Workbench.World.Color

/-!
# Ways to reach a graph

Finds out which ways to a graph of notes are open: the web service, the command-line program and the
protocol server.
-/

namespace Workbench.Notes.Backend

open Value Tool Text Color

/-- What is known of the web interface. -/
structure Web where
  available : Bool := false
  url : Value
  authenticated : Bool := false
  error : Option String := none

/-- What is known of the program. -/
structure Program where
  available : Bool := false
  path : Option String := none
  version : Option String := none
  error : Option String := none
deriving DecidableEq, Repr

/-- What is known of the protocol server. -/
structure Server where
  available : Bool := false
  path : Option String := none
  built : Bool := false
  error : Option String := none
deriving DecidableEq, Repr

def orNull (s : Option String) : Value := ofOption str s

def Web.value (w : Web) : Value :=
  .object [("available", .bool w.available), ("url", w.url),
    ("authenticated", .bool w.authenticated), ("error", orNull w.error)]

def Program.value (p : Program) : Value :=
  .object [("available", .bool p.available), ("path", orNull p.path), ("version", orNull p.version),
    ("error", orNull p.error)]

def Server.value (s : Server) : Value :=
  .object [("available", .bool s.available), ("path", orNull s.path), ("built", .bool s.built),
    ("error", orNull s.error)]

/-! ### Checks -/

def authority (url : String) : String :=
  let s := url.toList
  let rest := ((dropFront? "http://".toList s).or (dropFront? "https://".toList s)).getD s
  (split (.ofList rest) "/").headD ""

def authenticate (w : Web) (token : Value) : Tool Web :=
  guarded
    (do
      let answer ← send w.url token graphQuestion
      return { w with authenticated := answer.status == 200 })
    (fun e => !e.isExit)
    fun e => match e with
      | .status 401 _ => return { w with error := some "Invalid token" }
      | .status code _ => return { w with error := some s!"HTTP {code}" }
      | other => return { w with error := some other.message }

def checkWeb (url token : Value) : Tool Web :=
  let w : Web := { url }
  guarded
    (do
      let (host, port) ← hostAndPort (authority (← url.textFor "startswith"))
      if !(← listens host port) then
        return { w with error := some s!"Cannot connect to {host}:{port} - is Logseq running?" }
      let reached := { w with available := true }
      if token.truthy then authenticate reached token else return reached)
    (fun e => !e.isExit)
    fun e => return { w with error := some e.message }

def runnerError : Fault → String
  | .file .missing _ => "Neither 'logseq' CLI nor 'npx' found"
  | .timeout _ _ => "CLI check timed out"
  | e => e.message

/-- Checks the command-line program: the installed one, or else the one that the package runner
finds. -/
def checkProgram : Tool Program := do
  match (← which "logseq").filter (· != "") with
  | some path =>
    let found : Program := { available := true, path }
    let asked : Tool Program := do
      let r ← run ["logseq", "--version"] "10"
      return if r.code == 0 then { found with version := some (trim r.out) } else found
    guarded asked (fun e => !e.isExit) fun e =>
      return { found with error := some s!"Version check failed: {e.message}" }
  | none =>
    let asked : Tool Program := do
      let r ← run ["npx", "-y", "@logseq/cli", "--version"] "30"
      return if r.code == 0 then
          { available := true, path := some "npx @logseq/cli", version := some (trim r.out) }
        else {}
    guarded asked (fun e => !e.isExit) fun e => return { error := some (runnerError e) }

def bundledServer : Tool Path := beside "servers/logseq-mcp"

def builtFile (dir : Path) : Path := dir / "build" / "index.js"

def serverDir (given : Value) : Tool Path :=
  match given with
  | .null => bundledServer
  | given => return Path.ofString (← given.pathText)

def checkServer (given : Value) : Tool Server := do
  let dir ← serverDir given
  let path := dir.toString
  if !(← pathExists path) then return { error := some s!"MCP server not found at {path}" }
  if ← pathExists (builtFile dir).toString then
    return { available := true, path := some path, built := true }
  let error := if ← pathExists (dir / "src" / "index.ts").toString then
      "MCP server exists but not built. Run: npm run build"
    else "MCP server source not found"
  return { path := some path, error := some error }

/-! ### Choice -/

/-- What is known of all backends. -/
structure Survey where
  web : Web
  program : Program
  server : Server
  /-- Whether there is a settings file. -/
  configured : Bool

def Survey.recommended? (s : Survey) : Option String :=
  if s.server.available && s.web.available then some "mcp"
  else if s.web.available then some "http"
  else if s.program.available then some "cli"
  else none

def Survey.value (s : Survey) : Value :=
  .object [("recommended", orNull s.recommended?),
    ("backends", .object [("http", s.web.value), ("cli", s.program.value),
      ("mcp", s.server.value)]),
    ("config_loaded", .bool s.configured)]

def credentials (settings : Value) (noToken : Value) : Tool (Value × Value) := do
  let url ← settings.pathOr ["http", "url"] (.str (← environmentUrl))
  let token ← settings.pathOr ["http", "token"] (((← environmentToken?).map str).getD noToken)
  return (url, token)

def survey : Tool Survey := do
  let file := (← installedSettings).toString
  let present ← pathExists file
  let settings ← if present then recover (readJson file) (.map []) else pure (.map [])
  let (url, token) ← credentials settings .null
  let dir ← settings.pathOr ["mcp", "serverPath"] .null
  return { web := ← checkWeb url token, program := ← checkProgram, server := ← checkServer dir,
           configured := present }

/-! ### Reports -/

def stateText (available : Bool) : String :=
  if available then paint green "Available" else paint red "Unavailable"

def errorLines (error : Option String) : List String :=
  (error.filter (· != "")).toList.map fun e => "  " ++ paint red s!"Error: {e}"

def textLine (title : String) (s : Option String) : List String :=
  (s.filter (· != "")).toList.map fun t => s!"  {title}: {t}"

def Web.lines (w : Web) : List String :=
  [s!"HTTP API: {stateText w.available}", s!"  URL: {w.url.display}"]
    ++ (if w.available then ["  Authenticated: "
        ++ if w.authenticated then paint green "Yes" else paint darkYellow "No token"] else [])
    ++ errorLines w.error

def Program.lines (p : Program) : List String :=
  [s!"CLI: {stateText p.available}"] ++ textLine "Path" p.path ++ textLine "Version" p.version ++
    errorLines p.error

def Server.lines (s : Server) : List String :=
  let built := if s.built then paint green "Yes" else paint darkYellow "No"
  [s!"MCP Server: {stateText s.available}"] ++ textLine "Path" s.path
    ++ (if s.path.isSome then [s!"  Built: {built}"] else []) ++ errorLines s.error

def Survey.adviceLines (s : Survey) : List String :=
  match s.recommended? with
  | some name => [paint green s!"Recommended backend: {upper name}"]
  | none =>
    [paint red "No backends available!", "\n" ++ paint darkYellow "To enable backends:",
     "  HTTP: Start Logseq with API server enabled", "  CLI:  npm install -g @logseq/cli",
     "  MCP:  Build the MCP server in servers/logseq-mcp/"]

def Survey.lines (s : Survey) : List String :=
  ["\n" ++ paint blue "=== Logseq Backend Detection ===" ++ "\n"] ++ s.web.lines ++ [""] ++
    s.program.lines
    ++ [""] ++ s.server.lines ++ [""] ++ s.adviceLines

def after? (name : String) : List String → Option String
  | [] => none
  | w :: ws => if w == name then ws.head? else after? name ws

def checkOne (name : String) : Tool (Bool × Value) := do
  match name with
  | "http" =>
    let w ← checkWeb defaultUrl .null
    return (w.available, w.value)
  | "cli" =>
    let p ← checkProgram
    return (p.available, p.value)
  | "mcp" =>
    let s ← checkServer .null
    return (s.available, s.value)
  | other =>
    say s!"Unknown backend: {other}"
    exit 1

def command (argv : List String) : Tool Unit := do
  let asJson := argv.contains "--json"
  match after? "--check" argv with
  | some name =>
    let (available, v) ← checkOne name
    if asJson then sayJson v
    else say (upper name ++ ": " ++ if available then "Available" else "Unavailable")
    exit (if available then 0 else 1)
  | none =>
    let s ← survey
    if asJson then sayJson s.value else sayAll s.lines
    exit (if s.recommended?.isSome then 0 else 1)

end Workbench.Notes.Backend
