import Workbench.Notes.Backend

/-!
# Test of the connection

Tries each way to a graph of notes and reports what comes of it.
-/

namespace Workbench.Notes.Connection

open Text Tool Color

/-- How an attempt to connect went. -/
structure Trial where
  success : Bool
  message : String
  info : Value := .null

def failure (message : String) : Trial := ⟨false, message, .null⟩

def Trial.value (t : Trial) : Value :=
  .object [("success", .bool t.success), ("message", .str t.message), ("info", t.info)]

def note (verbose : Bool) (text : String) : Tool Unit := if verbose then say text else return

def webFailure : Fault → Trial
  | .status 401 _ => failure "Authentication failed - invalid token"
  | .status code reason => failure s!"HTTP error {code}: {reason}"
  | .unreachable reason => failure s!"Connection failed: {reason}"
  | e => failure s!"Error: {e.message}"

def tryWeb (url token : Value) (verbose : Bool) : Tool Trial := do
  note verbose s!"Testing HTTP API at {url.display}..."
  let asked : Tool Trial := do
    let answer ← send url token graphQuestion
    let v ← parseJson answer.body
    if verbose then say s!"  Response: {← renderJson .indented v}"
    let info := match v with
      | .map _ => (v.get? "result").getD .null
      | _ => .null
    return ⟨true, "Connected to Logseq HTTP API", info⟩
  guarded asked (fun e => !e.isExit) fun e => return webFailure e

def ofEnded (r : Ended) (message : String) : Trial :=
  if r.code == 0 then ⟨true, message, .object [("graphs", Value.strings (split (trim r.out) "\n"))]⟩
  else failure s!"CLI error: {r.err}"

def tryRunner : Tool Trial :=
  guarded
    (do
      let ended ← run ["npx", "-y", "@logseq/cli", "graphs", "list"] "60"
      return ofEnded ended "CLI available (via npx)")
    (fun e => !e.isExit)
    fun e => return failure s!"CLI not found: {e.message}"

def tryProgram (verbose : Bool) : Tool Trial := do
  note verbose "Testing CLI connection..."
  note verbose "  Running: logseq graphs list"
  let asked : Tool Trial := do
    let r ← run ["logseq", "graphs", "list"] "30"
    if r.code == 0 then note verbose s!"  Output: {r.out}"
    return ofEnded r "CLI available"
  guarded asked (fun e => !e.isExit) fun e => match e with
    | .file .missing _ => tryRunner
    | .timeout _ _ => return failure "CLI command timed out"
    | other => return failure s!"CLI error: {other.message}"

def tryServer (verbose : Bool) : Tool Trial := do
  note verbose "Testing MCP server..."
  let dir ← Backend.bundledServer
  let file := (Backend.builtFile dir).toString
  if !(← pathExists dir.toString) then return failure "MCP server directory not found"
  if !(← pathExists file) then return failure "MCP server not built - run: npm run build"
  let asked : Tool Trial := do
    let r ← run ["node", "--version"] "5"
    if r.code != 0 then return failure "Node.js not found"
    let version := trim r.out
    note verbose s!"  Node version: {version}"
    note verbose s!"  Server path: {file}"
    return ⟨true, s!"MCP server ready (Node {version})",
      .object [("path", .str file), ("node_version", .str version)]⟩
  guarded asked (fun e => !e.isExit) fun e =>
    return failure s!"Error checking MCP server: {e.message}"

def ways : List String := ["http", "cli", "mcp"]

def tryOne (settings : Value) (verbose : Bool) (way : String) : Tool Trial := do
  match way with
  | "http" =>
    let (url, token) ← Backend.credentials settings ""
    if token.truthy then tryWeb url token verbose else return failure "No API token configured"
  | "cli" =>
    let _ ← settings.pathOr ["cli", "graphPath"] .null
    tryProgram verbose
  | _ => tryServer verbose

def settings : Tool Value := do
  let file := (← installedSettings).toString
  if ← pathExists file then readJson file else return .map []

def sayTrial (way : String) (t : Trial) : Tool Unit := do
  let state := if t.success then paint green "PASS" else paint red "FAIL"
  sayAll [s!"{upper way}: {state}", s!"  {t.message}"]
  if t.info.truthy then
    for (k, v) in ← t.info.pairs do say s!"  {k.display}: {v.display}"
  say ""

def summary (passed total : Nat) : String :=
  if passed == total then paint green s!"All {total} tests passed!"
  else if 0 < passed then paint darkYellow s!"{passed}/{total} tests passed"
  else paint red "All tests failed"

def command (argv : List String) : Tool Unit := do
  let verbose := argv.contains "--verbose" || argv.contains "-v"
  let wish := Backend.after? "--backend" argv
  if let some name := wish then
    if !ways.contains name then
      sayAll [s!"Unknown backend: {name}", "Valid options: http, cli, mcp"]
      exit 1
  let conf ← settings
  let trials ← ((wish.map fun w => [w]).getD ways).mapM fun w => do
    return (w, ← tryOne conf verbose w)
  let passed := (trials.filter fun (_, t) => t.success).length
  if argv.contains "--json" then sayJson (.object (trials.map fun (w, t) => (w, t.value)))
  else
    say ("\n" ++ paint blue "=== Connection Test Results ===" ++ "\n")
    trials.forM fun (w, t) => sayTrial w t
    say (summary passed trials.length)
  exit (if 0 < passed then 0 else 1)

end Workbench.Notes.Connection
