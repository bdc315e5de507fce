import Workbench.Value.Access
import Workbench.World.Shell

/-!
# Access to a graph of notes

A note-taking program keeps its notes as a graph of pages and blocks.
-/

namespace Workbench.Notes

open Tool Text

def defaultUrl : String := "http://127.0.0.1:12315"

def defaultPort : String := "12315"

def settingsBelow (dir : Path) : Path := dir / ".claude" / "logseq-expert" / "env.json"

def installedSettings : Tool Path := do return settingsBelow (← get).base.parent

def localSettings : Tool Path := do return settingsBelow (← cwd)

def environmentUrl : Tool String := env "LOGSEQ_API_URL" defaultUrl

def environmentToken? : Tool (Option String) := env? "LOGSEQ_API_TOKEN"

/-! ### Settings -/

/-- What reaches a graph: the URL and the token of the web service, and the directory for the
command-line program.  Settings are taken as they stand in the file, so any of them can be any
value. -/
structure Access where
  url : Value
  token : Value
  graphPath : Value := .str ""

def given (v : Value) (other : String) : Value := if v.truthy then v else .str other

def reference? (token : String) : Option String :=
  if startsWith token "$\x7b" && endsWith token "\x7d" then some (slice token 2 (token.length - 1))
  else none

def Access.takeUrl (http : Value) (a : Access) : Result Access := do
  if a.url.truthy && !a.url.same defaultUrl then return a
  return { a with url := ← http.fieldOr "url" a.url }

def Access.takeToken (environment : String → String) (http : Value) (a : Access) :
    Result Access := do
  if a.token.truthy then return a
  let token ← (← http.fieldOr "token" "").textFor "startswith"
  return { a with token := .str (((reference? token).map environment).getD token) }

def Access.takeGraph (settings : Value) (a : Access) : Result Access := do
  let cli ← settings.fieldOr "cli" (.map [])
  if a.graphPath.truthy then return a
  return { a with graphPath := ← cli.fieldOr "graphPath" "" }

def untilFault {σ : Type} (s : σ) : List (σ → Result σ) → σ
  | [] => s
  | f :: fs =>
    match f s with
    | .ok t => untilFault t fs
    | .error _ => s

def Access.complete (a : Access) (environment : String → String) (settings : Value)
    (withGraph : Bool) : Access :=
  match settings.fieldOr "http" (.map []) with
  | .error _ => a
  | .ok http => untilFault a
      ([Access.takeUrl http, Access.takeToken environment http] ++ if withGraph then
        [Access.takeGraph settings] else [])

def Access.find (url token graphPath : Value) (withGraph : Bool) : Tool Access := do
  let graph ← env "LOGSEQ_GRAPH_PATH" ""
  let a : Access :=
    { url := given url (← environmentUrl), token := given token ((← environmentToken?).getD "")
      graphPath := given graphPath graph }
  let file := (← localSettings).toString
  if !(← pathExists file) then return a
  let environment := (← get).environment
  match ← recover (some <$> readJson file) none with
  | some settings => return a.complete (fun k => (environment.lookup k).getD "") settings withGraph
  | none => return a

/-! ### The web service -/

def hostAndPort (authority : String) : Result (String × String) :=
  match split authority ":" with
  | [host] => .ok (host, defaultPort)
  | [host, port] => .ok (host, port)
  | _ => .error (.invalid "too many values to unpack (expected 2)")

def listens (host port : String) : Tool Bool := do Tool.listens host (toString (← wholeOf port))

def unwrapped (url : String) : String :=
  let s := trim url
  let s := if startsWith s "<" && endsWith s ">" then trim (slice s 1 (s.length - 1)) else s
  if startsWith s "URL:" then trim (drop s 4) else s

/-- Whether an address names its protocol. -/
def hasScheme (url : String) : Bool :=
  let (name, rest) := url.toList.span fun c => c != '/' && c != ':'
  !name.isEmpty && rest.head? == some ':'

def send (url token body : Value) : Tool Answer := do
  let target := unwrapped s!"{url.display}/api"
  if !hasScheme target then throw (.invalid s!"unknown url type: {quoted target}")
  fetch
    { url := target, method := "POST"
      headers :=
        [("Content-type", "application/json"), ("Authorization", s!"Bearer {token.display}")],
        body }

def graphQuestion : Value := .object [("method", .str "logseq.App.getCurrentGraph")]

/-! ### Dialogs -/

abbrev Dialog (σ : Type) := ExceptT Fault (StateM σ)

abbrev Api (σ : Type) := (operation : String) → (args : List Value) → Dialog σ Value

def resultIn (refusal : ServiceCause) (body : String) : Result Value := do
  let v ← parseJson body
  if ← v.hasText "error" then throw (.service refusal (← v.field "error").display)
  v.fieldOrNull "result"

def serviceFault : Fault → Fault
  | .status 401 _ => .service .auth "Invalid token"
  | .status code reason => .service .connection s!"HTTP error {code}: {reason}"
  | .unreachable reason => .service .connection s!"Connection failed: {reason}"
  | other => other

def Access.api (a : Access) (refusal : ServiceCause) : Api World := fun operation args => do
  let body := Value.object [("method", .str operation), ("args", .list args)]
  let answer ← guarded (send a.url a.token body) (fun _ => true) fun e => throw (serviceFault e)
  resultIn refusal answer.body

end Workbench.Notes
