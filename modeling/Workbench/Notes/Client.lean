import Workbench.Notes.Access

/-!
# Reading notes

Reads pages, blocks, properties and links, by the web service or by the command-line program.
-/

namespace Workbench.Notes

open Tool Text

/-- Access by way of one backend. -/
structure Client extends Access where
  backend : String

namespace Client

def webListens (url : Value) : Tool Bool :=
  recover
    (do
      let text ← url.textFor "replace"
      let bare := replace (replace text "http://" "") "https://" ""
      let (host, port) ← hostAndPort ((split bare "/").headD "")
      listens host port)
    false

def programRuns : Tool Bool :=
  recover (do return (← run ["logseq", "--version"] "5").code == 0) false

/-- A reader by arguments, environment and settings.  Without a wish, the first way that is open is
taken. -/
def connect (backend url token graphPath : Value) : Tool Client := do
  let a ← Access.find url token graphPath true
  if backend.truthy then return { a with backend := backend.display }
  if ← webListens a.url then return { a with backend := "http" }
  if ← programRuns then return { a with backend := "cli" }
  throw (.service .connection "No Logseq backend available. Start Logseq or install CLI.")

variable (c : Client)

def byWeb : Bool := c.backend == "http"

def call (operation : String) (args : List Value) : Tool Value := do
  if !c.token.truthy then throw (.service .auth "No API token configured")
  c.api .query operation args

def graphWords : Result (List String) := do
  if c.graphPath.truthy then return ["--graph", ← c.graphPath.pathText]
  if c.token.truthy then return ["--in-app", "-a", ← c.token.pathText]
  return []

def programFault : Fault → Fault
  | .timeout _ _ => .service .query "Query timed out"
  | .file .missing _ => .service .connection "Logseq CLI not found"
  | e => if e.isJson then .service .query "Invalid response from CLI" else e

def ask (query : Value) : Tool Value := do
  let argv := ["logseq", "query", ← query.pathText] ++ (← c.graphWords) ++ ["--format", "json"]
  let read : Tool Value := do
    let r ← run argv "60"
    if r.code != 0 then throw (.service .query s!"CLI error: {r.err}")
    parseJson r.out
  guarded read (fun _ => true) fun e => throw (programFault e)

/-! ### Queries -/

def queryText (indent : Nat) (lines : List String) : String :=
  "\n" ++ String.join (lines.map fun l => times " " indent ++ s!"{l}\n") ++ times " " (indent - 4)

def lookupQuery (thing input slot : String) : String :=
  queryText 16
    [s!"[:find (pull ?{thing} [*])", s!" :in $ ?{input}",
     s!" :where [?{thing} :block/{slot} ?{input}]]"]

def pagesQuery : String :=
  queryText 12
    ["[:find (pull ?p [:block/title :block/uuid])", " :where", " [?p :block/tags ?t]",
     " [?t :db/ident :logseq.class/Page]]"]

def blockShape : String :=
  "[:find (pull ?b [:block/title :block/uuid \x7b:block/page [:block/title]\x7d])"

def searchQuery (text : String) : String :=
  queryText 12
    [blockShape, " :where", " [?b :block/title ?title]",
     s!" [(clojure.string/includes? ?title \"{text}\")]]"]

def linksQuery : String :=
  queryText 12 [blockShape, " :in $ ?page-title", " :where", " [?p :block/title ?page-title]",
    " [?b :block/refs ?p]]"]

/-! ### Results -/

def single (row : Value) : Result Value :=
  match row with
  | .list xs => (Value.list xs).item 0
  | other => .ok other

def singles (rows : Value) : Result (List Value) := do (← rows.parts).mapM single

def firstRow (rows : Value) : Result Value := do
  if !rows.truthy then return .null
  if (← rows.size) == 0 then return .null
  single (← rows.item 0)

def limitOf (length : Nat) (limit : Value) : Result Nat :=
  match limit with
  | .null => .ok length
  | other =>
    match other.whole? with
    | some n => .ok (if n < 0 then length - n.natAbs else n.toNat)
    | none => .error (.kind "slice indices must be integers or None or have an __index__ method")

def upTo (limit : Value) (xs : List Value) : Result Value := do
  return .list (xs.take (← limitOf xs.length limit))

def cut (limit v : Value) : Result Value :=
  match v with
  | .list xs => upTo limit xs
  | .str s => do return .str (take s (← limitOf s.length limit))
  | other => other.front 0

/-! ### Operations -/

def graphInfo : Tool Value := do
  if c.byWeb then c.call "logseq.App.getCurrentGraph" []
  else return .object [("path", c.graphPath), ("backend", .str "cli")]

def page (title : Value) (withBlocks : Bool) : Tool Value := do
  if !c.byWeb then return ← firstRow (← c.ask (.str (lookupQuery "p" "title" "title")))
  let found ← c.call "logseq.Editor.getPage" [title]
  if found.truthy && withBlocks then
    let blocks ← c.call "logseq.Editor.getPageBlocksTree" [title]
    found.setField "blocks" blocks
  else return found

def block (id withChildren : Value) : Tool Value := do
  if c.byWeb then c.call "logseq.Editor.getBlock" [id, .object [("includeChildren", withChildren)]]
  else firstRow (← c.ask (.str (lookupQuery "b" "uuid" "uuid")))

def query (text params : Value) : Tool Value := do
  let rows ← if c.byWeb then
      c.call "logseq.DB.datascriptQuery" (text :: if params.truthy then [params] else [])
    else c.ask text
  return if rows.truthy then rows else .list []

def pages (limit : Value) : Tool Value := do
  let found ← singles (← c.query pagesQuery .null)
  if limit.truthy then upTo limit found else return .list found

def search (text limit : Value) : Tool Value := do
  let tried ← if c.byWeb then
      recover (do return some (← cut limit (← c.call "logseq.App.search" [text]))) none
    else pure none
  match tried with
  | some found => return found
  | none => upTo limit (← singles (← c.query (.str (searchQuery text.display)) .null))

def backlinks (title : Value) : Tool Value := do
  return .list (← singles (← c.query linksQuery (.list [title])))

/-- The entries of a document whose keys pass a test, by the last parts of the keys. -/
def propertiesWhere (test : String → Bool) (v : Value) (operation : String) : Result Value := do
  let chosen ← (← v.pairs).filterMapM fun (k, x) => do
    let key ← k.textFor operation
    return if test key then some (((split key "/").getLast?).getD "", x) else none
  return .map (chosen.foldl (fun es (k, x) => Value.put k x es) [])

def pageProperties (title : Value) : Tool Value := do
  if c.byWeb then
    let found ← c.call "logseq.Editor.getPage" [title]
    if found.truthy then return ← found.fieldOr "properties" (.map []) else return .map []
  let found ← c.page title false
  if !found.truthy then return .map []
  propertiesWhere (fun k => startsWith k "user.property/" || startsWith k ":user.property/")
    found "startswith"

def blockProperties (id : Value) : Tool Value := do
  if c.byWeb then
    let found ← c.call "logseq.Editor.getBlockProperties" [id]
    return if found.truthy then found else .map []
  let found ← c.block id false
  if !found.truthy then return .map []
  propertiesWhere (fun k => contains (lower k) "property") found "lower"

end Client

def readCommand (argv : List String) : Tool Unit := do
  let c ← Client.connect .null .null .null .null
  say s!"Backend: {c.backend}"
  match argv with
  | text :: _ => sayJson (← c.query text .null)
  | [] =>
    let shown : Tool Unit := do say s!"Graph: {(← c.graphInfo).display}"
    guarded shown (fun e => !e.isExit) fun e => say s!"Error: {e.message}"

end Workbench.Notes
