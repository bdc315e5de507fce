import Workbench.Notes.Access

/-!
# Writing notes

Creates, changes and deletes pages and blocks, sets properties and tags, and appends notes to a
page.
-/

namespace Workbench.Notes.Writer

open Tool Text

variable {σ : Type} (api : Api σ)

def call (name : String) (args : List Value) : Dialog σ Value := api s!"logseq.Editor.{name}" args

def hasBlocks (blocks : Value) : Result Bool := do
  if !blocks.truthy then return false
  return 0 < (← blocks.size)

def lastOf (blocks : Value) : Result Value :=
  match blocks with
  | .map es =>
    match Value.lookup (.int (-1)) es with
    | some v => .ok v
    | none => .error (.key (.int (-1)))
  | other => do other.item ((← other.size) - 1)

def firstId (blocks : Value) : Result Value := do (← blocks.item 0).field "uuid"

/-! ### Pages -/

def createPage (title content properties firstBlock : Value) : Dialog σ Value := do
  let existing ← call api "getPage" [title]
  if existing.truthy then throw (.service .duplicate s!"Page '{title.display}' already exists")
  let options := Value.object [("createFirstBlock", firstBlock)]
  let page ← call api "createPage"
    [title, if properties.truthy then properties else .map [], options]
  if content.truthy && page.truthy then
    let blocks ← call api "getPageBlocksTree" [title]
    if ← hasBlocks blocks then
      let _ ← call api "updateBlock" [← firstId blocks, content]
  return page

def pageOrNew (title properties : Value) : Dialog σ Value := do
  let page ← call api "getPage" [title]
  if page.truthy then return page else createPage api title .null properties true

def deletePage (title : Value) : Dialog σ Unit := do
  let page ← call api "getPage" [title]
  if !page.truthy then throw (.service .notFound s!"Page '{title.display}' not found")
  let _ ← call api "deletePage" [title]

/-- Puts content at the end of a page, which is created if it does not exist. -/
def append (title content : Value) : Dialog σ Value := do
  let found ← call api "getPage" [title]
  let page ← if found.truthy then pure found else createPage api title .null .null true
  let blocks ← call api "getPageBlocksTree" [title]
  if ← hasBlocks blocks then
    let last ← (← lastOf blocks).field "uuid"
    call api "insertBlock" [last, content, .object [("sibling", .bool true)]]
  else
    let id ← page.field "uuid"
    call api "insertBlock" [id, content, .object [("sibling", .bool false)]]

/-! ### Blocks -/

def isIdentity (v : Value) : Result Bool := do
  if (← v.size) != 36 then return false
  match v with
  | .str s => return s.toList.count '-' == 4
  | .list xs => return (xs.filter (·.same "-")).length == 4
  | other => throw (other.lacks "count")

def parentId (parent : Value) : Dialog σ Value := do
  if ← isIdentity parent then return parent
  let page ← call api "getPage" [parent]
  if !page.truthy then throw (.service .notFound s!"Cannot resolve parent: {parent.display}")
  let blocks ← call api "getPageBlocksTree" [parent]
  if ← hasBlocks blocks then return ← firstId blocks else return ← page.field "uuid"

def createBlock (parent content properties sibling : Value) : Dialog σ Value := do
  let id ← parentId api parent
  let options :=
    [("sibling", sibling)] ++ if properties.truthy then [("properties", properties)] else []
  call api "insertBlock" [id, content, .object options]

def updateBlock (id content : Value) : Dialog σ Value := do
  let _ ← call api "updateBlock" [id, content]
  call api "getBlock" [id]

def existing (id : Value) : Dialog σ Value := do
  let block ← call api "getBlock" [id]
  if !block.truthy then throw (.service .notFound s!"Block '{id.display}' not found")
  return block

def deleteBlock (id : Value) : Dialog σ Unit := do
  let _ ← existing api id
  let _ ← call api "removeBlock" [id]

/-! ### Properties -/

def wholeValue (v : Value) : Result Value :=
  match v with
  | .str s => (wholeOf s).map .int
  | .float x =>
    if x.isNaN then .error (.invalid "cannot convert float NaN to integer")
    else if x.isInf then .error (.overflow "cannot convert float infinity to integer")
    else .ok (.int (Decimal.truncate x))
  | other =>
    match other.whole? with
    | some n => .ok n
    | none =>
      .error (.kind ("int() argument must be a string, a bytes-like object or a real number, not '"
        ++ s!"{other.kindText}'"))

def decimalValue (v : Value) : Result Value :=
  match v with
  | .float x => .ok (.float x)
  | .str s =>
    match Decimal.readFloat? s with
    | some x => .ok (.float x)
    | none => .error (.invalid s!"could not convert string to float: {quoted s}")
  | other =>
    .error (.kind s!"float() argument must be a string or a real number, not '{other.kindText}'")

def propertyValue (v type : Value) : Result Value :=
  match type with
  | .str "number" => if contains v.display "." then decimalValue v else wholeValue v
  | .str "checkbox" => .ok v.truthy
  | _ => .ok v

def setProperty (id key v type : Value) : Dialog σ Unit := do
  let v ← propertyValue v type
  let _ ← call api "upsertBlockProperty" [id, key, v]

def setProperties (id : Value) (properties : List (Value × Value)) : Dialog σ Unit :=
  properties.forM fun (k, v) => setProperty api id k v .null

def removeProperty (id key : Value) : Dialog σ Unit := do
  let _ ← call api "removeBlockProperty" [id, key]

/-! ### Tags -/

def tagText (tag : Value) : String := s!"#{tag.display}"

def withTag (content tag : String) : String := trim s!"{content} {tag}"

def withoutTag (content tag : String) : String := join " " (words (replace content tag ""))

def addTag (id tag : Value) : Dialog σ Unit := do
  let content ← (← existing api id).fieldOr "content" ""
  if !(← content.hasText (tagText tag)) then
    let _ ← call api "updateBlock" [id, .str (withTag content.display (tagText tag))]

def removeTag (id tag : Value) : Dialog σ Unit := do
  let content ← (← existing api id).fieldOr "content" ""
  if ← content.hasText (tagText tag) then
    let text ← content.textFor "replace"
    let _ ← call api "updateBlock" [id, .str (withoutTag text (tagText tag))]

def addTags (id : Value) (tags : List Value) : Dialog σ Unit := tags.forM (addTag api id)

/-! ### Notes -/

def noteText (now : Calendar.DateTime) (notes : Value) : String :=
  s!"## {now.date.plain} {Calendar.padded 2 now.hour}:{Calendar.padded 2 now.minute}"
    ++ s!"\n\n{notes.display}\n\n---"

def takeNotes (now : Calendar.DateTime) (title notes lead : Value) : Dialog σ Value :=
  append api (.str s!"{lead.display}/{title.display}") (.str (noteText now notes))

/-! ### Command line -/

def access (url token : Value) : Tool Access := do
  let a ← Access.find url token .null false
  if !a.token.truthy then
    throw (.service .auth "No API token configured. Set LOGSEQ_API_TOKEN or pass token parameter.")
  return a

def carryOut (call : Api World) : List String → Option (Tool Value)
  | "create-page" :: title :: _ => some (createPage call title .null .null true)
  | "create-block" :: parent :: content :: _ => some (createBlock call parent content .null false)
  | "append" :: title :: content :: _ => some (append call title content)
  | _ => none

def command (argv : List String) : Tool Unit := do
  match argv with
  | [] =>
    sayAll ["Usage: python write-operations.py <command> [args...]", "Commands:",
      "  create-page <title>", "  create-block <parent> <content>",
      "  append <page-title> <content>"]
    exit 1
  | name :: _ =>
    let a ← access .null .null
    match carryOut (a.api .write) argv with
    | none =>
      say s!"Unknown command or missing arguments: {name}"
      exit 1
    | some t =>
      let shown : Tool Unit := do sayJson (← t)
      guarded shown (fun e => !e.isExit) fun e => do
        say s!"Error: {e.message}"
        exit 1

end Workbench.Notes.Writer
