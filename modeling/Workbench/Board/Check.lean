import Workbench.Graphql.Query
import Workbench.Options.Basic
import Workbench.Value.Access
import Workbench.World.Color
import Workbench.World.Shell

/-!
# Project boards

Fetches a project board and checks how it is set up: its fields, its items and its views.
-/

namespace Workbench.Board

open Options Graphql Selection Tool Color

/-! ### Fetching -/

def fieldSelection : Selection :=
  .inside "fields(first: 50)" [.inside "nodes"
    [.inside "... on ProjectV2Field" (fields ["id", "name", "dataType"]),
     .inside "... on ProjectV2SingleSelectField"
       (fields ["id", "name", "dataType"] ++ [.inside "options" (fields ["id", "name"])]),
     .inside "... on ProjectV2IterationField" (fields ["id", "name", "dataType"])]]

def valueSelection (kind value holder : String) : Selection :=
  .inside s!"... on ProjectV2ItemField{kind}Value"
    (fields [value, flat "field" (flat s!"... on ProjectV2{holder}" "name")])

def itemSelection : Selection :=
  let content := fields ["number", "title", "state"]
  .inside "items(first: 100)" [.inside "nodes"
    (fields ["id", "type"] ++
      [.inside "content" [.inside "... on Issue" content, .inside "... on PullRequest" content],
       .inside "fieldValues(first: 20)" [.inside "nodes"
        [valueSelection "SingleSelect" "name" "SingleSelectField",
         valueSelection "Text" "text" "Field", valueSelection "Number" "number" "Field",
         valueSelection "Date" "date" "Field"]]])]

def ownerSelection (kind : String) : Selection :=
  .inside s!"{kind}(login: $owner)" [.inside "projectV2(number: $number)"
    (fields ["id", "title"] ++ [fieldSelection, itemSelection,
      .inside "views(first: 20)" [.inside "nodes" (fields ["id", "name", "layout"])]])]

def boardQuery : Selection :=
  .inside "query($owner: String!, $number: Int!)"
    [ownerSelection "organization", ownerSelection "user"]

def gh (args : List String) : Tool String :=
  guarded
    (outputOrComplain (fun e => paint red s!"Error running gh command: {e}") ("gh" :: args))
    Fault.isMissing
    fun _ => do
      complain (paint red
        "Error: GitHub CLI (gh) not found. Install from: https://github.com/cli/cli")
      exit 1

def boardIn (answer : Value) : Result Value := do
  let owned ← answer.pathOr ["data", "organization", "projectV2"] .null
  if owned.truthy then return owned
  let personal ← answer.pathOr ["data", "user", "projectV2"] .null
  return if personal.truthy then personal else .map []

def fetch (owner : String) (number : Int) : Tool Value := do
  let out ← gh ["api", "graphql", "-f", s!"query={boardQuery.text}", "-f", s!"owner={owner}", "-F",
    s!"number={number}"]
  if out == "" then return .map []
  let read : Tool Value := do boardIn (← parseJson out)
  guarded read Fault.isJson fun e => do
    complain (paint red s!"Error parsing GraphQL response: {e.message}")
    return .map []

/-! ### Checks -/

/-- How grave a finding is. -/
inductive Severity where
  | error
  | warning
  | info
deriving DecidableEq, Repr

def Severity.name : Severity → String
  | .error => "error"
  | .warning => "warning"
  | .info => "info"

/-- What a check of a board reports. -/
structure Finding where
  severity : Severity
  message : String
  suggestion : String
deriving DecidableEq, Repr

def Finding.value (f : Finding) : Value :=
  .object [("severity", .str f.severity.name), ("message", .str f.message),
    ("suggestion", .str f.suggestion)]

def nodesOf (board : Value) (key : String) : Result Value := board.pathOr [key, "nodes"] (.list [])

def repeated (seen : List Value) : List Value → Result (List Value)
  | [] => .ok []
  | v :: vs => do
    if !v.isKey then throw v.unhashable
    let rest ← repeated (v :: seen) vs
    return if seen.any (·.same v) then v :: rest else rest

def checkOptions (field : Value) : Result (List Finding) := do
  if !(← field.fieldOrNull "dataType").same "SINGLE_SELECT" then return []
  let options ← field.fieldOr "options" (.list [])
  let what := "SingleSelect field \"" ++ (← field.fieldOrNull "name").display ++ "\" has "
  if !options.truthy then return [⟨.error, s!"{what}no options", "Add options to the field"⟩]
  let n ← options.size
  return if n < 2 then
      [⟨.warning, s!"{what}only {n} option(s)", "Consider adding more options for flexibility"⟩]
    else []

def recommendedFields : List String := ["Status", "Priority"]

def checkFields (board : Value) : Result (List Finding) := do
  let all ← nodesOf board "fields"
  if !all.truthy then
    return [⟨.error, "No fields found in project", "Add fields like Status, Priority, etc."⟩]
  let members ← all.parts
  let names ← members.mapM fun f => f.fieldOr "name" ""
  let missing := recommendedFields.filter fun r => !names.any (·.same r)
  let options ← members.mapM checkOptions
  let twice ← repeated [] names
  return missing.map (fun r => ⟨.warning, s!"Recommended field \"{r}\" not found",
      s!"Consider adding a {r} field for better organization"⟩)
    ++ options.flatten
    ++ twice.map fun n =>
      ⟨.error, s!"Duplicate field name: \"{n.display}\"", "Remove or rename duplicate field"⟩

/-- What is known of an item. -/
inductive ItemState where
  /-- No issue or pull request is linked. -/
  | orphan (id : String)
  | withStatus
  | withoutStatus (caption : String)
deriving DecidableEq, Repr

def isStatus (v : Value) : Result Bool := do
  let field ← v.fieldOrNull "field"
  if !field.truthy then return false
  return (← (← v.fieldOr "field" (.map [])).fieldOrNull "name").same "Status"

def itemState (item : Value) : Result ItemState := do
  let id ← item.fieldOr "id" "unknown"
  let content ← item.fieldOr "content" (.map [])
  let title ← content.fieldOr "title" "Unknown"
  let number ← content.fieldOr "number" "?"
  if !content.truthy then return .orphan id.display
  let values ← (← item.pathOr ["fieldValues", "nodes"] (.list [])).parts
  return if ← Value.anyM isStatus values then .withStatus
    else .withoutStatus s!"#{number.display}: {title.display}"

def fieldNamed? (name : String) : List Value → Result (Option Value)
  | [] => .ok none
  | f :: fs => do
    if (← f.fieldOrNull "name").same name then return some f
    fieldNamed? name fs

def hasStatusField (members : List Value) : Result Bool := do
  match ← fieldNamed? "Status" members with
  | none => return false
  | some f =>
    let options ← (← f.fieldOr "options" (.list [])).parts
    let _ ← options.mapM fun o => o.fieldOrNull "name"
    return true

def orphanFindings (each : Bool) (orphans : List String) : List Finding :=
  if each then orphans.map fun id => ⟨.warning, s!"Item {id} has no linked content (orphaned)",
    "Remove orphaned items or link to an issue/PR"⟩
  else if orphans.isEmpty then []
  else [⟨.warning, s!"{orphans.length} orphaned item(s) found (no linked content)",
    "Run with --check-orphans for details"⟩]

def statusFindings (captions : List String) : List Finding :=
  let advice := "Set Status field for better tracking"
  if captions.length ≤ 5 then captions.map fun c => ⟨.warning, s!"Item without Status: {c}", advice⟩
  else [⟨.warning, s!"{captions.length} items without Status field", advice⟩]

def checkItems (board : Value) (eachOrphan : Bool) : Result (List Finding) := do
  let items ← nodesOf board "items"
  let members ← nodesOf board "fields"
  if !items.truthy then
    return [⟨.info, "No items in project", "Add issues or PRs to the project board"⟩]
  let tracked ← hasStatusField (← members.parts)
  let states ← (← items.parts).mapM itemState
  let orphans := states.filterMap fun s => match s with
    | .orphan id => some id
    | _ => none
  let captions := states.filterMap fun s => match s with
    | .withoutStatus c => some c
    | _ => none
  return orphanFindings eachOrphan orphans ++ (if tracked then statusFindings captions else [])

def checkViews (board : Value) : Result (List Finding) := do
  let views ← nodesOf board "views"
  if !views.truthy then
    return [⟨.warning, "No views configured", "Add views like Board, Table, or Roadmap"⟩]
  let members ← views.parts
  let layouts ← members.mapM fun v => v.fieldOrNull "layout"
  let names ← members.mapM fun v => v.fieldOr "name" ""
  let lacking :=
    fun (layout : String) (f : Finding) => if layouts.any (·.same layout) then [] else [f]
  let twice ← repeated [] names
  return lacking "BOARD_LAYOUT" ⟨.info, "No Board view configured",
      "Consider adding a Board view for Kanban-style workflow"⟩
    ++ lacking "TABLE_LAYOUT"
      ⟨.info, "No Table view configured", "Consider adding a Table view for detailed item list"⟩
    ++ twice.map fun n =>
      ⟨.warning, s!"Duplicate view name: \"{n.display}\"", "Rename one of the views for clarity"⟩

/-! ### Reports -/

def ofSeverity (s : Severity) (fs : List Finding) : List Finding := fs.filter (·.severity == s)

def findingLines (color title mark indent : String) (fs : List Finding) : List String :=
  if fs.isEmpty then []
  else ("\n" ++ paint color s!"{title} ({fs.length}):")
    :: fs.flatMap fun f => [s!"  {paint color mark} {f.message}", indent ++ f.suggestion]

def reportLines (title : String) (fs : List Finding) : List String :=
  let errors := ofSeverity .error fs
  let warnings := ofSeverity .warning fs
  let infos := ofSeverity .info fs
  ["\n" ++ paint blue s!"Validation Results for: {title}", Text.times "=" 50]
    ++ if fs.isEmpty then ["\n" ++ paint green "All checks passed!"]
    else findingLines red "Errors" "[ERROR]" "         " errors
      ++ findingLines yellow "Warnings" "[WARN]" "        " warnings
      ++ findingLines blue "Info" "[INFO]" "        " infos
      ++ ["\n" ++ paint blue "Summary:", s!"  Errors:   {errors.length}",
          s!"  Warnings: {warnings.length}", s!"  Info:     {infos.length}"]

def reportValue (title : Value) (owner : String) (number : Int) (fs : List Finding) : Value :=
  let count := fun (s : Severity) => Value.int (ofSeverity s fs).length
  .object [("project", title), ("owner", .str owner), ("project_number", .int number),
    ("issues", .list (fs.map Finding.value)),
    ("summary", .object [("errors", count .error), ("warnings", count .warning),
      ("info", count .info)])]

def form : Options.Form where
  operands := [{ dest := "owner" }, { dest := "project_number", kind := .whole }]
  switches :=
    [flagged "check_orphans" ["--check-orphans"], flagged "check_fields" ["--check-fields"],
     flagged "json" ["--json"]]

def command (argv : List String) : Tool Unit := do
  let a ← settle (form.read argv)
  let owner := a.text "owner"
  let number := a.whole "project_number"
  let what := s!"roject #{number}"
  say s!"Fetching p{what} for {owner}..."
  let board ← fetch owner number
  if !board.truthy then
    [paint red "Error: Could not fetch project data", "Check that:",
      s!"  - P{what} exists for {owner}", "  - You have access to the project",
      "  - gh CLI is authenticated: gh auth status"].forM complain
    exit 1
  let title ← board.fieldOr "title" "Unknown Project"
  say s!"Validating: {title.display}"
  let fields ← checkFields board
  let items ← checkItems board (a.flag "check_orphans")
  let views ← checkViews board
  let all := fields ++ items ++ views
  if a.flag "json" then sayJson (reportValue title owner number all)
  else sayAll (reportLines title.display all)
  exit (if (ofSeverity .error all).isEmpty then 0 else 1)

end Workbench.Board
