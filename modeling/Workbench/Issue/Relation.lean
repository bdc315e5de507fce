import Workbench.Graphql.Query
import Workbench.Options.Basic
import Workbench.Value.Access
import Workbench.World.Shell

/-!
# Relations of issues

An issue has a parent and children, is blocked by issues and blocks others.
-/

namespace Workbench.Issue.Relation

open Text Options Value Graphql Selection Tool

def fail {α : Type} (text : String) : Tool α := do
  complain text
  exit 1

/-- What a failed query still gives: its errors are reported, and data beside them counts as an
answer. -/
def salvage (out : String) : Tool (Option Value) := do
  let read : Tool (Option Value) := do
    let answer ← parseJson out
    if ← answer.hasText "errors" then
      for e in ← (← answer.field "errors").parts do
        complain ("Error: " ++ (← e.fieldOr "message" "Unknown error").display)
    return if ← answer.hasText "data" then some answer else none
  guarded read Fault.isJson fun _ => return none

def query (s : Selection) : Tool Value := do
  let r ← run ["gh", "api", "graphql", "-f", s!"query={s.text}"] "None"
  if r.code == 0 then return ← parseJson r.out
  match ← salvage r.out with
  | some answer => return answer
  | none => fail s!"GraphQL error: {r.err}"

/-- A repository of the service. -/
structure Repository where
  owner : String
  name : String

def repository : Tool Repository := do
  let r ← run ["gh", "repo", "view", "--json", "owner,name"] "None"
  if r.code != 0 then fail "Error: Could not determine repository. Run from a git repository."
  let v ← parseJson r.out
  return ⟨(← (← v.field "owner").field "login").display, (← v.field "name").display⟩

def Repository.select (r : Repository) (inner : List Selection) : Selection :=
  .inside "query" [.inside s!"repository(owner: \"{r.owner}\", name: \"{r.name}\")" inner]

def issueHead (number : Int) : String := s!"issue(number: {number})"

def nodes (head : String) (names : List String) : Selection :=
  .inside head [.inside "nodes" (fields names)]

def brief : List String := ["number", "title", "state"]

def summary : Selection :=
  .inside "subIssuesSummary" (fields ["total", "completed", "percentCompleted"])

def Repository.issue (r : Repository) (number : Int) (inner : List Selection) : Tool Value := do
  let answer ← query (r.select [.inside (issueHead number) inner])
  let issue ← answer.pathOr ["data", "repository", "issue"] .null
  if !issue.truthy then fail s!"Error: Issue #{number} not found"
  return issue

/-! ### Identities -/

def identities (r : Repository) (numbers : List Int) : Tool (List (Int × Value)) := do
  if numbers.isEmpty then return []
  let ask := numbers.map fun n => flat s!"issue{n}: {issueHead n}" "id number"
  let answer ← query (r.select [.line (join " " ask)])
  let found ← answer.pathOr ["data", "repository"] (.map [])
  let pairs ← numbers.mapM fun n => do
    let issue ← found.fieldOrNull s!"issue{n}"
    if issue.truthy then return [(n, ← issue.field "id")]
    complain s!"Warning: Issue #{n} not found"
    return []
  return pairs.flatten

def identitiesValue (ids : List (Int × Value)) : Value :=
  .map (ids.foldl (fun es (n, id) => put n id es) [])

def sayIdentities (r : Repository) (numbers : List Int) : Tool Unit := do
  let ids ← identities r numbers
  say "Issue Node IDs:"
  sayAll (numbers.map fun n => s!"  #{n}: " ++ ((ids.lookup n).map display).getD "NOT FOUND")

/-! ### Children -/

def pair (parent child : Value) : List String :=
  [s!"issueId: \"{parent.display}\"", s!"subIssueId: \"{child.display}\""]

def addChild (r : Repository) (parent child : Int) (replace : Bool) : Tool Unit := do
  let ids ← identities r [parent, child]
  match ids.lookup parent, ids.lookup child with
  | none, _ => fail s!"Error: Parent issue #{parent} not found"
  | some _, none => fail s!"Error: Child issue #{child} not found"
  | some p, some c =>
    let input := pair p c ++ [s!"replaceParent: {replace}"]
    let ask := fields [flat "issue" "number title", flat "subIssue" "number title"]
    let answer ← query (.inside "mutation" [.call "addSubIssue" input ask])
    let made ← answer.pathOr ["data", "addSubIssue"] .null
    if !made.truthy then fail "Failed to add sub-issue"
    let below ← made.field "subIssue"
    let above ← made.field "issue"
    say ("Added #" ++ (← below.field "number").display ++ " as sub-issue of #"
      ++ (← above.field "number").display)
    say ("  Parent: " ++ (← above.field "title").display)
    say ("  Child:  " ++ (← below.field "title").display)

def removeChild (r : Repository) (parent child : Int) : Tool Unit := do
  let ids ← identities r [parent, child]
  match ids.lookup parent, ids.lookup child with
  | some p, some c =>
    let ask := fields [flat "issue" "number", flat "subIssue" "number"]
    let answer ← query (.inside "mutation" [.call "removeSubIssue" (pair p c) ask])
    if !(← answer.pathOr ["data", "removeSubIssue"] .null).truthy then
      fail "Failed to remove sub-issue"
    say s!"Removed #{child} from parent #{parent}"
  | _, _ => fail "Error: Issue not found"

/-! ### Showing -/

def nodesOf (issue : Value) (key : String) : Result Value := issue.pathOr [key, "nodes"] (.list [])

def line (lead : String) (issue : Value) : Result String := do
  let _ ← issue.field "state"
  return s!"{lead} #" ++ (← issue.field "number").display ++ ": " ++ (← issue.field "title").display

def sayLines (lead : String) (issues : Value) : Tool Unit := do for i in ← issues.parts do
  say (← line lead i)

def caption (issue : Value) (between : String) : Result String := do
  return "#" ++ (← issue.field "number").display ++ between ++ (← issue.field "title").display

def listChildren (r : Repository) (number : Int) : Tool Unit := do
  let issue ← r.issue number
    (fields ["number", "title"] ++ [summary, nodes "subIssues(first: 100)" brief])
  say ("Issue " ++ (← caption issue ": "))
  let counts ← issue.fieldOr "subIssuesSummary" (.map [])
  if ← before (.int 0) (← counts.fieldOr "total" (.int 0)) then
    say ("\nProgress: " ++ (← counts.field "completed").display ++ "/" ++
      (← counts.field "total").display ++ " ("
      ++ (← counts.field "percentCompleted").display ++ "%)")
  let children ← nodesOf issue "subIssues"
  if !children.truthy then
    say "\nNo sub-issues"
    return
  say s!"\nSub-issues ({← children.size}):"
  sayLines "  " children

def showParent (r : Repository) (number : Int) : Tool Unit := do
  let issue ← r.issue number (fields ["number", "title"] ++ [.inside "parent" (fields brief)])
  say ("Issue " ++ (← caption issue ": "))
  let parent ← issue.fieldOrNull "parent"
  if parent.truthy then say (← line "\nParent: " parent) else say "\nNo parent (top-level issue)"

def saySection (heading : String) (issues : Value) : Tool Unit := do
  if issues.truthy then
    say s!"\n {heading}:"
    sayLines "    " issues

def everything : List Selection :=
  fields brief ++ [.gap, .inside "parent" (fields ["number", "title"]), .gap,
    nodes "subIssues(first: 50)" brief, summary, .gap, nodes "blockedBy(first: 20)" brief, .gap,
    nodes "blocking(first: 20)" brief, .gap,
    nodes "trackedInIssues(first: 20)" ["number", "title"], .gap, .line "trackedIssuesCount"]

def showAll (r : Repository) (number : Int) : Tool Unit := do
  let issue ← r.issue number everything
  let _ ← issue.field "state"
  sayAll [" Issue " ++ (← caption issue ": "), times "=" 60]
  let parent ← issue.fieldOrNull "parent"
  if parent.truthy then say ("\n Parent: " ++ (← caption parent " - "))
  let children ← nodesOf issue "subIssues"
  if children.truthy then
    let counts ← issue.fieldOr "subIssuesSummary" (.map [])
    say ("\n Sub-issues (" ++ (← counts.fieldOr "completed" (.int 0)).display ++ "/"
      ++ (← counts.fieldOr "total" (.int 0)).display ++ "):")
    sayLines "    " children
  let blockers ← nodesOf issue "blockedBy"
  saySection "Blocked by" blockers
  let blocked ← nodesOf issue "blocking"
  saySection "Blocking" blocked
  let trackers ← nodesOf issue "trackedInIssues"
  if trackers.truthy then
    say "\n Tracked in:"
    for t in ← trackers.parts do say ("    " ++ (← caption t ": "))
  let tracked ← issue.fieldOr "trackedIssuesCount" (.int 0)
  if tracked.truthy then say s!"\n Tracks: {tracked.display} issues"
  if [parent, children, blockers, blocked, trackers, tracked].all (!·.truthy) then
    say "\nNo relationships found"

def sayDependencies (heading otherwise : String) (issues : Value) : Tool Unit := do
  if issues.truthy then
    say s!"\n {heading} ({← issues.size}):"
    sayLines "    " issues
  else say s!"\n {otherwise}"

def showDependencies (r : Repository) (number : Int) : Tool Unit := do
  let issue ← r.issue number
    (fields brief ++ [.gap, nodes "blockedBy(first: 50)" brief, .gap,
      nodes "blocking(first: 50)" brief])
  sayAll ["Dependencies for " ++ (← caption issue ": "), times "=" 60]
  sayDependencies "Blocked by" "Not blocked by any issues" (← nodesOf issue "blockedBy")
  sayDependencies "Blocking" "Not blocking any issues" (← nodesOf issue "blocking")

/-! ### Command line -/

def forms : Options.Commands where
  forms :=
    let number := fun (name : String) =>
      { valued name [s!"--{name}"] with required := true, kind := Options.Kind.whole }
    let one : Options.Form := { switches := [number "issue"] }
    [("add-sub-issue",
      { switches :=
        [number "parent", number "child", flagged "replace_parent" ["--replace-parent"]] }),
     ("remove-sub-issue", { switches := [number "parent", number "child"] }),
     ("list-sub-issues", one), ("get-parent", one),
     ("get-ids", { switches := [{ valued "issues" ["--issues"] with required := true }] }),
     ("show-all", one), ("show-dependencies", one)]

def command (argv : List String) : Tool Unit := do
  let a ← settle (forms.read argv)
  if a.command?.isNone then
    sayHelp
    exit 1
  let r ← repository
  let number := a.whole "issue"
  match a.command? with
  | some "add-sub-issue" =>
    addChild r (a.whole "parent") (a.whole "child") (a.flag "replace_parent")
  | some "remove-sub-issue" => removeChild r (a.whole "parent") (a.whole "child")
  | some "list-sub-issues" => listChildren r number
  | some "get-parent" => showParent r number
  | some "get-ids" =>
    let numbers ← (split (a.text "issues") ",").mapM fun n => (wholeOf (trim n) : Result Int)
    sayIdentities r numbers
  | some "show-all" => showAll r number
  | _ => showDependencies r number

end Workbench.Issue.Relation
