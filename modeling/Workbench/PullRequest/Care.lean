import Workbench.Options.Basic
import Workbench.Value.Access
import Workbench.World.Color
import Workbench.World.Shell

/-!
# Care of pull requests

Creates a pull request from a branch, labels it by what it changes, asks for reviewers, and puts it
on the boards that its labels name.
-/

namespace Workbench.PullRequest

open Options Tool Text Value Color

def gh (args : List String) : Tool String := outputOrComplain ("Error: " ++ ·) ("gh" :: args)

def git (args : List String) : Tool String := do return (← run ("git" :: args) "None").out

def withView (number fields : String) (next : Value → Tool Unit) : Tool Unit := do
  let out ← gh ["pr", "view", number, "--json", fields]
  if out != "" then next (← parseJson out)

def sayTask (text : String) : Tool Unit := say s!"{paint blue text}\n"

/-! ### Creating -/

def suggestedTitle (commits : String) : String :=
  match splitAtMost ((split commits "\n").headD "") " " 1 with
  | [_, title] => title
  | _ => "Update"

def descriptionOf (branch commits : String) : String :=
  s!"## Summary\nChanges from branch {branch}\n\n## Changes\n{commits}"
    ++ "\n\n## Testing\n- [ ] Tests added/updated\n- [ ] Manual testing completed\n\n"
    ++ "## Related Issues\n[Add issue references]\n"

def create (branch : String) : Tool Unit := do
  sayTask s!"Creating PR for branch: {branch}"
  let span := s!"main...{branch}"
  let changes ← git ["diff", "--stat", span]
  sayAll ["Changes:", changes, ""]
  let commits ← git ["log", "--oneline", span]
  sayAll ["Commits:", commits, ""]
  let suggested := suggestedTitle commits
  say s!"Suggested title: {suggested}"
  let given := trim (← ask "PR title (or press Enter to use suggested): ")
  say "\nCreating PR..."
  let title := if given == "" then suggested else given
  let made ← gh ["pr", "create", "--title", title, "--body", descriptionOf branch commits]
  if made != "" then sayAll ["\n" ++ paint green "✓ PR created", made]

/-! ### Labelling -/

def typeLabel (title : String) : List String :=
  if containsAny title ["feat", "feature"] then ["feature"]
  else if containsAny title ["fix", "bug"] then ["bug"]
  else if containsAny title ["docs", "documentation"] then ["documentation"]
  else []

def mentions (words : List String) (path : Value) : Result Bool :=
  anyM (fun w => path.has w) (words.map .str)

def pathLabel (paths : List Value) (words : List String) (label : String) :
    Result (List String) := do
  return if ← anyM (mentions words) paths then [label] else []

def changedLines (file : Value) : Result Value := do
  (← file.fieldOr "additions" (.int 0)).add (← file.fieldOr "deletions" (.int 0))

def sizeLabel (changes : Value) : Result String := do
  if ← before changes (.int 50) then return "size:s"
  if ← before changes (.int 200) then return "size:m"
  return "size:l"

def labelsOf (pr : Value) : Result (List String) := do
  let title := lower (← (← pr.field "title").textFor "lower")
  let files ← (← pr.fieldOr "files" (.list [])).parts
  let paths ← files.mapM fun f => f.fieldOr "path" ""
  let front ← pathLabel paths ["frontend", "ui"] "scope:frontend"
  let back ← pathLabel paths ["backend", "api"] "scope:backend"
  let docs ← pathLabel paths [".md", "docs"] "documentation"
  let total ← files.foldlM (fun sum f => do sum.add (← changedLines f)) (int 0)
  return typeLabel title ++ front ++ back ++ docs ++ [← sizeLabel total]

def label (number : String) : Tool Unit := do
  sayTask s!"Auto-labeling PR #{number}..."
  withView number "title,files" fun pr => do
    let labels ← labelsOf pr
    say ("Applying labels: " ++ join ", " labels)
    let _ ← gh ["pr", "edit", number, "--add-label", join "," labels]
    say (paint green "✓ Labels applied")

/-! ### Reviewers -/

/-- The owners of some files. -/
structure OwnerRule where
  pattern : String
  owners : List String
deriving DecidableEq, Repr

def OwnerRule.ofLine? (line : String) : Option OwnerRule :=
  if startsWith line "#" then none
  else match words line with
    | pattern :: o :: os => some ⟨pattern, (o :: os).map (trimStartSet · "@")⟩
    | _ => none

def OwnerRule.covers (r : OwnerRule) (path : Value) : Result Bool := do
  if ← path.hasText (replace r.pattern "*" "") then return true
  return startsWith (← path.textFor "startswith") (trimEndSet r.pattern "*")

def OwnerRule.reviewers (r : OwnerRule) (author path : Value) : Result (List String) := do
  return if ← r.covers path then r.owners.filter fun o => !author.same o else []

def ownersOf (rules : List OwnerRule) (author file : Value) : List (Result (List String)) :=
  match file.fieldOr "path" "" with
  | .ok path => rules.map fun r => r.reviewers author path
  | .error e => [.error e]

def untilFault {α : Type} : List (Result (List α)) → List α
  | .ok xs :: rest => xs ++ untilFault rest
  | _ => []

def teamsOf (path : Value) : Result (List String) := do
  let team := fun (words : List String) (name : String) => do
    return if ← mentions words path then [name] else []
  return (← team ["frontend", "ui", "components"] "frontend-team")
    ++ (← team ["backend", "api", "server"] "backend-team") ++ (← team ["test", "spec"] "qa-team")

def ownersFile : Tool String := recover (git ["show", "HEAD:CODEOWNERS"]) ""

def assign (number : String) : Tool Unit := do
  sayTask s!"Auto-assigning reviewers for PR #{number}..."
  withView number "files,author" fun pr => do
    let files ← pr.fieldOr "files" (.list [])
    let author ← pr.pathOr ["author", "login"] ""
    let rules := (split (← ownersFile) "\n").filterMap OwnerRule.ofLine?
    let steps := ((files.parts).toOption.getD []).flatMap (ownersOf rules author)
    let owners := sort (untilFault steps).eraseDups
    let teams ← (← files.parts).mapM fun f =>
      (do teamsOf (← f.fieldOr "path" "") : Result (List String))
    let reviewers := if owners.isEmpty then sort teams.flatten.eraseDups else owners
    if reviewers.isEmpty then say "No reviewers suggested based on file paths"
    else
      say ("Assigning reviewers: " ++ join ", " reviewers)
      let _ ← gh (["pr", "edit", number] ++ reviewers.flatMap fun r => ["--add-reviewer", r])
      say (paint green "✓ Reviewers assigned")

/-! ### Boards -/

def boardsFor (label : String) : List String :=
  match label with
  | "priority:high" | "priority:critical" => ["Sprint", "Current Sprint"]
  | "bug" => ["Bug Triage", "Bugs"]
  | "feature" | "enhancement" => ["Roadmap", "Features"]
  | _ => []

def isTarget (title : Value) (targets : List Value) : Result Bool :=
  anyM (fun t => do
    let name ← t.textFor "lower"
    return contains (lower (← title.textFor "lower")) (lower name)) targets

def addTo (url : String) (targets : List Value) (board : Value) : Tool Bool := do
  let title ← board.fieldOr "title" ""
  let number ← board.fieldOrNull "number"
  if !(← isTarget title targets) then return false
  say s!"Adding to project: {title.display}"
  let _ ← gh ["project", "item-add", number.display, "--owner", "@me", "--url", url]
  say (paint green s!"✓ Added to {title.display}")
  return true

def targetsFor (labels : List String) (boards : Value) : Result (List Value) := do
  let named := sort (labels.flatMap boardsFor).eraseDups
  if !named.isEmpty then return named.map .str
  if !boards.truthy then return []
  return [← (← boards.item 0).field "title"]

def place (url : String) (labels : List String) (boards : Value) : Tool Unit := do
  let targets ← targetsFor labels boards
  if targets.isEmpty then
    say "No target projects identified"
    return
  let members ← boards.parts
  let added := ((← members.mapM (addTo url targets)).filter id).length
  if added == 0 then
    say (paint yellow ("No matching projects found for labels: " ++ join ", " labels))
    say "Available projects:"
    for b in members do
      say ("  - #" ++ (← b.fieldOrNull "number").display ++ ": " ++
        (← b.fieldOrNull "title").display)
  else say ("\n" ++ paint green s!"✓ Synced to {added} project(s)")

def boardsIn (out : String) : Result (Option Value) :=
  match parseJson out with
  | .ok v => (v.fieldOr "projects" (.list [])).map some
  | .error e => if e.isJson then .ok none else .error e

def sync (number : String) : Tool Unit := do
  sayTask s!"Syncing PR #{number} with project board..."
  withView number "url,labels,projectItems" fun pr => do
    let url ← pr.field "url"
    let labels ← (← (← pr.fieldOr "labels" (.list [])).parts).mapM fun l =>
      (l.field "name" : Result Value)
    let present ← pr.fieldOr "projectItems" (.list [])
    say s!"PR: {url.display}"
    let names ← texts 0 labels
    say ("Labels: " ++ (if names.isEmpty then "None" else join ", " names))
    if present.truthy then
      say s!"Already in projects: {← present.size}"
      for p in ← present.parts do
        say ("  - " ++ (← p.pathOr ["project", "title"] "Unknown").display)
    let out ← gh ["project", "list", "--format", "json"]
    if out == "" then
      say (paint yellow "No projects found or unable to list projects")
      return
    match ← boardsIn out with
    | none => say (paint yellow "Could not parse projects data")
    | some boards => place url.display names boards

/-! ### Command line -/

def forms : Options.Commands where
  forms :=
    let one : Options.Form :=
      { switches := [{ valued "pr" ["--pr"] with required := true, kind := .whole }] }
    [("create", { switches := [{ valued "branch" ["--branch"] with required := true }] }),
     ("auto-label", one), ("auto-assign", one), ("sync-board", one)]

def command (argv : List String) : Tool Unit := do
  let a ← settle (forms.read argv)
  let number := toString (a.whole "pr")
  match a.command? with
  | some "create" => create (a.text "branch")
  | some "auto-label" => label number
  | some "auto-assign" => assign number
  | some "sync-board" => sync number
  | _ => sayHelp

end Workbench.PullRequest
