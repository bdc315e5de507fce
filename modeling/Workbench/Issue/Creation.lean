import Workbench.Options.Basic
import Workbench.Value.Access
import Workbench.World.Shell

/-!
# Creating issues

Lists what an issue can be given (labels, milestones, projects), and creates one.
-/

namespace Workbench.Issue.Creation

open Options Tool Text

def gh (args : List String) : Tool (Except String String) := do
  let run : Tool (Except String String) := do
    let r ← run ("gh" :: args) "None"
    return if r.code == 0 then .ok (trim r.out) else .error (trim r.err)
  guarded run Fault.isMissing fun _ =>
    return .error "gh CLI not found. Install from https://cli.github.com/"

def withOutput (args : List String) (next : String → Tool Unit) : Tool Bool := do
  match ← gh args with
  | .error e =>
    complain s!"Error: {e}"
    return false
  | .ok out =>
    next out
    return true

def categories : List String := ["Type", "Priority", "Scope", "Branch", "Other"]

def categoryOf (name : Value) : Result String := do
  if let .str s := name then
    if ["bug", "feature", "enhancement", "documentation", "refactor", "chore", "test"].contains
      s then return "Type"
  let s ← name.textFor "startswith"
  return if startsWith s "priority:" then "Priority"
    else if startsWith s "scope:" then "Scope"
    else if startsWith s "branch:" then "Branch"
    else "Other"

def listLabels : Tool Bool :=
  withOutput ["label", "list", "--json", "name,description,color", "--limit", "100"] fun out => do
    let labels ← (← parseJson out).parts
    let sorted ← labels.mapM fun l => do
      let name ← l.field "name"
      return (← categoryOf name, name, l)
    for category in categories do
      let members := (sorted.filter (·.1 == category)).map (·.2)
      if !members.isEmpty then
        say s!"\n## {category} Labels\n"
        for (name, label) in ← Value.sortByKey members do
          let description ← label.fieldOr "description" ""
          say (s!"- \x60{name.display}\x60" ++
            (if description.truthy then s!" - {description.display}" else ""))

def shareClosed (closed total : Value) : Result Float := do
  if !(← Value.before (.int 0) total) then return 0.0
  return (← (← closed.divide total).number) * 100.0

def sayMilestone (m : Value) : Tool Unit := do
  if !(← m.field "state").same "open" then return
  let total ← (← m.field "open_issues").add (← m.field "closed_issues")
  let closed ← m.field "closed_issues"
  let share ← shareClosed closed total
  say ("### " ++ (← m.field "title").display)
  say s!"- Progress: {closed.display}/{total.display} issues ({Decimal.fixed share 0}%)"
  let due ← m.field "due_on"
  if due.truthy then say s!"- Due: {(← due.front 10).display}"
  let description ← m.field "description"
  if description.truthy then say s!"- {(← description.front 100).display}"
  say ""

def listMilestones : Tool Bool :=
  withOutput ["api", "repos/:owner/:repo/milestones", "--jq",
    ".[] | \x7btitle, open_issues, closed_issues, due_on, state, description\x7d"] fun out => do
    if out == "" then
      say "No milestones found."
      return
    say "\n## Open Milestones\n"
    for line in split out "\n" do if trim line != "" then sayMilestone (← parseJson line)

def listProjects : Tool Bool :=
  withOutput ["api", "graphql", "-f",
    "query=\x7b viewer \x7b projectsV2(first: 10) \x7b nodes \x7b id title number "
      ++ "\x7d \x7d \x7d \x7d"] fun out => do
    let projects ← (← parseJson out).pathOr ["data", "viewer", "projectsV2", "nodes"] (.list [])
    if !projects.truthy then
      say "No projects found."
      return
    say "\n## Available Projects\n"
    for p in ← projects.parts do
      say ("- " ++ (← p.field "title").display ++ " (#" ++ (← p.field "number").display ++ ")")

/-! ### Creating -/

/-- What a new issue is made of.  An empty text stands for what is not given. -/
structure Draft where
  title : String
  type : String
  priority : String
  scope : String
  body : String := ""
  bodyFile : String := ""
  branch : String := ""
  milestone : String := ""
  project : String := ""
  assignee : String := ""

def withLead (lead text : String) : String := if startsWith text lead then text else lead ++ text

def Draft.labels (d : Draft) : List String :=
  [d.type, s!"priority:{d.priority}", withLead "scope:" d.scope]
  ++ (if d.branch == "" then [] else [withLead "branch:" d.branch])

def standardBody : String :=
  "## Summary\n\n[Description of what needs to be done]\n\n## Acceptance Criteria\n\n"
  ++ "- [ ] Criterion 1\n- [ ] Criterion 2\n- [ ] Criterion 3\n\n"
  ++ "## Additional Context\n\n[Any relevant context]\n"

def Draft.arguments (d : Draft) : List String :=
  let optional := fun (name value : String) => if value == "" then [] else [name, value]
  ["issue", "create", "--title", d.title, "--label", join "," d.labels]
  ++ (if d.bodyFile != "" then ["--body-file", d.bodyFile]
    else ["--body", if d.body == "" then standardBody else d.body])
  ++ optional "--milestone" d.milestone ++ optional "--project" d.project ++
    optional "--assignee" d.assignee

def create (d : Draft) : Tool Bool := do
  match ← gh d.arguments with
  | .error e =>
    complain s!"❌ Failed to create issue: {e}"
    return false
  | .ok url =>
    sayAll ["✅ Issue created successfully!", s!"URL: {url}", "\nLabels: " ++ join ", " d.labels]
    if d.milestone != "" then say s!"Milestone: {d.milestone}"
    if d.project != "" then say s!"Project: {d.project}"
    return true

def forms : Options.Commands where
  forms :=
    [("list-labels", {}), ("list-milestones", {}), ("list-projects", {}),
     ("create",
      { switches :=
         [{ valued "title" ["--title"] with required := true },
          { valued "type" ["--type"] with
            required := true
            choices := ["bug", "feature", "enhancement", "documentation", "refactor", "chore"] },
          { valued "priority" ["--priority"] with
            required := true, choices := ["high", "medium", "low"] },
          valued "body" ["--body"], valued "body_file" ["--body-file"],
          { valued "scope" ["--scope"] with required := true }, valued "branch" ["--branch"],
          valued "milestone" ["--milestone"], valued "project" ["--project"],
          valued "assignee" ["--assignee"]] })]

def command (argv : List String) : Tool Unit := do
  let a ← settle (forms.read argv)
  let given := fun k => (a.text? k).getD ""
  let help : Tool Bool := do
    sayHelp
    return false
  let done ← match a.command? with
    | some "list-labels" => listLabels
    | some "list-milestones" => listMilestones
    | some "list-projects" => listProjects
    | some "create" =>
      create
        { title := given "title", type := given "type", priority := given "priority",
          scope := given "scope"
          body := given "body", bodyFile := given "body_file", branch := given "branch"
          milestone := given "milestone", project := given "project", assignee := given "assignee" }
    | _ => help
  exit (if done then 0 else 1)

end Workbench.Issue.Creation
