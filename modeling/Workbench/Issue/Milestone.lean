import Workbench.Calendar.Numeric
import Workbench.Issue.Label

/-!
# Milestones

Creates, lists, changes and closes milestones, assigns issues to them, and reports how far one is:
the work done beside the time gone.
-/

namespace Workbench.Issue.Milestone

open Options Calendar Tool Text Decimal Color

/-- Asks the hosting service; the answer is null if there is none, and a failure ends the tool. -/
def api (endpoint method : String) (data : List (String × String)) : Tool Value := do
  let argv := ["gh", "api", endpoint] ++ (if method == "GET" then [] else ["-X", method])
    ++ data.flatMap fun (k, v) => ["-f", s!"{k}={v}"]
  let r ← run argv "None"
  if r.code != 0 then Notice.fail s!"API request failed: {r.err}"
  if r.out == "" then return .null else parseJson r.out

def repository : Tool String :=
  outputOr ["gh", "repo", "view", "--json", "nameWithOwner", "-q", ".nameWithOwner"] fun _ =>
    Notice.fail "Not in a GitHub repository or gh CLI not authenticated"

/-! ### Due dates -/

def dateForms : List (Char × List DatePart) :=
  [('-', [.year, .month, .day]), ('/', [.month, .day, .year]), ('/', [.day, .month, .year])]

def startOf (d : Date) : String := s!"{d.plain}T00:00:00Z"

def maxSpan : Nat := 999999999

def daysFrom (now : DateTime) (days : Int) : Result DateTime :=
  if days < -2147483648 || 2147483647 < days then
    .error (.overflow "Python int too large to convert to C int")
  else if maxSpan < days.natAbs then
    .error (.overflow s!"days={days}; must have magnitude <= {maxSpan}")
  else match now.addDays? days with
    | some t => .ok t
    | none => .error (.overflow "date value out of range")

def dueDay? (now : DateTime) (text : String) : Result (Option Date) :=
  match dateForms.findSome? fun (mark, order) => Date.read? mark order text with
  | some d => .ok (some d)
  | none =>
    match wholeOf text with
    | .ok days => (daysFrom now days).map fun t => some t.date
    | .error _ => .ok none

def dueDate (given : Value) : Tool String := do
  let day ← match given with
    | .str text => (do return ← dueDay? (← now) text)
    | _ => pure none
  match day with
  | some d => return startOf d
  | none =>
    Notice.fail
      (s!"Invalid date format: {given.display}. Use YYYY-MM-DD, days from now (e.g., 14), or "
        ++ "MM/DD/YYYY")

def daysBetween (start stop : DateTime) : Result Int :=
  if start.offset.isSome == stop.offset.isSome then
    .ok ((stop.instant - start.instant) / 86400000000)
  else .error Value.mixedSpan

/-! ### Creating and changing -/

def create (title : String) (due : Option String) (description : String) : Tool Unit := do
  let repo ← repository
  let due := due.filter (· != "")
  let dueOn ← match due with
    | some d => (do return [("due_on", ← dueDate d)])
    | none => pure []
  let made ← api s!"/repos/{repo}/milestones" "POST"
    ([("title", title), ("description", description)] ++ dueOn)
  if !made.truthy then return
  Notice.success (s!"Created milestone: {title} (#" ++ (← made.field "number").display ++ ")")
  if due.isSome then
    let t ← (← made.field "due_on").timeIn
    Notice.inform s!"Due date: {t.date.plain}"

def update (number : String) (title due description state : Option String) : Tool Unit := do
  let repo ← repository
  let given := fun (k : String) (v : Option String) => ((v.filter (· != "")).map (k, ·)).toList
  let dueOn ← match due.filter (· != "") with
    | some d => (do return [("due_on", ← dueDate d)])
    | none => pure []
  let data := given "title" title ++ dueOn ++ given "description" description ++ given "state" state
  if data.isEmpty then Notice.fail "No updates specified"
  let changed ← api s!"/repos/{repo}/milestones/{number}" "PATCH" data
  if changed.truthy then Notice.success s!"Updated milestone #{number}"

/-! ### Listing -/

def share (part whole : Value) : Result Float := do return (← (← part.divide whole).number) * 100.0

def bar (length : Nat) (percent : Float) : String :=
  let filled := truncate (Float.ofNat length * percent / 100.0)
  times "█" filled.toNat ++ times "░" (length - filled).toNat

def heading (title : String) : List String := ["\n" ++ times "=" 60, title, times "=" 60 ++ "\n"]

def dueText (due : Date) (days : Int) : String :=
  let distance :=
    if days < 0 then paint red s!"OVERDUE by {days.natAbs} days"
    else if days == 0 then paint yellow "DUE TODAY"
    else s!"{days} days remaining"
  s!"  Due: {due.plain} ({distance})"

def isPositive (v : Value) : Result Bool := Value.before (.int 0) v

/-- The text of a total, which can have more digits than its parts. -/
def totalText (total : Value) : Result String :=
  match total.whole? with
  | some n => match ({ digits := some digitLimit } : Json.Layout).whole n with
    | .ok text => .ok text
    | .error e => .error (writeFault e)
  | none => .ok total.display

def sayOne (m : Value) (withProgress : Bool) : Tool Unit := do
  let number ← m.field "number"
  let title ← m.field "title"
  let due ← m.fieldOrNull "due_on"
  let opened ← m.field "open_issues"
  let closed ← m.field "closed_issues"
  let total ← opened.add closed
  say s!"#{number.display}: {title.display}"
  if due.truthy then
    let t ← due.timeIn
    let days ← daysBetween (← now) t
    say (dueText t.date days)
  if withProgress then
    if ← isPositive total then
      let percent ← share closed total
      say s!"  Progress: [{bar 30 percent}] {fixed percent 0}%"
      say s!"  Issues: {closed.display}/{← totalText total} closed ({opened.display} open)"
  let description ← m.fieldOrNull "description"
  if description.truthy then say s!"  Description: {(← description.front 100).display}..."
  say ""

def list (withProgress : Bool) (state : String) : Tool Unit := do
  let repo ← repository
  let milestones ← api s!"/repos/{repo}/milestones?state={state}" "GET" []
  if !milestones.truthy then
    Notice.inform s!"No {state} milestones found"
    return
  let count := toString (← milestones.size)
  sayAll (heading (padRight "Milestones" 40 ++ s!" ({count} {state})"))
  for m in ← milestones.parts do sayOne m withProgress

/-! ### Assigning -/

def assignOne (milestone total : String) (issue : Value) (n : Nat) : Tool Unit := do
  let number := (← issue.field "number").display
  let r ← run ["gh", "issue", "edit", number, "--milestone", milestone] "None"
  if r.code == 0 then put s!"\r{n}/{total}"
  else Notice.warn s!"Failed to assign issue #{number}"

def assign (title query : String) (dryRun : Bool) : Tool Unit := do
  let repo ← repository
  let milestones ← (← api s!"/repos/{repo}/milestones?state=open" "GET" []).parts
  let found ← milestones.findM? fun m => (do return (← m.field "title").same title : Result Bool)
  match found with
  | none => Notice.fail s!"Milestone '{title}' not found"
  | some m =>
    let _ ← m.field "number"
    let r ← run ["gh", "issue", "list", "--search", query, "--json", "number,title", "--limit",
      "1000"] "None"
    if r.code != 0 then Notice.fail s!"Issue search failed: {r.err}"
    let issues ← parseJson r.out
    if !issues.truthy then
      Notice.warn "No issues found matching filter"
      return
    let total := toString (← issues.size)
    let what := s!"{total} issues to milestone '{title}'"
    if dryRun then
      Notice.inform s!"DRY RUN: Would assign {what}"
      Label.sayIssues issues
      return
    Notice.inform s!"Assigning {what}..."
    for (i, n) in (← issues.parts).zipIdx do assignOne title total i (n + 1)
    say ""
    Notice.success s!"Assigned {what}"

/-! ### Progress -/

/-- The days of a milestone. -/
structure Timing where
  /-- From creation to the due date. -/
  total : Int
  /-- From creation to now. -/
  elapsed : Int
  /-- From now to the due date. -/
  remaining : Int
deriving DecidableEq, Repr

def timing (m : Value) (now : DateTime) : Result (Option Timing) := do
  let due ← m.fieldOrNull "due_on"
  if !due.truthy then return none
  let due ← due.timeIn
  let created ← (← m.field "created_at").timeIn
  return some ⟨← daysBetween created due, ← daysBetween created now, ← daysBetween now due⟩

def Timing.gone (t : Timing) : Float :=
  if 0 < t.total then ofInt t.elapsed / ofInt t.total * 100.0 else 0.0

def Timing.lines (t : Timing) : List String :=
  [s!"Duration: {t.elapsed}/{t.total} days ({t.remaining} days remaining)"]
    ++ (if 0 < t.total then [s!"Time: {fixed t.gone 0}% elapsed"] else [])

def standing (done gone : Float) : String :=
  if gone + 10.0 ≤ done then paint green "🟢 Status: Ahead of schedule"
  else if gone - 10.0 ≤ done then paint blue "🟡 Status: On track"
  else paint red "🔴 Status: Behind schedule"

def sayPace (t : Timing) (opened closed : Value) : Tool Unit := do
  let pace ← (← closed.divide (.int t.elapsed)).number
  let needed ← (← opened.divide (.int (max t.remaining 1))).number
  sayAll ["\nVelocity:", s!"  Current: {fixed pace 2} issues/day",
    s!"  Needed: {fixed needed 2} issues/day"]
  if pace * 1.5 < needed then
    if pace == 0.0 then throw (.divisionByZero true)
    Notice.warn s!"Need to increase pace by {fixed ((needed / pace - 1.0) * 100.0) 0}%"

/-- The issues with a label. -/
structure Tally where
  label : Value
  opened : Nat := 0
  closed : Nat := 0

def count (isOpen : Bool) (label : Value) (tallies : List Tally) : List Tally :=
  let one := fun (t : Tally) => if isOpen then { t with opened := t.opened + 1 }
    else { t with closed := t.closed + 1 }
  if tallies.any (·.label.same label) then
    tallies.map fun t => if t.label.same label then one t else t
  else tallies ++ [one { label }]

def countIssue (tallies : List Tally) (issue : Value) : Result (List Tally) := do
  (← (← issue.fieldOr "labels" (.list [])).parts).foldlM (fun ts l => do
    let name ← l.field "name"
    if !name.isKey then throw name.unhashable
    return count ((← issue.field "state").same "OPEN") name ts) tallies

def Tally.line (t : Tally) : String :=
  let total := t.opened + t.closed
  let percent := if total == 0 then 0.0 else Float.ofNat t.closed / Float.ofNat total * 100.0
  s!"  {t.label.display}: {t.closed}/{total} ({fixed percent 0}%)"

def sayLabels (title : String) : Tool Unit := do
  let r ← run ["gh", "issue", "list", "--milestone", title, "--json", "number,title,labels,state",
    "--limit", "1000"] "None"
  if r.code != 0 then return
  let tallies ← (← (← parseJson r.out).parts).foldlM (fun ts i => (countIssue ts i : Result _)) []
  if tallies.isEmpty then return
  let ranks ← Value.sortByKey (tallies.zipIdx.map fun (t, i) => (t.label, .int i))
  let sorted := ranks.filterMap fun (_, i) => i.whole?.bind fun n => tallies[n.toNat]?
  sayAll ("\nProgress by Label:" :: sorted.map Tally.line)

def progress (number : String) : Tool Unit := do
  let repo ← repository
  let m ← api s!"/repos/{repo}/milestones/{number}" "GET" []
  if !m.truthy then Notice.fail s!"Milestone #{number} not found"
  let title ← m.field "title"
  let opened ← m.field "open_issues"
  let closed ← m.field "closed_issues"
  let total ← opened.add closed
  sayAll (heading s!"Milestone Progress: {title.display}")
  let time ← timing m (← now)
  sayAll ((time.map Timing.lines).getD [])
  if ← isPositive total then
    let done ← share closed total
    say s!"\nProgress: [{bar 40 done}] {fixed done 0}%"
    sayAll [s!"Issues: {closed.display}/{← totalText total} complete",
      s!"  ✅ Closed: {closed.display}", s!"  🔄 Open: {opened.display}"]
    if let some t := time then
      say s!"\n{standing done t.gone}"
      if 0 < t.elapsed then sayPace t opened closed
  else Notice.inform "No issues assigned to this milestone"
  sayLabels (← title.pathText)
  say ""

/-! ### Command line -/

def forms : Options.Commands where
  forms :=
    let number : Options.Operand := { dest := "number", kind := .whole }
    [("create",
      { switches := [{ valued "title" ["--title"] with required := true }, valued "due" ["--due"],
          { valued "description" ["--description"] with default := .str "" }] }),
     ("list",
      { switches := [flagged "with_progress" ["--with-progress"],
          { valued "state" ["--state"] with
            default := .str "open", choices := ["open", "closed", "all"] }] }),
     ("update",
      { operands := [number]
        switches := [valued "title" ["--title"], valued "due" ["--due"],
          valued "description" ["--description"],
          { valued "state" ["--state"] with choices := ["open", "closed"] }] }),
     ("close", { operands := [number] }),
     ("bulk-assign",
      { switches := [{ valued "milestone" ["--milestone"] with required := true },
          { valued "filter" ["--filter"] with required := true },
          flagged "dry_run" ["--dry-run"]] }),
     ("progress", { operands := [number] })]

def command (argv : List String) : Tool Unit := do
  let a ← settle (forms.read argv)
  let number := toString (a.whole "number")
  match a.command? with
  | some "create" => create (a.text "title") (a.text? "due") (a.text "description")
  | some "list" => list (a.flag "with_progress") (a.text "state")
  | some "update" =>
    update number (a.text? "title") (a.text? "due") (a.text? "description") (a.text? "state")
  | some "close" => update number none none none (some "closed")
  | some "bulk-assign" => assign (a.text "milestone") (a.text "filter") (a.flag "dry_run")
  | some "progress" => progress number
  | _ => sayHelp

end Workbench.Issue.Milestone
