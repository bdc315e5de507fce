import Workbench.Options.Basic
import Workbench.Value.Access
import Workbench.World.Color
import Workbench.World.Shell

/-!
# Quality of issues

Judges whether an issue says enough: its title, its text, its labels and, for a bug, how to
reproduce it.
-/

namespace Workbench.Issue.Triage

open Text Options Tool Color

def gh (args : List String) : Tool String := output ("gh" :: args)

/-- What one check of an issue gives. -/
structure Check where
  points : Nat := 0
  line : String
  issue : Option String := none

def passed (points : Nat) (text : String) : Check := ⟨points, paint green "✓" ++ s!" {text}", none⟩

def failed (text issue : String) : Check := ⟨0, paint red "✗" ++ s!" {text}", some issue⟩

def doubtful (text : String) (issue : Option String) : Check :=
  ⟨0, paint yellow "⚠" ++ s!" {text}", issue⟩

def mentions (body : Value) (words : List String) : Result Bool := do
  return containsAny (lower (← body.textFor "lower")) words

def isBug (labels : Value) : Result Bool := do
  let names ← (← labels.parts).mapM fun l => l.field "name"
  return names.any (·.same "bug")

def checks (title body labels : Value) : List (Result (List Check)) :=
  [do
    return [if 10 < (← title.size) then passed 15 "Title is descriptive"
      else failed "Title too short" "Title too short"],
   do
    let length ← if body.truthy then body.size else .ok 0
    return [if 50 < length then passed 25 "Has detailed description"
      else failed "Missing detailed description" "Missing or short description"],
   do
    if !(← isBug labels) then return []
    return [if ← mentions body ["steps", "reproduce", "expected", "actual"] then
      passed 20 "Has reproduction steps"
      else doubtful "Missing reproduction steps" (some "Bug report missing steps to reproduce")],
   do
    if labels.truthy then return [passed 20 s!"Has labels ({← labels.size})"]
    return [failed "No labels applied" "No labels"],
   do
     return [if ← body.hasText "#" then passed 10 "References other issues"
       else doubtful "No issue references" none],
   do
    if !(← isBug labels) then return []
    return [if ← mentions body ["version", "browser", "os", "environment"] then
      passed 10 "Has environment details"
      else doubtful "Missing environment details" (some "Bug report missing environment details")]]

def verdict (points : Nat) : String :=
  if 80 ≤ points then paint green "Quality: Excellent"
  else if 60 ≤ points then paint yellow "Quality: Good"
  else if 40 ≤ points then paint yellow "Quality: Needs Improvement"
  else paint red "Quality: Poor"

def heading (title : String) : List String := ["\n" ++ times "=" 60, title, times "=" 60 ++ "\n"]

def judge (number : String) : Tool Unit := do
  let out ← gh ["issue", "view", number, "--json", "title,body,labels"]
  if out == "" then
    say (paint red s!"Issue #{number} not found")
    return
  let issue ← parseJson out
  let title ← issue.field "title"
  let body ← issue.fieldOr "body" ""
  let labels ← issue.fieldOr "labels" (.list [])
  sayAll (heading s!"Issue #{number}: {title.display}")
  let made ← (checks title body labels).mapM fun (check : Result (List Check)) => do
    let cs ← check
    sayAll (cs.map Check.line)
    return cs
  let all := made.flatten
  let points := (all.map Check.points).foldr (· + ·) 0
  sayAll [s!"\n Score: {points}/100", verdict points]
  let issues := all.filterMap Check.issue
  if !issues.isEmpty then
    sayAll (("\n" ++ paint red "Issues:") :: issues.map ("  - " ++ ·))

def judgeAll (query : String) : Tool Unit := do
  let out ← gh ["issue", "list", "--search", query, "--json", "number", "--limit", "50"]
  if out == "" then
    say "No issues found"
    return
  let issues ← parseJson out
  say s!"\nChecking {← issues.size} issues...\n"
  for issue in ← issues.parts do
    judge (← issue.field "number").display
    say ""

/-- How much an issue says at first sight. -/
inductive Glance where
  | complete
  | half
  | bare
deriving DecidableEq

def glance (issue : Value) : Result Glance := do
  let labelled := 0 < (← (← issue.fieldOr "labels" (.list [])).size)
  let described := 50 < (← (← issue.fieldOr "body" "").size)
  return if labelled && described then .complete else if labelled || described then .half else .bare

def report : Tool Unit := do
  sayAll (heading "Issue Quality Report")
  let out ← gh ["issue", "list", "--state", "open", "--json", "number,title,body,labels",
    "--limit", "100"]
  if out == "" then
    say "No issues found"
    return
  let issues ← parseJson out
  let glances ← (← issues.parts).mapM fun i => (glance i : Result Glance)
  let total ← issues.size
  say s!"Total issues: {total}"
  if total == 0 then throw (.divisionByZero false)
  let line := fun (color name : String) (g : Glance) =>
    let n := (glances.filter (· == g)).length
    s!"{paint color name} {n} ({Decimal.fixed (Float.ofNat n / Float.ofNat total * 100.0) 0}%)"
  sayAll [line green "Excellent:" .complete, line yellow "Good:" .half,
    line red "Needs Work:" .bare]

def forms : Options.Commands where
  forms :=
    [("check", { operands := [{ dest := "issue", kind := .whole }] }),
     ("check-batch",
      { switches := [{ valued "filter" ["--filter"] with default := .str "is:open" }] }),
     ("report", {})]

def command (argv : List String) : Tool Unit := do
  let a ← settle (forms.read argv)
  match a.command? with
  | some "check" => judge (toString (a.whole "issue"))
  | some "check-batch" => judgeAll (a.text "filter")
  | some "report" => report
  | _ => sayHelp

end Workbench.Issue.Triage
