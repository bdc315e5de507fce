import Workbench.Branch.Name
import Workbench.Options.Basic

/-!
# Merges

Whether a branch follows the flow of its type, and whether it may be merged into another.
-/

namespace Workbench.Branch

open Text Tool

/-! ### Flows -/

def quietGit (args : List String) : Tool String := output ("git" :: args)

/-- What is said of a branch's flow. -/
structure FlowReport where
  issues : List String
  /-- The flow; an empty document if the branch has none. -/
  flow : Value

def FlowReport.compliant (r : FlowReport) : Bool := r.issues.isEmpty

def flowInfo (type : String) (flow : Value) : Result Value := do
  return .object
    [("type", type), ("from", ← flow.fieldOr "from" "unknown"),
      ("to", ← flow.fieldOr "to" "unknown"),
     ("deleteAfterMerge", ← flow.fieldOr "deleteAfterMerge" false),
     ("squashMerge", ← flow.fieldOr "squashMerge" false),
     ("createTag", ← flow.fieldOr "createTag" false)]

def ageIssues (branch : String) (c : Config) : Tool (List String) := do
  if !(← c.strategy "").same "trunk-based" then return []
  let age ← quietGit ["log", branch, "--reverse", "--format=%cr", "-1"]
  return if containsAny age ["week", "month"] then
      ["Branch is too old for trunk-based development (" ++ age ++ ")"] else []

def checkFlow (branch : String) (c : Config) : Tool FlowReport := do
  match ← typeOf? branch c with
  | none | some "" => return ⟨["Cannot determine branch type for '" ++ branch ++ "'"], .map []⟩
  | some type =>
    let flow ← (← c.flows).fieldOr type (.map [])
    if !flow.truthy then return ⟨["No flow configured for branch type '" ++ type ++ "'"], .map []⟩
    let info ← flowInfo type flow
    let base ← flow.fieldOr "from" ""
    if base.truthy then
      let _ ← quietGit ["rev-parse", "--verify", base.display]
    return ⟨← ageIssues branch c, info⟩

/-! ### Merges -/

/-- Whether a merge is allowed, and why. -/
structure MergeVerdict where
  allowed : Bool
  reasons : List String
deriving DecidableEq, Repr

def forbids (reason : String) : Bool := containsAny reason ["should", "Cannot", "requires"]

def targetsOf (goal : Value) : Value :=
  match goal with
  | .str s => Value.strings [s]
  | other => other

def strategyObjection? (type source target : String) (c : Config) : Result (Option String) := do
  let strategy ← c.strategy "gitflow"
  let main ← c.main
  if strategy.same "gitflow" then
    if type == "feature" && main.same target then
      return some "Feature branches should merge to develop, not main"
    if (← c.develop).same source && main.same target then
      return some "Use a release branch to merge develop to main"
    return none
  if strategy.same "github-flow" && !main.same target then
    return some "In GitHub Flow, branches should merge to main"
  return none

/-- What the policies have against a merge. -/
def policyReasons (target : String) (c : Config) : Result (List String) := do
  let policies ← c.fieldOr "policies" (.map [])
  let ask := fun (branch : Value) (key : String) => do
    if !branch.same target then return []
    if !(← policies.fieldOr key false).truthy then return []
    return ["Merging to " ++ branch.display ++ " requires a Pull Request"]
  return (← ask (← c.main) "requirePRForMain") ++ (← ask (← c.develop) "requirePRForDevelop")

/-- What the target has against a merge. -/
def targetReasons (target : String) (c : Config) : Result (List String) := do
  match ← typeOf? target c with
  | some t =>
    return if ["feature", "bugfix"].contains t then ["Cannot merge into " ++ t ++ " branch"] else []
  | none => return []

def judgeTyped (type source target : String) (c : Config) (before : List String) :
    Result MergeVerdict := do
  let flow ← (← c.flows).fieldOr type (.map [])
  if !flow.truthy then
    return ⟨false, before ++ ["No flow configured for branch type '" ++ type ++ "'"]⟩
  let targets := targetsOf (← flow.fieldOr "to" (.list []))
  if !(← targets.hasText target) then
    let names ← Value.joinTexts ", " targets
    return ⟨false, before ++ [type ++ " branches should merge to " ++ names ++ ", not '" ++
      target ++ "'"]⟩
  match ← strategyObjection? type source target c with
  | some objection => return ⟨false, before ++ [objection]⟩
  | none =>
    let reasons := before ++ (← policyReasons target c)
    return ⟨!reasons.any forbids, reasons⟩

def judgeMerge (source target : String) (c : Config) : Result MergeVerdict := do
  let type ← typeOf? source c
  let _ ← c.main
  let before ← targetReasons target c
  match type with
  | none | some "" =>
    return ⟨true, before ++ ["Warning: '" ++ source ++ "' is not a recognized flow branch"]⟩
  | some t => judgeTyped t source target c before

/-! ### Reports -/

def sayNameCheck (branch : String) (r : NameReport) : Tool Unit := do
  if !r.errors.isEmpty then sayAll (("❌ " ++ branch) :: r.errors.map ("   Error: " ++ ·))
  else if !r.warnings.isEmpty then
    sayAll (("⚠️  " ++ branch) :: r.warnings.map ("   Warning: " ++ ·))
  else say ("✅ " ++ branch)

def sayFlowCheck (branch : String) (r : FlowReport) : Tool Unit := do
  if !r.flow.truthy then say ("   " ++ branch ++ ": Not a flow branch")
  else
    say ((if r.compliant then "✅" else "⚠️ ") ++ " " ++ branch)
    say ("   Type: " ++ (← r.flow.field "type").display)
    say ("   Flow: " ++ (← r.flow.field "from").display ++ " → " ++ (← r.flow.field "to").display)
    sayAll (r.issues.map ("   Issue: " ++ ·))

def loadForChecks : Tool Config := do
  loadFrom (configFile (← quietGit ["rev-parse", "--show-toplevel"])) builtInForChecks

def reportAll : Tool Unit := do
  let c ← loadForChecks
  let line := times "-" 50
  sayAll ["Branch Validation Report", times "=" 50, "", "Configuration:"]
  say ("  Strategy: " ++ (← c.strategy "unknown").display)
  say ("  Main branch: " ++ (← c.main).display)
  say ("  Develop branch: " ++ (← c.develop).display)
  say ""
  let branches := listed (← quietGit ["branch", "--list"])
  sayAll ["Branch Validation:", line]
  let checks ← branches.mapM fun b => do
    let r ← checkName b c
    sayNameCheck b r
    return r
  sayAll ["", "Flow Compliance:", line]
  for b in branches do sayFlowCheck b (← checkFlow b c)
  let invalid := (checks.filter fun r => !r.valid).length
  let warned := (checks.filter fun r => r.valid && !r.warnings.isEmpty).length
  sayAll ["", "Summary:", "  Valid branches: " ++ toString (checks.length - invalid),
    "  Invalid branches: " ++ toString invalid, "  Warnings: " ++ toString warned]
  if 0 < invalid || 0 < warned then
    sayAll ["", "Recommendations:"]
    if 0 < invalid then say "  - Rename invalid branches to follow conventions"
    if 0 < warned then say "  - Consider addressing warnings for consistency"

def checkForms : Options.Commands where
  forms :=
    [("validate-name", { operands := [{ dest := "branch" }] }),
      ("check-flow", { operands := [{ dest := "branch" }] }),
     ("validate-merge", { operands := [{ dest := "source" }, { dest := "target" }] }),
     ("report", {})]

def endWith (passed : Bool) : Tool Unit := exit (if passed then 0 else 1)

def checkCommand (argv : List String) : Tool Unit := do
  let a ← Options.settle (checkForms.read argv)
  if a.command?.isNone then
    Options.sayHelp
    exit 1
  let c ← loadForChecks
  match a.command? with
  | some "validate-name" =>
    let branch := a.text "branch"
    let r ← checkName branch c
    say ((if r.valid then "✅ Valid: " else "❌ Invalid: ") ++ branch)
    sayAll (r.errors.map ("   Error: " ++ ·) ++ r.warnings.map ("   Warning: " ++ ·))
    endWith r.valid
  | some "check-flow" =>
    let branch := a.text "branch"
    let r ← checkFlow branch c
    say ((if r.compliant then "✅ Compliant: " else "⚠️  Issues found: ") ++ branch)
    if r.flow.truthy then
      for (title, key) in [("Type", "type"), ("Base", "from"), ("Target", "to"),
          ("Delete after merge", "deleteAfterMerge"), ("Create tag", "createTag")] do
        say ("   " ++ title ++ ": " ++ (← r.flow.field key).display)
    sayAll (r.issues.map ("   Issue: " ++ ·))
    endWith r.compliant
  | some "validate-merge" =>
    let way := a.text "source" ++ " → " ++ a.text "target"
    let v ← judgeMerge (a.text "source") (a.text "target") c
    say ((if v.allowed then "✅ Merge allowed: " else "❌ Merge not allowed: ") ++ way)
    sayAll (v.reasons.map ("   " ++ ·))
    endWith v.allowed
  | _ => reportAll

end Workbench.Branch
