import Workbench.Commit.Conventional
import Workbench.Options.Basic
import Workbench.World.Color
import Workbench.World.Shell

/-!
# Commit messages

Checks a message, suggests one from the staged files, builds one in a dialogue, and checks the
messages of a branch.
-/

namespace Workbench.Commit.Message

open Tool Text Color

def git (args : List String) : Tool String :=
  outputOrComplain (fun e => paint red s!"Error: {e}") ("git" :: args)

def rule : String := times "=" 60

def suggestedType? (files : List String) : Option String :=
  if files.any (contains · "test") then some "test"
  else if files.any fun f => contains f ".md" || contains (lower f) "doc" then some "docs"
  else if files.any fun f => contains f "ci" || contains f ".github" then some "ci"
  else none

def suggestedScope? (files : List String) : Option String :=
  match dedup (files.filterMap fun f => match split f "/" with
    | top :: _ :: _ => some top
    | _ => none) with
  | [top] => some top
  | _ => none

def sayStaged : Tool Unit := do
  let staged ← git ["diff", "--cached", "--name-only"]
  if staged == "" then
    say (paint yellow "No staged changes")
    return
  let files := split staged "\n"
  say ("\n" ++ paint blue "Staged files:")
  sayAll ((files.take 10).map fun f => s!"  - {f}")
  if 10 < files.length then say s!"  ... and {files.length - 10} more"
  let stats ← git ["diff", "--cached", "--stat"]
  say ("\n" ++ paint blue "Suggested:")
  if let some t := suggestedType? files then say s!"  Type: {t}"
  if let some s := suggestedScope? files then
    if s != "" then say s!"  Scope: {s}"
  sayAll [s!"\n{rule}", stats, rule]

/-- The parts of a message. -/
structure Draft where
  type : String
  scope : String
  subject : String
  body : String
  footer : String

def Draft.text (d : Draft) : String :=
  let head :=
    if d.scope == "" then s!"{d.type}: {d.subject}" else s!"{d.type}({d.scope}): {d.subject}"
  head ++ (if d.body == "" then "" else s!"\n\n{d.body}") ++
    (if d.footer == "" then "" else s!"\n\n{d.footer}")

/-- The type that an answer names, by its number or by itself.  The number zero counts from the
end. -/
def chosenType (answer : String) : Result String := do
  if answer != "" && answer.toList.all isDigitMark then
    let n ← wholeOf answer
    let i := if n == 0 then types.length - 1 else (n - 1).toNat
    match types[i]? with
    | some t => return t
    | none => throw (.index "list index out of range")
  else return answer

def askLines : (fuel : Nat) → Tool (List String)
  | 0 => return []
  | fuel + 1 => do
    let line ← ask ""
    if line == "" then return []
    return line :: (← askLines fuel)

def messageFile : String := "/tmp/commit-msg.txt"

def buildInDialogue : Tool Unit := do
  let step := fun (n : Nat) (s : String) => say ("\n" ++ paint blue s!"Step {n}: {s}")
  say ("\n" ++ paint blue "=== Interactive Commit Builder ===" ++ "\n")
  sayStaged
  step 1 "Select type"
  sayAll (types.zipIdx.map fun (t, i) => s!"  {i + 1}. {t}")
  let type ← chosenType (trim (← ask "Enter number (or type name): "))
  step 2 "Enter scope (optional)"
  let scope := trim (← ask "Scope: ")
  step 3 "Enter subject"
  let subject := trim (← ask "Subject: ")
  step 4 "Enter body (optional, press Enter twice to finish)"
  let body ← askLines ((← get).input.length + 1)
  step 5 "Add references (optional)"
  let footer := trim (← ask "Footer (e.g., 'Closes #42'): ")
  let message := (Draft.mk type scope subject (join "\n" body) footer).text
  sayAll [s!"\n{rule}", message, s!"{rule}\n"]
  let issues := messageIssues message
  if !issues.isEmpty then
    sayAll (paint yellow "Warnings:" :: issues.map ("  - " ++ ·) ++ [""])
  let answer := lower (trim (← ask "Commit with this message? [y/n/e(dit)]: "))
  if answer == "y" then
    writeText messageFile message
    let result ← git ["commit", "-F", messageFile]
    if result != "" then say ("\n" ++ paint green "✓ Committed")
  else if answer == "e" then
    say "Opening editor..."
    let _ ← run ["git", "commit", "-e", "-m", message] "None"
  else say "Cancelled"

def checkBranch (branch : String) : Tool Unit := do
  let log ← git ["log", s!"main...{branch}", "--format=%H|%s"]
  sayAll [s!"\n{rule}", s!"Validating commits on {branch}", s!"{rule}\n"]
  let verdicts ← ((split log "\n").filter (· != "")).mapM fun line => do
    match splitAtMost line "|" 1 with
    | [hash, subject] =>
      let issues := messageIssues subject
      let sign := if issues.isEmpty then paint green "✓" else paint red "✗"
      say s!"{sign} {take hash 7}: {subject}"
      sayAll (issues.map ("  - " ++ ·))
      return issues.isEmpty
    | _ => throw (.invalid "not enough values to unpack (expected 2, got 1)")
  let valid := (verdicts.filter id).length
  if verdicts.isEmpty then throw (.divisionByZero false)
  let percent := Decimal.fixed (Float.ofNat valid / Float.ofNat verdicts.length * 100.0) 0
  say s!"\nValid: {valid}/{verdicts.length} ({percent}%)"

def forms : Options.Commands where
  forms :=
    [("validate", { operands := [{ dest := "message", arity := .optional }] }), ("generate", {}),
     ("interactive", {}), ("validate-branch", { operands := [{ dest := "branch" }] })]

def command (argv : List String) : Tool Unit := do
  let a ← Options.settle (forms.read argv)
  match a.command? with
  | some "validate" =>
    match a.text? "message" with
    | none | some "" =>
      say "Error: message required"
      exit 1
    | some message =>
      let issues := messageIssues message
      if issues.isEmpty then say (paint green "✓ Valid conventional commit")
      else
        sayAll (paint red "✗ Invalid commit message" :: issues.map ("  - " ++ ·))
        exit 1
  | some "generate" => sayStaged
  | some "interactive" => buildInDialogue
  | some "validate-branch" => checkBranch (a.text "branch")
  | _ => Options.sayHelp

end Workbench.Commit.Message
