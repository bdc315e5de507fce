import Workbench.Value.Access
import Workbench.World.Basic

/-!
# Findings

What a check of a component reports, and the findings on names and tools that several kinds of
component share.  A component's name is made of lowercase letters, digits and hyphens.  A line end
after such a name is overlooked.
-/

namespace Workbench.Component

open Tool Text

/-- How grave a finding is. -/
inductive Severity where
  | error
  | warning
  | recommendation
deriving DecidableEq, Repr

/-- What a check of a component reports. -/
structure Finding where
  severity : Severity
  text : String
deriving DecidableEq, Repr

def Finding.message (f : Finding) : String :=
  match f.severity with
  | .error => f.text
  | .warning => s!"Warning: {f.text}"
  | .recommendation => s!"Recommendation: {f.text}"

/-- An error, on a condition. -/
def errorIf (c : Bool) (text : String) : List Finding := if c then [⟨.error, text⟩] else []

def warnIf (c : Bool) (text : String) : List Finding := if c then [⟨.warning, text⟩] else []

def adviseIf (c : Bool) (text : String) : List Finding :=
  if c then [⟨.recommendation, text⟩] else []

def errors (fs : List Finding) : List Finding := fs.filter (·.severity == .error)

/-- The findings and what follows from them. -/
structure Verdict where
  valid : Bool
  findings : List Finding
deriving DecidableEq, Repr

def Verdict.messages (v : Verdict) : List String := v.findings.map Finding.message

def refusal (text : String) : Verdict := ⟨false, [⟨.error, text⟩]⟩

def lenient (fs : List Finding) : Verdict := ⟨(errors fs).isEmpty, fs⟩

def Verdict.exitCode (v : Verdict) : Int := if (errors v.findings).isEmpty then 0 else 1

def severityLines (heading : String) (s : Severity) (fs : List Finding) : List String :=
  let own := fs.filter (·.severity == s)
  if own.isEmpty then [] else heading :: own.map (fun f => s!"   {f.message}") ++ [""]

def groupedLines (fs : List Finding) : List String :=
  severityLines "❌ Critical Errors:" .error fs ++ severityLines "⚠️  Warnings:" .warning fs
    ++ severityLines "💡 Recommendations:" .recommendation fs

def Verdict.conclude (v : Verdict) (what target : String) : Tool Unit := do
  if v.valid && v.findings.isEmpty then
    say s!"✓ {what} '{target}' is valid!"
    exit 0
  sayAll ([s!"Validation results for '{target}':", ""] ++ groupedLines v.findings)
  exit v.exitCode

/-! ### Names and tools -/

def isKebabChar (c : Char) : Bool := ('a' ≤ c && c ≤ 'z') || ('0' ≤ c && c ≤ '9') || c == '-'

def dropFinalNewline (s : Chars) : Chars := if s.getLast? == some '\n' then s.dropLast else s

def isKebab (s : String) : Bool :=
  let body := dropFinalNewline s.toList
  !body.isEmpty && body.all isKebabChar

def maxNameLength : Nat := 64

def nameFindings (what name : String) : List Finding :=
  let intro := s!"Invalid {what} '{name}': "
  errorIf (!isKebab name) s!"{intro}must be lowercase letters, numbers, and hyphens only"
    ++ errorIf (maxNameLength < name.length)
      s!"{intro}exceeds 64 character limit (length: {name.length})"
    ++ errorIf (contains name "_") s!"{intro}underscores not allowed, use hyphens instead"
    ++ errorIf (name != lower name) s!"{intro}must be lowercase"

def knownTools : List String :=
  ["Read", "Write", "Edit", "Grep", "Glob", "Bash", "WebFetch", "WebSearch", "NotebookEdit", "Task",
   "TodoWrite", "BashOutput", "KillShell"]

def toolList (s : String) : List String := (split s ",").map trim

def toolFindings (tools : List String) : List Finding :=
  tools.flatMap fun t => warnIf (!knownTools.contains t)
    (s!"Unknown tool '{t}'. Valid tools: " ++ join ", " knownTools)

end Workbench.Component
