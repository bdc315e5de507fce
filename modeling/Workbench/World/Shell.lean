import Workbench.World.Basic

/-!
# Output of other programs

What a tool makes of the output of a program that it starts.
-/

namespace Workbench.Tool

def outputOr (argv : Argv) (failed : Ended → Tool String) : Tool String := do
  let r ← run argv "None"
  if r.code == 0 then return Text.trim r.out else failed r

def output (argv : Argv) : Tool String := outputOr argv fun _ => return ""

def output? (argv : Argv) : Tool (Option String) := do
  let r ← run argv "None"
  return if r.code == 0 then some (Text.trim r.out) else none

def outputOrComplain (wording : String → String) (argv : Argv) : Tool String :=
  outputOr argv fun r => do
    complain (wording r.err)
    return ""

def recover {α : Type} (t : Tool α) (default : α) : Tool α :=
  guarded t (fun e => !e.isExit) fun _ => return default

def jsonOrNull (raw : String) : Tool Value := do
  if !(← pathExists raw) then return .null
  recover (readJson raw) .null

def currentBranch? : Tool (Option String) :=
  recover (output? ["git", "rev-parse", "--abbrev-ref", "HEAD"]) none

end Workbench.Tool
