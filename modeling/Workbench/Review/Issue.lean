import Workbench.World.Basic

/-!
# Issues of a review

How grave an issue is, and where the text under review comes from.
-/

namespace Workbench.Review

/-- How grave an issue is. -/
inductive Severity where
  | critical
  | important
  | minor
deriving DecidableEq, Repr

def Severity.name : Severity → String
  | .critical => "critical"
  | .important => "important"
  | .minor => "minor"

def Severity.rank : Severity → Nat
  | .critical => 0
  | .important => 1
  | .minor => 2

def textOf (argument : String) : Tool String :=
  Tool.guarded (Tool.readText argument) Fault.isMissing fun _ => return argument

def subjectOf (argument : String) : Tool String :=
  if argument == "-" then Tool.readInput else textOf argument

end Workbench.Review
