import Workbench.Pattern.Reader
import Workbench.World.Basic
import Workbench.Yaml.Document

/-!
# Front matter

A component file starts with a YAML block between two lines of three dashes; the rest is its body.
-/

namespace Workbench.Component

/-- A document cut at its header. -/
structure Sheet where
  header : String
  body : String
deriving DecidableEq, Repr

def headerPattern : Pattern.Node := Pattern.ofString "^---\\s*\\n(.*?)\\n---\\s*\\n" .dotted

def Sheet.ofText? (content : String) : Option Sheet :=
  (headerPattern.matchStart content).map fun m => ⟨m.group 1, Text.drop content m.stop⟩

def readOr (raw intro : String) : Tool (Except String String) :=
  Tool.guarded (do return .ok (← Tool.readText raw)) (fun e => !e.isExit)
    fun e => return .error (intro ++ e.message)

def isYamlFault : Fault → Bool
  | .yaml _ _ => true
  | _ => false

def Sheet.fields (s : Sheet) : Result (Except String Value) :=
  match Yaml.parse s.header with
  | .ok v => .ok (.ok v)
  | .error e => if isYamlFault e then .ok (.error e.message) else .error e

end Workbench.Component
