import Workbench.Source.Parser

/-!
# Facts about programs

What a review looks for in a syntax tree: functions and what they declare, handlers that catch
everything, imports of everything, names of calls, texts assigned to names, and the number of
decisions.
-/

namespace Workbench.Review

open Source

def functionName? (t : Tree) : Option String :=
  match t.kind with
  | .function _ n => some n
  | _ => none

def functions (t : Tree) : List (String × Tree) :=
  t.walk.filterMap fun n => (functionName? n).map fun name => (name, n)

def isAsync (t : Tree) : Bool :=
  match t.kind with
  | .function a _ => a
  | _ => false

def classCount (t : Tree) : Nat :=
  (t.walk.filter fun n => match n.kind with
    | .classDef _ => true
    | _ => false).length

def textLiteral? (t : Tree) : Option String :=
  match t.kind with
  | .literal (.str s) => some s
  | _ => none

def hasContent (doc : String) : Bool :=
  match Text.split doc "\n" with
  | [] => false
  | first :: rest => (Text.trim first != "") || rest.any (· != "")

def isDocumented (f : Tree) : Bool :=
  match f.child? "body" with
  | some s =>
    match s.kind, s.child? "value" with
    | .exprStmt, some v => (textLiteral? v).any hasContent
    | _, _ => false
  | none => false

def linesAfterFirst (t : Tree) : Nat := t.endLine - t.line

def declaresResult (f : Tree) : Bool := (f.child? "returns").isSome

def parameterCount (f : Tree) (roles : List String) : Nat :=
  match f.child? "args" with
  | some a => (a.children.filter fun c => roles.contains c.role).length
  | none => 0

def isBareHandler (t : Tree) : Bool := t.kind == .handler && (t.child? "type").isNone

/-- The handlers without a type in a tree. -/
def bareHandlers (t : Tree) : List Tree := t.walk.filter isBareHandler

def wildcardImports (t : Tree) : List String :=
  t.walk.flatMap fun n => match n.kind with
    | .importFrom m => (n.children.filter fun a => a.kind == .alias "*").map fun _ => m.getD "None"
    | _ => []

def chain : (fuel : Nat) → Tree → List String
  | 0, _ => []
  | fuel + 1, t =>
    match t.kind with
    | .member n =>
      match t.child? "value" with
      | some v => n :: chain fuel v
      | none => [n]
    | .name n => [n]
    | _ => []

def callName (call : Tree) : String :=
  match call.child? "func" with
  | some f =>
    match f.kind with
    | .name n => n
    | .member _ => Text.join "." (chain f.size f).reverse
    | _ => ""
  | none => ""

def assignedTexts (t : Tree) : List (String × String) :=
  match t.kind, (t.child? "value").bind textLiteral? with
  | .assign, some text =>
    (t.those "targets").filterMap fun g => match g.kind with
      | .name n => some (n, text)
      | _ => none
  | _, _ => []

def weight (t : Tree) : Int :=
  match t.kind with
  | .ifStmt => 1
  | .forLoop false => 1
  | .whileLoop => 1
  | .handler => 1
  | .ifExp => 1
  | .boolOp => t.children.length - 1
  | _ => 0

def complexity (t : Tree) : Int := 1 + ((t.walk.map weight).foldr (· + ·) 0)

def lineText (r : Refusal) : String := if r.line == 0 then "None" else toString r.line

end Workbench.Review
