import Workbench.Text.Basic

/-!
# Paths

A path is absolute or relative and a list of names.  Empty names and `.` are dropped when a path is
read, `..` is kept.
-/

namespace Workbench

/-- A path and the names on it. -/
structure Path where
  absolute : Bool
  parts : List String
deriving DecidableEq, Repr, Inhabited

namespace Path

/-- A path is cut at its slashes. -/
def ofString (s : String) : Path :=
  ⟨s.toList.head? == some '/', ((Text.splitWhere (· == '/') s.toList).map .ofList).filter fun p =>
    p != "" && p != "."⟩

protected def toString (p : Path) : String :=
  if p.absolute then "/" ++ Text.join "/" p.parts
  else if p.parts.isEmpty then "." else Text.join "/" p.parts

instance : ToString Path := ⟨Path.toString⟩

def append (p q : Path) : Path := if q.absolute then q else ⟨p.absolute, p.parts ++ q.parts⟩

def child (p : Path) (s : String) : Path := p.append (ofString s)

instance : HDiv Path String Path := ⟨child⟩

def names (p : Path) : List String := if p.absolute then "/" :: p.parts else p.parts

def name (p : Path) : String := p.parts.getLast?.getD ""

def parent (p : Path) : Path := { p with parts := p.parts.dropLast }

def splitName (n : String) : Chars × Chars :=
  let r := n.toList.reverse
  let suffix := r.takeWhile (· != '.')
  let stem := (r.drop (suffix.length + 1)).reverse
  if suffix.isEmpty || stem.isEmpty || r.length ≤ suffix.length then (n.toList, [])
  else (stem, '.' :: suffix.reverse)

def stem (p : Path) : String := .ofList (splitName p.name).1

def suffix (p : Path) : String := .ofList (splitName p.name).2

def relativeTo? (p base : Path) : Option Path :=
  if p.absolute == base.absolute && p.parts.take base.parts.length == base.parts then
    some ⟨false, p.parts.drop base.parts.length⟩
  else none

def resolveParts (above : List String) : List String → List String
  | [] => above.reverse
  | p :: ps => if p == ".." then resolveParts (above.drop 1) ps else resolveParts (p :: above) ps

def resolve (cwd p : Path) : Path := ⟨true, resolveParts [] (cwd.append p).parts⟩

def le (p q : Path) : Bool :=
  let ps := p.parts.map String.toList
  let qs := q.parts.map String.toList
  decide (¬ qs < ps)

end Path

end Workbench
