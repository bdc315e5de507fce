import Workbench.Text.Basic

/-!
# File name patterns

Patterns for single file names: `*` stands for any text, `?` for any character, and a bracket for a
set of characters.
-/

namespace Workbench.Glob

/-- A part of a glob. -/
inductive Part where
  | any
  | one
  | exact (c : Char)
  | oneOf (negated : Bool) (ranges : List (Char × Char))
deriving DecidableEq, Repr

def ranges : Chars → List (Char × Char)
  | a :: '-' :: b :: rest => if a ≤ b then (a, b) :: ranges rest else ranges rest
  | a :: rest => (a, a) :: ranges rest
  | [] => []

/-- The inside of a bracket and what follows it; a closing bracket in first place belongs to the
inside. -/
def bracket (s : Chars) : Option (Bool × Chars × Chars) :=
  let (negated, s) := match s with
    | '!' :: t => (true, t)
    | _ => (false, s)
  let (first, t) := match s with
    | ']' :: t => ([']'], t)
    | _ => ([], s)
  let inside := t.takeWhile (· != ']')
  if inside.length < t.length then some (negated, first ++ inside, t.drop (inside.length + 1))
  else none

def parseLoop : (fuel : Nat) → Chars → List Part
  | 0, _ => []
  | _ + 1, [] => []
  | fuel + 1, '*' :: s => .any :: parseLoop fuel s
  | fuel + 1, '?' :: s => .one :: parseLoop fuel s
  | fuel + 1, '[' :: s =>
    match bracket s with
    | some (negated, inside, rest) => .oneOf negated (ranges inside) :: parseLoop fuel rest
    | none => .exact '[' :: parseLoop fuel s
  | fuel + 1, c :: s => .exact c :: parseLoop fuel s

def parse (s : String) : List Part := parseLoop s.length s.toList

def Part.accepts (c : Char) : Part → Bool
  | .any => true
  | .one => true
  | .exact d => c == d
  | .oneOf negated rs => negated != rs.any fun (a, b) => a ≤ c && c ≤ b

def fits : List Part → Chars → Bool
  | [], [] => true
  | [], _ :: _ => false
  | .any :: ps, [] => fits ps []
  | .any :: ps, c :: s => fits ps (c :: s) || fits (.any :: ps) s
  | _ :: _, [] => false
  | p :: ps, c :: s => p.accepts c && fits ps s
termination_by ps s => ps.length + s.length

def isWild (s : String) : Bool := s.toList.any fun c => c == '*' || c == '?' || c == '['

end Workbench.Glob
