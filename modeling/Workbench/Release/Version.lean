import Workbench.World.Fault

/-!
# Versions

A version is three whole numbers.
-/

namespace Workbench.Release

/-- A version of three numbers. -/
structure Version where
  major : Int
  minor : Int
  patch : Int
deriving DecidableEq, Repr

namespace Version

def digits? (s : Chars) : Option (Chars × Chars) :=
  let ds := s.takeWhile Text.isDecimal
  if ds.isEmpty then none else some (ds, s.drop ds.length)

def dropDot? : Chars → Option Chars
  | '.' :: s => some s
  | _ => none

def groups? (s : Chars) : Option (Chars × Chars × Chars) := do
  let s := if s.head? == some 'v' then s.drop 1 else s
  let (a, s) ← digits? s
  let (b, s) ← digits? (← dropDot? s)
  let (c, _) ← digits? (← dropDot? s)
  return (a, b, c)

def number (ds : Chars) : Result Nat :=
  match Decimal.readNat ds with
  | .ok n => .ok n
  | .error (.tooLong n) => .error (Fault.tooLong n)
  | .error .notANumber => .error (Fault.notNumber (.ofList ds))

def parse (text : String) : Result Version :=
  match groups? text.toList with
  | none => .error (.invalid ("Invalid version format: " ++ text))
  | some (a, b, c) => do return ⟨← number a, ← number b, ← number c⟩

def numberText (n : Int) : Result String :=
  let s := toString n.natAbs
  if Decimal.digitLimit < s.length then
    .error (.invalid ("Exceeds the limit (4300 digits) for integer string conversion; "
      ++ "use sys.set_int_max_str_digits() to increase the limit"))
  else .ok (if n < 0 then "-" ++ s else s)

def format (v : Version) : Result String := do
  return (← numberText v.major) ++ "." ++ (← numberText v.minor) ++ "." ++ (← numberText v.patch)

def formatAny (major minor patch : Value) : Result String :=
  match major, minor, patch with
  | .int a, .int b, .int c => format ⟨a, b, c⟩
  | a, b, c => .ok (Text.join "." [a.display, b.display, c.display])

end Version

/-- The number that is raised. -/
inductive Bump where
  | major
  | minor
  | patch
deriving DecidableEq, Repr

def Bump.name : Bump → String
  | .major => "major"
  | .minor => "minor"
  | .patch => "patch"

def Bump.ofName? : String → Option Bump
  | "major" => some .major
  | "minor" => some .minor
  | "patch" => some .patch
  | _ => none

def Version.bump (v : Version) : Bump → Version
  | .major => ⟨v.major + 1, 0, 0⟩
  | .minor => ⟨v.major, v.minor + 1, 0⟩
  | .patch => ⟨v.major, v.minor, v.patch + 1⟩

def bumpText (current kind : String) : Result String := do
  let v ← Version.parse current
  match Bump.ofName? kind with
  | some b => (v.bump b).format
  | none => throw (.invalid ("Invalid bump type: " ++ kind))

end Workbench.Release
