import Workbench.Calendar.Basic
import Workbench.Text.Digit

/-!
# Dates in numbers

Dates as people write them: year, month and day as numbers in some order, with a mark between them.
-/

namespace Workbench.Calendar

/-- A part of a date. -/
inductive DatePart where
  | year
  | month
  | day
deriving DecidableEq, Repr

def nonZero? (c : Char) : Option Nat := if '1' ≤ c && c ≤ '9' then some (c.toNat - 48) else none

def readYear? : Chars → Option (Nat × Chars)
  | a :: b :: c :: d :: s => do
    let n := fun x => Text.digitValue? x
    return ((← n a) * 1000 + (← n b) * 100 + (← n c) * 10 + (← n d), s)
  | _ => none

def readShort? : Chars → Option (Nat × Chars)
  | a :: s => (nonZero? a).map (·, s)
  | [] => none

def readMonth? : Chars → Option (Nat × Chars)
  | '1' :: '0' :: s => some (10, s)
  | '1' :: '1' :: s => some (11, s)
  | '1' :: '2' :: s => some (12, s)
  | '0' :: s => readShort? s
  | s => readShort? s

def readTens (tens : Nat) : Chars → Nat × Chars
  | [] => (tens, [])
  | a :: s =>
    match Text.digitValue? a with
    | some n => (tens * 10 + n, s)
    | none => (tens, a :: s)

def readDay? : Chars → Option (Nat × Chars)
  | '3' :: '0' :: s => some (30, s)
  | '3' :: '1' :: s => some (31, s)
  | '1' :: s => some (readTens 1 s)
  | '2' :: s => some (readTens 2 s)
  | '0' :: s => readShort? s
  | ' ' :: s => readShort? s
  | s => readShort? s

def DatePart.read? : DatePart → Chars → Option (Nat × Chars)
  | .year => readYear?
  | .month => readMonth?
  | .day => readDay?

def DatePart.put (n : Nat) (d : Date) : DatePart → Date
  | .year => { d with year := n }
  | .month => { d with month := n }
  | .day => { d with day := n }

def readParts? (mark : Char) (d : Date) : List DatePart → Chars → Option Date
  | [], _ => none
  | [p], s => do
    let (n, rest) ← p.read? s
    if rest.isEmpty then some (p.put n d) else none
  | p :: ps, s => do
    match ← p.read? s with
    | (n, c :: rest) => if c == mark then readParts? mark (p.put n d) ps rest else none
    | (_, []) => none

def Date.read? (mark : Char) (order : List DatePart) (text : String) : Option Date := do
  let d ← readParts? mark default order text.toList
  if d.Valid then some d else none

end Workbench.Calendar
