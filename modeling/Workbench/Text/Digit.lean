import Workbench.Text.Letter

/-!
# Decimal digits

Decimal digits of every script.
-/

namespace Workbench.Text

def zeros : List Nat :=
  [1632,1776,1984,2406,2534,2662,2790,2918,3046,3174,3302,3430,3558,3664,3792,3872,4160,4240,6112,
   6160,6470,6608,6784,6800,6992,7088,7232,7248,42528,43216,43264,43472,43504,43600,44016,65296,
   66720,68912,69734,69872,69942,70096,70384,70736,70864,71248,71360,71472,71904,72016,72784,73040,
   73120,92768,92864,93008,120782,120792,120802,120812,120822,123200,123632,125264,130032]

def digitMarkRuns : List Nat :=
  [178,2,5,1,4783,9,1640,1,1685,1,3,6,6,10,982,9,11,9,11,9,89,1,10,9,1,1,630,9,1,9,1,9,58029,4,1052,
   9,489,9,57509,11]

def digitValue? (c : Char) : Option Nat :=
  let n := c.toNat
  if n < 128 then (if '0' ≤ c && c ≤ '9' then some (n - 48) else none)
  else (zeros.find? fun z => z ≤ n && n < z + 10).map (n - ·)

/-- A decimal digit of any script. -/
def isDecimal (c : Char) : Bool := (digitValue? c).isSome

def isDigitMark (c : Char) : Bool := isDecimal c || inRuns c.toNat digitMarkRuns

def isAsciiDigit (c : Char) : Bool := '0' ≤ c && c ≤ '9'

end Workbench.Text
