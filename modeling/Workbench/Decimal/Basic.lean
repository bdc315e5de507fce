import Workbench.Text.Basic

/-!
# Decimal texts of numbers

How whole numbers and binary floating point numbers are written in decimal and read back.
-/

namespace Workbench.Decimal

open Text

/-! ### Exact rationals -/

def roundDiv (num den : Nat) : Nat :=
  let d := num / den
  let r := num % den
  if 2 * r < den then d
  else if den < 2 * r then d + 1
  else if d % 2 == 0 then d else d + 1

/-- A finite float as `(-1) ^ neg * mant * 2 ^ exp`; `low` tells that the gap to the next smaller
float is half the gap to the next larger one. -/
structure Binary where
  neg : Bool
  mant : Nat
  exp : Int
  low : Bool

/-- What a float stands for. -/
inductive Shape where
  | nan
  | infinite (neg : Bool)
  | finite (b : Binary)

def shape (x : Float) : Shape :=
  let bits := x.toBits.toNat
  let neg := bits / Nat.pow 2 63 == 1
  let e : Nat := bits / Nat.pow 2 52 % 2048
  let f := bits % Nat.pow 2 52
  if e == 2047 then (if f == 0 then .infinite neg else .nan)
  else if e == 0 then .finite ⟨neg, f, -1074, false⟩
  else .finite ⟨neg, f + Nat.pow 2 52, Int.ofNat e - 1075, f == 0 && e > 1⟩

def tenTo (k : Int) : Nat := Nat.pow 10 k.toNat

def twoTo (k : Int) : Nat := Nat.pow 2 k.toNat

def leadingZeros (den : Nat) : (fuel num : Nat) → Nat
  | 0, _ => 0
  | fuel + 1, num => if den ≤ num then 0 else 1 + leadingZeros den fuel (num * 10)

def leadingExponent (num den : Nat) : Int :=
  if den ≤ num then ((Nat.toDigits 10 (num / den)).length : Int) - 1
  else -(leadingZeros den 400 num : Int)

/-! ### The fewest digits that read back -/

def readsBack (even : Bool) (lo hi point : Nat) : Bool :=
  if even then lo ≤ point && point ≤ hi else lo < point && point < hi

/-- Tries `n`, `n + 1`, … digits: on each grid only the two neighbours of the value can be nearest
to it, and the first grid with a point that reads back wins, of two points the nearer.  Gives the
digits as a number and the exponent of the unit. -/
def shortestLoop (b : Binary) (e10 : Int) : (fuel n : Nat) → Nat × Int
  | 0, _ => (0, 0)
  | fuel + 1, n =>
    let unit := e10 - n + 1
    let scale := twoTo (b.exp - 2) * tenTo (-unit)
    let den := twoTo (2 - b.exp) * tenTo unit
    let v := 4 * b.mant * scale
    let lo := (4 * b.mant - (if b.low then 1 else 2)) * scale
    let hi := (4 * b.mant + 2) * scale
    let even := b.mant % 2 == 0
    let d := v / den
    let down := readsBack even lo hi (d * den)
    let up := readsBack even lo hi ((d + 1) * den)
    if down && up then
      (if 2 * (v - d * den) < den || (2 * (v - d * den) == den && d % 2 == 0) then d
        else d + 1, unit)
    else if down then (d, unit)
    else if up then (d + 1, unit)
    else shortestLoop b e10 fuel (n + 1)

def dropZeros (ds : Chars) : Chars := dropEndWhile (· == '0') ds

def shortest (b : Binary) : Chars × Int :=
  let e10 := leadingExponent (b.mant * twoTo b.exp) (twoTo (-b.exp))
  let (d, unit) := shortestLoop b e10 18 1
  let ds := Nat.toDigits 10 d
  (dropZeros ds, unit + ds.length - 1)

def exponentText (e : Int) : String :=
  let ds := toString e.natAbs
  (if e < 0 then "-" else "+") ++ (if ds.length < 2 then "0" ++ ds else ds)

/-- Writes digits with the first one at exponent `e`: positionally from `1e-4` up to below `1e16`,
with at least one digit after the point, and with an exponent elsewhere. -/
def layout (ds : Chars) (e : Int) : String :=
  if -4 ≤ e && e < 16 then
    if e < 0 then "0." ++ times "0" (-e - 1).toNat ++ .ofList ds
    else
      let k := e.toNat + 1
      let whole := ds.take k ++ List.replicate (k - ds.length) '0'
      let frac := ds.drop k
      .ofList whole ++ "." ++ (if frac.isEmpty then "0" else .ofList frac)
  else
    let frac := ds.drop 1
    .ofList (ds.take 1) ++ (if frac.isEmpty then "" else "." ++ .ofList frac)
      ++ "e" ++ exponentText e

def floatText (x : Float) : String :=
  match shape x with
  | .nan => "nan"
  | .infinite neg => if neg then "-inf" else "inf"
  | .finite b =>
    (if b.neg then "-" else "") ++
      (if b.mant == 0 then "0.0" else let (ds, e) := shortest b; layout ds e)

/-! ### A fixed number of places -/

def scaled (b : Binary) (places : Nat) : Nat :=
  roundDiv (b.mant * twoTo b.exp * Nat.pow 10 places) (twoTo (-b.exp))

def pointed (n places : Nat) : String :=
  let ds := Nat.toDigits 10 n
  let ds := List.replicate (places + 1 - ds.length) '0' ++ ds
  let k := ds.length - places
  .ofList (ds.take k) ++ (if places == 0 then "" else "." ++ .ofList (ds.drop k))

def fixed (x : Float) (places : Nat) : String :=
  match shape x with
  | .nan => "nan"
  | .infinite neg => if neg then "-inf" else "inf"
  | .finite b => (if b.neg then "-" else "") ++ pointed (scaled b places) places

def roundTo (x : Float) (places : Nat) : Float :=
  match shape x with
  | .finite b =>
    let y := Float.ofScientific (scaled b places) true places
    if b.neg then -y else y
  | _ => x

def roundWhole (x : Float) : Int :=
  match shape x with
  | .finite b => let n := scaled b 0; if b.neg then -(n : Int) else n
  | _ => 0

def truncate (x : Float) : Int :=
  match shape x with
  | .finite b =>
    let n := b.mant * twoTo b.exp / twoTo (-b.exp)
    if b.neg then -(n : Int) else n
  | _ => 0

def ofInt (n : Int) : Float := if n < 0 then -(Float.ofNat n.natAbs) else Float.ofNat n.natAbs

def unrounded (n : Nat) : Float.Model.UnpackedFloat :=
  if h : n = 0 then .zero .positive else .finite .positive n 0 (Nat.pos_of_ne_zero h)

def quotient (a b : Nat) : Float := .ofModel (.pack (.div .binary64 (unrounded a) (unrounded b)))

/-- Half way from the greatest float to the next power of two: what is nearer to that power, or as
near, is no float. -/
def floatBound : Nat := Nat.pow 2 1024 - Nat.pow 2 970

/-! ### Reading whole numbers -/

/-- How many digits a text of an integer may have. -/
def digitLimit : Nat := 4300

/-- Why a text is no number. -/
inductive ReadError where
  | notANumber
  | tooLong (digits : Nat)
deriving DecidableEq, Repr

def digitGroup : Chars → Option (List Nat)
  | [] => none
  | [c] => (digitValue? c).map ([·])
  | c :: '_' :: rest => (digitValue? c).bind fun d => (digitGroup rest).map (d :: ·)
  | c :: rest => (digitValue? c).bind fun d => (digitGroup rest).map (d :: ·)

def ofDigits (ds : List Nat) : Nat := ds.foldl (fun n d => 10 * n + d) 0

def readNat (s : Chars) : Except ReadError Nat :=
  match digitGroup s with
  | none => .error .notANumber
  | some ds => if digitLimit < ds.length then .error (.tooLong ds.length) else .ok (ofDigits ds)

def readInt (s : String) : Except ReadError Int :=
  match trimWhile isBlank s.toList with
  | '-' :: rest => (readNat rest).map fun n => -(n : Int)
  | '+' :: rest => (readNat rest).map fun n => (n : Int)
  | rest => (readNat rest).map fun n => (n : Int)

/-! ### Reading decimals -/

/-- The number that digits stand for. -/
def natOf (ds : Chars) : Nat := ds.foldl (fun n d => 10 * n + (d.toNat - 48)) 0

def ofScaled (neg : Bool) (digits : Nat) (exp : Int) : Float :=
  let x :=
    if digits == 0 then 0.0
    else if exp < -400000 then 0.0
    else if 400000 < exp then 1.0 / 0.0
    else Float.ofScientific digits (exp < 0) exp.natAbs
  if neg then -x else x

/-- The digits at the front, as ASCII, with single underscores between digits dropped; `after` says
that a digit stands before. -/
def digitRun : (after : Bool) → Chars → Chars × Chars
  | _, [] => ([], [])
  | after, c :: s =>
    match digitValue? c with
    | some d => let (ds, rest) := digitRun true s; (Char.ofNat (48 + d) :: ds, rest)
    | none => if c == '_' && after && s.head?.any isDecimal then digitRun false s else ([], c :: s)

def readExponent? : Chars → Option Int
  | [] => some 0
  | c :: s =>
    if c == 'e' || c == 'E' then
      let (neg, s) := match s with
        | '-' :: s => (true, s)
        | '+' :: s => (false, s)
        | s => (false, s)
      match digitRun false s with
      | (d :: ds, []) => let e : Int := natOf (d :: ds); some (if neg then -e else e)
      | _ => none
    else none

/-- Reads a number without sign: digits with a point and an exponent, or the words for infinity and
for no number. -/
def readUnsigned? (neg : Bool) (s : Chars) : Option Float :=
  let word := s.map lowerOne
  if word == "inf".toList || word == "infinity".toList then
    some (if neg then -1.0 / 0.0 else 1.0 / 0.0)
  else if word == "nan".toList then some (0.0 / 0.0)
  else
    let (whole, s) := digitRun false s
    let (frac, s) := match s with
      | '.' :: s => digitRun false s
      | s => ([], s)
    if whole.isEmpty && frac.isEmpty then none
    else (readExponent? s).map fun e => ofScaled neg (natOf (whole ++ frac)) (e - frac.length)

def readFloat? (s : String) : Option Float :=
  match trimWhile isBlank s.toList with
  | '-' :: rest => readUnsigned? true rest
  | '+' :: rest => readUnsigned? false rest
  | rest => readUnsigned? false rest

end Workbench.Decimal
