import Workbench.Yaml.Node

/-!
# Kinds of plain scalars

What a plain scalar stands for: truth values, numbers in several bases, dates, null, and otherwise
text.
-/

namespace Workbench.Yaml

open Calendar Decimal Text

/-- What a plain scalar stands for. -/
inductive ScalarKind where
  | null
  | bool
  | int
  | float
  | timestamp
  | merge
  | value
  | str
deriving DecidableEq, Repr

def trueWords : List String := ["yes", "Yes", "YES", "true", "True", "TRUE", "on", "On", "ON"]

def falseWords : List String := ["no", "No", "NO", "false", "False", "FALSE", "off", "Off", "OFF"]

def nullWords : List String := ["~", "null", "Null", "NULL", ""]

def unsigned : Chars → Chars
  | '-' :: s => s
  | '+' :: s => s
  | s => s

def allOf (p : Char → Bool) (s : Chars) : Bool := !s.isEmpty && s.all p

def isDigitOrLine (c : Char) : Bool := isAsciiDigit c || c == '_'

def isDigits : Chars → Bool
  | c :: s => isAsciiDigit c && s.all isDigitOrLine
  | [] => false

def isSixtieth : Chars → Bool
  | [a] => isAsciiDigit a
  | [a, b] => '0' ≤ a && a ≤ '5' && isAsciiDigit b
  | _ => false

def colonPieces (s : Chars) : List Chars := splitWhere (· == ':') s

def isWhole (s : Chars) : Bool :=
  match s with
  | '0' :: 'b' :: r => allOf (fun c => c == '0' || c == '1' || c == '_') r
  | '0' :: 'x' :: r => allOf (fun c => (Json.hexValue? c).isSome || c == '_') r
  | '0' :: r => r.all fun c => ('0' ≤ c && c ≤ '7') || c == '_'
  | _ =>
    match colonPieces s with
    | first :: rest => isDigits first && rest.all isSixtieth
    | [] => false

def isExponent : Chars → Bool
  | [] => true
  | e :: sign :: ds =>
    (e == 'e' || e == 'E') && (sign == '-' || sign == '+') && allOf isAsciiDigit ds
  | _ => false

def isFractionTail (s : Chars) : Bool := isExponent (s.dropWhile isDigitOrLine)

def isPointed (signed : Bool) (s : Chars) : Bool :=
  match s with
  | '.' :: r =>
    ["inf", "Inf", "INF"].contains (.ofList r)
      || (!signed && (["nan", "NaN", "NAN"].contains (.ofList r)
        || (match r with
          | c :: _ => isAsciiDigit c && isFractionTail r
          | [] => false)))
  | _ =>
    let whole := s.takeWhile (· != '.')
    match s.drop whole.length with
    | '.' :: r =>
      (isDigits whole && isFractionTail r)
        || (match colonPieces whole with
          | first :: second :: more =>
            isDigits first && (second :: more).all isSixtieth && r.all isDigitOrLine
          | _ => false)
    | _ => false

def oneOrTwo (s : Chars) : Option (Nat × Chars) :=
  match s with
  | a :: b :: r =>
    if isAsciiDigit a then
      if isAsciiDigit b then some ((a.toNat - 48) * 10 + (b.toNat - 48), r)
      else some (a.toNat - 48, b :: r)
    else none
  | [a] => if isAsciiDigit a then some (a.toNat - 48, []) else none
  | [] => none

/-- The parts of a timestamp. -/
structure Stamp where
  date : Calendar.Date
  time : Option (Nat × Nat × Nat) := none
  fraction : Chars := []
  zone : Option Int := none

def readZone? (s : Chars) : Option (Option Int) :=
  match s.dropWhile (fun c => c == ' ' || c == '\t') with
  | [] => if s.isEmpty then some none else none
  | ['Z'] => some (some 0)
  | c :: r =>
    if c == '+' || c == '-' then do
      let (h, r) ← oneOrTwo r
      let m ← match r with
        | [] => some 0
        | [':', a, b] =>
          if isAsciiDigit a && isAsciiDigit b then
            some ((a.toNat - 48) * 10 + (b.toNat - 48)) else none
        | _ => none
      let us : Int := ((h * 60 + m) * 60000000 : Nat)
      some (some (if c == '-' then -us else us))
    else none

def readStampTime? (date : Calendar.Date) (s : Chars) : Option Stamp := do
  let s ← match s with
    | 'T' :: r => some r
    | 't' :: r => some r
    | ' ' :: r => some (r.dropWhile fun c => c == ' ' || c == '\t')
    | '\t' :: r => some (r.dropWhile fun c => c == ' ' || c == '\t')
    | _ => none
  let (h, s) ← oneOrTwo s
  let s ← dropFront? [':'] s
  let (m, s) ← digits? 2 0 s
  let s ← dropFront? [':'] s
  let (sec, s) ← digits? 2 0 s
  let (fraction, s) := match s with
    | '.' :: r => (r.takeWhile isAsciiDigit, r.dropWhile isAsciiDigit)
    | _ => ([], s)
  let zone ← readZone? s
  some { date := date, time := some (h, m, sec), fraction := fraction, zone := zone }

def readStamp? (s : Chars) : Option Stamp := do
  let (year, r) ← digits? 4 0 s
  let r ← dropFront? ['-'] r
  let (month, r1) ← oneOrTwo r
  let r1 ← dropFront? ['-'] r1
  let (day, r2) ← oneOrTwo r1
  if r2.isEmpty then
    (if s.length == 10 then some { date := ⟨year, month, day⟩ } else none)
  else readStampTime? ⟨year, month, day⟩ r2

def scalarKind (s : String) : ScalarKind :=
  let cs := s.toList
  let u := unsigned cs
  if trueWords.contains s || falseWords.contains s then .bool
  else if isPointed (u.length != cs.length) u then .float
  else if isWhole u then .int
  else if s == "<<" then .merge
  else if nullWords.contains s then .null
  else if (readStamp? cs).isSome then .timestamp
  else if s == "=" then .value
  else .str

def digitsIn (base : Nat) (s : Chars) : Nat :=
  (s.filter (· != '_')).foldl (fun n d => base * n + (Json.hexValue? d).getD 0) 0

def wholeValue (s : Chars) : Nat :=
  match s with
  | '0' :: 'b' :: r => digitsIn 2 r
  | '0' :: 'x' :: r => digitsIn 16 r
  | '0' :: r => digitsIn 8 r
  | _ => (colonPieces s).foldl (fun n p => n * 60 + digitsIn 10 p) 0

def pointedValue (s : Chars) : Float :=
  let s := s.filter (· != '_')
  let whole := s.takeWhile isAsciiDigit
  let r := s.drop whole.length
  let frac := (r.drop 1).takeWhile isAsciiDigit
  let exp := (r.drop 1).drop frac.length
  let e : Int := natOf (exp.filter isAsciiDigit)
  ofScaled false (natOf (whole ++ frac)) ((if exp.contains '-' then -e else e) - frac.length)

def floatValue (s : Chars) : Float :=
  match s with
  | '.' :: r =>
    if lower (.ofList r) == "inf" then 1.0 / 0.0
    else if lower (.ofList r) == "nan" then 0.0 / 0.0
    else pointedValue s
  | _ =>
    match (colonPieces s).reverse with
    | [one] => pointedValue one
    | pieces =>
      (pieces.foldl (fun (acc : Float × Float) p => (acc.1 + pointedValue p * acc.2, acc.2 * 60.0))
        (0.0, 1.0)).1

end Workbench.Yaml
