import Workbench.World.Fault

/-!
# Templates

Text with fields in braces.
-/

namespace Workbench.Template

open Decimal Text

/-- A field of a template. -/
structure Field where
  name : Chars
  conversion : Option Char := none
  layout : Chars := []

def readName : (inBracket : Bool) → (acc : Chars) → Chars → Result (Chars × Option Char × Chars)
  | _, acc, [] => .ok (acc.reverse, none, [])
  | true, acc, c :: s => readName (c != ']') (c :: acc) s
  | false, acc, c :: s =>
    if c == '\x7b' then .error (.invalid "unexpected '\x7b' in field name")
    else if c == '[' then readName true (c :: acc) s
    else if c == '\x7d' || c == ':' || c == '!' then .ok (acc.reverse, some c, s)
    else readName false (c :: acc) s

/-- A layout up to the brace that closes the field; `depth` counts open braces. -/
def readLayout : (depth : Nat) → (acc : Chars) → Chars → Result (Chars × Chars)
  | _, _, [] => .error (.invalid "unmatched '\x7b' in format spec")
  | depth, acc, c :: s =>
    if c == '\x7b' then readLayout (depth + 1) (c :: acc) s
    else if c == '\x7d' then
      if depth ≤ 1 then .ok (acc.reverse, s) else readLayout (depth - 1) (c :: acc) s
    else readLayout depth (c :: acc) s

def readField (s : Chars) : Result (Field × Chars) := do
  let (name, sign, s) ← readName false [] s
  match sign with
  | some ':' =>
    let (layout, s) ← readLayout 1 [] s
    return ({ name, layout }, s)
  | some '!' =>
    match s with
    | [] => throw (.invalid "end of string while looking for conversion specifier")
    | [_] => throw (.invalid "unmatched '\x7b' in format spec")
    | c :: d :: s =>
      if d == '\x7d' then return ({ name, conversion := some c }, s)
      if d != ':' then throw (.invalid "expected ':' after conversion specifier")
      let (layout, s) ← readLayout 1 [] s
      return ({ name, conversion := some c, layout }, s)
  | some _ => return ({ name }, s)
  | none => throw (.invalid "expected '\x7d' before end of string")

def follow (v : String) : (fuel : Nat) → Chars → Result String
  | 0, _ => .ok v
  | _, [] => .ok v
  | fuel + 1, '[' :: s =>
    let index := s.takeWhile (· != ']')
    match s.dropWhile (· != ']') with
    | [] => .error (.invalid "Missing ']' in format string")
    | _ :: rest =>
      if index.isEmpty then .error (.invalid "Empty attribute in format string")
      else if index.all isAsciiDigit then
        match v.toList[natOf index]? with
        | some c => follow (.ofList [c]) fuel rest
        | none => .error (.index "string index out of range")
      else .error (.kind "string indices must be integers, not 'str'")
  | _, '.' :: s =>
    let name := s.takeWhile fun c => c != '.' && c != '['
    if name.isEmpty then .error (.invalid "Empty attribute in format string")
    else .error (.attribute s!"'str' object has no attribute '{String.ofList name}'")
  | _, _ => .error (.invalid "Only '.' or '[' may follow ']' in format field specifier")

def valueOf (values : List (String × String)) (name : Chars) : Result String := do
  let isEnd := fun (c : Char) => c == '.' || c == '['
  let first := name.takeWhile fun c => !isEnd c
  if first.all isAsciiDigit then
    throw (.index "Replacement index 0 out of range for positional args tuple")
  match values.lookup (.ofList first) with
  | none => throw (.key (.str (.ofList first)))
  | some v => follow v name.length (name.dropWhile fun c => !isEnd c)

def asciiQuoted (s : String) : String :=
  .ofList ((quoted s).toList.flatMap fun c =>
    let n := c.toNat
    if n < 128 then [c]
    else if n < 256 then '\\' :: 'x' :: hex 2 n
    else if n < 65536 then '\\' :: 'u' :: hex 4 n
    else '\\' :: 'U' :: hex 8 n)

def convert (conversion : Option Char) (v : String) : Result String :=
  match conversion with
  | none => .ok v
  | some 's' => .ok v
  | some 'r' => .ok (quoted v)
  | some 'a' => .ok (asciiQuoted v)
  | some c =>
    let shown := if 32 < c.toNat && c.toNat < 127 then .ofList [c]
      else "\\x" ++ .ofList ((hex 8 c.toNat).dropWhile (· == '0'))
    .error (.invalid s!"Unknown conversion specifier {shown}")

/-- Where a field is filled up. -/
inductive Side where
  | left
  | right
  | middle
  | numeric
deriving DecidableEq

def side? : Char → Option Side
  | '<' => some .left
  | '>' => some .right
  | '^' => some .middle
  | '=' => some .numeric
  | _ => none

def place (fill : Char) (side : Side) (width : Nat) (s : Chars) : Chars :=
  let n := width - s.length
  match side with
  | .right => List.replicate n fill ++ s
  | .middle => List.replicate (n / 2) fill ++ s ++ List.replicate (n - n / 2) fill
  | _ => s ++ List.replicate n fill

def leadingNumber (s : Chars) : Result (Option Nat × Chars) :=
  let ds := s.takeWhile isAsciiDigit
  if ds.isEmpty then .ok (none, s)
  else if 9223372036854775807 < natOf ds then
    .error (.invalid "Too many decimal digits in format string")
  else .ok (some (natOf ds), s.drop ds.length)

def signText (c : Char) : String :=
  if 32 < c.toNat && c.toNat < 128 then .ofList [c]
  else "\\x" ++ .ofList ((hex 8 c.toNat).dropWhile (· == '0'))

def numeric : Chars := "defgEG%F".toList

def layOut (layout : Chars) (v : String) : Result String := do
  if layout.isEmpty then return v
  let bad := fun (m : String) => Fault.invalid s!"{m} not allowed in string format specifier"
  let (fill, side, s) := match layout with
    | f :: a :: s => match side? a with
      | some side => (f, some side, s)
      | none => match side? f with
        | some side => (' ', some side, a :: s)
        | none => (' ', none, layout)
    | [a] => match side? a with
      | some side => (' ', some side, [])
      | none => (' ', none, [a])
    | [] => (' ', none, [])
  let filled := match layout with
    | _ :: a :: _ => (side? a).isSome
    | _ => false
  let (sign, s) := match s with
    | '+' :: s => (some "Sign", s)
    | '-' :: s => (some "Sign", s)
    | ' ' :: s => (some "Space", s)
    | s => (none, s)
  let (zero, s) := match s with
    | 'z' :: s => (true, s)
    | s => (false, s)
  let (alternate, s) := match s with
    | '#' :: s => (true, s)
    | s => (false, s)
  let (fill, s) := match s with
    | '0' :: t => if filled then (fill, s) else ('0', t)
    | s => (fill, s)
  let (width, s) ← leadingNumber s
  let (grouping, s) ← match s with
    | ',' :: '_' :: _ => throw (.invalid "Cannot specify both ',' and '_'.")
    | '_' :: ',' :: _ => throw (.invalid "Cannot specify both ',' and '_'.")
    | ',' :: s => pure (some ',', s)
    | '_' :: s => pure (some '_', s)
    | s => pure (none, s)
  let (precision, s) ← match s with
    | '.' :: s => do
      match ← leadingNumber s with
      | (none, _) => throw (.invalid "Format specifier missing precision")
      | (some p, s) => pure (some p, s)
    | s => pure (none, s)
  let type ← match s with
    | [] => pure 's'
    | [c] => pure c
    | _ =>
      throw (.invalid
        s!"Invalid format specifier '{String.ofList layout}' for object of type 'str'")
  let shown := signText type
  match grouping with
  | some g =>
    if !(numeric.contains type || (g == '_' && "boxX".toList.contains type)) then
      throw (.invalid s!"Cannot specify '{String.ofList [g]}' with '{shown}'.")
  | none => pure ()
  if type != 's' then throw (.invalid s!"Unknown format code '{shown}' for object of type 'str'")
  match sign with
  | some m => throw (bad m)
  | none => pure ()
  if zero then throw (bad "Negative zero coercion (z)")
  if alternate then throw (bad "Alternate form (#)")
  if side == some .numeric then throw (bad "'=' alignment")
  let text := match precision with
    | some p => v.toList.take p
    | none => v.toList
  return .ofList (place fill (side.getD .left) (width.getD 0) text)

def fillWith (values : List (String × String)) (inner : Chars → Result Chars) :
    (fuel : Nat) → (acc : Chars) → Chars → Result Chars
  | 0, acc, _ => .ok acc.reverse
  | _, acc, [] => .ok acc.reverse
  | fuel + 1, acc, c :: s =>
    if c == '\x7b' || c == '\x7d' then
      match s with
      | [] => .error (.invalid s!"Single '{String.ofList [c]}' encountered in format string")
      | d :: t =>
        if c == d then fillWith values inner fuel (c :: acc) t
        else if c == '\x7d' then .error (.invalid "Single '\x7d' encountered in format string")
        else do
          let (field, rest) ← readField s
          let v ← convert field.conversion (← valueOf values field.name)
          let layout ← if field.layout.contains '\x7b' then inner field.layout
            else pure field.layout
          let shown ← layOut layout v
          fillWith values inner fuel (shown.toList.reverse ++ acc) rest
    else fillWith values inner fuel (c :: acc) s

/-- Fills a template with named values.  A layout may hold fields, but no layouts with fields
again. -/
def fill (template : String) (values : List (String × String)) : Result String := do
  let deepest := fun _ => throw (.invalid "Max string recursion exceeded")
  let inner := fun (s : Chars) => fillWith values deepest (s.length + 1) [] s
  return .ofList (← fillWith values inner (template.length + 1) [] template.toList)

end Workbench.Template
