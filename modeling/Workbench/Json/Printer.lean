import Workbench.Json.Reader

/-!
# Writing JSON

Writes a value as JSON, on one line or indented.  Characters beyond ASCII are written as escapes of
UTF-16 units.
-/

namespace Workbench.Json

open Text

/-- How a document is laid out. -/
structure Layout where
  /-- Blanks per level; `none` for a document on one line. -/
  indent : Option Nat := none
  /-- What separates two items on one line. -/
  comma : String := ", "
  /-- What separates a key from its value. -/
  colon : String := ": "
  /-- Whether dates and the like are written as texts. -/
  datesAsText : Bool := false
  /-- The most digits that a whole number may have; `none` for any number of them. -/
  digits : Option Nat := none

def Layout.line : Layout := {}

def Layout.indented : Layout := { indent := some 2 }

def Layout.compact : Layout := { comma := ",", colon := ":" }

def escapeChar (c : Char) : Chars :=
  let n := c.toNat
  if c == '"' then ['\\', '"']
  else if c == '\\' then ['\\', '\\']
  else if c == '\n' then ['\\', 'n']
  else if c == '\r' then ['\\', 'r']
  else if c == '\t' then ['\\', 't']
  else if n == 8 then ['\\', 'b']
  else if n == 12 then ['\\', 'f']
  else if 32 ≤ n && n < 127 then [c]
  else if n < 65536 then '\\' :: 'u' :: hex 4 n
  else
    let m := n - 65536
    '\\' :: 'u' :: hex 4 (0xD800 + m / 1024) ++ '\\' :: 'u' :: hex 4 (0xDC00 + m % 1024)

/-- A text between quotes, escaped. -/
def quote (s : String) : String := .ofList ('"' :: s.toList.flatMap escapeChar ++ ['"'])

/-- The shortest text that stands for a float. -/
def floatText (x : Float) : String :=
  match Decimal.shape x with
  | .nan => "NaN"
  | .infinite neg => if neg then "-Infinity" else "Infinity"
  | .finite _ => Decimal.floatText x

/-- Why a value cannot be written: its kind has no JSON form, or a number is too long. -/
inductive WriteError where
  | kind (name : String)
  | key (name : String)
  | tooManyDigits (limit : Nat)
deriving DecidableEq, Repr

def kindName : Value → String
  | .null => "NoneType"
  | .bool _ => "bool"
  | .int _ => "int"
  | .float _ => "float"
  | .str _ => "str"
  | .date _ => "date"
  | .time _ => "datetime"
  | .bytes _ => "bytes"
  | .list _ => "list"
  | .tuple _ => "tuple"
  | .set _ => "set"
  | .map _ => "dict"

def WriteError.message : WriteError → String
  | .kind k => "Object of type " ++ k ++ " is not JSON serializable"
  | .key k => "keys must be str, int, float, bool or None, not " ++ k
  | .tooManyDigits n => "Exceeds the limit (" ++ toString n
      ++ " digits) for integer string conversion; "
      ++ "use sys.set_int_max_str_digits() to increase the limit"

def Layout.whole (l : Layout) (n : Int) : Except WriteError String :=
  match l.digits with
  | none => .ok (toString n)
  | some k =>
    if k < (Nat.toDigits 10 n.natAbs).length then .error (.tooManyDigits k) else .ok (toString n)

def Layout.key (l : Layout) : Value → Except WriteError String
  | .str s => .ok s
  | .null => .ok "null"
  | .bool b => .ok (if b then "true" else "false")
  | .int n => l.whole n
  | .float x => .ok (floatText x)
  | v => .error (.key (kindName v))

def Layout.enclose (l : Layout) (level : Nat) (open_ close : String) (parts : List String) :
    String :=
  if parts.isEmpty then open_ ++ close
  else match l.indent with
    | none => open_ ++ join l.comma parts ++ close
    | some n =>
      let pad := "\n" ++ times " " (n * (level + 1))
      open_ ++ pad ++ join ("," ++ pad) parts ++ "\n" ++ times " " (n * level) ++ close

def writeAtom (l : Layout) : Value → Except WriteError String
  | .null => .ok "null"
  | .bool b => .ok (if b then "true" else "false")
  | .int n => l.whole n
  | .float x => .ok (floatText x)
  | .str s => .ok (quote s)
  | v => if l.datesAsText then .ok (quote v.display) else .error (.kind (kindName v))

mutual

def write (l : Layout) (level : Nat) : Value → Except WriteError String
  | .list xs => (writeItems l (level + 1) xs).map (l.enclose level "[" "]")
  | .tuple xs => (writeItems l (level + 1) xs).map (l.enclose level "[" "]")
  | .map es => (writeEntries l (level + 1) es).map (l.enclose level "\x7b" "\x7d")
  | v => writeAtom l v
termination_by structural v => v

def writeItems (l : Layout) (level : Nat) : List Value → Except WriteError (List String)
  | [] => .ok []
  | x :: xs => do return (← write l level x) :: (← writeItems l level xs)
termination_by structural xs => xs

def writeEntries (l : Layout) (level : Nat) : List (Value × Value) → Except WriteError (List String)
  | [] => .ok []
  | e :: es => do return (← writeEntry l level e) :: (← writeEntries l level es)
termination_by structural es => es

def writeEntry (l : Layout) (level : Nat) : Value × Value → Except WriteError String
  | (k, v) => do
    let key ← l.key k
    return quote key ++ l.colon ++ (← write l level v)
termination_by structural e => e

end

/-- A text, and whether it is all that there was to print. -/
abbrev Printed := String × Bool

def Printed.andThen (p rest : Printed) : Printed := if p.2 then (p.1 ++ rest.1, rest.2) else p

/-- What stands inside of brackets before the first part, between two parts and behind the last
one. -/
def Layout.breaks (l : Layout) (level : Nat) : String × String × String :=
  match l.indent with
  | none => ("", l.comma, "")
  | some n =>
    let pad := "\n" ++ times " " (n * (level + 1))
    (pad, "," ++ pad, "\n" ++ times " " (n * level))

def isWhole : Value → Bool
  | .int _ => true
  | _ => false

mutual

/-- Prints a document part by part, up to the first part that cannot be written. -/
def print (l : Layout) (level : Nat) : Value → Printed
  | .list xs =>
    if xs.isEmpty then ("[]", true) else printItems l level ("[" ++ (l.breaks level).1) xs
  | .tuple xs =>
    if xs.isEmpty then ("[]", true) else printItems l level ("[" ++ (l.breaks level).1) xs
  | .map es =>
    if es.isEmpty then ("\x7b\x7d", true)
    else Printed.andThen ("\x7b" ++ (l.breaks level).1, true) (printEntries l level "" es)
  | v => match writeAtom l v with
    | .ok s => (s, true)
    | .error _ => ("", false)
termination_by structural v => v

/-- Prints the items of a list.  What stands before a whole number is printed together with it. -/
def printItems (l : Layout) (level : Nat) (front : String) : List Value → Printed
  | [] => ((l.breaks level).2.2 ++ "]", true)
  | x :: xs =>
    let p := print l (level + 1) x
    let item : Printed := if isWhole x && !p.2 then p else (front ++ p.1, p.2)
    item.andThen (printItems l level (l.breaks level).2.1 xs)
termination_by structural xs => xs

def printEntries (l : Layout) (level : Nat) (front : String) : List (Value × Value) → Printed
  | [] => ((l.breaks level).2.2 ++ "\x7d", true)
  | e :: es => (printEntry l level front e).andThen (printEntries l level (l.breaks level).2.1 es)
termination_by structural es => es

def printEntry (l : Layout) (level : Nat) (front : String) : Value × Value → Printed
  | (k, v) => match l.key k with
    | .error _ => ("", false)
    | .ok key => Printed.andThen (front ++ quote key ++ l.colon, true) (print l (level + 1) v)
termination_by structural e => e

end

/-- The text of a document. -/
def render (l : Layout) (v : Value) : Except WriteError String := write l 0 v

def text (l : Layout) (v : Value) : String :=
  match render l v with
  | .ok s => s
  | .error _ => ""

end Workbench.Json
