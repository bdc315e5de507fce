import Workbench.Value.Basic

/-!
# Reading JSON

Reads a JSON document to a value.
-/

namespace Workbench.Json

open Text Decimal

/-- Why a document cannot be read. -/
inductive Cause where
  | value
  | propertyName
  | colon
  | comma
  | extraData
  | unterminated
  | control
  | escape
  | unicodeEscape
  | byteOrderMark
  | tooManyDigits (n : Nat)
  /-- A list or a map inside too many others. -/
  | tooDeep (what : String)
deriving DecidableEq, Repr

def Cause.text : Cause → String
  | .value => "Expecting value"
  | .propertyName => "Expecting property name enclosed in double quotes"
  | .colon => "Expecting ':' delimiter"
  | .comma => "Expecting ',' delimiter"
  | .extraData => "Extra data"
  | .unterminated => "Unterminated string starting at"
  | .control => "Invalid control character at"
  | .escape => "Invalid \\escape"
  | .unicodeEscape => "Invalid \\uXXXX escape"
  | .byteOrderMark => "Unexpected UTF-8 BOM (decode using utf-8-sig)"
  | .tooManyDigits n => "Exceeds the limit (4300 digits) for integer string conversion: value has "
      ++ s!"{n} digits; use sys.set_int_max_str_digits() to increase the limit"
  | .tooDeep what => "maximum recursion depth exceeded while decoding a JSON " ++ what
      ++ " from a unicode string"

/-- Where and why reading stops. -/
structure Error where
  cause : Cause
  pos : Nat
  line : Nat
  column : Nat
deriving DecidableEq, Repr

def Error.message (e : Error) : String :=
  match e.cause with
  | .tooManyDigits _ | .tooDeep _ => e.cause.text
  | c => s!"{c.text}: line {e.line} column {e.column} (char {e.pos})"

def Error.at (text : Chars) (c : Cause) (pos : Nat) : Error :=
  let before := text.take pos
  { cause := c
    pos := pos
    line := before.count '\n' + 1
    column := (before.reverse.takeWhile (· != '\n')).length + 1 }

/-- What is still to be read. -/
structure Rest where
  chars : Chars
  pos : Nat

abbrev Read (α : Type) := Except (Cause × Nat) (α × Rest)

def isSpace (c : Char) : Bool := c == ' ' || c == '\t' || c == '\n' || c == '\r'

def Rest.skip (r : Rest) : Rest :=
  let blank := r.chars.takeWhile isSpace
  ⟨r.chars.drop blank.length, r.pos + blank.length⟩

def Rest.advance (r : Rest) (n : Nat) : Rest := ⟨r.chars.drop n, r.pos + n⟩

def hexValue? (c : Char) : Option Nat :=
  if '0' ≤ c && c ≤ '9' then some (c.toNat - 48)
  else if 'a' ≤ c && c ≤ 'f' then some (c.toNat - 87)
  else if 'A' ≤ c && c ≤ 'F' then some (c.toNat - 55)
  else none

def hex4? : Chars → Option Nat
  | [a, b, c, d] => do
  return ((← hexValue? a) * 16 + (← hexValue? b)) * 256 + (← hexValue? c) * 16 + (← hexValue? d)
  | _ => none

def escapeValue? : Char → Option Char
  | '"' => some '"'
  | '\\' => some '\\'
  | '/' => some '/'
  | 'b' => some (Char.ofNat 8)
  | 'f' => some (Char.ofNat 12)
  | 'n' => some '\n'
  | 'r' => some '\r'
  | 't' => some '\t'
  | _ => none

/-- Reads an escape of four hexadecimal digits, after its `u` at position `pos`; at least one more
character must follow.  A pair of surrogates is one character. -/
def readUnicode (s : Chars) (pos : Nat) : Except (Cause × Nat) (Char × Nat) :=
  if s.length ≤ 4 then .error (.unicodeEscape, pos)
  else match hex4? (s.take 4) with
    | none => .error (.unicodeEscape, pos)
    | some n =>
      if 0xD800 ≤ n && n < 0xDC00 then
        match s.drop 4 with
        | '\\' :: 'u' :: t =>
          match hex4? (t.take 4) with
          | some m =>
            if 0xDC00 ≤ m && m < 0xE000 && 4 < t.length then
              .ok (Char.ofNat (0x10000 + (n - 0xD800) * 1024 + (m - 0xDC00)), 10)
            else .ok (Char.ofNat 0xFFFD, 4)
          | none => .ok (Char.ofNat 0xFFFD, 4)
        | _ => .ok (Char.ofNat 0xFFFD, 4)
      else if 0xDC00 ≤ n && n < 0xE000 then .ok (Char.ofNat 0xFFFD, 4)
      else .ok (Char.ofNat n, 4)

/-- Reads the inside of a text whose opening quote stands at `start`.  `skip` counts characters of
an escape that are still to be passed over, `acc` is the text so far in reverse. -/
def readText (start : Nat) : (skip : Nat) → (acc : Chars) → Chars → (pos : Nat) → Read String
  | _, _, [], _ => .error (.unterminated, start)
  | skip + 1, acc, _ :: s, pos => readText start skip acc s (pos + 1)
  | 0, acc, c :: s, pos =>
    if c == '"' then .ok (.ofList acc.reverse, ⟨s, pos + 1⟩)
    else if c == '\\' then
      match s with
      | [] => .error (.unterminated, start)
      | 'u' :: t =>
        match readUnicode t (pos + 1) with
        | .error e => .error e
        | .ok (ch, n) => readText start (n + 1) (ch :: acc) s (pos + 1)
      | e :: _ =>
        match escapeValue? e with
        | none => .error (.escape, pos)
        | some ch => readText start 1 (ch :: acc) s (pos + 1)
    else if c.toNat < 32 then .error (.control, pos)
    else readText start 0 (c :: acc) s (pos + 1)

def wholePart (s : Chars) : Chars :=
  match s with
  | '0' :: _ => ['0']
  | _ => s.takeWhile isAsciiDigit

def fractionPart (s : Chars) : Chars :=
  match s with
  | '.' :: t => let ds := t.takeWhile isAsciiDigit; if ds.isEmpty then [] else '.' :: ds
  | _ => []

def exponentPart (s : Chars) : Chars :=
  match s with
  | e :: t =>
    if e == 'e' || e == 'E' then
      let sign := match t with
        | '+' :: _ => ['+']
        | '-' :: _ => ['-']
        | _ => []
      let ds := (t.drop sign.length).takeWhile isAsciiDigit
      if ds.isEmpty then [] else e :: sign ++ ds
    else []
  | [] => []

def readNumber (r : Rest) : Read Value :=
  let neg := r.chars.head? == some '-'
  let s := if neg then r.chars.drop 1 else r.chars
  let whole := wholePart s
  if whole.isEmpty then .error (.value, r.pos)
  else
    let s1 := s.drop whole.length
    let frac := fractionPart s1
    let exp := exponentPart (s1.drop frac.length)
    let n := (if neg then 1 else 0) + whole.length + frac.length + exp.length
    if frac.isEmpty && exp.isEmpty then
      if digitLimit < whole.length then .error (.tooManyDigits whole.length, r.pos)
      else
        let v : Int := natOf whole
        .ok (.int (if neg then -v else v), r.advance n)
    else
      let fds := frac.drop 1
      let eds := (exp.drop 1).filter isAsciiDigit
      let e : Int := natOf eds
      let e := if exp.contains '-' then -e else e
      .ok (.float (ofScaled neg (natOf (whole ++ fds)) (e - fds.length)), r.advance n)

def wordValues : List (String × Value) :=
  [("null", .null), ("true", .bool true), ("false", .bool false), ("NaN", .float (0.0 / 0.0)),
   ("Infinity", .float (1.0 / 0.0)), ("-Infinity", .float (-1.0 / 0.0))]

def readAtom (r : Rest) : Read Value :=
  match wordValues.find? fun (w, _) => isFront w.toList r.chars with
  | some (w, v) => .ok (v, r.advance w.length)
  | none => readNumber r

/-- How many lists and maps may stand in one another. -/
def nestingLimit : Nat := 985

mutual

/-- Reads a value with at most `depth` lists and maps in one another.  Every call reads at least one
character or hands on to one that does, so twice the length of the text is fuel enough. -/
def readValue : (fuel depth : Nat) → Rest → Read Value
  | 0, _, r => .error (.value, r.pos)
  | fuel + 1, depth, r =>
    match r.chars with
    | '"' :: s => (readText r.pos 0 [] s (r.pos + 1)).map fun (t, r) => (.str t, r)
    | '\x7b' :: _ =>
      match depth with
      | 0 => .error (.tooDeep "object", r.pos)
      | depth + 1 =>
        let r := (r.advance 1).skip
        match r.chars with
        | '\x7d' :: _ => .ok (.map [], r.advance 1)
        | _ => readMembers fuel depth [] r
    | '[' :: _ =>
      match depth with
      | 0 => .error (.tooDeep "array", r.pos)
      | depth + 1 =>
        let r := (r.advance 1).skip
        match r.chars with
        | ']' :: _ => .ok (.list [], r.advance 1)
        | _ => readItems fuel depth [] r
    | _ => readAtom r

/-- Reads the items of a list after the opening bracket; `acc` holds those read, in reverse. -/
def readItems : (fuel depth : Nat) → (acc : List Value) → Rest → Read Value
  | 0, _, _, r => .error (.value, r.pos)
  | fuel + 1, depth, acc, r =>
    match readValue fuel depth r with
    | .error e => .error e
    | .ok (v, r) =>
      let r := r.skip
      match r.chars with
      | ']' :: _ => .ok (.list (v :: acc).reverse, r.advance 1)
      | ',' :: _ => readItems fuel depth (v :: acc) (r.advance 1).skip
      | _ => .error (.comma, r.pos)

/-- Reads the entries of a map after the opening brace; `acc` holds those read. -/
def readMembers : (fuel depth : Nat) → (acc : List (Value × Value)) → Rest → Read Value
  | 0, _, _, r => .error (.propertyName, r.pos)
  | fuel + 1, depth, acc, r =>
    match r.chars with
    | '"' :: s =>
      match readText r.pos 0 [] s (r.pos + 1) with
      | .error e => .error e
      | .ok (k, r) =>
        let r := r.skip
        match r.chars with
        | ':' :: _ =>
          match readValue fuel depth (r.advance 1).skip with
          | .error e => .error e
          | .ok (v, r) =>
            let r := r.skip
            let acc := Value.put k v acc
            match r.chars with
            | '\x7d' :: _ => .ok (.map acc, r.advance 1)
            | ',' :: _ => readMembers fuel depth acc (r.advance 1).skip
            | _ => .error (.comma, r.pos)
        | _ => .error (.colon, r.pos)
    | _ => .error (.propertyName, r.pos)

end

/-- Reads a text that is one document, with blanks around it. -/
def parse (text : String) : Except Error Value :=
  let s := text.toList
  let fail := fun (e : Cause × Nat) => Error.at s e.1 e.2
  if s.head? == some (Char.ofNat 0xFEFF) then .error (fail (.byteOrderMark, 0))
  else
    match readValue (2 * s.length + 2) nestingLimit (Rest.skip ⟨s, 0⟩) with
    | .error e => .error (fail e)
    | .ok (v, r) =>
      let r := r.skip
      if r.chars.isEmpty then .ok v else .error (fail (.extraData, r.pos))

end Workbench.Json
