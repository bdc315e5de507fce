import Workbench.Source.Grammar
import Workbench.Json.Reader

/-!
# Strings in programs

The text that a string literal denotes, and the expressions inside a formatted string.
-/

namespace Workbench.Source

/-- The parts of a string literal: its letters, its inside and the number of characters before the
inside. -/
structure Quoted where
  raw : Bool
  bytes : Bool
  formatted : Bool
  inside : Chars
  start : Nat

def Quoted.ofToken (t : Token) : Quoted :=
  let s := t.text.toList
  let letters := (s.takeWhile fun c => c != '"' && c != '\'').map Char.toLower
  let body := s.drop letters.length
  let triple := match body with
    | a :: b :: c :: _ => 6 ≤ body.length && a == b && b == c
    | _ => false
  let n := if triple then 3 else 1
  { raw := letters.contains 'r', bytes := letters.contains 'b', formatted := letters.contains 'f'
    inside := (body.drop n).take (body.length - 2 * n), start := letters.length + n }

def escapedWidth (c : Char) : Nat := if c.toNat < 128 then 1 else 10

def escapeError (from_ to_ : Nat) (what : String) : String :=
  s!"(unicode error) 'unicodeescape' codec can't decode bytes in position {from_}-{to_}: {what}"

def hexFront : (n : Nat) → Chars → Chars
  | n + 1, c :: s => if isHexDigit c then c :: hexFront n s else []
  | _, _ => []

def charOf (n : Nat) : Char := if n.isValidChar then Char.ofNat n else Char.ofNat 0xFFFD

def baseValue (base : Nat) (ds : Chars) : Nat :=
  ds.foldl (fun n d => base * n + (Json.hexValue? d).getD 0) 0

def unescape : (fuel : Nat) → (pos : Nat) → Chars → Except String Chars
  | 0, _, _ => .ok []
  | _, _, [] => .ok []
  | _, _, ['\\'] => .ok ['\\']
  | fuel + 1, pos, '\\' :: c :: s =>
    let keep :=
      fun (out : Chars) (n : Nat) (rest : Chars) => (unescape fuel (pos + n) rest).map (out ++ ·)
    let hex := fun (n : Nat) (what : String) =>
      let ds := hexFront n s
      if ds.length == n then
        if 0x10FFFF < baseValue 16 ds then
          .error (escapeError pos (pos + 1 + n) "illegal Unicode character")
        else keep [charOf (baseValue 16 ds)] (2 + n) (s.drop n)
      else .error (escapeError pos (pos + 1 + ds.length) s!"truncated {what} escape")
    match c with
    | '\n' => keep [] 2 s
    | '\\' => keep ['\\'] 2 s
    | '\'' => keep ['\''] 2 s
    | '"' => keep ['"'] 2 s
    | 'a' => keep [Char.ofNat 7] 2 s
    | 'b' => keep [Char.ofNat 8] 2 s
    | 'f' => keep [Char.ofNat 12] 2 s
    | 'n' => keep ['\n'] 2 s
    | 'r' => keep ['\r'] 2 s
    | 't' => keep ['\t'] 2 s
    | 'v' => keep [Char.ofNat 11] 2 s
    | 'x' => hex 2 "\\xXX"
    | 'u' => hex 4 "\\uXXXX"
    | 'U' => hex 8 "\\UXXXXXXXX"
    | 'N' =>
      match s with
      | '\x7b' :: t =>
        let name := t.takeWhile (· != '\x7d')
        if name.isEmpty || name.length == t.length then
          .error (escapeError pos (pos + 2 + (if name.length == t.length then name.length else 0))
            "malformed \\N character escape")
        else keep [Char.ofNat 0xFFFD] (name.length + 4) (t.drop (name.length + 1))
      | _ => .error (escapeError pos (pos + 1) "malformed \\N character escape")
    | _ =>
      if '0' ≤ c && c ≤ '7' then
        let ds := c :: ((s.take 2).takeWhile fun d => '0' ≤ d && d ≤ '7')
        keep [charOf (baseValue 8 ds)] (1 + ds.length) (s.drop (ds.length - 1))
      else keep ['\\', c] (1 + escapedWidth c) s
  | fuel + 1, pos, c :: s => (unescape fuel (pos + escapedWidth c) s).map (c :: ·)

def decode (raw : Bool) (line : Nat) (s : Chars) : Except Refusal Chars :=
  if raw || !s.contains '\\' then .ok s
  else match unescape (s.length + 1) 0 s with
    | .ok t => .ok t
    | .error m => .error { message := m, line := line }

/-! ### Bytes -/

/-- Whether the escapes of a bytes literal are whole; otherwise the position of the one that is
not. -/
def badByteEscape? : (fuel : Nat) → (pos : Nat) → Chars → Option Nat
  | 0, _, _ => none
  | _, _, [] => none
  | fuel + 1, pos, '\\' :: 'x' :: s =>
    if (hexFront 2 s).length == 2 then badByteEscape? fuel (pos + 4) (s.drop 2) else some pos
  | fuel + 1, pos, '\\' :: _ :: s => badByteEscape? fuel (pos + 2) s
  | fuel + 1, pos, _ :: s => badByteEscape? fuel (pos + 1) s

/-! ### Formatted strings -/

abbrev Formats := Except Refusal

/-- What ends literal text. -/
inductive LiteralEnd where
  /-- A doubled brace; more literal text follows. -/
  | brace
  /-- An expression, the end of a format, or the end of the text. -/
  | stop

/-- Reads literal text up to an expression.  Gives the text as written, how it ended, and the
rest. -/
def readLiteral (raw nested : Bool) (refuse : String → Refusal) : (fuel : Nat) → (acc : Chars) →
    Chars → Formats (Chars × LiteralEnd × Chars)
  | 0, acc, s => .ok (acc.reverse, .stop, s)
  | _, acc, [] => .ok (acc.reverse, .stop, [])
  | fuel + 1, acc, c :: s =>
    let brace := fun (acc : Chars) (c : Char) (s : Chars) =>
      if nested then Except.ok (acc.reverse, LiteralEnd.stop, c :: s)
      else if s.head? == some c then .ok ((c :: acc).reverse, .brace, s.drop 1)
      else if c == '\x7d' then .error (refuse "f-string: single '\x7d' is not allowed")
      else .ok (acc.reverse, .stop, c :: s)
    if !raw && c == '\\' then
      match s with
      | [] => .ok ((c :: acc).reverse, .stop, [])
      | 'N' :: '\x7b' :: t =>
        let name := t.takeWhile (· != '\x7d')
        let n := name.length + (if name.length < t.length then 1 else 0)
        readLiteral raw nested refuse fuel
          ((t.take n).reverse ++ '\x7b' :: 'N' :: '\\' :: acc) (t.drop n)
      | 'N' :: d :: t => readLiteral raw nested refuse fuel (d :: 'N' :: '\\' :: acc) t
      | d :: t =>
        if d == '\x7b' || d == '\x7d' then brace ('\\' :: acc) d t
        else readLiteral raw nested refuse fuel (d :: '\\' :: acc) t
    else if c == '\x7b' || c == '\x7d' then brace acc c s
    else readLiteral raw nested refuse fuel (c :: acc) s

/-- The state of reading an expression: the open quote, whether it is tripled, the open brackets. -/
structure Inside where
  quote : Option (Char × Bool) := none
  brackets : Chars := []

/-- Reads an expression up to the sign that ends it.  Gives the expression and the rest. -/
def readExpression (refuse : String → Refusal) : (fuel : Nat) → Inside → (acc : Chars) → Chars →
    Formats (Inside × Chars × Chars)
  | 0, i, acc, s => .ok (i, acc.reverse, s)
  | _, i, acc, [] => .ok (i, acc.reverse, [])
  | fuel + 1, i, acc, c :: s =>
    let go := fun (i : Inside) (n : Nat) =>
      readExpression refuse fuel i (((c :: s).take n).reverse ++ acc) ((c :: s).drop n)
    let tripled := 2 ≤ s.length && s.head? == some c && s[1]? == some c
    if c == '\\' then .error (refuse "f-string expression part cannot include a backslash")
    else match i.quote with
      | some (q, triple) =>
        if c == q then
          if triple then (if tripled then go { i with quote := none } 3 else go i 1)
          else go { i with quote := none } 1
        else go i 1
      | none =>
        if c == '\'' || c == '"' then
          if tripled then go { i with quote := some (c, true) } 3
          else go { i with quote := some (c, false) } 1
        else if c == '[' || c == '(' || c == '\x7b' then
          if 200 ≤ i.brackets.length then .error (refuse "f-string: too many nested parenthesis")
          else go { i with brackets := c :: i.brackets } 1
        else if c == '#' then .error (refuse "f-string expression part cannot include '#'")
        else if i.brackets.isEmpty && "!:\x7d=><".toList.contains c then
          if "!=<>".toList.contains c && s.head? == some '=' then go i 2
          else if c == '>' || c == '<' then go i 1
          else .ok (i, acc.reverse, c :: s)
        else match opening? c with
          | none => go i 1
          | some o =>
            match i.brackets with
            | [] => .error (refuse s!"f-string: unmatched {inQuotes c}")
            | b :: rest =>
              if b == o then go { i with brackets := rest } 1
              else .error (refuse (s!"f-string: closing parenthesis {inQuotes c}"
                ++ s!" does not match opening parenthesis {inQuotes b}"))

/-- What a formatted string is read with: whether it is raw, its refusals, the parser of
expressions, the text of the token up to the inside, the lines of the tree, and the lines of the
token alone. -/
structure Formatting where
  raw : Bool
  refuse : String → Refusal
  decode : Chars → Formats Chars
  expression : (text : Chars) → (before : Nat) → Formats Tree
  node : Kind → List Tree → Tree
  own : Kind → List Tree → Tree

def Formatting.literal (f : Formatting) (s : Chars) : Formats Chars :=
  if s.isEmpty then .ok [] else f.decode s

def addText (parts : List (Chars ⊕ Tree)) (s : Chars) : List (Chars ⊕ Tree) :=
  if s.isEmpty then parts
  else match parts with
    | .inl t :: rest => .inl (t ++ s) :: rest
    | _ => .inl s :: parts

/-- The trees of the parts of a format, which are in reverse.  Text at the end spans the lines of
the token. -/
def Formatting.trees (f : Formatting) (parts : List (Chars ⊕ Tree)) : List Tree :=
  let tree := fun (node : Kind → List Tree → Tree) (p : Chars ⊕ Tree) => match p with
    | .inl s => (node (.literal (.str (.ofList s))) []).as "values"
    | .inr t => t.as "values"
  match parts with
  | [] => []
  | p :: ps => (tree f.own p :: ps.map (tree f.node)).reverse

def isAllGap (s : Chars) : Bool := s.all fun c => c == ' ' || c == '\t' || c == '\n' || c == '\x0c'

mutual

/-- Reads parts of a formatted string; `nested` counts the formats around, `size` is the length of
the whole inside. -/
def readParts (f : Formatting) (size nested : Nat) : (fuel : Nat) → List (Chars ⊕ Tree) → Chars →
    Formats (List (Chars ⊕ Tree) × Chars)
  | 0, parts, s => .ok (parts, s)
  | fuel + 1, parts, s => do
    let (text, ended, s) ← readLiteral f.raw (0 < nested) f.refuse (s.length + 1) [] s
    let parts := addText parts (← f.literal text)
    match ended with
    | .brace => readParts f size nested fuel parts s
    | .stop =>
      match s with
      | '\x7b' :: _ =>
        let (shown, t, s) ← readField f size nested fuel s
        readParts f size nested fuel (.inr t :: addText parts shown) s
      | _ => return (parts, s)

/-- Reads an expression in braces with its conversion and format.  Gives text to show before it, the
tree and the rest. -/
def readField (f : Formatting) (size nested : Nat) :
    (fuel : Nat) → Chars → Formats (Chars × Tree × Chars)
  | 0, s => .ok ([], f.node .formatted [], s)
  | fuel + 1, s => do
    if 2 ≤ nested then throw (f.refuse "f-string: expressions nested too deeply")
    let before := size - s.length
    let (i, text, s) ← readExpression f.refuse (s.length + 1) {} [] (s.drop 1)
    if i.quote.isSome then throw (f.refuse "f-string: unterminated string")
    match i.brackets with
    | b :: _ => throw (f.refuse s!"f-string: unmatched {inQuotes b}")
    | [] => pure ()
    let ended := f.refuse "f-string: expecting '\x7d'"
    match s with
    | [] => throw ended
    | e :: _ =>
      if isAllGap text then
        if e == '!' || e == ':' || e == '=' then
          throw (f.refuse s!"f-string: expression required before {inQuotes e}")
        throw (f.refuse "f-string: empty expression not allowed")
    let value ← f.expression text before
    let (shown, s) := match s with
      | '=' :: t => (text ++ ['='], t)
      | s => ([], s)
    -- blanks after the sign are shown too
    let gap := if shown.isEmpty then [] else s.takeWhile fun c =>
      c == ' ' || c == '\t' || c == '\n' || c == '\x0c'
    let shown := shown ++ gap
    let s := s.drop gap.length
    let s ← match s with
      | '!' :: t => match t with
        | [] => throw ended
        | c :: t =>
          if c == 's' || c == 'r' || c == 'a' then pure t
          else throw (f.refuse "f-string: invalid conversion character: expected 's', 'r', or 'a'")
      | s => pure s
    let (spec, s) ← match s with
      | ':' :: t =>
        if t.isEmpty then throw ended
        let (parts, s) ← readParts f size (nested + 1) fuel [] t
        match s with
        | '\x7d' :: _ => pure ()
        | _ => throw ended
        pure ([(f.own .joined (f.trees parts)).as "format_spec"], s)
      | s => pure ([], s)
    match s with
    | '\x7d' :: s => return (shown, f.node .formatted (value.as "value" :: spec), s)
    | _ => throw ended

end

/-! ### Neighbouring strings -/

def tokenParts (scene : Scene) (node : Kind → List Tree → Tree) (t : Token)
    (parts : List (Chars ⊕ Tree)) :
    Formats (List (Chars ⊕ Tree)) := do
  let q := Quoted.ofToken t
  let text := t.text.toList
  if q.formatted then
    let f : Formatting :=
      { raw := q.raw
        refuse := fun m => { message := m, line := scene.lastLine }
        decode := decode q.raw scene.lastLine
        expression := fun e before =>
          let lines := ((text.take (q.start + before)).filter (· == '\n')).length
          scene.expression e (t.line + lines)
        node := node
        own := fun k cs => Tree.node "" k t.line t.endLine cs }
    let (parts, rest) ← readParts f q.inside.length 0 (q.inside.length + 1) parts q.inside
    if 1 < rest.length then throw (f.refuse "f-string: unexpected end of string")
    return parts
  else return addText parts (← decode q.raw scene.lastLine q.inside)

def checkBytes (scene : Scene) (t : Token) (q : Quoted) : Formats Unit := do
  if q.inside.any fun c => 128 ≤ c.toNat then
    throw { message := "bytes can only contain ASCII literal characters", line := t.line }
  if !q.raw then
    match badByteEscape? (q.inside.length + 1) 0 q.inside with
    | some pos =>
      throw { message := s!"(value error) invalid \\x escape at position {pos}",
              line := scene.lastLine }
    | none => pure ()

/-- The parts of string tokens one after another; `bytes` is whether the tokens before are bytes. -/
def tokensParts (scene : Scene) (node : Kind → List Tree → Tree) :
    (bytes : Option Bool) → List Token →
    List (Chars ⊕ Tree) → Formats (List (Chars ⊕ Tree))
  | _, [], parts => .ok parts
  | bytes, t :: ts, parts => do
    let q := Quoted.ofToken t
    if q.bytes then checkBytes scene t q
    else if !q.formatted then
      let _ ← decode q.raw scene.lastLine q.inside
    if bytes.any (· != q.bytes) then
      throw { message := "cannot mix bytes and nonbytes literals", line := scene.lastLine }
    let parts ← if q.bytes then pure parts else tokenParts scene node t parts
    tokensParts scene node (some q.bytes) ts parts

def joinStrings (scene : Scene) (tokens : List Token) : Formats Tree := do
  let node := fun k cs => Tree.node "" k scene.line scene.endLine cs
  let quoteds := tokens.map Quoted.ofToken
  let parts ← tokensParts scene node none tokens []
  if quoteds.any (·.bytes) then return node (.literal .bytes) []
  if quoteds.any (·.formatted) then
    let trees := (parts.reverse.map fun p => match p with
      | .inl s => node (.literal (.str (.ofList s))) []
      | .inr t => t).map (·.as "values")
    return node .joined trees
  let text := parts.reverse.flatMap fun p => match p with
    | .inl s => s
    | .inr _ => []
  return node (.literal (.str (.ofList text))) []

end Workbench.Source
