import Workbench.Text.Identifier
import Workbench.Text.Quoted

/-!
# Tokens

Cuts the text of a Python program into tokens.
-/

namespace Workbench.Source

open Text

/-- The kinds of tokens. -/
inductive Class where
  | name
  | number
  | string
  | operator
  | newline
  | indent
  | dedent
  | endmarker
  | async
  | await
deriving DecidableEq, Repr, Inhabited

/-- A token, with the lines it spans and the number of brackets open after it. -/
structure Token where
  cls : Class
  text : String
  line : Nat
  endLine : Nat
  level : Nat
deriving DecidableEq, Repr, Inhabited

/-- How cutting ends. -/
inductive Ending where
  /-- All of the text is cut. -/
  | complete
  /-- A token is malformed; the reason and the line. -/
  | malformed (text : String) (line : Nat)
  /-- The text ends inside a bracket that was opened on a line. -/
  | unclosed (bracket : Char) (opened : Nat)
  /-- A line that is indented like no block around it. -/
  | dedent (line : Nat)
  /-- Tabs and spaces that do not agree. -/
  | tabs (line : Nat)
  | tooDeep (line : Nat)
  /-- A character after a backslash at the end of a line. -/
  | afterBackslash (line : Nat)
  /-- The text ends after a backslash. -/
  | endOfText (line : Nat)
deriving DecidableEq, Repr, Inhabited

/-- A place in the text.  `fresh` says that the next character starts a line that is not counted
yet. -/
structure Cursor where
  rest : Chars
  line : Nat := 0
  fresh : Bool := true
deriving Inhabited

namespace Cursor

def touch (c : Cursor) : Cursor :=
  if c.fresh && !c.rest.isEmpty then { c with line := c.line + 1, fresh := false } else c

def next (c : Cursor) : Cursor :=
  match c.touch with
  | ⟨[], l, f⟩ => ⟨[], l, f⟩
  | ⟨x :: s, l, _⟩ => ⟨s, l, x == '\n'⟩

def skip : (n : Nat) → Cursor → Cursor
  | 0, c => c
  | n + 1, c => skip n c.next

end Cursor

/-- What is still to be cut. -/
structure Lexer where
  cursor : Cursor
  lineStart : Bool := true
  /-- Columns of the open blocks, counting tabs to multiples of eight and as one. -/
  indents : List (Nat × Nat) := [(0, 0)]
  /-- Blocks to open (positive) or to close (negative). -/
  pending : Int := 0
  /-- Open brackets with their lines. -/
  brackets : List (Char × Nat) := []
deriving Inhabited

/-- One step of cutting. -/
inductive Step where
  | token (t : Token) (s : Lexer)
  | blank (s : Lexer)
  | stop (e : Ending)

def startsName (c : Char) : Bool :=
  ('a' ≤ c && c ≤ 'z') || ('A' ≤ c && c ≤ 'Z') || c == '_' || 128 ≤ c.toNat

def isNamePart (c : Char) : Bool := startsName c || isAsciiDigit c

/-! ### Indentation -/

/-- How far a line is indented. -/
structure Indent where
  col : Nat := 0
  alt : Nat := 0
  /-- The column of a backslash that joined lines, if it is not zero. -/
  joined : Nat := 0

def readIndent : (fuel : Nat) → Indent → Cursor → Except Ending (Indent × Cursor)
  | 0, i, c => .ok (i, c)
  | fuel + 1, i, c =>
    let c := c.touch
    match c.rest with
    | ' ' :: _ => readIndent fuel { i with col := i.col + 1, alt := i.alt + 1 } c.next
    | '\t' :: _ => readIndent fuel { i with col := (i.col / 8 + 1) * 8, alt := i.alt + 1 } c.next
    | '\x0c' :: _ => readIndent fuel { i with col := 0, alt := 0 } c.next
    | '\\' :: '\n' :: s =>
      if s.isEmpty then .error (.endOfText c.line)
      else
        readIndent fuel { i with joined := if i.joined == 0 then i.col else i.joined }
          (c.skip 2).touch
    | '\\' :: _ => .error (.afterBackslash c.line)
    | _ => .ok (i, c)

def closeBlocks (col : Nat) : List (Nat × Nat) → List (Nat × Nat)
  | (c, a) :: more :: rest =>
    if col < c then closeBlocks col (more :: rest) else (c, a) :: more :: rest
  | blocks => blocks

def adjust (s : Lexer) (col alt line : Nat) : Except Ending Lexer :=
  let (c, a) := s.indents.headD (0, 0)
  if col == c then
    if alt == a then .ok s else .error (.tabs line)
  else if c < col then
    if 100 ≤ s.indents.length then .error (.tooDeep line)
    else if alt ≤ a then .error (.tabs line)
    else .ok { s with indents := (col, alt) :: s.indents, pending := s.pending + 1 }
  else
    let blocks := closeBlocks col s.indents
    let (c, a) := blocks.headD (0, 0)
    if col != c then .error (.dedent line)
    else if alt != a then .error (.tabs line)
    else
      .ok { s with
        indents := blocks, pending := s.pending - (s.indents.length - blocks.length : Nat) }

/-! ### Numbers -/

def malformed (line : Nat) (text : String) : Ending := .malformed text line

def mayFollow (s : Chars) : Bool :=
  (["if", "in", "is"].any fun w => isFront w.toList s)
    || ["and", "else", "for", "or", "not"].any fun w =>
      match dropFront? w.toList s with
      | some t => !t.head?.any isNamePart
      | none => false

def endNumber (kind : String) (line : Nat) (s : Chars) : Except Ending Unit :=
  if mayFollow s then .ok ()
  else if s.head?.any (fun c => c.toNat < 128 && isNamePart c) then
    .error (malformed line s!"invalid {kind} literal")
  else .ok ()

def digitsTail (line : Nat) : Chars → Except Ending Chars
  | [] => .ok []
  | [c] => if isAsciiDigit c then .ok []
    else if c == '_' then .error (malformed line "invalid decimal literal") else .ok [c]
  | c :: d :: s =>
    if isAsciiDigit c then digitsTail line (d :: s)
    else if c == '_' then
      if isAsciiDigit d then digitsTail line (d :: s)
      else .error (malformed line "invalid decimal literal")
    else .ok (c :: d :: s)

/-- Digits of a base after its mark, in groups with an underscore before each group but the first,
where it may be missing. -/
def baseDigits (ok : Char → Bool) (kind : String) (line : Nat) :
    (fuel : Nat) → Chars → Except Ending Chars
  | 0, s => .ok s
  | fuel + 1, s =>
    let s := if s.head? == some '_' then s.drop 1 else s
    match s with
    | c :: t =>
      if ok c then
        let rest := t.dropWhile ok
        if rest.head? == some '_' then baseDigits ok kind line fuel rest else .ok rest
      else if isAsciiDigit c then
        .error (malformed line s!"invalid digit '{String.ofList [c]}' in {kind} literal")
      else .error (malformed line s!"invalid {kind} literal")
    | [] => .error (malformed line s!"invalid {kind} literal")

def basedNumber (ok : Char → Bool) (kind : String) (line : Nat) (s : Chars) :
    Except Ending Chars := do
  let rest ← baseDigits ok kind line s.length s
  match rest.head? with
  | some c =>
    if isAsciiDigit c then
      throw (malformed line s!"invalid digit '{String.ofList [c]}' in {kind} literal")
  | none => pure ()
  endNumber kind line rest
  return rest

def afterDigits (line : Nat) (s : Chars) : Except Ending Chars := do
  let imaginary := fun (s : Chars) => do
    if s.head?.any fun c => c == 'j' || c == 'J' then
      endNumber "imaginary" line (s.drop 1)
      return s.drop 1
    endNumber "decimal" line s
    return s
  match s with
  | e :: t =>
    if e == 'e' || e == 'E' then
      match t with
      | sign :: d :: _ =>
        if sign == '+' || sign == '-' then
          if isAsciiDigit d then imaginary (← digitsTail line (t.drop 1))
          else throw (malformed line "invalid decimal literal")
        else if isAsciiDigit sign then imaginary (← digitsTail line t)
        else
          endNumber "decimal" line s
          return s
      | [c] =>
        if isAsciiDigit c then imaginary (← digitsTail line t)
        else if c == '+' || c == '-' then throw (malformed line "invalid decimal literal")
        else
          endNumber "decimal" line s
          return s
      | [] =>
        endNumber "decimal" line s
        return s
    else imaginary s
  | [] => imaginary s

def afterPoint (line : Nat) (s : Chars) : Except Ending Chars := do
  let s ← if s.head?.any isAsciiDigit then digitsTail line s else pure s
  afterDigits line s

def zerosTail (line : Nat) : Chars → Except Ending Chars
  | '_' :: c :: s =>
    if !isAsciiDigit c then .error (malformed line "invalid decimal literal")
    else if c == '0' then zerosTail line s else .ok (c :: s)
  | ['_'] => .error (malformed line "invalid decimal literal")
  | '0' :: s => zerosTail line s
  | s => .ok s

def zeroNumber (line : Nat) (s : Chars) : Except Ending Chars := do
  let rest ← zerosTail line s
  let nonzero := rest.head?.any isAsciiDigit
  let rest ← if nonzero then digitsTail line rest else pure rest
  match rest with
  | '.' :: t => afterPoint line t
  | c :: t =>
    if c == 'e' || c == 'E' then afterDigits line rest
    else if c == 'j' || c == 'J' then
      endNumber "imaginary" line t
      return t
    else if nonzero then
      throw (malformed line ("leading zeros in decimal integer literals are not permitted; "
        ++ "use an 0o prefix for octal integers"))
    else
      endNumber "decimal" line rest
      return rest
  | [] =>
    if nonzero then
      throw (malformed line ("leading zeros in decimal integer literals are not permitted; "
        ++ "use an 0o prefix for octal integers"))
    else return rest

def isHexDigit (c : Char) : Bool := isAsciiDigit c || ('a' ≤ c && c ≤ 'f') || ('A' ≤ c && c ≤ 'F')

def numberTail (line : Nat) : Chars → Except Ending Chars
  | '0' :: c :: s =>
    if c == 'x' || c == 'X' then basedNumber isHexDigit "hexadecimal" line s
    else if c == 'o' || c == 'O' then basedNumber (fun d => '0' ≤ d && d ≤ '7') "octal" line s
    else if c == 'b' || c == 'B' then basedNumber (fun d => d == '0' || d == '1') "binary" line s
    else zeroNumber line (c :: s)
  | '0' :: s => zeroNumber line s
  | s => do
    match ← digitsTail line s with
    | '.' :: t => afterPoint line t
    | rest => afterDigits line rest

/-! ### Strings -/

/-- Reads a string after its opening quotes, up to and with the closing ones. -/
def readString (quote : Char) (triple : Bool) :
    (fuel : Nat) → Cursor → (chars : Nat) → Except Nat (Cursor × Nat)
  | 0, c, n => .ok (c, n)
  | fuel + 1, c, n =>
    let c := c.touch
    match c.rest with
    | [] => .error c.line
    | x :: s =>
      if x == '\n' && !triple then .error c.line
      else if x == quote then
        if !triple then .ok (c.next, n + 1)
        else if s.head? == some quote && s[1]? == some quote then .ok (c.skip 3, n + 3)
        else readString quote triple fuel c.next (n + 1)
      else if x == '\\' then
        if s.isEmpty then .error c.line else readString quote triple fuel (c.skip 2) (n + 2)
      else readString quote triple fuel c.next (n + 1)

/-- The letters before a quote that make a string: at most one of each of `b`, `f`, `r`, or a single
`u`. -/
def stringStart (s : Chars) : Option (Chars × Char) :=
  let letters := s.takeWhile fun c => "bBrRuUfF".toList.contains c
  match s.drop letters.length with
  | q :: _ =>
    if (q == '"' || q == '\'') &&
        ["", "b", "r", "u", "f", "br", "rb", "fr", "rf"].contains
          (.ofList (letters.map Char.toLower)) then
      some (letters, q)
    else none
  | [] => none

/-! ### Operators -/

def longOperators : List String :=
  ["**=", "//=", ">>=", "<<=", "...", "!=", "%=", "&=", "**", "*=", "+=", "-=", "->", "//",
   "/=", ":=", "<<", "<=", "<>", "==", ">=", ">>", "@=", "^=", "|="]

def opening? : Char → Option Char
  | ')' => some '('
  | ']' => some '['
  | '\x7d' => some '\x7b'
  | _ => none

def inQuotes (c : Char) : String := s!"'{String.ofList [c]}'"

def bracket (s : Lexer) (line : Nat) (c : Char) : Except Ending Lexer :=
  if c == '(' || c == '[' || c == '\x7b' then
    if 200 ≤ s.brackets.length then .error (malformed line "too many nested parentheses")
    else .ok { s with brackets := (c, line) :: s.brackets }
  else
    match opening? c with
    | none => .ok s
    | some o =>
      match s.brackets with
      | [] => .error (malformed line s!"unmatched {inQuotes c}")
      | (b, l) :: rest =>
        if b == o then .ok { s with brackets := rest }
        else
          let text :=
            s!"closing parenthesis {inQuotes c} does not match opening parenthesis {inQuotes b}"
          .error (malformed line (if l == line then text else s!"{text} on line {l}"))

/-! ### Tokens -/

def emit (s : Lexer) (cls : Class) (n : Nat) : Step :=
  let c := s.cursor
  .token ⟨cls, .ofList (c.rest.take n), c.line, c.line, s.brackets.length⟩
    { s with cursor := c.skip n }

def codeText (c : Char) : String :=
  let width := if c.toNat < 65536 then 4 else if c.toNat < 1048576 then 5 else 6
  s!"U+{String.ofList ((hex width c.toNat).map Char.toUpper)}"

def badNameChar? : Chars → Option Char
  | [] => none
  | c :: s =>
    if c == '_' || isNameStart c then s.find? fun d => !isNameContinue d
    else some c

def nameStep (s : Lexer) : Step :=
  let word := s.cursor.rest.takeWhile isNamePart
  match badNameChar? word with
  | some c =>
    .stop (malformed s.cursor.line (if isPrintable c then
        s!"invalid character {inQuotes c} ({codeText c})"
      else s!"invalid non-printable character {codeText c}"))
  | none =>
    let cls := match .ofList word with
      | "async" => Class.async
      | "await" => Class.await
      | _ => Class.name
    emit s cls word.length

def stringStep (s : Lexer) (letters : Chars) (quote : Char) : Step :=
  let c := s.cursor
  let body := c.skip (letters.length + 1)
  let (triple, body) :=
    if body.rest.head? == some quote && body.rest[1]? == some quote then (true, body.skip 2)
    else (false, body)
  let start := letters.length + (if triple then 3 else 1)
  match readString quote triple (body.rest.length + 1) body start with
  | .ok (after, n) =>
    .token ⟨.string, .ofList (c.rest.take n), c.line, after.line, s.brackets.length⟩
      { s with cursor := after }
  | .error line =>
    let what :=
      if triple then "unterminated triple-quoted string literal" else "unterminated string literal"
    .stop (malformed c.line s!"{what} (detected at line {line})")

def operatorStep (s : Lexer) (c : Char) : Step :=
  match longOperators.find? fun o => isFront o.toList s.cursor.rest with
  | some o => emit s .operator o.length
  | none =>
    match bracket s s.cursor.line c with
    | .error e => .stop e
    | .ok s =>
      if isPrintable c then emit s .operator 1
      else .stop (malformed s.cursor.line s!"invalid non-printable character {codeText c}")

def numberStep (s : Lexer) : Step :=
  let c := s.cursor
  let tail := match c.rest with
    | '.' :: t => afterPoint c.line t
    | t => numberTail c.line t
  match tail with
  | .ok rest => emit s .number (c.rest.length - rest.length)
  | .error e => .stop e

/-- A step at a place that is no start of a line and has no blanks before it; `blankLine` says that
only a comment stands on the line. -/
def tokenStep (s : Lexer) (blankLine : Bool) : Step :=
  match s.cursor.rest with
  | [] =>
    match s.brackets with
    | (b, l) :: _ => .stop (.unclosed b l)
    | [] => .token ⟨.endmarker, "", s.cursor.line, s.cursor.line, 0⟩ s
  | '\n' :: _ =>
    if blankLine || !s.brackets.isEmpty then
      .blank { s with cursor := s.cursor.next, lineStart := true }
    else match emit s .newline 1 with
      | .token t s => .token t { s with lineStart := true }
      | other => other
  | '\\' :: '\n' :: t =>
    if t.isEmpty then .stop (.endOfText s.cursor.line)
    else .blank { s with cursor := s.cursor.skip 2 }
  | '\\' :: _ => .stop (.afterBackslash s.cursor.line)
  | c :: t =>
    match stringStart s.cursor.rest with
    | some (letters, quote) => stringStep s letters quote
    | none =>
      if startsName c then nameStep s
      else if isAsciiDigit c || (c == '.' && t.head?.any isAsciiDigit) then numberStep s
      else operatorStep s c

def isGap (c : Char) : Bool := c == ' ' || c == '\t' || c == '\x0c'

def skipGap (c : Cursor) : Cursor :=
  let c := c.touch
  let c := c.skip (c.rest.takeWhile isGap).length
  let c := c.touch
  if c.rest.head? == some '#' then c.skip (c.rest.takeWhile (· != '\n')).length else c

def blockStep (s : Lexer) : Step :=
  let line := s.cursor.line
  if s.pending < 0 then
    .token ⟨.dedent, "", line, line, s.brackets.length⟩ { s with pending := s.pending + 1 }
  else .token ⟨.indent, "", line, line, s.brackets.length⟩ { s with pending := s.pending - 1 }

def Lexer.step (s : Lexer) : Step :=
  if s.lineStart then
    match readIndent (s.cursor.rest.length + 1) {} s.cursor with
    | .error e => .stop e
    | .ok (i, c) =>
      let s := { s with cursor := c, lineStart := false }
      let blankLine := c.rest.head? == some '#' || c.rest.head? == some '\n'
      if blankLine then tokenStep { s with cursor := skipGap c } true
      else if s.brackets.isEmpty then
        let (col, alt) := if i.joined == 0 then (i.col, i.alt) else (i.joined, i.joined)
        match adjust s col alt c.line with
        | .error e => .stop e
        | .ok s => if s.pending != 0 then blockStep s else .blank s
      else .blank s
  else if s.pending != 0 then blockStep s
  else tokenStep { s with cursor := skipGap s.cursor } false

/-- A text cut into tokens. -/
structure Tokens where
  tokens : Array Token
  ending : Ending
  /-- The innermost bracket that is open at the end, with its line. -/
  inside : Option (Char × Nat)
deriving Inhabited

def Lexer.run : (fuel : Nat) → Lexer → Array Token → Tokens
  | 0, _, acc => ⟨acc, .complete, none⟩
  | fuel + 1, s, acc =>
    match s.step with
    | .token t s =>
      if t.cls == .endmarker then ⟨acc.push t, .complete, none⟩ else run fuel s (acc.push t)
    | .blank s => run fuel s acc
    | .stop e => ⟨acc, e, s.brackets.head?⟩

def normalizeLines (s : Chars) : Chars :=
  let s := unixLineEnds s
  if s.getLast? == some '\n' then s else s ++ ['\n']

def tokenize (text : Chars) (line : Nat) : Tokens :=
  let s := normalizeLines text
  Lexer.run (4 * s.length + 16) { cursor := { rest := s, line := line } } #[]

end Workbench.Source
