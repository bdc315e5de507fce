import Workbench.Yaml.Mark

/-!
# Tokens of a YAML text

The tokens that a text is made of.
-/

namespace Workbench.Yaml

open Text

/-- How a scalar is written. -/
inductive Style where
  | plain
  | single
  | double
  | literal
  | folded
deriving DecidableEq, Repr, Inhabited

/-- What a directive says: the version of the language, an address for a handle of tags, or
something else. -/
inductive Directive where
  | version (major minor : Nat)
  | handle (name address : String)
  | other (name : String)
deriving DecidableEq, Repr, Inhabited

/-- The kinds of tokens. -/
inductive Kind where
  | directive (d : Directive)
  | documentStart
  | documentEnd
  | streamStart
  | streamEnd
  | blockSequenceStart
  | blockMappingStart
  | blockEnd
  | flowSequenceStart
  | flowMappingStart
  | flowSequenceEnd
  | flowMappingEnd
  | key
  | value
  | blockEntry
  | flowEntry
  | alias (name : String)
  | anchor (name : String)
  | tag (handle : Option String) (suffix : String)
  | scalar (text : String) (style : Style)
deriving DecidableEq, Repr, Inhabited

/-- A token and its place. -/
structure Token where
  kind : Kind
  start : Mark
  stop : Mark
deriving DecidableEq, Repr, Inhabited

def Kind.id : Kind → String
  | .directive _ => "<directive>"
  | .documentStart => "<document start>"
  | .documentEnd => "<document end>"
  | .streamStart => "<stream start>"
  | .streamEnd => "<stream end>"
  | .blockSequenceStart => "<block sequence start>"
  | .blockMappingStart => "<block mapping start>"
  | .blockEnd => "<block end>"
  | .flowSequenceStart => "["
  | .flowMappingStart => "\x7b"
  | .flowSequenceEnd => "]"
  | .flowMappingEnd => "\x7d"
  | .key => "?"
  | .value => ":"
  | .blockEntry => "-"
  | .flowEntry => ","
  | .alias _ => "<alias>"
  | .anchor _ => "<anchor>"
  | .tag _ _ => "<tag>"
  | .scalar _ _ => "<scalar>"

/-- A token that may turn out to be a key: its number, whether it must, and where it stands. -/
structure Candidate where
  level : Nat
  number : Nat
  required : Bool
  mark : Mark
deriving Repr

/-- What is still to be scanned. -/
structure Scanner where
  rest : Chars
  mark : Mark := ⟨0, 0, 0⟩
  tokens : List Token := []
  flowLevel : Nat := 0
  indent : Int := -1
  indents : List Int := []
  allowKey : Bool := true
  candidates : List Candidate := []
  done : Bool := false

abbrev Scan := ExceptT Error (StateM Scanner)

def isEndOrSpace (c : Option Char) : Bool := c.all fun c => c == ' ' || c == '\t' || isBreak c

def isEndOrBreak (c : Option Char) : Bool := c.all isBreak

def isEndOrBlank (c : Option Char) : Bool := c.all fun c => c == ' ' || isBreak c

def peekAt (n : Nat) : Scan (Option Char) := do return ((← get).rest.drop n).head?

def peek : Scan (Option Char) := peekAt 0

def Mark.after (m : Mark) (c : Char) (next : Option Char) : Mark :=
  if isBreak c && !(c == '\r' && next == some '\n') then ⟨m.index + 1, m.line + 1, 0⟩
  else if c.toNat == 0xFEFF then { m with index := m.index + 1 }
  else ⟨m.index + 1, m.line, m.column + 1⟩

def Mark.over (m : Mark) : Nat → Chars → Mark × Chars
  | 0, s => (m, s)
  | _, [] => (m, [])
  | n + 1, c :: s => Mark.over (m.after c s.head?) n s

def forward (n : Nat) : Scan Unit := modify fun s =>
  let (m, r) := s.mark.over n s.rest
  { s with mark := m, rest := r }

def here : Scan Mark := do return (← get).mark

def ahead (n : Nat) : Scan Chars := do return (← get).rest.take n

def shown (c : Option Char) : String := quoted (.ofList [c.getD (Char.ofNat 0)])

def failHere {α : Type} (context : Option (String × Option Mark)) (problem : String) : Scan α := do
  throw ⟨.scanner, context, problem, some (← here)⟩

def emit (k : Kind) (start stop : Mark) : Scan Unit :=
  modify fun s => { s with tokens := s.tokens ++ [⟨k, start, stop⟩] }

def emitOver (k : Kind) (n : Nat) : Scan Unit := do
  let a ← here
  forward n
  emit k a (← here)

/-- Drops the candidates that can no longer be keys: those on another line or too far back. -/
def dropStale : Scan Unit := do
  let s ← get
  let stale :=
    fun (c : Candidate) => c.mark.line != s.mark.line || 1024 < s.mark.index - c.mark.index
  match s.candidates.find? fun c => stale c && c.required with
  | some c =>
    failHere (some ("while scanning a simple key", some c.mark)) "could not find expected ':'"
  | none => set { s with candidates := s.candidates.filter fun c => !stale c }

def dropCandidate : Scan Unit := do
  let s ← get
  match s.candidates.find? (·.level == s.flowLevel) with
  | none => return
  | some c =>
    if c.required then
      failHere (some ("while scanning a simple key", some c.mark)) "could not find expected ':'"
    set { s with candidates := s.candidates.filter (·.level != s.flowLevel) }

def noteCandidate : Scan Unit := do
  let s ← get
  if s.allowKey then
    dropCandidate
    let required := s.flowLevel == 0 && s.indent == s.mark.column
    modify fun s =>
      { s with candidates := s.candidates ++ [⟨s.flowLevel, s.tokens.length, required, s.mark⟩] }

def allowKey (b : Bool) : Scan Unit := modify fun s => { s with allowKey := b }

def unwound (column : Int) : Int → List Int → Int × List Int × Nat
  | indent, [] => (indent, [], 0)
  | indent, i :: is =>
    if column < indent then
      let (a, b, n) := unwound column i is
      (a, b, n + 1)
    else (indent, i :: is, 0)

def unwind (column : Int) : Scan Unit := modify fun s =>
  if s.flowLevel != 0 then s
  else
    let (indent, indents, n) := unwound column s.indent s.indents
    { s with indent := indent, indents := indents
             tokens := s.tokens ++ List.replicate n ⟨.blockEnd, s.mark, s.mark⟩ }

def deepen (column : Nat) : Scan Bool := do
  let s ← get
  if s.indent < column then
    set { s with indents := s.indent :: s.indents, indent := column }
    return true
  return false

def insertAt (n : Nat) (t : Token) : Scan Unit :=
  modify fun s => { s with tokens := s.tokens.take n ++ t :: s.tokens.drop n }

def lineBreak : Scan Chars := do
  match (← get).rest with
  | '\r' :: '\n' :: _ =>
    forward 2
    return ['\n']
  | c :: _ =>
    if isBreak c then
      forward 1
      return if c.toNat < 8000 then ['\n'] else [c]
    return []
  | [] => return []

def takeWhile (p : Char → Bool) : Scan Chars := do
  let cs := (← get).rest.takeWhile p
  forward cs.length
  return cs

def toNextToken : (fuel : Nat) → Scan Unit
  | 0 => return
  | fuel + 1 => do
    let s ← get
    if s.mark.index == 0 && s.rest.head? == some (Char.ofNat 0xFEFF) then forward 1
    discard <| takeWhile (· == ' ')
    if (← peek) == some '#' then discard <| takeWhile fun c => !isBreak c
    let b ← lineBreak
    if b.isEmpty then return
    if (← get).flowLevel == 0 then allowKey true
    toNextToken fuel

/-! ### Anchors, tags and directives -/

def isAnchorChar (c : Char) : Bool :=
  isAsciiDigit c || ('a' ≤ c && c ≤ 'z') || ('A' ≤ c && c ≤ 'Z') || c == '-' || c == '_'

def scanAnchor : Scan Unit := do
  let start ← here
  let isAlias := (← peek) == some '*'
  let name := if isAlias then "alias" else "anchor"
  forward 1
  let value ← takeWhile isAnchorChar
  let c ← peek
  let ends := isEndOrSpace c || c.any ("?:,]\x7d%@\x60".toList.contains ·)
  if value.isEmpty || !ends then
    failHere (some (s!"while scanning an {name}", some start))
      s!"expected alphabetic or numeric character, but found {shown c}"
  let text := .ofList value
  emit (if isAlias then .alias text else .anchor text) start (← here)

def isUriChar (c : Char) : Bool :=
  isAsciiDigit c || ('a' ≤ c && c ≤ 'z') || ('A' ≤ c && c ≤ 'Z')
    || "-;/?:@&=+$,_.!~*'()[]%".toList.contains c

def scanUri (what : String) (start : Mark) : Scan String := do
  let cs ← takeWhile isUriChar
  if cs.isEmpty then
    failHere (some (s!"while parsing a {what}", some start))
      s!"expected URI, but found {shown (← peek)}"
  return .ofList cs

/-- Reads a handle: an exclamation mark before a blank, or a name between two; `what` names what is
being read. -/
def scanHandle (what : String) (start : Mark) : Scan String := do
  let expect : Scan Unit := do
    let c ← peek
    if c != some '!' then
      failHere (some (s!"while scanning a {what}", some start))
        s!"expected '!', but found {shown c}"
    forward 1
  expect
  if (← peek) == some ' ' then return "!"
  let cs ← takeWhile isAnchorChar
  expect
  return s!"!{String.ofList cs}!"

def scanTag : Scan Unit := do
  let start ← here
  let c ← peekAt 1
  let (handle, suffix) ←
    if c == some '<' then do
      forward 2
      let uri ← scanUri "tag" start
      if (← peek) != some '>' then
        failHere (some ("while parsing a tag", some start))
          s!"expected '>', but found {shown (← peek)}"
      forward 1
      pure (none, uri)
    else if isEndOrSpace c then do
      forward 1
      pure (none, "!")
    else do
      let word := ((← get).rest.drop 1).takeWhile fun c => !isEndOrBlank (some c)
      if word.contains '!' then do
        let h ← scanHandle "tag" start
        pure (some h, ← scanUri "tag" start)
      else do
        forward 1
        pure (some "!", ← scanUri "tag" start)
  let c ← peek
  if !isEndOrBlank c then
    failHere (some ("while scanning a tag", some start)) s!"expected ' ', but found {shown c}"
  emit (.tag handle suffix) start (← here)

def failDirective {α : Type} (start : Mark) (expected : String) : Scan α := do
  failHere (some ("while scanning a directive", some start))
    s!"expected {expected}, but found {shown (← peek)}"

def scanVersionNumber (start : Mark) : Scan Nat := do
  let ds ← takeWhile isAsciiDigit
  if ds.isEmpty then failDirective start "a digit"
  return ds.foldl (fun n d => 10 * n + (d.toNat - 48)) 0

def scanDirectiveValue (start : Mark) (name : String) : Scan Directive := do
  match name with
  | "YAML" =>
    discard <| takeWhile (· == ' ')
    let major ← scanVersionNumber start
    if (← peek) != some '.' then failDirective start "a digit or '.'"
    forward 1
    let minor ← scanVersionNumber start
    if !isEndOrBlank (← peek) then failDirective start "a digit or ' '"
    return .version major minor
  | "TAG" =>
    discard <| takeWhile (· == ' ')
    let handle ← scanHandle "directive" start
    if (← peek) != some ' ' then failDirective start "' '"
    discard <| takeWhile (· == ' ')
    let address ← scanUri "directive" start
    if !isEndOrBlank (← peek) then failDirective start "' '"
    return .handle handle address
  | _ => return .other name

def scanDirective : Scan Unit := do
  let start ← here
  forward 1
  let name ← takeWhile isAnchorChar
  if name.isEmpty || !isEndOrBlank (← peek) then
    failDirective start "alphabetic or numeric character"
  let d ← scanDirectiveValue start (.ofList name)
  let stop ← here
  match d with
  | .other _ => discard <| takeWhile fun c => !isBreak c
  | _ => discard <| takeWhile (· == ' ')
  if (← peek) == some '#' then discard <| takeWhile fun c => !isBreak c
  if !isEndOrBreak (← peek) then failDirective start "a comment or a line break"
  discard lineBreak
  emit (.directive d) start stop

/-! ### Scalars -/

def atSeparator : Scan Bool := do
  let w ← ahead 3
  return (w == ['-', '-', '-'] || w == ['.', '.', '.']) && isEndOrSpace (← peekAt 3)

def blockBreaks (indent : Nat) : (fuel : Nat) → (acc : Chars) → (stop : Mark) → Scan (Chars × Mark)
  | 0, acc, stop => return (acc, stop)
  | fuel + 1, acc, stop => do
    let s ← get
    let room := indent - s.mark.column
    forward ((s.rest.take room).takeWhile (· == ' ')).length
    if (← peek).any isBreak then
      let b ← lineBreak
      blockBreaks indent fuel (acc ++ b) (← here)
    else return (acc, stop)

def blockIndentation :
    (fuel : Nat) → (acc : Chars) → (deepest : Nat) → (stop : Mark) → Scan (Chars × Nat × Mark)
  | 0, acc, deepest, stop => return (acc, deepest, stop)
  | fuel + 1, acc, deepest, stop => do
    match ← peek with
    | some ' ' =>
      forward 1
      blockIndentation fuel acc (max deepest (← here).column) stop
    | some c =>
      if isBreak c then
        let b ← lineBreak
        blockIndentation fuel (acc ++ b) deepest (← here)
      else return (acc, deepest, stop)
    | none => return (acc, deepest, stop)

def blockHeader (start : Mark) : Scan (Option Bool × Option Nat) := do
  let context := some ("while scanning a block scalar", some start)
  let sign : Scan (Option Bool) := do
    match ← peek with
    | some '+' =>
      forward 1
      return some true
    | some '-' =>
      forward 1
      return some false
    | _ => return none
  let digit : Scan (Option Nat) := do
    match ← peek with
    | some c =>
      if isAsciiDigit c then
        if c == '0' then
          failHere context "expected indentation indicator in the range 1-9, but found 0"
        forward 1
        return some (c.toNat - 48)
      return none
    | none => return none
  let chomp ← sign
  let increment ← digit
  let chomp ← if chomp.isNone && increment.isSome then sign else pure chomp
  let c ← peek
  if !isEndOrBlank c then
    failHere context s!"expected chomping or indentation indicators, but found {shown c}"
  discard <| takeWhile (· == ' ')
  if (← peek) == some '#' then discard <| takeWhile fun c => !isBreak c
  let c ← peek
  if !isEndOrBreak c then
    failHere context s!"expected a comment or a line break, but found {shown c}"
  discard lineBreak
  return (chomp, increment)

/-- The lines of a block scalar at column `indent`: the text, the last line end, and the empty lines
after. -/
def blockLines (folded : Bool) (indent : Nat) :
    (fuel : Nat) → (acc breaks : Chars) → (stop : Mark) →
    Scan (Chars × Chars × Chars × Mark)
  | 0, acc, breaks, stop => return (acc, [], breaks, stop)
  | fuel + 1, acc, breaks, stop => do
    let s ← get
    if s.mark.column != indent || s.rest.isEmpty then return (acc, [], breaks, stop)
    let blank := fun (c : Option Char) => c == some ' ' || c == some '\t'
    let solid := !blank s.rest.head?
    let line ← takeWhile fun c => !isBreak c
    let acc := acc ++ breaks ++ line
    let b ← lineBreak
    let (breaks, stop) ← blockBreaks indent fuel [] (← here)
    let t ← get
    if t.mark.column == indent && !t.rest.isEmpty then
      let joint :=
        if folded && b == ['\n'] && solid && !blank t.rest.head? then
          (if breaks.isEmpty then [' '] else [])
        else b
      blockLines folded indent fuel (acc ++ joint) breaks stop
    else return (acc, b, breaks, stop)

def scanBlockScalar (folded : Bool) : Scan Unit := do
  let start ← here
  forward 1
  let (chomp, increment) ← blockHeader start
  let s ← get
  let fuel := s.rest.length + 1
  let least := (max 1 (s.indent + 1)).toNat
  let (indent, breaks, stop) ← match increment with
    | none => do
      let (breaks, deepest, stop) ← blockIndentation fuel [] 0 (← here)
      pure (max least deepest, breaks, stop)
    | some n => do
      let indent := least + n - 1
      let (breaks, stop) ← blockBreaks indent fuel [] (← here)
      pure (indent, breaks, stop)
  let (text, last, breaks, stop) ← blockLines folded indent fuel [] breaks stop
  let tail :=
    (if chomp == some false then [] else last) ++ (if chomp == some true then breaks else [])
  emit (.scalar (.ofList (text ++ tail)) (if folded then .folded else .literal)) start stop

def escapeOf? : Char → Option Nat
  | '0' => some 0
  | 'a' => some 7
  | 'b' => some 8
  | 't' => some 9
  | '\t' => some 9
  | 'n' => some 10
  | 'v' => some 11
  | 'f' => some 12
  | 'r' => some 13
  | 'e' => some 27
  | ' ' => some 32
  | '"' => some 34
  | '\\' => some 92
  | '/' => some 47
  | 'N' => some 133
  | '_' => some 160
  | 'L' => some 8232
  | 'P' => some 8233
  | _ => none

def escapeDigits? : Char → Option Nat
  | 'x' => some 2
  | 'u' => some 4
  | 'U' => some 8
  | _ => none

def quotedBreaks (start : Mark) : (fuel : Nat) → (acc : Chars) → Scan Chars
  | 0, acc => return acc
  | fuel + 1, acc => do
    if ← atSeparator then
      failHere (some ("while scanning a quoted scalar", some start))
        "found unexpected document separator"
    discard <| takeWhile fun c => c == ' ' || c == '\t'
    let b ← lineBreak
    if b.isEmpty then return acc
    quotedBreaks start fuel (acc ++ b)

def quotedEscape (start : Mark) (fuel : Nat) : Scan Chars := do
  let context := some ("while scanning a double-quoted scalar", some start)
  let c ← peek
  match c.bind escapeOf?, c.bind escapeDigits? with
  | some n, _ =>
    forward 1
    return [Char.ofNat n]
  | none, some k =>
    forward 1
    let ds ← ahead k
    let good := ds.takeWhile fun d => (Json.hexValue? d).isSome
    if good.length < k then
      failHere context (s!"expected escape sequence of {k} hexadecimal numbers, but found "
        ++ shown (← peekAt good.length))
    forward k
    return [Char.ofNat (ds.foldl (fun n d => 16 * n + (Json.hexValue? d).getD 0) 0)]
  | none, none =>
    if c.any isBreak then
      discard lineBreak
      quotedBreaks start fuel []
    else failHere context s!"found unknown escape character {shown c}"

def quotedText (double : Bool) (start : Mark) : (fuel : Nat) → (acc : Chars) → Scan Chars
  | 0, acc => return acc
  | fuel + 1, acc => do
    match (← get).rest with
    | [] =>
      failHere (some ("while scanning a quoted scalar", some start))
        "found unexpected end of stream"
    | '\'' :: '\'' :: _ =>
      if double then
        forward 1
        quotedText double start fuel (acc ++ ['\''])
      else
        forward 2
        quotedText double start fuel (acc ++ ['\''])
    | c :: _ =>
      if c == (if double then '"' else '\'') then return acc
      else if c == '\\' && double then
        forward 1
        let cs ← quotedEscape start fuel
        quotedText double start fuel (acc ++ cs)
      else if c == ' ' || c == '\t' || isBreak c then
        let blanks ← takeWhile fun c => c == ' ' || c == '\t'
        let next ← peek
        if next.isNone then
          failHere (some ("while scanning a quoted scalar", some start))
            "found unexpected end of stream"
        else if next.any isBreak then
          let b ← lineBreak
          let more ← quotedBreaks start fuel []
          let joint := if b != ['\n'] then b else if more.isEmpty then [' '] else []
          quotedText double start fuel (acc ++ joint ++ more)
        else quotedText double start fuel (acc ++ blanks)
      else
        let special :=
          fun c => c == '\'' || c == '"' || c == '\\' || c == ' ' || c == '\t' || isBreak c
        if special c then
          forward 1
          quotedText double start fuel (acc ++ [c])
        else
          let cs ← takeWhile fun c => !special c
          quotedText double start fuel (acc ++ cs)

def scanQuoted (double : Bool) : Scan Unit := do
  let start ← here
  forward 1
  let text ← quotedText double start ((← get).rest.length + 2) []
  forward 1
  emit (.scalar (.ofList text) (if double then .double else .single)) start (← here)

def plainRun (flow : Bool) : Chars → Chars
  | [] => []
  | c :: s =>
    if isEndOrSpace (some c) then []
    else if c == ':' &&
      (isEndOrSpace s.head? || (flow && s.head?.any (",[]\x7b\x7d".toList.contains ·))) then []
    else if flow && ",?[]\x7b\x7d".toList.contains c then []
    else c :: plainRun flow s

/-- Reads line ends and blanks inside a plain scalar; `none` at a document separator. -/
def plainBreaks : (fuel : Nat) → (acc : Chars) → Scan (Option Chars)
  | 0, acc => return some acc
  | fuel + 1, acc => do
    match ← peek with
    | some ' ' =>
      forward 1
      plainBreaks fuel acc
    | some c =>
      if isBreak c then
        let b ← lineBreak
        if ← atSeparator then return none
        plainBreaks fuel (acc ++ b)
      else return some acc
    | none => return some acc

/-- Reads the white space behind a piece of a plain scalar: what it stands for, empty if the scalar
ends. -/
def plainSpaces (fuel : Nat) : Scan Chars := do
  let blanks ← takeWhile (· == ' ')
  if (← peek).any isBreak then
    let b ← lineBreak
    allowKey true
    if ← atSeparator then return []
    match ← plainBreaks fuel [] with
    | none => return []
    | some more => return (if b != ['\n'] then b else if more.isEmpty then [' '] else []) ++ more
  return blanks

def plainText (indent : Int) :
    (fuel : Nat) → (acc spaces : Chars) → (stop : Mark) → Scan (Chars × Mark)
  | 0, acc, _, stop => return (acc, stop)
  | fuel + 1, acc, spaces, stop => do
    let s ← get
    if s.rest.head? == some '#' then return (acc, stop)
    let piece := plainRun (s.flowLevel != 0) s.rest
    if piece.isEmpty then return (acc, stop)
    allowKey false
    forward piece.length
    let stop ← here
    let acc := acc ++ spaces ++ piece
    let spaces ← plainSpaces (fuel + 1)
    let t ← get
    if spaces.isEmpty || t.rest.head? == some '#' ||
      (t.flowLevel == 0 && (t.mark.column : Int) < indent) then
      return (acc, stop)
    plainText indent fuel acc spaces stop

def scanPlain : Scan Unit := do
  let start ← here
  let s ← get
  let (text, stop) ← plainText (s.indent + 1) (s.rest.length + 1) [] [] start
  emit (.scalar (.ofList text) .plain) start stop

/-! ### The scanner -/

def fetchSeparator (k : Kind) : Scan Unit := do
  unwind (-1)
  dropCandidate
  allowKey false
  emitOver k 3

def fetchOpen (k : Kind) : Scan Unit := do
  noteCandidate
  modify fun s => { s with flowLevel := s.flowLevel + 1, allowKey := true }
  emitOver k 1

def fetchClose (k : Kind) : Scan Unit := do
  dropCandidate
  modify fun s => { s with flowLevel := s.flowLevel - 1, allowKey := false }
  emitOver k 1

def openBlock (k : Kind) (refusal : String) : Scan Unit := do
  let s ← get
  if s.flowLevel == 0 then
    if !s.allowKey then failHere none refusal
    if ← deepen s.mark.column then emit k s.mark s.mark

def fetchBlockEntry : Scan Unit := do
  openBlock .blockSequenceStart "sequence entries are not allowed here"
  allowKey true
  dropCandidate
  emitOver .blockEntry 1

def fetchKey : Scan Unit := do
  openBlock .blockMappingStart "mapping keys are not allowed here"
  allowKey ((← get).flowLevel == 0)
  dropCandidate
  emitOver .key 1

def fetchValue : Scan Unit := do
  let s ← get
  match s.candidates.find? (·.level == s.flowLevel) with
  | some c =>
    set { s with candidates := s.candidates.filter (·.level != s.flowLevel) }
    insertAt c.number ⟨.key, c.mark, c.mark⟩
    if s.flowLevel == 0 then
      if ← deepen c.mark.column then insertAt c.number ⟨.blockMappingStart, c.mark, c.mark⟩
    allowKey false
  | none =>
    openBlock .blockMappingStart "mapping values are not allowed here"
    allowKey ((← get).flowLevel == 0)
    dropCandidate
  emitOver .value 1

def startsPlain (flow : Bool) (c : Char) (next : Option Char) : Bool :=
  !(isEndOrSpace (some c) || "-?:,[]\x7b\x7d#&*!|>'\"%@\x60".toList.contains c)
    || (!isEndOrSpace next && (c == '-' || (!flow && (c == '?' || c == ':'))))

/-- A token that may be a key: its place is noted first. -/
def fetchKeyable (scan : Scan Unit) : Scan Unit := do
  noteCandidate
  allowKey false
  scan

/-- The token that starts with `c`, where no directive and no separator stands. -/
def fetchSolid (flow : Bool) (next : Option Char) (c : Char) : Scan Unit :=
  if c == '[' then fetchOpen .flowSequenceStart
  else if c == '\x7b' then fetchOpen .flowMappingStart
  else if c == ']' then fetchClose .flowSequenceEnd
  else if c == '\x7d' then fetchClose .flowMappingEnd
  else if c == ',' then do
    allowKey true
    dropCandidate
    emitOver .flowEntry 1
  else if c == '-' && isEndOrSpace next then fetchBlockEntry
  else if c == '?' && (flow || isEndOrSpace next) then fetchKey
  else if c == ':' && (flow || isEndOrSpace next) then fetchValue
  else if c == '*' || c == '&' then fetchKeyable scanAnchor
  else if c == '!' then fetchKeyable scanTag
  else if (c == '|' || c == '>') && !flow then do
    allowKey true
    dropCandidate
    scanBlockScalar (c == '>')
  else if c == '\'' || c == '"' then fetchKeyable (scanQuoted (c == '"'))
  else if startsPlain flow c next then fetchKeyable scanPlain
  else
    failHere (some ("while scanning for the next token", none))
      s!"found character {shown (some c)} that cannot start any token"

def fetchAt (c : Char) : Scan Unit := do
  let s ← get
  let next ← peekAt 1
  let atColumn0 := s.mark.column == 0
  if c == '%' && atColumn0 then
    unwind (-1)
    dropCandidate
    allowKey false
    scanDirective
  else if c == '-' && atColumn0 && (← atSeparator) then fetchSeparator .documentStart
  else if c == '.' && atColumn0 && (← atSeparator) then fetchSeparator .documentEnd
  else fetchSolid (s.flowLevel != 0) next c

def fetch : Scan Unit := do
  toNextToken ((← get).rest.length + 1)
  dropStale
  unwind (← here).column
  match ← peek with
  | none =>
    unwind (-1)
    dropCandidate
    modify fun s => { s with allowKey := false, candidates := [], done := true }
    emit .streamEnd (← here) (← here)
  | some c => fetchAt c

def settled (s : Scanner) : Nat := s.candidates.foldl (fun n c => min n c.number) s.tokens.length

def scanLoop : (fuel : Nat) → Scanner → List Token × Option Error
  | 0, s => (s.tokens, none)
  | fuel + 1, s =>
    if s.done then (s.tokens, none)
    else
      match (fetch *> dropStale).run s with
      | (.ok _, s') => scanLoop fuel s'
      | (.error e, s') => (s'.tokens.take (settled s), some e)

def scan (text : Chars) : List Token × Option Error :=
  let first : Token := ⟨.streamStart, ⟨0, 0, 0⟩, ⟨0, 0, 0⟩⟩
  scanLoop (text.length + 2) { rest := text, tokens := [first] }

end Workbench.Yaml
