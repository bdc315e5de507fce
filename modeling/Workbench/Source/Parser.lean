import Std.Data.HashMap
import Workbench.Source.Rules

/-!
# Parsing programs

Matches the rules against the tokens of a program.  Alternatives are tried in order and the first
that matches counts.
-/

namespace Workbench.Source

/-- The state of parsing: the next token, the number of tokens looked at, the matches kept, and
whether refusing alternatives are tried. -/
structure ParseState where
  mark : Nat := 0
  fill : Nat := 0
  memo : Std.HashMap (String × Nat) (Option Val × Nat) := {}
  refusing : Bool := false

abbrev Parse := ExceptT Refusal (StateM ParseState)

def keywords : List String :=
  ["False", "None", "True", "and", "as", "assert", "break", "class", "continue", "def", "del",
   "elif", "else", "except", "finally", "for", "from", "global", "if", "import", "in", "is",
   "lambda", "nonlocal", "not", "or",
   "pass", "raise", "return", "try", "while", "with", "yield"]

def softKeywords : List String := ["_", "case", "match"]

def isSoft (name : String) : Bool := softKeywords.any (Text.startsWith · name)

def Ending.refusal : Ending → Refusal
  | .complete => { message := "unexpected EOF while parsing", line := 0, lexical := true }
  | .malformed m l => { message := m, line := l, lexical := true }
  | .unclosed b l => { message := s!"{inQuotes b} was never closed", line := l, lexical := true }
  | .dedent l =>
    { message := "unindent does not match any outer indentation level", line := l, lexical := true }
  | .tabs l =>
    { message := "inconsistent use of tabs and spaces in indentation", line := l, lexical := true }
  | .tooDeep l => { message := "too many levels of indentation", line := l, lexical := true }
  | .afterBackslash l =>
    { message := "unexpected character after line continuation character", line := l,
      lexical := true }
  | .endOfText l => { message := "unexpected EOF while parsing", line := l, lexical := true }

def insideString : String := "f-string: "

def Ending.refusalIn (inString : Bool) (e : Ending) : Refusal :=
  match e with
  | .malformed _ _ => e.refusal
  | _ =>
    if inString then { e.refusal with message := insideString ++ e.refusal.message } else e.refusal

/-- It is not to be opened by unfolding: a proof that meets a lookup would set it up. -/
@[irreducible]
def ruleTable : Std.HashMap String Rule := rules.foldl (fun t r => t.insert r.name r) {}

/-- What is parsed. -/
structure Input where
  tokens : Tokens
  inString : Bool

def peek (input : Input) : Parse Token := do
  let st ← get
  match input.tokens.tokens[st.mark]? with
  | some t =>
    set { st with fill := max st.fill (st.mark + 1) }
    return t
  | none =>
    match input.tokens.ending, input.tokens.inside with
    | .endOfText _, some (b, l) => throw ((Ending.unclosed b l).refusalIn input.inString)
    | ending, _ => throw (ending.refusalIn input.inString)

def expect (input : Input) (accepts : Token → Bool) : Parse (Option Val) := do
  let t ← peek input
  if accepts t then
    modify fun st => { st with mark := st.mark + 1 }
    return some (.token t)
  return none

def isWord (s : String) (t : Token) : Bool :=
  t.text == s && (t.cls == .operator || (t.cls == .name && keywords.contains s))

def isOfClass (c : Class) (t : Token) : Bool :=
  t.cls == c && !(c == .name && keywords.contains t.text)

def lastEndLine (tokens : Array Token) : (mark : Nat) → Nat
  | 0 => 0
  | n + 1 =>
    match tokens[n]? with
    | some t =>
      if [Class.newline, .indent, .dedent, .endmarker].contains t.cls then lastEndLine tokens n
      else t.endLine
    | none => lastEndLine tokens n

def sceneAt (input : Input) (start : Nat) (st : ParseState)
    (expression : Chars → Nat → Except Refusal Tree) : Scene :=
  let ts := input.tokens.tokens
  { line := (ts[start]?.map Token.line).getD 0
    endLine := lastEndLine ts st.mark
    lastLine := (ts[st.fill - 1]?.map Token.line).getD 0
    level := (ts[st.mark - 1]?.map Token.level).getD 0
    expression := expression }

def isRefusing (a : Alternative) : Bool :=
  match a.items with
  | [.rule n] => Text.startsWith n "invalid_"
  | _ => false

/-- How an alternative went. -/
structure Matched where
  values : Option (List Val)
  committed : Bool

/-- How the first reading of a program decides: a tree, a refusal, or the need for a second
reading. -/
def settleRefusal (input : Input) (fill : Nat) (r : Refusal) : Refusal :=
  if r.lexical then r
  else
    match input.tokens.ending with
    | .malformed _ _ => input.tokens.ending.refusal
    | _ =>
      match input.tokens.inside, input.tokens.tokens[fill - 1]? with
      | some (b, l), some t =>
        if l < t.line then (Ending.unclosed b l).refusalIn input.inString else r
      | _, _ => r

def generalRefusal (input : Input) (firstFill secondFill : Nat) : Refusal :=
  let intro := if input.inString then insideString else ""
  let ts := input.tokens.tokens
  match ts[firstFill - 1]? with
  | none => { message := s!"{intro}error at start before reading any input", line := 0 }
  | some last =>
    let line := (ts[secondFill - 1]?.map Token.line).getD 0
    if last.cls == .indent then
      { message := s!"{intro}unexpected indent", line := line, lexical := true }
    else if last.cls == .dedent then
      { message := s!"{intro}unexpected unindent", line := line, lexical := true }
    else { message := s!"{intro}invalid syntax", line := last.line }

def tooNested : Refusal := { message := "too many nested parentheses", line := 0, lexical := true }

mutual

def parseItem (input : Input) : (fuel : Nat) → Item → Parse (Option Val)
  | 0, _ => throw tooNested
  | fuel + 1, item => do
    let start := (← get).mark
    match item with
    | .word s => expect input (isWord s)
    | .soft s => expect input fun t => t.cls == .name && t.text == s
    | .cls c => expect input (isOfClass c)
    | .softKeyword => expect input fun t => t.cls == .name && isSoft t.text
    | .rule name => parseRule input fuel name
    | .maybe i =>
      match ← parseItem input fuel i with
      | some v => return some v
      | none =>
        modify fun st => { st with mark := start }
        return some .none
    | .many some_ i =>
      let vs ← parseMany input fuel i none []
      if some_ && vs.isEmpty then return none
      return some (.list vs)
    | .separated sep i =>
      match ← parseItem input fuel i with
      | none => return none
      | some v => return some (.list (v :: (← parseMany input fuel i (some sep) [])))
    | .oneOf alternatives => parseChoice input fuel alternatives
    | .ahead positive i =>
      let found ← parseItem input fuel i
      modify fun st => { st with mark := start }
      return if found.isSome == positive then some .none else none
    | .commit => return some .none
    | .force s =>
      match ← expect input (isWord s) with
      | some v => return some v
      | none =>
        let t ← peek input
        let intro := if input.inString then insideString else ""
        throw { message := s!"{intro}expected '{s}'", line := t.line }
termination_by structural fuel => fuel

def parseMany (input : Input) :
    (fuel : Nat) → Item → (sep : Option Item) → (acc : List Val) → Parse (List Val)
  | 0, _, _, _ => throw tooNested
  | fuel + 1, i, sep, acc => do
    let start := (← get).mark
    let separated ← match sep with
      | none => pure true
      | some s => do pure (← parseItem input fuel s).isSome
    let v ← if separated then parseItem input fuel i else pure none
    match v with
    | some v => parseMany input fuel i sep (v :: acc)
    | none =>
      modify fun st => { st with mark := start }
      return acc.reverse
termination_by structural fuel => fuel

def parseChoice (input : Input) : (fuel : Nat) → List (List Item) → Parse (Option Val)
  | 0, _ => throw tooNested
  | _, [] => return none
  | fuel + 1, items :: more => do
    let start := (← get).mark
    let m ← parseItems input fuel items [] false
    match m.values with
    | some vs => return some (passed vs)
    | none =>
      modify fun st => { st with mark := start }
      if m.committed then return none else parseChoice input fuel more
termination_by structural fuel => fuel

def parseItems (input : Input) :
    (fuel : Nat) → List Item → (acc : List Val) → (committed : Bool) → Parse Matched
  | 0, _, _, _ => throw tooNested
  | _, [], acc, committed => return ⟨some acc.reverse, committed⟩
  | fuel + 1, i :: is, acc, committed => do
    match ← parseItem input fuel i with
    | none => return ⟨none, committed⟩
    | some v =>
      match i with
      | .ahead _ _ => parseItems input fuel is acc committed
      | .commit => parseItems input fuel is acc true
      | _ => parseItems input fuel is (v :: acc) committed
termination_by structural fuel => fuel

def parseAlternatives (input : Input) (start : Nat) :
    (fuel : Nat) → List Alternative → Parse (Option Val)
  | 0, _ => throw tooNested
  | _, [] => return none
  | fuel + 1, a :: more => do
    if isRefusing a && !(← get).refusing then return ← parseAlternatives input start fuel more
    let m ← parseItems input fuel a.items [] false
    match m.values with
    | some vs =>
      let scene := sceneAt input start (← get) fun text line => parseInside fuel text line
      match a.action scene vs with
      | .ok v => return v
      | .error e =>
        let intro := if input.inString && !e.inner then insideString else ""
        throw { e with message := intro ++ e.message }
    | none =>
      modify fun st => { st with mark := start }
      if m.committed then return none else parseAlternatives input start fuel more
termination_by structural fuel => fuel

def parseRule (input : Input) : (fuel : Nat) → String → Parse (Option Val)
  | 0, _ => throw tooNested
  | fuel + 1, name => do
    let start := (← get).mark
    match ruleTable[name]? with
    | none => throw { message := s!"no rule {name}", line := 0, lexical := true }
    | some r =>
      match r.keeping with
      | .none =>
        let refusing := (← get).refusing
        if r.tolerant then modify fun st => { st with refusing := false }
        let v ← parseAlternatives input start fuel r.alternatives
        if r.tolerant then modify fun st => { st with refusing := refusing }
        return v
      | .memo =>
        match (← get).memo[(name, start)]? with
        | some (v, mark) =>
          modify fun st => { st with mark := mark }
          return v
        | none =>
          let v ← parseAlternatives input start fuel r.alternatives
          modify fun st => { st with memo := st.memo.insert (name, start) (v, st.mark) }
          return v
      | .growing =>
        match (← get).memo[(name, start)]? with
        | some (v, mark) =>
          modify fun st => { st with mark := mark }
          return v
        | none => grow input fuel r start none start
termination_by structural fuel => fuel

/-- Lets the match of a rule that starts with itself grow: `best` is the match so far, up to the
token `reached`. -/
def grow (input : Input) :
    (fuel : Nat) → Rule → (start : Nat) → (best : Option Val) → (reached : Nat) →
    Parse (Option Val)
  | 0, _, _, _, _ => throw tooNested
  | fuel + 1, r, start, best, reached => do
    modify fun st =>
      { st with mark := start, memo := st.memo.insert (r.name, start) (best, reached) }
    let v ← parseAlternatives input start fuel r.alternatives
    let mark := (← get).mark
    match v with
    | some _ =>
      if reached < mark then grow input fuel r start v mark
      else
        modify fun st => { st with mark := reached }
        return best
    | none =>
      modify fun st => { st with mark := reached }
      return best
termination_by structural fuel => fuel

def parseInside : (fuel : Nat) → (text : Chars) → (line : Nat) → Except Refusal Tree
  | 0, _, _ => .error tooNested
  | fuel + 1, text, line =>
    let input : Input := ⟨tokenize ('(' :: text ++ [')']) (line - 1), true⟩
    match parseStart input fuel "fstring" with
    | .ok t => .ok t
    | .error r => .error { r with lexical := false, inner := true }
termination_by structural fuel => fuel

def parseStart (input : Input) : (fuel : Nat) → (rule : String) → Except Refusal Tree
  | 0, _ => .error tooNested
  | fuel + 1, name =>
    match (parseOutcome input fuel name {}) with
    | (some (.ok v), _) => .ok (v.tree?.getD default)
    | (some (.error r), fill) => .error (settleRefusal input fill r)
    | (none, fill) =>
      match parseOutcome input fuel name { fill := fill, refusing := true } with
      | (some (.error r), fill2) => .error (settleRefusal input fill2 r)
      | (_, fill2) => .error (settleRefusal input fill2 (generalRefusal input fill fill2))
termination_by structural fuel => fuel

/-- One reading: the value or the refusal, if there is one, and the number of tokens looked at. -/
def parseOutcome (input : Input) :
    (fuel : Nat) → (rule : String) → ParseState → Option (Except Refusal Val) × Nat
  | 0, _, st => (some (.error tooNested), st.fill)
  | fuel + 1, name, st =>
    match (parseRule input fuel name).run.run st with
    | (.ok (some v), st) => (some (.ok v), st.fill)
    | (.ok none, st) => (none, st.fill)
    | (.error e, st) => (some (.error e), st.fill)
termination_by structural fuel => fuel

end

def parse (text : String) : Except Refusal Tree :=
  if text.toList.contains '\x00' then
    .error { message := "source code string cannot contain null bytes", line := 0, lexical := true }
  else
  let input : Input := ⟨tokenize text.toList 0, false⟩
  parseStart input (400 * (input.tokens.tokens.size + 50)) "file"

end Workbench.Source
