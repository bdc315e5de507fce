import Workbench.Text.Quoted
import Workbench.Text.Identifier
import Workbench.Pattern.Matcher

/-!
# Reading patterns

Reads the usual notation for patterns.  A text that is no pattern is refused with the reason and the
position it concerns.
-/

namespace Workbench.Pattern

open Text

/-- Why a text is no pattern. -/
inductive Error where
  /-- A reason at a position. -/
  | at (reason : String) (pos : Nat)
  | variableBehind
  | tooManyRounds
deriving DecidableEq, Repr

def Error.message (e : Error) (text : String) : String :=
  match e with
  | .at reason pos =>
    let before := text.toList.take pos
    s!"{reason} at position {pos}" ++
      (if text.toList.contains '\n' then
        " (line " ++ toString (before.count '\n' + 1) ++ ", column "
          ++ toString ((before.reverse.takeWhile (· != '\n')).length + 1) ++ ")"
      else "")
  | .variableBehind => "look-behind requires fixed-width pattern"
  | .tooManyRounds => "the repetition number is too large"

/-- Settings that change the meaning of what follows. -/
structure Flags where
  ignoreCase : Bool := false
  multiline : Bool := false
  dotAll : Bool := false
  verbose : Bool := false
  ascii : Bool := false
deriving DecidableEq, Repr, Inhabited

/-- The state of reading: the next item (one character, or a backslash and one), what follows it,
and the groups so far. -/
structure State where
  size : Nat
  next : Chars := []
  rest : Chars
  index : Nat := 0
  flags : Flags := {}
  groups : Nat := 1
  names : List (String × Nat) := []
  closed : List (Nat × Node) := []
  behindGroups : Option Nat := none
  refs : List (Nat × Nat) := []

abbrev Reads := StateT State (Except Error)

def advance : Reads Unit := do
  let s ← get
  match s.rest with
  | [] => set { s with next := [] }
  | '\\' :: r =>
    match r with
    | [] => throw (.at "bad escape (end of pattern)" (s.size - 1))
    | c :: r => set { s with next := ['\\', c], rest := r, index := s.index + 2 }
  | c :: r => set { s with next := [c], rest := r, index := s.index + 1 }

def here : Reads Nat := do
  let s ← get
  return s.index - s.next.length

def take : Reads Chars := do
  let s ← get
  advance
  return s.next

def accept (c : Char) : Reads Bool := do
  if (← get).next == [c] then
    advance
    return true
  return false

def refuse {α : Type} (reason : String) (back : Nat) : Reads α := do
  throw (.at reason ((← here) - back))

def takeWhile (p : Char → Bool) : Nat → Reads Chars
  | 0 => return []
  | n + 1 => do
    match (← get).next with
    | [c] =>
      if p c then
        advance
        return c :: (← takeWhile p n)
      return []
    | _ => return []

/-- Takes up to and with `stop`; `fuel` bounds the length, `acc` is what was taken in reverse. -/
def takeUntil (stop : Char) (name : String) : (fuel : Nat) → (acc : Chars) → Reads Chars
  | 0, acc => return acc.reverse
  | fuel + 1, acc => do
    let item ← take
    if item.isEmpty then
      if acc.isEmpty then refuse s!"missing {name}" 0
      else refuse s!"missing {String.ofList [stop]}, unterminated name" acc.length
    else if item == [stop] then
      if acc.isEmpty then refuse s!"missing {name}" 1
      else return acc.reverse
    else takeUntil stop name fuel (item.reverse ++ acc)

def isHex (c : Char) : Bool := isAsciiDigit c || ('a' ≤ c && c ≤ 'f') || ('A' ≤ c && c ≤ 'F')

def isOctal (c : Char) : Bool := '0' ≤ c && c ≤ '7'

def isAsciiLetter (c : Char) : Bool := ('a' ≤ c && c ≤ 'z') || ('A' ≤ c && c ≤ 'Z')

def digitOf (c : Char) : Nat :=
  if isAsciiDigit c then c.toNat - 48
  else if 'a' ≤ c then c.toNat - 87 else c.toNat - 55

def valueIn (base : Nat) (ds : Chars) : Nat := ds.foldl (fun n d => base * n + digitOf d) 0

def isName (s : Chars) : Bool :=
  match s with
  | c :: r => isNameStart c && r.all isNameContinue
  | [] => false

def charEscape? : Char → Option Nat
  | 'a' => some 7
  | 'b' => some 8
  | 'f' => some 12
  | 'n' => some 10
  | 'r' => some 13
  | 't' => some 9
  | 'v' => some 11
  | '\\' => some 92
  | _ => none

def classEscape? : Char → Option (Bool × Category)
  | 'd' => some (false, .digit)
  | 'D' => some (true, .digit)
  | 's' => some (false, .space)
  | 'S' => some (true, .space)
  | 'w' => some (false, .word)
  | 'W' => some (true, .word)
  | _ => none

def hexEscape (e : Char) (n : Nat) : Reads Nat := do
  let ds ← takeWhile isHex n
  if ds.length != n then
    refuse ("incomplete escape \\" ++ .ofList (e :: ds)) (ds.length + 2)
  else return valueIn 16 ds

/-- The escapes that both a set and a pattern know: numbers, and characters that need no escape. -/
def commonEscape (c : Char) : Reads Nat := do
  if c == 'x' then hexEscape c 2
  else if c == 'u' then hexEscape c 4
  else if c == 'U' then do
    let n ← hexEscape c 8
    if n < 0x110000 then return n
    refuse s!"bad escape \\U{String.ofList (hex 8 n)}" 10
  else if c == 'N' then do
    if ← accept '\x7b' then
      let name ← takeUntil '\x7d' "character name" (← get).size []
      refuse s!"undefined character name {quoted (String.ofList name)}" (name.length + 4)
    else refuse "missing \x7b" 0
  else if isAsciiLetter c || isAsciiDigit c then
    refuse s!"bad escape \\{String.ofList [c]}" 2
  else return c.toNat

def setEscape (c : Char) : Reads SetItem := do
  match charEscape? c with
  | some n => return .range n n
  | none =>
    match classEscape? c with
    | some (neg, k) => return .category (← get).flags.ascii neg k
    | none =>
      if isOctal c then
        let ds ← takeWhile isOctal 2
        let n := valueIn 8 (c :: ds)
        if 0o377 < n then
          refuse ("octal escape value \\" ++ .ofList (c :: ds) ++ " outside of range 0-0o377")
            (ds.length + 2)
        else return .range n n
      else
        let n ← commonEscape c
        return .range n n

def setNode (f : Flags) (negated : Bool) (items : List SetItem) : Node :=
  .set { negated := negated, ignoreCase := f.ignoreCase, items := items }

def charNode (f : Flags) (n : Nat) : Node := setNode f false [.range n n]

def checkBehind (n : Nat) : Reads Unit := do
  let s ← get
  match s.behindGroups with
  | none => return
  | some g =>
    if (s.closed.lookup n).isNone then refuse "cannot refer to an open group" 0
    if g ≤ n then refuse "cannot refer to group defined in the same lookbehind subpattern" 0

def reference (n back : Nat) : Reads Node := do
  let s ← get
  if (s.closed.lookup n).isNone then refuse "cannot refer to an open group" back
  checkBehind n
  return .same s.flags.ignoreCase n

def escape (c : Char) : Reads Node := do
  let f := (← get).flags
  match c with
  | 'A' => return .anchor .start
  | 'Z' => return .anchor .stop
  | 'b' => return .anchor (.boundary f.ascii false)
  | 'B' => return .anchor (.boundary f.ascii true)
  | _ =>
    match classEscape? c with
    | some (neg, k) => return setNode f false [.category f.ascii neg k]
    | none =>
      match charEscape? c with
      | some n => return charNode f n
      | none =>
        if c == '0' then
          let ds ← takeWhile isOctal 2
          return charNode f (valueIn 8 ds)
        else if isAsciiDigit c then
          let d2 ← takeWhile isAsciiDigit 1
          let s ← get
          let third := match s.next with
            | [x] => isOctal x
            | _ => false
          if isOctal c && (!d2.isEmpty && d2.all isOctal) && third then
            let d3 ← takeWhile isOctal 1
            let n := valueIn 8 (c :: d2 ++ d3)
            if 0o377 < n then
              refuse ("octal escape value \\" ++ .ofList (c :: d2 ++ d3) ++
                " outside of range 0-0o377") 4
            else return charNode f n
          else
            let n := valueIn 10 (c :: d2)
            if n < s.groups then reference n (2 + d2.length)
            else refuse s!"invalid group reference {n}" (1 + d2.length)
        else
          return charNode f (← commonEscape c)

def setMember (item : Chars) : Reads SetItem :=
  match item with
  | ['\\', c] => setEscape c
  | [c] => return .range c.toNat c.toNat
  | _ => return .range 0 0

/-- The members of a set up to its closing bracket; `start` is the position of the opening one. -/
def setMembers (start : Nat) : (fuel : Nat) → (acc : List SetItem) → Reads (List SetItem)
  | 0, acc => return acc.reverse
  | fuel + 1, acc => do
    let this ← take
    if this.isEmpty then refuse "unterminated character set" ((← here) - start)
    else if this == [']'] && !acc.isEmpty then return acc.reverse
    else
      let m ← setMember this
      if ← accept '-' then
        let that ← take
        if that.isEmpty then refuse "unterminated character set" ((← here) - start)
        else if that == [']'] then return (.range 45 45 :: m :: acc).reverse
        else
          let m2 ← setMember that
          let bad : Reads (List SetItem) :=
            refuse s!"bad character range {String.ofList this}-{String.ofList that}"
              (this.length + 1 + that.length)
          match m, m2 with
          | .range lo _, .range hi _ =>
            if hi < lo then bad else setMembers start fuel (.range lo hi :: acc)
          | _, _ => bad
      else setMembers start fuel (m :: acc)

def flagLetters : Chars := ['i', 'L', 'm', 's', 'x', 'a', 'u', 't']

def Flags.switch (f : Flags) (on : Bool) : Char → Flags
  | 'i' => { f with ignoreCase := on }
  | 'm' => { f with multiline := on }
  | 's' => { f with dotAll := on }
  | 'x' => { f with verbose := on }
  | 'a' => { f with ascii := on }
  | 'u' => { f with ascii := !on }
  | _ => f

def settings (ends : Chars) (missing : String) (check : Chars → Char → Reads Unit) :
    (fuel : Nat) → (acc : Chars) → Char → Reads (Chars × Char)
  | 0, acc, c => return (acc, c)
  | fuel + 1, acc, c => do
    check acc c
    let item ← take
    match item with
    | [] => refuse missing 0
    | [d] =>
      if ends.contains d then return (acc ++ [c], d)
      else if flagLetters.contains d then settings ends missing check fuel (acc ++ [c]) d
      else refuse (if isLetter d then "unknown flag" else missing) 1
    | _ => refuse missing item.length

def checkOn (acc : Chars) (c : Char) : Reads Unit := do
  if c == 'L' then refuse "bad inline flags: cannot use 'L' flag with a str pattern" 0
  if (c == 'a' && acc.contains 'u') || (c == 'u' && acc.contains 'a') then
    refuse "bad inline flags: flags 'a', 'u' and 'L' are incompatible" 0

def checkOff (_ : Chars) (c : Char) : Reads Unit := do
  if c == 'a' || c == 'u' || c == 'L' then
    refuse "bad inline flags: cannot turn off flags 'a', 'u' and 'L'" 0

/-- Settings after `(?`: `none` if they hold for the whole pattern, else those turned on and off. -/
def readSettings (c : Char) : Reads (Option (Chars × Chars)) := do
  let n := (← get).size
  let (on, stop) ← if c == '-' then pure ([], '-')
    else settings [')', '-', ':'] "missing -, : or )" checkOn n [] c
  if stop == ')' then
    modify fun s => { s with flags := on.foldl (fun f c => f.switch true c) s.flags }
    return none
  if on.contains 't' then refuse "bad inline flags: cannot turn on global flag" 1
  let off ← if stop == '-' then do
      let item ← take
      match item with
      | [] => refuse "missing flag" 0
      | [d] =>
        if flagLetters.contains d then pure (← settings [':'] "missing :" checkOff n [] d).1
        else refuse (if isLetter d then "unknown flag" else "missing flag") 1
      | _ => refuse "missing flag" item.length
    else pure []
  if off.contains 't' then refuse "bad inline flags: cannot turn off global flag" 1
  if on.any off.contains then refuse "bad inline flags: flag turned on and off" 1
  return some (on, off)

/-- The bounds of a repetition in braces; `none` if the brace is a plain character. -/
def braces : Reads (Option (Nat × Option Nat)) := do
  let s ← get
  if s.next == ['\x7d'] then return none
  let lo ← takeWhile isAsciiDigit s.size
  let comma ← accept ','
  let hi ← if comma then takeWhile isAsciiDigit s.size else pure lo
  if ← accept '\x7d' then
    let least := valueIn 10 lo
    let most := if hi.isEmpty then none else some (valueIn 10 hi)
    if 4294967295 ≤ least || most.any (4294967295 ≤ ·) then throw .tooManyRounds
    return some (least, most)
  set s
  return none

def sequence (parts : List Node) : Node :=
  match parts with
  | [] => .empty
  | p :: ps => ps.foldl (fun acc q => .seq q acc) p

def isAnchor : Node → Bool
  | .anchor _ => true
  | _ => false

def isRepeat : Node → Bool
  | .rep _ _ _ _ => true
  | _ => false

/-- A part with the mark that it is a group of its own, which may be repeated whatever it holds. -/
structure Part where
  node : Node
  grouped : Bool := false

def readMode : Reads Mode := do
  if ← accept '?' then return .lazy
  if ← accept '+' then return .possessive
  return .greedy

def repetition (start : Nat) (parts : List Part) (lo : Nat) (hi : Option Nat) :
    Reads (List Part) := do
  if hi.any (· < lo) then refuse "min repeat greater than max repeat" ((← here) - start)
  match parts with
  | [] => refuse "nothing to repeat" ((← here) - start + 1)
  | p :: ps =>
    if !p.grouped && isAnchor p.node then refuse "nothing to repeat" ((← here) - start + 1)
    else if !p.grouped && isRepeat p.node then refuse "multiple repeat" ((← here) - start + 1)
    else
      return ⟨.rep lo hi (← readMode) p.node, false⟩ :: ps

def skipComment (start : Nat) : (fuel : Nat) → Reads Unit
  | 0 => return
  | fuel + 1 => do
    if (← get).next.isEmpty then refuse "missing ), unterminated comment" ((← here) - start)
    if (← take) == [')'] then return
    skipComment start fuel

def skipLine : (fuel : Nat) → Reads Unit
  | 0 => return
  | fuel + 1 => do
    let c ← take
    if c.isEmpty || c == ['\n'] then return
    skipLine fuel

/-- The least and the greatest length of a match, the latter `none` if unbounded. -/
def width (groups : List (Nat × Node)) : Node → Nat × Option Nat
  | .empty => (0, some 0)
  | .set _ => (1, some 1)
  | .seq a b =>
    let (l1, h1) := width groups a
    let (l2, h2) := width groups b
    (l1 + l2, do return (← h1) + (← h2))
  | .alt a b =>
    let (l1, h1) := width groups a
    let (l2, h2) := width groups b
    (min l1 l2, do return max (← h1) (← h2))
  | .rep lo hi _ a =>
    let (l, h) := width groups a
    (l * lo, do return (← h) * (← hi))
  | .group _ a => width groups a
  | .same _ _ => (0, none)
  | .anchor _ => (0, some 0)
  | .ahead _ _ => (0, some 0)
  | .behind _ _ _ => (0, some 0)
  | .atomic a => width groups a
  | .ifGroup _ yes no =>
    let (l1, h1) := width groups yes
    let (l2, h2) := width groups no
    (min l1 l2, do return max (← h1) (← h2))

/-- Whether every look-behind of a pattern has a fixed width, as recorded in it. -/
def fixedBehind : Node → Bool
  | .seq a b => fixedBehind a && fixedBehind b
  | .alt a b => fixedBehind a && fixedBehind b
  | .rep _ _ _ a => fixedBehind a
  | .group _ a => fixedBehind a
  | .ahead _ a => fixedBehind a
  | .behind _ w a => (width [] a).2 == some w && (width [] a).1 == w && fixedBehind a
  | .atomic a => fixedBehind a
  | .ifGroup _ yes no => fixedBehind yes && fixedBehind no
  | _ => true

def checkName (name : Chars) : Reads Unit := do
  if !isName name then
    refuse s!"bad character in group name {quoted (String.ofList name)}" (name.length + 1)

def openGroup (name : Option Chars) : Reads Nat := do
  let s ← get
  let n := s.groups
  match name with
  | some cs =>
    let t := .ofList cs
    match s.names.lookup t with
    | some old =>
      refuse s!"redefinition of group name {quoted t} as group {n}; was group {old}" (cs.length + 1)
    | none => set { s with groups := n + 1, names := (t, n) :: s.names }
  | none => set { s with groups := n + 1 }
  return n

def closeAt (start : Nat) : Reads Unit := do
  if !(← accept ')') then refuse "missing ), unterminated subpattern" ((← here) - start)

mutual

def readAlternatives : (fuel : Nat) → (top : Bool) → Reads Node
  | 0, _ => return .empty
  | fuel + 1, top => do
    let a ← readSequence fuel top []
    if ← accept '|' then return .alt a (← readMore fuel)
    return a

def readMore : (fuel : Nat) → Reads Node
  | 0 => return .empty
  | fuel + 1 => do
    let a ← readSequence fuel false []
    if ← accept '|' then return .alt a (← readMore fuel)
    return a

/-- A sequence of parts; `first` tells that settings for the whole pattern may still come. -/
def readSequence : (fuel : Nat) → (first : Bool) → (parts : List Part) → Reads Node
  | 0, _, parts => return sequence (parts.map (·.node))
  | fuel + 1, first, parts => do
    let s ← get
    match s.next with
    | [] => return sequence (parts.map (·.node))
    | ['\\', c] =>
      advance
      let n ← escape c
      readSequence fuel first (⟨n, false⟩ :: parts)
    | c :: _ =>
      if c == '|' || c == ')' then return sequence (parts.map (·.node))
      advance
      let f := s.flags
      if f.verbose && [9, 10, 11, 12, 13, 32].contains c.toNat then readSequence fuel first parts
      else if f.verbose && c == '#' then
        skipLine s.size
        readSequence fuel first parts
      else if c == '[' then
        let start := (← here) - 1
        let neg ← accept '^'
        let items ← setMembers start s.size []
        readSequence fuel first (⟨setNode f neg items, false⟩ :: parts)
      else if c == '?' || c == '*' || c == '+' then
        let start ← here
        let parts ← repetition start parts (if c == '+' then 1 else 0)
          (if c == '?' then some 1 else none)
        readSequence fuel first parts
      else if c == '\x7b' then
        let start ← here
        match ← braces with
        | none => readSequence fuel first (⟨charNode f c.toNat, false⟩ :: parts)
        | some (lo, hi) => readSequence fuel first (← repetition start parts lo hi)
      else if c == '.' then
        let n :=
          if f.dotAll then setNode f true [] else .set { negated := true, items := [.range 10 10] }
        readSequence fuel first (⟨n, false⟩ :: parts)
      else if c == '^' then
        readSequence fuel first
          (⟨.anchor (if f.multiline then .lineStart else .start), false⟩ :: parts)
      else if c == '$' then
        readSequence fuel first
          (⟨.anchor (if f.multiline then .lineStop else .stopOrNewline), false⟩ :: parts)
      else if c == '(' then
        match ← readGroup fuel (first && parts.isEmpty) with
        | some p => readSequence fuel first (p :: parts)
        | none => readSequence fuel first parts
      else readSequence fuel first (⟨charNode f c.toNat, false⟩ :: parts)

def readGroup : (fuel : Nat) → (atStart : Bool) → Reads (Option Part)
  | 0, _ => return none
  | fuel + 1, atStart => do
    let start := (← here) - 1
    if !(← accept '?') then
      let n ← openGroup none
      let p ← readAlternatives fuel false
      closeAt start
      modify fun s => { s with closed := (n, p) :: s.closed }
      return some ⟨.group n p, true⟩
    let item ← take
    match item with
    | [] => refuse "unexpected end of pattern" 0
    | ['P'] =>
      if ← accept '<' then
        let name ← takeUntil '>' "group name" (← get).size []
        checkName name
        let n ← openGroup (some name)
        let p ← readAlternatives fuel false
        closeAt start
        modify fun s => { s with closed := (n, p) :: s.closed }
        return some ⟨.group n p, true⟩
      if ← accept '=' then
        let name ← takeUntil ')' "group name" (← get).size []
        checkName name
        match (← get).names.lookup (.ofList name) with
        | none => refuse s!"unknown group name {quoted (String.ofList name)}" (name.length + 1)
        | some n => return some ⟨← reference n (name.length + 1), false⟩
      let c ← take
      if c.isEmpty then refuse "unexpected end of pattern" 0
      else refuse s!"unknown extension ?P{String.ofList c}" (c.length + 2)
    | [':'] =>
      let p ← readAlternatives fuel false
      closeAt start
      return some ⟨p, true⟩
    | ['>'] =>
      let p ← readAlternatives fuel false
      closeAt start
      return some ⟨.atomic p, true⟩
    | ['#'] =>
      skipComment start (← get).size
      return none
    | ['='] => readAhead fuel start false
    | ['!'] => readAhead fuel start true
    | ['<'] =>
      let c ← take
      if c.isEmpty then refuse "unexpected end of pattern" 0
      else if c != ['='] && c != ['!'] then
        refuse s!"unknown extension ?<{String.ofList c}" (c.length + 2)
      else
        let outer := (← get).behindGroups
        modify fun s => { s with behindGroups := some (outer.getD s.groups) }
        let p ← readAlternatives fuel false
        modify fun s => { s with behindGroups := outer }
        closeAt start
        return some ⟨.behind (c == ['!']) (width [] p).1 p, true⟩
    | ['('] => readCondition fuel start
    | [c] =>
      if flagLetters.contains c || c == '-' then
        match ← readSettings c with
        | none =>
          if !atStart then
            refuse "global flags not at the start of the expression" ((← here) - start)
          return none
        | some (on, off) =>
          let saved := (← get).flags
          let f :=
            off.foldl (fun f c => f.switch false c) (on.foldl (fun f c => f.switch true c) saved)
          modify fun s => { s with flags := f }
          let p ← readAlternatives fuel false
          modify fun s => { s with flags := saved }
          closeAt start
          return some ⟨p, true⟩
      else refuse s!"unknown extension ?{String.ofList [c]}" 2
    | _ => refuse s!"unknown extension ?{String.ofList item}" (item.length + 1)

def readAhead : (fuel : Nat) → (start : Nat) → (negated : Bool) → Reads (Option Part)
  | 0, _, _ => return none
  | fuel + 1, start, negated => do
    let p ← readAlternatives fuel false
    closeAt start
    return some ⟨.ahead negated p, true⟩

def readCondition : (fuel : Nat) → (start : Nat) → Reads (Option Part)
  | 0, _ => return none
  | fuel + 1, start => do
    let name ← takeUntil ')' "group name" (← get).size []
    let text := .ofList name
    let n ← if isName name then
        match (← get).names.lookup text with
        | none => refuse s!"unknown group name {quoted text}" (name.length + 1)
        | some n => pure n
      else if !name.all isAsciiDigit then
        refuse s!"bad character in group name {quoted text}" (name.length + 1)
      else do
        let n := valueIn 10 name
        if n == 0 then refuse "bad group number" (name.length + 1)
        let pos := (← here) - name.length - 1
        modify fun s => { s with refs := s.refs ++ [(n, pos)] }
        pure n
    checkBehind n
    let yes ← readSequence fuel false []
    let no ← if ← accept '|' then do
        let no ← readSequence fuel false []
        if (← get).next == ['|'] then refuse "conditional backref with more than two branches" 0
        pure no
      else pure .empty
    closeAt start
    return some ⟨.ifGroup n yes no, true⟩

end

def readPattern : Reads Node := do
  advance
  let s ← get
  let p ← readAlternatives (6 * s.size + 6) true
  let s ← get
  if !s.next.isEmpty then refuse "unbalanced parenthesis" 0
  match s.refs.find? fun r => s.groups ≤ r.1 with
  | some (n, pos) => throw (.at s!"invalid group reference {n}" pos)
  | none => pure ()
  if !fixedBehind p then throw .variableBehind
  return p

def parse (flags : Flags) (text : String) : Except Error Node :=
  (readPattern.run { size := text.length, rest := text.toList, flags := flags }).map (·.1)

def ofString (text : String) (flags : Flags := {}) : Node :=
  match parse flags text with
  | .ok p => p
  | .error _ => .set { items := [] }

def Flags.caseless : Flags := { ignoreCase := true }

def Flags.dotted : Flags := { dotAll := true }

def Flags.lines : Flags := { multiline := true }

end Workbench.Pattern
