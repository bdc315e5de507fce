import Workbench.Pattern.Basic

/-!
# Matching

A backtracking matcher.
-/

namespace Workbench.Pattern

/-- A place in a text: what stands before it (nearest first), what follows, and its number. -/
structure Cursor where
  before : Chars
  after : Chars
  pos : Nat
deriving DecidableEq, Repr, Inhabited

def Cursor.ofText (s : Chars) : Cursor := ⟨[], s, 0⟩

def Cursor.next (c : Cursor) : Cursor :=
  match c.after with
  | x :: s => ⟨x :: c.before, s, c.pos + 1⟩
  | [] => c

def Cursor.back : (n : Nat) → Cursor → Option Cursor
  | 0, c => some c
  | n + 1, c =>
    match c.before with
    | x :: b => Cursor.back n ⟨b, x :: c.after, c.pos - 1⟩
    | [] => none

/-- What a group matched. -/
structure Capture where
  start : Nat
  stop : Nat
  text : Chars
deriving DecidableEq, Repr, Inhabited

abbrev Captures := List (Nat × Capture)

abbrev Cont := Cursor → Captures → Option (Cursor × Captures)

def Anchor.holds (c : Cursor) : Anchor → Bool
  | .start => c.before.isEmpty
  | .lineStart => c.before.isEmpty || c.before.head? == some '\n'
  | .stop => c.after.isEmpty
  | .stopOrNewline => c.after.isEmpty || c.after == ['\n']
  | .lineStop => c.after.isEmpty || c.after.head? == some '\n'
  | .boundary ascii negated =>
    let word := fun (x : Option Char) => x.any (Category.word.accepts ascii)
    !(c.before.isEmpty && c.after.isEmpty) && negated != (word c.before.head? != word c.after.head?)

def runCursors (s : CharSet) :
    (after : Chars) → (hi : Option Nat) → Cursor → List Cursor → List Cursor
  | [], _, c, acc => c :: acc
  | x :: xs, hi, c, acc =>
    if hi != some 0 && s.accepts x then
      runCursors s xs (hi.map (· - 1)) ⟨x :: c.before, xs, c.pos + 1⟩ (c :: acc)
    else c :: acc

def firstOf (k : Cont) (m : Captures) : List Cursor → Option (Cursor × Captures)
  | [] => none
  | c :: cs =>
    match k c m with
    | some r => some r
    | none => firstOf k m cs

/-- The rounds of a repetition whose body is `body`.  `count` rounds are done; `last` is where the
latest optional round began. -/
def rounds (body : Cont → Cont) (lo : Nat) (hi : Option Nat) (lazy : Bool) (k : Cont) :
    (fuel count : Nat) → (last : Option Nat) → Cont
  | 0, _, _, c, m => k c m
  | fuel + 1, count, last, c, m =>
    if count < lo then body (rounds body lo hi lazy k fuel (count + 1) last) c m
    else
      let more := fun (_ : Unit) =>
        if hi.all (count < ·) && last != some c.pos then
          body (rounds body lo hi lazy k fuel (count + 1) (some c.pos)) c m
        else none
      if lazy then (k c m).or (more ()) else (more ()).or (k c m)

def dropSame (ignoreCase : Bool) : Chars → Cursor → Option Cursor
  | [], c => some c
  | x :: s, c =>
    match c.after with
    | [] => none
    | y :: _ =>
      if x == y || (ignoreCase && Text.lowerOne x == Text.lowerOne y) then
        dropSame ignoreCase s c.next else none

/-- Tries the matches of a pattern from a cursor in order, until the continuation succeeds. -/
def Node.run : Node → Cont → Cont
  | .empty, k => k
  | .set s, k => fun c m =>
    match c.after with
    | x :: _ => if s.accepts x then k c.next m else none
    | [] => none
  | .seq a b, k => a.run (b.run k)
  | .alt a b, k => fun c m => (a.run k c m).or (b.run k c m)
  | .rep lo hi mode a, k => fun c m =>
    let end_ : Cont := fun c m => some (c, m)
    match mode, a with
    | .greedy, .set s => firstOf k m ((runCursors s c.after hi c []).filter (c.pos + lo ≤ ·.pos))
    | .lazy, .set s =>
      firstOf k m ((runCursors s c.after hi c []).filter (c.pos + lo ≤ ·.pos)).reverse
    | .possessive, _ =>
      match rounds a.run lo hi false end_ (lo + c.after.length + 2) 0 none c m with
      | some (c, m) => k c m
      | none => none
    | _, _ => rounds a.run lo hi (mode == .lazy) k (lo + c.after.length + 2) 0 none c m
  | .group n a, k => fun c m =>
    a.run (fun c' m' => k c' ((n, ⟨c.pos, c'.pos, c.after.take (c'.pos - c.pos)⟩) :: m')) c m
  | .same ignoreCase n, k => fun c m =>
    match m.lookup n with
    | none => none
    | some cap =>
      match dropSame ignoreCase cap.text c with
      | some c' => k c' m
      | none => none
  | .anchor a, k => fun c m => if a.holds c then k c m else none
  | .ahead negated a, k => fun c m =>
    match a.run (fun c m => some (c, m)) c m with
    | some (_, m') => if negated then none else k c m'
    | none => if negated then k c m else none
  | .behind negated width a, k => fun c m =>
    match (Cursor.back width c).bind fun b => a.run (fun c m => some (c, m)) b m with
    | some (_, m') => if negated then none else k c m'
    | none => if negated then k c m else none
  | .atomic a, k => fun c m =>
    match a.run (fun c m => some (c, m)) c m with
    | some (c', m') => k c' m'
    | none => none
  | .ifGroup n yes no, k => fun c m => if (m.lookup n).isSome then yes.run k c m else no.run k c m

/-- A match with its groups. -/
structure Match where
  start : Nat
  stop : Nat
  text : Chars
  captures : Captures
deriving DecidableEq, Repr, Inhabited

def Node.matchAt (p : Node) (advance : Bool) (c : Cursor) : Option (Match × Cursor) :=
  let k : Cont := fun c' m => if advance && c'.pos == c.pos then none else some (c', m)
  (p.run k c []).map fun (c', m) => (⟨c.pos, c'.pos, c.after.take (c'.pos - c.pos), m⟩, c')

def Node.searchFrom (p : Node) (advance : Bool) : (after : Chars) → Cursor → Option (Match × Cursor)
  | [], c => p.matchAt advance c
  | _ :: s, c =>
    match p.matchAt advance c with
    | some r => some r
    | none => p.searchFrom false s c.next

def Node.matchesFrom (p : Node) : (fuel : Nat) → (advance : Bool) → Cursor → List Match
  | 0, _, _ => []
  | fuel + 1, advance, c =>
    match p.searchFrom advance c.after c with
    | none => []
    | some (m, c') => m :: p.matchesFrom fuel (m.start == m.stop) c'

def Match.group? (m : Match) (n : Nat) : Option String :=
  (m.captures.lookup n).map fun c => .ofList c.text

def Match.group (m : Match) (n : Nat) : String := (m.group? n).getD ""

def Match.whole (m : Match) : String := .ofList m.text

def Node.matchStart (p : Node) (s : String) : Option Match :=
  (p.matchAt false (Cursor.ofText s.toList)).map (·.1)

def Node.search (p : Node) (s : String) : Option Match :=
  (p.searchFrom false s.toList (Cursor.ofText s.toList)).map (·.1)

def Node.occurs (p : Node) (s : String) : Bool := (p.search s).isSome

def Node.starts (p : Node) (s : String) : Bool := (p.matchStart s).isSome

def Node.all (p : Node) (s : String) : List Match :=
  p.matchesFrom (2 * s.length + 2) false (Cursor.ofText s.toList)

def replaceMatches (new : Chars) : (pos : Nat) → (rest : Chars) → List Match → Chars
  | _, rest, [] => rest
  | pos, rest, m :: ms =>
    rest.take (m.start - pos) ++ new ++ replaceMatches new m.stop (rest.drop (m.stop - pos)) ms

def Node.replaceAll (p : Node) (new s : String) : String :=
  .ofList (replaceMatches new.toList 0 s.toList (p.all s))

end Workbench.Pattern
