import Workbench.Text.Basic

/-!
# Patterns

Text patterns with ordered choice: sets of characters, sequences, alternatives, repetitions, groups,
references to groups, anchors and assertions about what stands around.
-/

namespace Workbench.Pattern

open Text

/-- A named class of characters. -/
inductive Category where
  | digit
  | space
  | word
deriving DecidableEq, Repr

def Category.accepts (ascii : Bool) (c : Char) : Category → Bool
  | .digit => if ascii then isAsciiDigit c else isDecimal c
  | .space => if ascii then [9, 10, 11, 12, 13, 32].contains c.toNat else isBlank c
  | .word => if ascii then c.toNat < 128 && isWord c else isWord c

/-- A part of a set. -/
inductive SetItem where
  | range (lo hi : Nat)
  | category (ascii negated : Bool) (c : Category)
deriving DecidableEq, Repr

/-- A set of characters. -/
structure CharSet where
  negated : Bool := false
  ignoreCase : Bool := false
  items : List SetItem
deriving DecidableEq, Repr

/-- Lower-case characters that count as one although neither is the other's lower case. -/
def caseTwins : List (List Nat) :=
  [[105, 305], [115, 383], [181, 956], [837, 953, 8126], [912, 8147], [944, 8163], [946, 976],
   [949, 1013], [952, 977], [954, 1008], [960, 982], [961, 1009], [962, 963],
   [966, 981], [1074, 7296], [1076, 7297], [1086, 7298], [1089, 7299], [1090, 7300, 7301],
   [1098, 7302], [1123, 7303],
   [7304, 42571], [7777, 7835], [64261, 64262]]

def caseExtras : List (Nat × List Nat) :=
  [(105, [304]), (107, [8490]), (229, [8491]), (454, [453]), (457, [456]),
    (460, [459]), (499, [498]),
   (952, [1012]), (969, [8486]), (223, [7838])]

def caseVariants (c : Char) : List Nat :=
  let l := (lowerOne c).toNat
  let twins := (caseTwins.find? (·.contains l)).getD [l]
  twins.flatMap fun t => [t, (upperOne (Char.ofNat t)).toNat] ++ (caseExtras.lookup t).getD []

def SetItem.accepts (ignoreCase : Bool) (c : Char) : SetItem → Bool
  | .range lo hi =>
    if ignoreCase then (caseVariants c).any fun n => lo ≤ n && n ≤ hi
    else lo ≤ c.toNat && c.toNat ≤ hi
  | .category ascii negated k => negated != k.accepts ascii c

/-- Whether a character is in the set. -/
def CharSet.accepts (s : CharSet) (c : Char) : Bool :=
  s.negated != s.items.any (·.accepts s.ignoreCase c)

/-- A condition on a position. -/
inductive Anchor where
  | start
  | lineStart
  | stop
  | stopOrNewline
  | lineStop
  | boundary (ascii negated : Bool)
deriving DecidableEq, Repr

/-- How a repetition tries its counts. -/
inductive Mode where
  | greedy
  | lazy
  | possessive
deriving DecidableEq, Repr

/-- The tree of a pattern. -/
inductive Node where
  | empty
  | set (s : CharSet)
  | seq (a b : Node)
  | alt (a b : Node)
  | rep (lo : Nat) (hi : Option Nat) (mode : Mode) (a : Node)
  | group (n : Nat) (a : Node)
  | same (ignoreCase : Bool) (n : Nat)
  | anchor (a : Anchor)
  | ahead (negated : Bool) (a : Node)
  | behind (negated : Bool) (width : Nat) (a : Node)
  | atomic (a : Node)
  | ifGroup (n : Nat) (yes no : Node)
deriving DecidableEq, Repr, Inhabited

end Workbench.Pattern
