import Workbench.Text.Digit
import Workbench.Text.Case

/-!
# Texts

Cutting, trimming, searching and joining texts.
-/

open String

namespace Workbench.Text

/-! ### Blanks and line ends -/

def blankCodes : List Nat :=
  [9, 10, 11, 12, 13, 28, 29, 30, 31, 32, 133, 160, 5760, 8192, 8193, 8194, 8195, 8196, 8197, 8198,
   8199, 8200, 8201, 8202, 8232, 8233, 8239, 8287, 12288]

def isBlank (c : Char) : Bool := blankCodes.contains c.toNat

def lineEndCodes : List Nat := [10, 11, 12, 13, 28, 29, 30, 133, 8232, 8233]

def isLineEnd (c : Char) : Bool := lineEndCodes.contains c.toNat

/-! ### Lists of characters -/

def dropFront? : Chars → Chars → Option Chars
  | [], s => some s
  | _ :: _, [] => none
  | a :: p, b :: s => if a = b then dropFront? p s else none

def isFront (p s : Chars) : Bool := (dropFront? p s).isSome

def occursIn (p : Chars) : Chars → Bool
  | [] => p.isEmpty
  | c :: s => isFront p (c :: s) || occursIn p s

def findFrom (p : Chars) (i : Nat) : Chars → Option Nat
  | [] => if p.isEmpty then some i else none
  | c :: s => if isFront p (c :: s) then some i else findFrom p (i + 1) s

/-- Cuts `s` at each occurrence of the non-empty `sep`, at most `limit` times.  `skip` counts
characters of a separator that are still to be passed over, `piece` is the current piece in
reverse. -/
def splitLoop (sep : Chars) : (limit skip : Nat) → (piece : Chars) → Chars → List Chars
  | _, _, piece, [] => [piece.reverse]
  | limit, skip + 1, piece, _ :: s => splitLoop sep limit skip piece s
  | 0, 0, piece, c :: s => splitLoop sep 0 0 (c :: piece) s
  | limit + 1, 0, piece, c :: s =>
    if isFront sep (c :: s) then piece.reverse :: splitLoop sep limit (sep.length - 1) [] s
    else splitLoop sep (limit + 1) 0 (c :: piece) s

def splitChars (sep : Chars) (limit : Nat) (s : Chars) : List Chars :=
  if sep.isEmpty then [s] else splitLoop sep limit 0 [] s

def splitWhere (p : Char → Bool) : Chars → List Chars
  | [] => [[]]
  | c :: s =>
    if p c then [] :: splitWhere p s
    else match splitWhere p s with
      | piece :: rest => (c :: piece) :: rest
      | [] => [[c]]

def replaceLoop (old new : Chars) : (skip : Nat) → Chars → Chars
  | _, [] => []
  | skip + 1, _ :: s => replaceLoop old new skip s
  | 0, c :: s =>
    if isFront old (c :: s) then new ++ replaceLoop old new (old.length - 1) s
    else c :: replaceLoop old new 0 s

def replaceChars (old new s : Chars) : Chars :=
  if old.isEmpty then new ++ s.flatMap fun c => c :: new else replaceLoop old new 0 s

def countLoop (p : Chars) : (skip : Nat) → Chars → Nat
  | _, [] => 0
  | skip + 1, _ :: s => countLoop p skip s
  | 0, c :: s => if isFront p (c :: s) then 1 + countLoop p (p.length - 1) s else countLoop p 0 s

def dropEndWhile (p : Char → Bool) (s : Chars) : Chars := (s.reverse.dropWhile p).reverse

def trimWhile (p : Char → Bool) (s : Chars) : Chars := dropEndWhile p (s.dropWhile p)

def linesLoop : (line : Chars) → (cr : Bool) → Chars → List Chars
  | [], _, [] => []
  | line, _, [] => [line.reverse]
  | line, cr, c :: s =>
    if cr && c = '\n' then linesLoop line false s
    else if isLineEnd c then line.reverse :: linesLoop [] (c = '\r') s
    else linesLoop (c :: line) false s

def unixLineEnds : Chars → Chars
  | [] => []
  | '\r' :: '\n' :: s => '\n' :: unixLineEnds s
  | c :: s => (if c = '\r' then '\n' else c) :: unixLineEnds s

/-! ### Strings -/

def startsWith (s p : String) : Bool := isFront p.toList s.toList

def endsWith (s p : String) : Bool := isFront p.toList.reverse s.toList.reverse

def contains (s p : String) : Bool := occursIn p.toList s.toList

def containsAny (s : String) (ps : List String) : Bool := ps.any (contains s)

def find? (s p : String) : Option Nat := findFrom p.toList 0 s.toList

def count (s p : String) : Nat := if p.isEmpty then s.length + 1 else countLoop p.toList 0 s.toList

/-- The pieces between the separators. -/
def split (s sep : String) : List String :=
  (splitChars sep.toList (s.length + 1) s.toList).map ofList

def splitAtMost (s sep : String) (limit : Nat) : List String :=
  (splitChars sep.toList limit s.toList).map ofList

def words (s : String) : List String :=
  ((splitWhere isBlank s.toList).filter fun w => !w.isEmpty).map ofList

def lines (s : String) : List String := (linesLoop [] false s.toList).map ofList

def replace (s old new : String) : String := .ofList (replaceChars old.toList new.toList s.toList)

/-- A text without blanks at its ends. -/
def trim (s : String) : String := .ofList (trimWhile isBlank s.toList)

def trimEnd (s : String) : String := .ofList (dropEndWhile isBlank s.toList)

def trimStart (s : String) : String := .ofList (s.toList.dropWhile isBlank)

def trimSet (s set : String) : String := .ofList (trimWhile set.toList.contains s.toList)

def trimStartSet (s set : String) : String := .ofList (s.toList.dropWhile set.toList.contains)

def trimEndSet (s set : String) : String := .ofList (dropEndWhile set.toList.contains s.toList)

def take (s : String) (n : Nat) : String := .ofList (s.toList.take n)

def drop (s : String) (n : Nat) : String := .ofList (s.toList.drop n)

def slice (s : String) (i j : Nat) : String := .ofList ((s.toList.drop i).take (j - i))

/-- The pieces with separators between them. -/
def join (sep : String) : List String → String
  | [] => ""
  | [x] => x
  | x :: xs => x ++ sep ++ join sep xs

def times (s : String) : Nat → String
  | 0 => ""
  | n + 1 => s ++ times s n

def padRight (s : String) (width : Nat) : String := s ++ times " " (width - s.length)

def padLeft (s : String) (width : Nat) : String := times " " (width - s.length) ++ s

def lt (a b : String) : Bool := decide (a.toList < b.toList)

def le (a b : String) : Bool := !lt b a

def sort (xs : List String) : List String := xs.mergeSort le

/-- The distinct members, each where it first stands. -/
def dedup (xs : List String) : List String :=
  xs.foldl (fun acc x => if acc.contains x then acc else acc ++ [x]) []

end Workbench.Text
