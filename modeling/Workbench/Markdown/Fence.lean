import Workbench.Text.Identifier
import Workbench.Text.Basic

/-!
# Fenced blocks

A fenced block is three backticks, a label of word characters, a line end, and everything up to the
next three backticks.
-/

namespace Workbench.Markdown

open Text

def fence : Chars := ['\x60', '\x60', '\x60']

/-- A fenced block and its place. -/
structure Block where
  start : Nat
  stop : Nat
  label : Chars
  code : Chars
deriving DecidableEq, Repr

def closeFence : (acc : Chars) → Chars → Option (Chars × Chars)
  | _, [] => none
  | acc, c :: s =>
    match dropFront? fence (c :: s) with
    | some rest => some (acc.reverse, rest)
    | none => closeFence (c :: acc) s

def openBlock? (s : Chars) : Option (Chars × Chars × Chars) := do
  let s ← dropFront? fence s
  let label := s.takeWhile isWord
  match s.dropWhile isWord with
  | '\n' :: body => (closeFence [] body).map fun (code, rest) => (label, code, rest)
  | _ => none

def blocksFrom : (fuel pos : Nat) → Chars → List Block
  | 0, _, _ => []
  | _, _, [] => []
  | fuel + 1, pos, c :: s =>
    match openBlock? (c :: s) with
    | some (label, code, rest) =>
      let stop := pos + (s.length + 1 - rest.length)
      ⟨pos, stop, label, code⟩ :: blocksFrom fuel stop rest
    | none => blocksFrom fuel (pos + 1) s

def blocks (text : String) : List Block := blocksFrom (text.length + 1) 0 text.toList

/-- Code with its language. -/
structure Snippet where
  language : String
  code : String
deriving DecidableEq, Repr

def languageOf (label : Chars) : String :=
  if label.isEmpty then "unknown" else lower (.ofList label)

def Block.snippet (b : Block) : Snippet := ⟨languageOf b.label, trim (.ofList b.code)⟩

def snippets (text : String) : List Snippet := (blocks text).map Block.snippet

def lineCount (text : String) : Nat := count text "\n" + 1

end Workbench.Markdown
