import Workbench.World.Fault

/-!
# Places in a document

A mark is a place in a YAML text.  Messages show the place with the line around it and a caret under
it.
-/

namespace Workbench.Yaml

/-- A place: number of characters before it, line and column, counted from zero. -/
structure Mark where
  index : Nat
  line : Nat
  column : Nat
deriving DecidableEq, Repr, Inhabited

def isBreak (c : Char) : Bool := [10, 13, 133, 8232, 8233].contains c.toNat

def nearby (cs : Chars) : Chars × Bool :=
  let line := cs.takeWhile fun c => !isBreak c
  if 37 ≤ line.length then (line.take 32, true) else (line, false)

def Mark.snippet (text : Chars) (m : Mark) : String :=
  let (back, cutBack) := nearby (text.take m.index).reverse
  let (front, cutFront) := nearby (text.drop m.index)
  let head := if cutBack then " ... " else ""
  s!"    {head}{String.ofList (back.reverse ++ front)}" ++
    (if cutFront then " ... " else "") ++ "\n"
    ++ Text.times " " (4 + back.length + head.length) ++ "^"

def Mark.text (text : Chars) (m : Mark) : String :=
  s!"  in \"<unicode string>\", line {m.line + 1}, column {m.column + 1}:\n{m.snippet text}"

/-- A document that is refused: what was being done and where, what is wrong and where. -/
structure Error where
  stage : YamlStage
  context : Option (String × Option Mark) := none
  problem : String
  mark : Option Mark
deriving DecidableEq, Repr

def sameSpot (a b : Option Mark) : Bool :=
  match a, b with
  | some a, some b => a.line == b.line && a.column == b.column
  | _, _ => false

def Error.message (text : Chars) (e : Error) : String :=
  let context := match e.context with
    | none => []
    | some (c, m) =>
      c :: (match m with
        | none => []
        | some m => if sameSpot (some m) e.mark then [] else [m.text text])
  let mark := match e.mark with
    | none => []
    | some m => [m.text text]
  Text.join "\n" (context ++ [e.problem] ++ mark)

end Workbench.Yaml
