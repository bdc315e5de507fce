import Workbench.Yaml.Schema

/-!
# Writing YAML

Writes a value in block style, one entry or item to a line.
-/

namespace Workbench.Yaml

/-! ### How a text may be written -/

/-- The styles that a text can be written in. -/
structure Analysis where
  multiline : Bool
  plain : Bool
  flowPlain : Bool
  single : Bool
deriving DecidableEq, Repr

def isWrittenBreak (c : Char) : Bool := [10, 133, 8232, 8233].contains c.toNat

def isSpecial (c : Char) : Bool := !(c == '\n' || (32 ≤ c.toNat && c.toNat ≤ 126))

/-- Whether a sign stands where it would not be read as text: at the front (`first`) or inside, in
block and in flow style. -/
def badSign (first spaceBefore spaceAfter : Bool) (c : Char) : Bool × Bool :=
  if first then
    if "#,[]\x7b\x7d&*!|>'\"%@\x60".toList.contains c then (true, true)
    else if c == '?' || c == ':' then (spaceAfter, true)
    else if c == '-' && spaceAfter then (true, true)
    else (false, false)
  else if ",?[]\x7b\x7d".toList.contains c then (false, true)
  else if c == ':' then (spaceAfter, true)
  else if c == '#' && spaceBefore then (true, true)
  else (false, false)

def badSigns : (before : Option Char) → Chars → Bool × Bool
  | _, [] => (false, false)
  | before, c :: s =>
    let (b, f) := badSign before.isNone (isEndOrSpace before) (isEndOrSpace s.head?) c
    let (b', f') := badSigns (some c) s
    (b || b', f || f')

def neighbours (p q : Char → Bool) : Chars → Bool
  | a :: b :: s => (p a && q b) || neighbours p q (b :: s)
  | _ => false

def analyze (s : Chars) : Analysis :=
  let separator := Text.isFront ['-', '-', '-'] s || Text.isFront ['.', '.', '.'] s
  let (block, flow) := badSigns none s
  let edge := fun (c : Option Char) => c.any fun c => c == ' ' || isWrittenBreak c
  let edges := edge s.head? || edge s.getLast?
  let lines := s.any isWrittenBreak
  let breakSpace := neighbours isWrittenBreak (· == ' ') s
  let spaceBreak := neighbours (· == ' ') isWrittenBreak s
  let special := s.any isSpecial
  let single := !breakSpace && !spaceBreak && !special
  let plain := single && !edges && !lines
  { multiline := lines, plain := plain && !(block || separator), flowPlain := plain &&
    !(flow || separator)
    single := single }

/-! ### The writer -/

/-- The state of writing: the text so far in reverse, the column, whether a blank or only
indentation stands before it, and the current indentation. -/
structure Writer where
  out : Chars := []
  column : Nat := 0
  whitespace : Bool := true
  indention : Bool := true
  indent : Nat := 0
deriving Inhabited

namespace Writer

def write (w : Writer) (s : Chars) : Writer :=
  { w with out := s.reverse ++ w.out, column := w.column + s.length }

def newline (w : Writer) (c : Char) : Writer :=
  { w with out := c :: w.out, column := 0, whitespace := true, indention := true }

def toIndent (w : Writer) : Writer :=
  let w := if !w.indention || w.indent < w.column || (w.column == w.indent && !w.whitespace) then
      w.newline '\n'
    else w
  if w.column < w.indent then
    { w.write (List.replicate (w.indent - w.column) ' ') with whitespace := true }
  else w

def sign (w : Writer) (s : Chars) (spaced : Bool) (indention : Bool) : Writer :=
  let keep := w.indention && indention
  { w.write (if w.whitespace || !spaced then s else ' ' :: s) with
    whitespace := false, indention := keep }

end Writer

def bestWidth : Nat := 80

def pieces : Chars → List Chars
  | [] => []
  | c :: s =>
    let kind := fun c => if c == ' ' then 1 else if isWrittenBreak c then 2 else 0
    match pieces s with
    | (d :: p) :: rest =>
      if kind c == kind d then (c :: d :: p) :: rest else [c] :: (d :: p) :: rest
    | rest => [c] :: rest

def plainPieces (split : Bool) (w : Writer) : List Chars → Writer
  | [] => w
  | p :: ps =>
    if p == [' '] && bestWidth < w.column && split then
      plainPieces split { w.toIndent with whitespace := false, indention := false } ps
    else plainPieces split (w.write p) ps

def writePlain (split : Bool) (w : Writer) (s : Chars) : Writer :=
  if s.isEmpty then w
  else
    let w := if w.whitespace then w else w.write [' ']
    plainPieces split { w with whitespace := false, indention := false } (pieces s)

def writeBreaks (w : Writer) (p : Chars) : Writer :=
  let w := if p.head? == some '\n' then w.newline '\n' else w
  (p.foldl (fun w c => w.newline c) w).toIndent

def singlePieces (split : Bool) (w : Writer) : (first : Bool) → List Chars → Writer
  | _, [] => w
  | first, p :: ps =>
    let w :=
      if p.head? == some ' ' then
        if p == [' '] && bestWidth < w.column && split && !first && !ps.isEmpty then w.toIndent
        else w.write p
      else if p.any isWrittenBreak then writeBreaks w p
      else w.write (p.flatMap fun c => if c == '\'' then ['\'', '\''] else [c])
    singlePieces split w false ps

def writeSingle (split : Bool) (w : Writer) (s : Chars) : Writer :=
  (singlePieces split (w.sign ['\''] true false) true (pieces s)).sign ['\''] false false

def escaped? (c : Char) : Option Chars :=
  let n := c.toNat
  match [(0, '0'), (7, 'a'), (8, 'b'), (9, 't'), (10, 'n'), (11, 'v'), (12, 'f'),
    (13, 'r'), (27, 'e'),
      (34, '"'), (92, '\\'), (133, 'N'), (160, '_'), (8232, 'L'), (8233, 'P')].lookup n with
  | some e => some ['\\', e]
  | none =>
    if 32 ≤ n && n ≤ 126 then none
    else
      let hex := fun k => (Text.hex k n).map Text.upperOne
      if n ≤ 255 then some ('\\' :: 'x' :: hex 2)
      else if n ≤ 65535 then some ('\\' :: 'u' :: hex 4)
      else some ('\\' :: 'U' :: hex 8)

/-- Writes the inside of a text in double quotes.  `pending` holds characters not yet written, in
reverse; `index` counts the characters read. -/
def doubleLoop (split : Bool) (size : Nat) :
    (w : Writer) → (pending : Chars) → (index : Nat) → Chars → Writer
  | w, pending, _, [] => w.write pending.reverse
  | w, pending, index, c :: s =>
    let esc := escaped? c
    let (w, pending) := match esc with
      | some e => ((w.write pending.reverse).write e, [])
      | none => (w, pending)
    -- characters up to here, without `c` itself, are pending unless `c` was escaped; an escape may
    -- pass by one
    let width := if esc.isSome then w.column - 1 else w.column + pending.length
    let fold :=
      split && 0 < index && index + 1 < size && (c == ' ' || esc.isSome || pending.isEmpty)
      && bestWidth < width
    if fold then
      let w := (w.write (pending.reverse ++ ['\\'])).toIndent
      let w := { w with whitespace := false, indention := false }
      let next := if esc.isSome then s.head? else some c
      let w := if next == some ' ' then w.write ['\\'] else w
      doubleLoop split size w (if esc.isSome then [] else [c]) (index + 1) s
    else doubleLoop split size w (if esc.isSome then [] else c :: pending) (index + 1) s

def writeDouble (split : Bool) (w : Writer) (s : Chars) : Writer :=
  (doubleLoop split s.length (w.sign ['"'] true false) [] 0 s).sign ['"'] false false

def writeText (key : Bool) (w : Writer) (s : String) : Writer :=
  let cs := s.toList
  if cs.isEmpty then writeSingle (!key) w cs
  else
    let a := analyze cs
    if scalarKind s == .str && a.plain && !(key && a.multiline) then writePlain (!key) w cs
    else if a.single && !(key && a.multiline) then writeSingle (!key) w cs
    else writeDouble (!key) w cs

def floatText (x : Float) : String :=
  match Decimal.shape x with
  | .nan => ".nan"
  | .infinite neg => if neg then "-.inf" else ".inf"
  | .finite _ =>
    let t := Decimal.floatText x
    if !Text.contains t "." && Text.contains t "e" then Text.replace t "e" ".0e" else t

def atomText : Value → String
  | .null => "null"
  | .bool b => if b then "true" else "false"
  | .int n => toString n
  | .float x => floatText x
  | .date d => d.iso
  | .time t => t.isoWith " "
  | v => v.display

def tagLength : Value → Nat
  | .null => 6
  | .bool _ => 6
  | .float _ => 7
  | .date _ => 11
  | .time _ => 11
  | _ => 5

def isSimpleKey : Value → Bool
  | .str s => s.length + 5 < 128 && s != "" && !(s.toList.any isWrittenBreak)
  | .list xs => xs.isEmpty
  | .map es => es.isEmpty
  | v => (atomText v).length + tagLength v < 128

def writeAtom (key : Bool) (w : Writer) : Value → Writer
  | .str s => writeText key w s
  | v => writePlain (!key) w (atomText v).toList

def deeper (w : Writer) (f : Writer → Writer) : Writer :=
  { f { w with indent := w.indent + 2 } with indent := w.indent }

mutual

/-- Writes a value after a dash, or after a colon if `inMap`; `top` marks the whole document. -/
def writeValue (top inMap : Bool) : Value → Writer → Writer
  | .list xs => fun w =>
    if xs.isEmpty then w.sign ['[', ']'] true false
    else if inMap && !w.indention then writeItems xs w
    else if top then writeItems xs w
    else deeper w (writeItems xs)
  | .tuple xs => fun w =>
    if xs.isEmpty then w.sign ['[', ']'] true false
    else if inMap && !w.indention then writeItems xs w
    else if top then writeItems xs w
    else deeper w (writeItems xs)
  | .map es => fun w =>
    if es.isEmpty then w.sign ['\x7b', '\x7d'] true false
    else if top then writeEntries es w
    else deeper w (writeEntries es)
  | v => fun w => deeper w fun w => writeAtom false w v
termination_by structural v => v

def writeItems : List Value → Writer → Writer
  | [], w => w
  | x :: xs, w => writeItems xs (writeValue false false x (w.toIndent.sign ['-'] true true))
termination_by structural xs => xs

def writeEntries : List (Value × Value) → Writer → Writer
  | [], w => w
  | e :: es, w => writeEntries es (writeEntry e w.toIndent)
termination_by structural es => es

def writeEntry : Value × Value → Writer → Writer
  | (k, v), w =>
    if isSimpleKey k then
      let w := deeper w fun w => writeAtom true w k
      writeValue false true v (w.sign [':'] false false)
    else
      let w := deeper (w.sign ['?'] true true) fun w => writeAtom false w k
      writeValue false true v (w.toIndent.sign [':'] true true)
termination_by structural e => e

end

def render (v : Value) : String :=
  let w := writeValue true false v {}
  .ofList (w.newline '\n').out.reverse

end Workbench.Yaml
