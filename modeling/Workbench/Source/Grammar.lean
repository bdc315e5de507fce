import Workbench.Source.Token
import Workbench.Source.Tree

/-!
# Grammars

A grammar has rules, a rule has alternatives that are tried in order, and an alternative has items
and an action that makes a value of what the items matched.
-/

namespace Workbench.Source

/-- What an alternative consists of. -/
inductive Item where
  | word (s : String)
  | soft (s : String)
  | cls (c : Class)
  | softKeyword
  | rule (name : String)
  | maybe (i : Item)
  | many (some : Bool) (i : Item)
  | separated (sep i : Item)
  | oneOf (alternatives : List (List Item))
  | ahead (positive : Bool) (i : Item)
  | commit
  | force (s : String)
deriving Repr, Inhabited

/-- What items match: nothing, a token, a tree, or several of these. -/
inductive Val where
  | none
  | token (t : Token)
  | tree (t : Tree)
  | list (vs : List Val)
deriving Inhabited

/-- Why a program is refused.  `lexical` says that the text could not be cut into tokens. -/
structure Refusal where
  message : String
  line : Nat
  lexical : Bool := false
  /-- Whether it is about an expression inside a string, and says so already. -/
  inner : Bool := false
deriving DecidableEq, Repr, Inhabited

/-- What an action sees: the lines its alternative spans, the line of the last token read, the
bracket level of the last token matched, and a way to parse an expression inside a string. -/
structure Scene where
  line : Nat
  endLine : Nat
  lastLine : Nat
  level : Nat
  expression : (text : Chars) → (line : Nat) → Except Refusal Tree

abbrev Action := Scene → List Val → Except Refusal (Option Val)

/-- Items and what is made of them. -/
structure Alternative where
  items : List Item
  action : Action

/-- Whether the results of a rule are kept. -/
inductive Keeping where
  | none
  | memo
  /-- The rule starts with itself; its match grows as long as it can. -/
  | growing
deriving DecidableEq, Repr

/-- A rule of the grammar. -/
structure Rule where
  name : String
  keeping : Keeping
  alternatives : List Alternative
  /-- Whether no refusing alternatives are tried inside. -/
  tolerant : Bool := false

/-! ### Reading items -/

/-- A word of a written alternative. -/
inductive Piece where
  | word (s : String)
  | soft (s : String)
  | name (s : String)
  | sign (c : Char)
deriving DecidableEq, Repr

def pieces : (fuel : Nat) → Chars → List Piece
  | 0, _ => []
  | _, [] => []
  | fuel + 1, c :: s =>
    if c == ' ' then pieces fuel s
    else if c == '\'' then
      let w := s.takeWhile (· != '\'')
      .word (.ofList w) :: pieces fuel (s.drop (w.length + 1))
    else if c == '~' then
      let w := s.takeWhile isNamePart
      .soft (.ofList w) :: pieces fuel (s.drop w.length)
    else if isNamePart c then
      let w := (c :: s).takeWhile isNamePart
      .name (.ofList w) :: pieces fuel ((c :: s).drop w.length)
    else .sign c :: pieces fuel s

def namedItem : String → Item
  | "NAME" => .cls .name
  | "NUMBER" => .cls .number
  | "STRING" => .cls .string
  | "NEWLINE" => .cls .newline
  | "INDENT" => .cls .indent
  | "DEDENT" => .cls .dedent
  | "ENDMARKER" => .cls .endmarker
  | "ASYNC" => .cls .async
  | "AWAIT" => .cls .await
  | "SOFT" => .softKeyword
  | "LBRACE" => .word "\x7b"
  | "AT" => .word "@"
  | "ATEQUAL" => .word "@="
  | "RBRACE" => .word "\x7d"
  | s => .rule s

def choice (alternatives : List (List Item)) : Item :=
  match alternatives with
  | [[i]] => i
  | _ => .oneOf alternatives

mutual

def readChoices : (fuel : Nat) → List Piece → List (List Item) × List Piece
  | 0, ps => ([], ps)
  | fuel + 1, ps =>
    let (items, rest) := readItems fuel ps
    match rest with
    | .sign '|' :: rest =>
      let (more, rest) := readChoices fuel rest
      (items :: more, rest)
    | _ => ([items], rest)

def readItems : (fuel : Nat) → List Piece → List Item × List Piece
  | 0, ps => ([], ps)
  | fuel + 1, ps =>
    match readItem fuel ps with
    | some (i, rest) =>
      let (is, rest) := readItems fuel rest
      (i :: is, rest)
    | none => ([], ps)

def readItem : (fuel : Nat) → List Piece → Option (Item × List Piece)
  | 0, _ => none
  | fuel + 1, ps =>
    match readAtom fuel ps with
    | none => none
    | some (i, .sign '*' :: rest) => some (.many false i, rest)
    | some (i, .sign '+' :: rest) => some (.many true i, rest)
    | some (i, .sign '?' :: rest) => some (.maybe i, rest)
    | some (sep, .sign '.' :: rest) =>
      match readAtom fuel rest with
      | some (i, .sign '+' :: rest) => some (.separated sep i, rest)
      | _ => none
    | some r => some r

def readAtom : (fuel : Nat) → List Piece → Option (Item × List Piece)
  | 0, _ => none
  | fuel + 1, ps =>
    match ps with
    | .word w :: rest => some (.word w, rest)
    | .soft w :: rest => some (.soft w, rest)
    | .name n :: rest => some (namedItem n, rest)
    | .sign '^' :: rest => some (.commit, rest)
    | .sign '&' :: .sign '&' :: .word w :: rest => some (.force w, rest)
    | .sign '&' :: rest => (readAtom fuel rest).map fun (i, rest) => (.ahead true i, rest)
    | .sign '!' :: rest => (readAtom fuel rest).map fun (i, rest) => (.ahead false i, rest)
    | .sign '(' :: rest =>
      match readChoices fuel rest with
      | (cs, .sign ')' :: rest) => some (choice cs, rest)
      | _ => none
    | .sign '[' :: rest =>
      match readChoices fuel rest with
      | (cs, .sign ']' :: rest) => some (.maybe (choice cs), rest)
      | _ => none
    | _ => none

end

def items (text : String) : List Item :=
  let ps := pieces text.length text.toList
  (readItems (2 * ps.length + 2) ps).1

/-! ### Values -/

namespace Val

mutual

def trees : Val → List Tree
  | tree t => [t]
  | list vs => allTrees vs
  | _ => []
termination_by structural v => v

def allTrees : List Val → List Tree
  | [] => []
  | v :: vs => trees v ++ allTrees vs
termination_by structural vs => vs

end

mutual

def tokens : Val → List Token
  | token t => [t]
  | list vs => allTokens vs
  | _ => []
termination_by structural v => v

def allTokens : List Val → List Token
  | [] => []
  | v :: vs => tokens v ++ allTokens vs
termination_by structural vs => vs

end

def tree? (v : Val) : Option Tree := v.trees.head?

def text (v : Val) : String := (v.tokens.head?.map Token.text).getD ""

def isSome : Val → Bool
  | none => false
  | _ => true

def parts : Val → List Val
  | list vs => vs
  | _ => []

end Val

def nth (vs : List Val) (i : Nat) : Val := vs.getD i .none

def Val.line (v : Val) (otherwise : Nat) : Nat :=
  match v with
  | .token t => t.line
  | .tree t => t.line
  | v => match v.tokens.head?, v.trees.head? with
    | some t, _ => t.line
    | _, some t => t.line
    | _, _ => otherwise

end Workbench.Source
