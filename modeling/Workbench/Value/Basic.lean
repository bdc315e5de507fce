import Workbench.Text.Quoted
import Workbench.Decimal.Basic
import Workbench.Calendar.Basic

/-!
# Values

The values that documents hold: JSON and YAML documents are read to them and written from them.
-/

namespace Workbench

open Text Decimal

/-- What documents consist of. -/
inductive Value where
  | null
  | bool (b : Bool)
  | int (n : Int)
  | float (x : Float)
  | str (s : String)
  | date (d : Calendar.Date)
  | time (t : Calendar.DateTime)
  | bytes (b : List UInt8)
  | list (items : List Value)
  | tuple (items : List Value)
  | set (items : List Value)
  | map (entries : List (Value × Value))
deriving Inhabited

namespace Value

/-- A map with texts for keys. -/
def object (entries : List (String × Value)) : Value := .map (entries.map fun (k, v) => (.str k, v))

def strings (xs : List String) : Value := .list (xs.map .str)

instance : Coe String Value := ⟨.str⟩

instance : Coe Int Value := ⟨.int⟩

instance : Coe Nat Value := ⟨fun n => .int n⟩

instance : Coe Bool Value := ⟨.bool⟩

def ofOption {α : Type} (f : α → Value) : Option α → Value
  | none => .null
  | some a => f a

/-! ### Equality -/

def whole? : Value → Option Int
  | .int n => some n
  | .bool b => some (if b then 1 else 0)
  | _ => none

def floatIsInt (x : Float) (n : Int) : Bool :=
  match shape x with
  | .finite b =>
    let num := b.mant * twoTo b.exp
    let den := twoTo (-b.exp)
    num % den == 0 && (if b.neg then -(Int.ofNat (num / den)) else Int.ofNat (num / den)) == n
  | _ => false

def sameAtom (a b : Value) : Bool :=
  match a, b with
  | .null, .null => true
  | .str s, .str t => s == t
  | .float x, .float y => x == y
  | .float x, b => b.whole?.any (floatIsInt x)
  | a, .float y => a.whole?.any (floatIsInt y)
  | .date d, .date e => d == e
  | .time s, .time t => s.offset.isSome == t.offset.isSome && s.instant == t.instant
  | .bytes s, .bytes t => s == t
  | a, b => match a.whole?, b.whole? with
    | some m, some n => m == n
    | _, _ => false

mutual

/-- Equality of values: numbers by value, lists member by member, maps and sets regardless of
order. -/
def same : Value → Value → Bool
  | .list xs, b => match b with
    | .list ys => sameList xs ys
    | _ => false
  | .tuple xs, b => match b with
    | .tuple ys => sameList xs ys
    | _ => false
  | .set xs, b => match b with
    | .set ys => xs.length == ys.length && allIn xs ys
    | _ => false
  | .map xs, b => match b with
    | .map ys => xs.length == ys.length && entriesIn xs ys
    | _ => false
  | a, b => sameAtom a b
termination_by structural x => x

def sameList : List Value → List Value → Bool
  | [], [] => true
  | x :: xs, y :: ys => same x y && sameList xs ys
  | _, _ => false
termination_by structural x => x

def allIn : List Value → List Value → Bool
  | [], _ => true
  | x :: xs, ys => ys.any (same x) && allIn xs ys
termination_by structural x => x

def entriesIn : List (Value × Value) → List (Value × Value) → Bool
  | [], _ => true
  | e :: xs, ys => ys.any (sameEntry e) && entriesIn xs ys
termination_by structural x => x

def sameEntry : Value × Value → Value × Value → Bool
  | (k, v), (k', v') => same k k' && same v v'
termination_by structural x => x

end

instance : BEq Value := ⟨same⟩

/-! ### Texts -/

def floatLiteral (x : Float) : String := floatText x

def bytesLiteral (bs : List UInt8) : String :=
  let cs := bs.map fun b => Char.ofNat b.toNat
  let q := quoteFor cs
  let one (c : Char) : Chars :=
    if 128 ≤ c.toNat || c.toNat == 127 then '\\' :: 'x' :: hex 2 c.toNat else escapeOne q c
  .ofList ('b' :: q :: cs.flatMap one ++ [q])

def timeLiteral (t : Calendar.DateTime) : String :=
  let fields := [t.date.year, t.date.month, t.date.day, t.hour, t.minute]
    ++ (if t.second == 0 && t.micro == 0 then [] else [t.second])
    ++ (if t.micro == 0 then [] else [t.micro])
  "datetime.datetime(" ++ join ", " (fields.map toString)
    ++ (match t.offset with
      | none => ""
      | some 0 => ", tzinfo=datetime.timezone.utc"
      | some o =>
        let secs := o / 1000000
        let days := secs / 86400
        let rest := secs % 86400
        ", tzinfo=datetime.timezone(datetime.timedelta("
          ++ (if days == 0 then "" else "days=" ++ toString days ++ ", ")
          ++ "seconds=" ++ toString rest ++ "))")
    ++ ")"

def atomLiteral : Value → String
  | .null => "None"
  | .bool b => if b then "True" else "False"
  | .int n => toString n
  | .float x => floatLiteral x
  | .str s => quoted s
  | .date d =>
    "datetime.date(" ++ join ", " [toString d.year, toString d.month, toString d.day] ++ ")"
  | .time t => timeLiteral t
  | .bytes b => bytesLiteral b
  | _ => ""

mutual

def literal : Value → String
  | .list xs => "[" ++ join ", " (literals xs) ++ "]"
  | .tuple xs => match literals xs with
    | [one] => "(" ++ one ++ ",)"
    | many => "(" ++ join ", " many ++ ")"
  | .set xs => if xs.isEmpty then "set()" else "\x7b" ++ join ", " (literals xs) ++ "\x7d"
  | .map es => "\x7b" ++ join ", " (entryLiterals es) ++ "\x7d"
  | a => atomLiteral a
termination_by structural x => x

def literals : List Value → List String
  | [] => []
  | x :: xs => literal x :: literals xs
termination_by structural x => x

def entryLiterals : List (Value × Value) → List String
  | [] => []
  | e :: es => entryLiteral e :: entryLiterals es
termination_by structural x => x

def entryLiteral : Value × Value → String
  | (k, v) => literal k ++ ": " ++ literal v
termination_by structural x => x

end

/-- A value as it is shown in a text. -/
def display : Value → String
  | .str s => s
  | .date d => d.iso
  | .time t => t.isoWith " "
  | v => v.literal

instance : ToString Value := ⟨display⟩

/-! ### Truth and size -/

/-- Whether a value counts as given. -/
def truthy : Value → Bool
  | .null => false
  | .bool b => b
  | .int n => n != 0
  | .float x => x != 0.0
  | .str s => s != ""
  | .bytes b => !b.isEmpty
  | .list xs => !xs.isEmpty
  | .tuple xs => !xs.isEmpty
  | .set xs => !xs.isEmpty
  | .map es => !es.isEmpty
  | .date _ => true
  | .time _ => true

def isKey : Value → Bool
  | .list _ => false
  | .set _ => false
  | .map _ => false
  | _ => true

def items? : Value → Option (List Value)
  | .list xs => some xs
  | _ => none

def str? : Value → Option String
  | .str s => some s
  | _ => none

/-! ### Entries of a map -/

/-- The first entry of a key. -/
def lookup (k : Value) : List (Value × Value) → Option Value
  | [] => none
  | (k', v) :: es => if same k' k then some v else lookup k es

/-- Set a key, in its place if it is there. -/
def put (k v : Value) : List (Value × Value) → List (Value × Value)
  | [] => [(k, v)]
  | (k', v') :: es => if same k' k then (k', v) :: es else (k', v') :: put k v es

def remove (k : Value) : List (Value × Value) → List (Value × Value)
  | [] => []
  | (k', v') :: es => if same k' k then es else (k', v') :: remove k es

def get? (v : Value) (k : String) : Option Value :=
  match v with
  | .map es => lookup k es
  | _ => none

def withKey (v : Value) (k : String) (x : Value) : Value :=
  match v with
  | .map es => .map (put k x es)
  | other => other

end Value

end Workbench
