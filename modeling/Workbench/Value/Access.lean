import Workbench.World.Fault

/-!
# Looking into values

Reading parts of a document whose shape is not known.
-/

namespace Workbench.Value

open Text

def kindText (v : Value) : String := Json.kindName v

def lacks (v : Value) (operation : String) : Fault :=
  .attribute s!"'{v.kindText}' object has no attribute '{operation}'"

def unhashable (v : Value) : Fault := .kind s!"unhashable type: '{v.kindText}'"

/-- The value of a key, which has to be there. -/
def field (v : Value) (k : String) : Result Value :=
  match v with
  | .map es => match lookup k es with
    | some x => .ok x
    | none => .error (.key k)
  | .list _ => .error (.kind "list indices must be integers or slices, not str")
  | .tuple _ => .error (.kind "tuple indices must be integers or slices, not str")
  | .str _ => .error (.kind "string indices must be integers, not 'str'")
  | other => .error (.kind s!"'{other.kindText}' object is not subscriptable")

/-- The value of a key, or a default. -/
def fieldOr (v : Value) (k : String) (default : Value) : Result Value :=
  match v with
  | .map es => .ok ((lookup k es).getD default)
  | other => .error (other.lacks "get")

def fieldOrNull (v : Value) (k : String) : Result Value := v.fieldOr k .null

def textAt (v : Value) (k : String) : Result String := do return (← v.field k).display

/-- The value at a path of keys, or a default. -/
def pathOr (v : Value) : List String → Value → Result Value
  | [], _ => .ok v
  | [k], d => v.fieldOr k d
  | k :: ks, d => do pathOr (← v.fieldOr k (.map [])) ks d

def item (v : Value) (i : Nat) : Result Value :=
  match v with
  | .list xs => match xs[i]? with
    | some x => .ok x
    | none => .error (.index "list index out of range")
  | .tuple xs => match xs[i]? with
    | some x => .ok x
    | none => .error (.index "tuple index out of range")
  | .str s => match s.toList[i]? with
    | some c => .ok (.str (.ofList [c]))
    | none => .error (.index "string index out of range")
  | .map es => match lookup i es with
    | some x => .ok x
    | none => .error (.key i)
  | other => .error (.kind s!"'{other.kindText}' object is not subscriptable")

/-- Whether a value is in a container. -/
def has (v : Value) (x : Value) : Result Bool :=
  match v with
  | .map es => if x.isKey then .ok (lookup x es).isSome else .error x.unhashable
  | .list xs => .ok (xs.any (·.same x))
  | .tuple xs => .ok (xs.any (·.same x))
  | .set xs => .ok (xs.any (·.same x))
  | .str s => match x with
    | .str t => .ok (contains s t)
    | other =>
      .error (.kind s!"'in <string>' requires string as left operand, not {other.kindText}")
  | other => .error (.kind s!"argument of type '{other.kindText}' is not iterable")

def hasText (v : Value) (k : String) : Result Bool := v.has k

def size (v : Value) : Result Nat :=
  match v with
  | .str s => .ok s.length
  | .bytes b => .ok b.length
  | .list xs => .ok xs.length
  | .tuple xs => .ok xs.length
  | .set xs => .ok xs.length
  | .map es => .ok es.length
  | other => .error (.kind s!"object of type '{other.kindText}' has no len()")

/-- What one meets in going through a value. -/
def parts (v : Value) : Result (List Value) :=
  match v with
  | .list xs => .ok xs
  | .tuple xs => .ok xs
  | .set xs => .ok xs
  | .map es => .ok (es.map (·.1))
  | .str s => .ok (s.toList.map fun c => .str (.ofList [c]))
  | other => .error (.kind s!"'{other.kindText}' object is not iterable")

def partsIfAny (v : Value) : Result (List Value) := if v.truthy then v.parts else .ok []

def displayIfAny (v : Value) : String := if v.truthy then v.display else ""

def pairs (v : Value) : Result (List (Value × Value)) :=
  match v with
  | .map es => .ok es
  | other => .error (other.lacks "items")

def values (v : Value) : Result (List Value) :=
  match v with
  | .map es => .ok (es.map (·.2))
  | other => .error (other.lacks "values")

def textFor (v : Value) (operation : String) : Result String :=
  match v with
  | .str s => .ok s
  | other => .error (other.lacks operation)

def pathText (v : Value) : Result String :=
  match v with
  | .str s => .ok s
  | other => .error (.kind s!"expected str, bytes or os.PathLike object, not {other.kindText}")

def mixedSpan : Fault := .kind "can't subtract offset-naive and offset-aware datetimes"

def timeIn (v : Value) : Result Calendar.DateTime := do
  timeOf (replace (← v.textFor "replace") "Z" "+00:00")

def awareTimeIn (v : Value) : Result Calendar.DateTime := do
  let t ← v.timeIn
  if t.offset.isNone then throw mixedSpan
  return t

def subject (v : Value) : Result String :=
  match v with
  | .str s => .ok s
  | other => .error (.kind s!"expected string or bytes-like object, got '{other.kindText}'")

def front (v : Value) (n : Nat) : Result Value :=
  match v with
  | .str s => .ok (.str (take s n))
  | .list xs => .ok (.list (xs.take n))
  | .map _ => .error (.kind "unhashable type: 'slice'")
  | other => .error (.kind s!"'{other.kindText}' object is not subscriptable")

def setField (v : Value) (k : String) (x : Value) : Result Value :=
  match v with
  | .map es => .ok (.map (put k x es))
  | .list _ => .error (.kind "list indices must be integers or slices, not str")
  | other => .error (.kind s!"'{other.kindText}' object does not support item assignment")

def texts (i : Nat) : List Value → Result (List String)
  | [] => .ok []
  | .str s :: xs => (texts (i + 1) xs).map (s :: ·)
  | v :: _ => .error (.kind s!"sequence item {i}: expected str instance, {v.kindText} found")

def joinTexts (sep : String) (v : Value) : Result String := do
  let xs ← match v.parts with
    | .ok xs => .ok xs
    | .error _ => .error (.kind "can only join an iterable")
  return join sep (← texts 0 xs)

def number (v : Value) : Result Float :=
  match v with
  | .float x => .ok x
  | other => match other.whole? with
    | some n => .ok (Decimal.ofInt n)
    | none => .error (.kind s!"unsupported operand type(s): '{v.kindText}'")

def add (a b : Value) : Result Value :=
  match a, b with
  | .str s, .str t => .ok (.str (s ++ t))
  | .list xs, .list ys => .ok (.list (xs ++ ys))
  | a, b =>
    match a.whole?, b.whole? with
    | some m, some n => .ok (.int (m + n))
    | _, _ =>
      match a.number, b.number with
      | .ok x, .ok y => .ok (.float (x + y))
      | _, _ =>
        .error (.kind s!"unsupported operand type(s) for +: '{a.kindText}' and '{b.kindText}'")

/-- The float nearest to the quotient of two whole numbers, if there is one. -/
def ratio (m n : Int) : Result Float :=
  if n == 0 then .error (.divisionByZero false)
  else if Decimal.floatBound * n.natAbs ≤ m.natAbs then
    .error (.overflow "integer division result too large for a float")
  else
    let x := Decimal.quotient m.natAbs n.natAbs
    .ok (if decide (m < 0) == decide (n < 0) then x else -x)

def divide (a b : Value) : Result Value :=
  match a.whole?, b.whole? with
  | some m, some n => (ratio m n).map .float
  | _, _ => do
    let x ← a.number
    let y ← b.number
    if y == 0.0 then throw (.divisionByZero true)
    return .float (x / y)

def rounded (v : Value) (places : Nat) : Value :=
  match v with
  | .float x => .float (Decimal.roundTo x places)
  | other => other

def distinct (v : Value) : Result (List Value) := do
  let xs ← v.parts
  match xs.find? fun x => !x.isKey with
  | some x => throw x.unhashable
  | none =>
    let once := xs.foldl (fun acc x => if acc.any (·.same x) then acc else acc ++ [x]) []
    return once.mergeSort fun a b => le a.display b.display

mutual

/-- Whether `a` stands before `b`; numbers by value, texts by code points, lists by their first
difference. -/
def before : Value → Value → Result Bool
  | .str s, .str t => .ok (lt s t)
  | .list xs, .list ys => beforeList xs ys
  | .tuple xs, .tuple ys => beforeList xs ys
  | a, b =>
    match a.number, b.number with
    | .ok x, .ok y => match a.whole?, b.whole? with
      | some m, some n => .ok (m < n)
      | _, _ => .ok (x < y)
    | _, _ =>
      .error (.kind s!"'<' not supported between instances of '{a.kindText}' and '{b.kindText}'")
termination_by structural a => a

def beforeList : List Value → List Value → Result Bool
  | [], [] => .ok false
  | [], _ :: _ => .ok true
  | _ :: _, [] => .ok false
  | x :: xs, y :: ys => if same x y then beforeList xs ys else before x y
termination_by structural xs => xs

end

def insertBy (x : Value × Value) : List (Value × Value) → Result (List (Value × Value))
  | [] => .ok [x]
  | y :: ys => do
    if ← before x.1 y.1 then return x :: y :: ys
    return y :: (← insertBy x ys)

def sortByKey (xs : List (Value × Value)) : Result (List (Value × Value)) :=
  xs.foldlM (fun acc x => insertBy x acc) []

def sorted (v : Value) : Result (List Value) := do
  return (← sortByKey ((← v.parts).map fun x => (x, x))).map (·.2)

def anyM (p : Value → Result Bool) : List Value → Result Bool
  | [] => .ok false
  | v :: vs => do if ← p v then return true else anyM p vs

end Workbench.Value
