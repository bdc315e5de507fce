import Workbench.Yaml.Schema

/-!
# Reading YAML documents

From the nodes of a document to a value.
-/

namespace Workbench.Yaml

open Text

def standardTag? (tag : String) : Option String :=
  (dropFront? "tag:yaml.org,2002:".toList tag.toList).map String.ofList

def buildError (text : Chars) (context : Option (String × Option Mark)) (problem : String)
    (m : Mark) : Fault :=
  .yaml .constructor (Error.message text ⟨.constructor, context, problem, some m⟩)

def stampValue (s : Stamp) : Result Value :=
  let micro := Decimal.natOf ((s.fraction.take 6) ++ List.replicate (6 - s.fraction.length) '0')
  let (h, m, sec) := s.time.getD (0, 0, 0)
  let t : Calendar.DateTime :=
    { date := s.date, hour := h, minute := m, second := sec, micro := micro, offset := s.zone }
  match t.check with
  | .error e => .error (.invalid (e.message ""))
  | .ok t => .ok (if s.time.isSome then .time t else .date t.date)

def base64Value? (c : Char) : Option Nat :=
  if 'A' ≤ c && c ≤ 'Z' then some (c.toNat - 65)
  else if 'a' ≤ c && c ≤ 'z' then some (c.toNat - 71)
  else if isAsciiDigit c then some (c.toNat + 4)
  else if c == '+' then some 62
  else if c == '/' then some 63
  else none

def base64Bytes : List Nat → List UInt8
  | a :: b :: c :: d :: r =>
    UInt8.ofNat (a * 4 + b / 16) :: UInt8.ofNat (b % 16 * 16 + c / 4)
      :: UInt8.ofNat (c % 4 * 64 + d) :: base64Bytes r
  | [a, b, c] => [UInt8.ofNat (a * 4 + b / 16), UInt8.ofNat (b % 16 * 16 + c / 4)]
  | [a, b] => [UInt8.ofNat (a * 4 + b / 16)]
  | _ => []

def kindValue (k : ScalarKind) (s : String) : Result Value :=
  let cs := s.toList
  let neg := cs.head? == some '-'
  let u := unsigned cs
  match k with
  | .null => .ok .null
  | .bool =>
    let w := lower s
    if ["yes", "true", "on"].contains w then .ok true
    else if ["no", "false", "off"].contains w then .ok false
    else .error (.key w)
  | .int =>
    if isWhole u then
      if Decimal.digitLimit < (u.filter (· != '_')).length && !isFront ['0'] u then
        .error (.invalid (Json.Cause.tooManyDigits (u.filter (· != '_')).length).text)
      else
        let n : Int := wholeValue u
        .ok (.int (if neg then -n else n))
    else .error (.invalid s!"invalid literal for int() with base 10: {quoted s}")
  | .float =>
    if isPointed (u.length != cs.length) u || isWhole u then
      let x := floatValue u
      .ok (.float (if neg then -x else x))
    else .error (.invalid s!"could not convert string to float: {quoted s}")
  | .timestamp =>
    match readStamp? cs with
    | some st => stampValue st
    | none => .error (.attribute "'NoneType' object has no attribute 'groupdict'")
  | .merge => .ok s
  | .value => .ok s
  | .str => .ok s

def tagKind? (tag : String) : Option ScalarKind :=
  match tag with
  | "null" => some .null
  | "bool" => some .bool
  | "int" => some .int
  | "float" => some .float
  | "timestamp" => some .timestamp
  | "str" => some .str
  | _ => none

def undefinedTag (text : Chars) (tag : String) (m : Mark) : Fault :=
  buildError text none s!"could not determine a constructor for the tag {quoted tag}" m

def scalarValue (text : Chars) (tag : Option String) (implicit : Bool) (s : String) (m : Mark) :
    Result Value :=
  match tag with
  | none =>
    if implicit then
      match scalarKind s with
      | .merge => .error (undefinedTag text "tag:yaml.org,2002:merge" m)
      | .value => .error (undefinedTag text "tag:yaml.org,2002:value" m)
      | k => kindValue k s
    else .ok s
  | some t =>
    match standardTag? t with
    | none => .error (undefinedTag text t m)
    | some "binary" => .ok (.bytes (base64Bytes (s.toList.filterMap base64Value?)))
    | some name =>
      match tagKind? name with
      | some k => kindValue k s
      | none => .error (undefinedTag text t m)

def isKeyWord (k : ScalarKind) : Node → Bool
  | .scalar none true s _ => scalarKind s == k
  | .scalar (some t) _ _ _ => k == .merge && standardTag? t == some "merge"
  | _ => false

def plainKey (n : Node) : Node :=
  match n with
  | .scalar none true s m => if scalarKind s == .value then .scalar none false s m else n
  | _ => n

mutual

def flatten (text : Chars) : (fuel : Nat) → Mark → List (Node × Node) → Result (List (Node × Node))
  | 0, _, es => .ok es
  | fuel + 1, start, es => do
    let merged ← mergedEntries text fuel start es
    return merged ++ (es.filter fun e => !isKeyWord .merge e.1).map fun (k, v) => (plainKey k, v)

def mergedEntries (text : Chars) :
    (fuel : Nat) → Mark → List (Node × Node) → Result (List (Node × Node))
  | 0, _, _ => .ok []
  | _, _, [] => .ok []
  | fuel + 1, start, (k, v) :: es => do
    let here ← if isKeyWord .merge k then
        match v with
        | .map _ inner m => flatten text fuel m inner
        | .seq _ items _ => mergedItems text fuel start items
        | other =>
          throw (buildError text (some ("while constructing a mapping", some start))
            s!"expected a mapping or list of mappings for merging, but found {other.kindName}"
            other.start)
      else pure []
    return here ++ (← mergedEntries text fuel start es)

def mergedItems (text : Chars) : (fuel : Nat) → Mark → List Node → Result (List (Node × Node))
  | 0, _, _ => .ok []
  | _, _, [] => .ok []
  | fuel + 1, start, n :: ns => do
    match n with
    | .map _ inner m =>
      let first ← flatten text fuel m inner
      return (← mergedItems text fuel start ns) ++ first
    | other =>
      throw (buildError text (some ("while constructing a mapping", some start))
        s!"expected a mapping for merging, but found {other.kindName}" other.start)

end

def asks (tag : Option String) (names : List String) : Bool :=
  match tag with
  | none => true
  | some t => (standardTag? t).any names.contains

mutual

def nodeValue (text : Chars) : (fuel : Nat) → Node → Result Value
  | 0, _ => .error .depth
  | _ + 1, .scalar tag implicit s m => scalarValue text tag implicit s m
  | fuel + 1, .seq tag items m => do
    if !asks tag ["seq", "omap", "pairs"] then throw (undefinedTag text (tag.getD "") m)
    return .list (← itemValues text fuel items)
  | fuel + 1, .map tag entries m => do
    if !asks tag ["map", "set"] then throw (undefinedTag text (tag.getD "") m)
    let entries ← flatten text fuel m entries
    let es ← entryValues text fuel m [] entries
    return if tag == some "tag:yaml.org,2002:set" then .set (es.map (·.1)) else .map es

def itemValues (text : Chars) : (fuel : Nat) → List Node → Result (List Value)
  | 0, _ => .error .depth
  | _ + 1, [] => .ok []
  | fuel + 1, n :: ns => do return (← nodeValue text fuel n) :: (← itemValues text fuel ns)

def entryValues (text : Chars) : (fuel : Nat) → (start : Mark) → (acc : List (Value × Value)) →
    List (Node × Node) → Result (List (Value × Value))
  | 0, _, _, _ => .error .depth
  | _ + 1, _, acc, [] => .ok acc
  | fuel + 1, start, acc, (k, v) :: es => do
    let key ← nodeValue text fuel k
    if !key.isKey then
      throw (buildError text (some ("while constructing a mapping", some start))
        "found unhashable key" k.start)
    entryValues text fuel start (Value.put key (← nodeValue text fuel v) acc) es

end

def isAllowed (c : Char) : Bool :=
  let n := c.toNat
  n == 9 || n == 10 || n == 13 || (32 ≤ n && n ≤ 126) || n == 133 || (160 ≤ n && n ≤ 0xD7FF)
    || (0xE000 ≤ n && n ≤ 0xFFFD) || 0x10000 ≤ n

def firstForbidden : (pos : Nat) → Chars → Option (Nat × Char)
  | _, [] => none
  | pos, c :: s => if isAllowed c then firstForbidden (pos + 1) s else some (pos, c)

def forbiddenText (pos : Nat) (c : Char) : String :=
  let n := c.toNat
  "unacceptable character #x" ++ .ofList (hex (if n < 65536 then 4 else 6) n)
    ++ s!": special characters are not allowed\n  in \"<unicode string>\", position {pos}"

/-- Reads a document.  The fuel covers a path through every node that the text can describe. -/
def parse (s : String) : Result Value :=
  let text := s.toList
  match firstForbidden 0 text with
  | some (pos, c) => .error (.yaml .reader (forbiddenText pos c))
  | none =>
    match compose text with
    | .error e => .error (.yaml e.stage (e.message text))
    | .ok none => .ok .null
    | .ok (some n) => nodeValue text (4 * text.length + 10) n

end Workbench.Yaml
