import Workbench.Text.Basic
import Workbench.Text.Identifier

/-!
# Conventional subjects

The subject of a commit in the conventional form is a type, an optional scope in parentheses, an
optional exclamation mark, a colon, a blank and a description.
-/

namespace Workbench.Commit

open Text

def types : List String :=
  ["feat", "fix", "docs", "style", "refactor", "perf", "test", "chore", "ci", "build", "revert"]

/-- The parts of a subject. -/
structure Subject where
  type : String
  scope : String
  breaking : Bool
  description : String
deriving DecidableEq, Repr

def parenthesised? (s : Chars) : Option (Chars × Chars) :=
  match s with
  | '(' :: t =>
    let inside := t.takeWhile (· != ')')
    match t.dropWhile (· != ')') with
    | [] => none
    | _ :: rest => if inside.isEmpty then none else some (inside, rest)
  | _ => none

def scope? (s : Chars) : Option (Option Chars × Chars) :=
  if s.head? == some '(' then do
    let (inside, rest) ← parenthesised? s
    return (some inside, rest)
  else some (none, s)

def mark (s : Chars) : Bool × Chars :=
  match s with
  | '!' :: rest => (true, rest)
  | _ => (false, s)

def onlyLine? (s : Chars) : Option Chars :=
  let line := s.takeWhile (· != '\n')
  let rest := s.dropWhile (· != '\n')
  if rest == [] || rest == ['\n'] then some line else none

def description? (s : Chars) : Option Chars := do
  let line ← onlyLine? (← dropFront? [':', ' '] s)
  if line.isEmpty then none else some line

def Subject.read? (s : Chars) : Option Subject := do
  let type := s.takeWhile isWord
  if type.isEmpty then none
  let (scope, s) ← scope? (s.dropWhile isWord)
  let (breaking, s) := mark s
  let description ← description? s
  return { type := lower (.ofList type), scope := .ofList (scope.getD []), breaking
           description := .ofList description }

def Subject.ofText (text : String) : Subject :=
  (Subject.read? text.toList).getD
    { type := "other", scope := "", breaking := false, description := text }

/-! ### The strict form -/

def isScopeChar (c : Char) : Bool := ('a' ≤ c && c ≤ 'z') || ('0' ≤ c && c ≤ '9') || c == '-'

def isStrictTail (s : Chars) : Bool :=
  match scope? s with
  | none => false
  | some (scope, s) =>
    scope.all (·.all isScopeChar) &&
      (match description? (mark s).2 with
      | none => false
      | some d => d.length ≤ 50)

def isStrict (s : Chars) : Bool :=
  types.any fun t => match dropFront? t.toList s with
    | some rest => isStrictTail rest
    | none => false

/-- What is wrong with a subject.  A subject of the strict form has no issue; of any other the
likely ones are named. -/
def formatIssues (subject : String) : List String :=
  if isStrict subject.toList then []
  else
    (if types.any (startsWith subject) then []
      else ["Missing or invalid type. Valid types: " ++ join ", " types])
    ++ (if 72 < subject.length then
        [s!"Subject too long ({subject.length} chars). Keep under 72 chars."] else [])
    ++ (if endsWith subject "." then ["Subject should not end with a period"] else [])
    ++ (if subject != lower subject && !types.any (fun t => startsWith subject (upper t)) then
        ["Subject should be lowercase (except type)"] else [])

def messageIssues (message : String) : List String :=
  let subject := (split (trim message) "\n").headD ""
  (if types.any (fun t => startsWith subject s!"{t}:" || startsWith subject s!"{t}(") then []
    else ["Missing valid type. Use one of: " ++ join ", " types])
  ++ (if 72 < subject.length then
      [s!"Subject too long: {subject.length} chars (max 72)"] else [])
  ++ (if endsWith subject "." then ["Subject should not end with period"] else [])
  ++ (if types.any (fun t => startsWith (lower subject) s!"{t}ed ") then
      ["Use imperative mood ('add' not 'added')"] else [])

end Workbench.Commit
