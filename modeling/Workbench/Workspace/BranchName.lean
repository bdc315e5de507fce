import Workbench.Value.Access

/-!
# What a branch name tells

The name of a branch may hold the numbers of issues and the name of a scope.
-/

namespace Workbench.Workspace

open Text

/-! ### Issue numbers -/

/-- What must stand behind the digits of a number. -/
inductive Ending where
  | anything
  | hyphen
  | finish
  | finishOrHyphen
deriving DecidableEq, Repr

/-- What is left behind an ending, if the ending is there.  A line break at the very end counts as
the end. -/
def Ending.rest? (e : Ending) (s : Chars) : Option Chars :=
  let atEnd := s == [] || s == ['\n']
  let hyphen := match s with
    | '-' :: rest => some rest
    | _ => none
  match e with
  | .anything => some s
  | .hyphen => hyphen
  | .finish => if atEnd then some s else none
  | .finishOrHyphen => if atEnd then some s else hyphen

/-- How a number is found: what stands before its digits and behind them, and whether it opens the
name. -/
structure NumberRule where
  lead : String
  ending : Ending
  opening : Bool := false

namespace NumberRule

/-- The number that a rule finds right here. -/
def front? (r : NumberRule) (s : Chars) : Option (Chars × Chars) := do
  let s ← dropFront? r.lead.toList s
  let digits := s.takeWhile isDecimal
  if digits.isEmpty then none
  let rest ← r.ending.rest? (s.dropWhile isDecimal)
  return (digits, rest)

/-- All numbers that a rule finds. -/
def scan (r : NumberRule) : (skip : Nat) → Chars → List Chars
  | _, [] => []
  | skip + 1, _ :: s => scan r skip s
  | 0, c :: s =>
    match r.front? (c :: s) with
    | some (digits, rest) => digits :: scan r (s.length - rest.length) s
    | none => scan r 0 s

def all (r : NumberRule) (s : Chars) : List Chars :=
  if r.opening then (r.front? s).toList.map (·.1) else r.scan 0 s

end NumberRule

def firstNumberRules : List NumberRule :=
  [⟨"issue-", .anything, false⟩, ⟨"/", .hyphen, false⟩, ⟨"", .hyphen, true⟩, ⟨"-", .finish, false⟩]

def allNumberRules : List NumberRule :=
  [⟨"issue-", .anything, false⟩, ⟨"/", .hyphen, false⟩, ⟨"", .hyphen, true⟩,
    ⟨"-", .finishOrHyphen, false⟩]

def firstDigits? (s : Chars) : Option Chars := firstNumberRules.findSome? fun r => (r.all s).head?

def issueIn? (branch : String) : Result (Option Int) :=
  match firstDigits? branch.toList with
  | some digits => do return some (← wholeOf (.ofList digits))
  | none => .ok none

def issuesIn (branch : String) : Result (List Int) := do
  let found ← (allNumberRules.flatMap (·.all branch.toList)).mapM fun digits =>
    wholeOf (.ofList digits)
  return found.foldl (fun acc n => if acc.contains n then acc else acc ++ [n]) []

/-! ### Scopes -/

def withoutHyphens (s : String) : String := replace s "-" ""

def isScopeLetter (c : Char) : Bool := ('a' ≤ c && c ≤ 'z') || ('0' ≤ c && c ≤ '9') || c == '-'

def scopeWord? (s : Chars) : Option String :=
  let run := s.takeWhile isScopeLetter
  if run.isEmpty then none else some (.ofList (run.takeWhile (· != '-')))

def usualWords (s : Chars) : List String :=
  let afterKind := ["feature", "fix", "plugin", "bugfix", "hotfix"].findSome? fun kind =>
    (dropFront? (kind ++ "/").toList s).bind scopeWord?
  let beforeSlash := if (s.dropWhile isScopeLetter).head? == some '/' then scopeWord? s else none
  afterKind.toList ++ beforeSlash.toList

def scopeByWord? (name : String) (scopes : List String) : Option String :=
  (usualWords name.toList).findSome? fun word => scopes.find? fun s => word == lower s

def scopeIn? (branch : String) (scopes : List String) : Option String :=
  let name := lower branch
  if branch == "" then none
  else
    (scopes.find? fun s =>
      contains name (lower s)
        || contains (withoutHyphens name) (withoutHyphens (lower s))).or
      (scopeByWord? name scopes)

def exactScopeIn? (branch : String) (scopes : List String) : Option String :=
  let name := lower branch
  if branch == "" then none
  else (scopes.find? fun s => contains name (lower s)).or (scopeByWord? name scopes)

def scopeLabel (scope : String) : String := "scope:" ++ scope

def leadingTexts : List Value → List String × Bool
  | [] => ([], true)
  | .str s :: vs => let (ss, all) := leadingTexts vs; (s :: ss, all)
  | _ :: _ => ([], false)

/-- Looks for a scope in a document's list.  A member that is no text is a fault if the search comes
to it. -/
def scopeAmong? (find : String → List String → Option String) (branch : String) (scopes : Value) :
    Result (Option String) := do
  if branch == "" || !scopes.truthy then return none
  let members ← scopes.parts
  let (texts, all) := leadingTexts members
  match find branch texts with
  | some s => return some s
  | none =>
    if all then return none
    throw ((members.getD texts.length .null).lacks "lower")

end Workbench.Workspace
