import Workbench.Branch.Config
import Workbench.Pattern.Reader

/-!
# Names of branches

A name is made from a description, and any name is checked against the configuration.
-/

namespace Workbench.Branch

open Value Text

/-! ### Making -/

def isNameChar (c : Char) : Bool := ('a' ≤ c && c ≤ 'z') || ('0' ≤ c && c ≤ '9') || c == '-'

def cleaned (description : String) : Chars :=
  let hyphened := (lower description).toList.map fun c => if c == ' ' || c == '_' then '-' else c
  trimWhile (· == '-') (hyphened.filter isNameChar)

def longName (lead : String) (issue : Int) (description : Chars) : Chars :=
  lead.toList ++ (if issue == 0 then [] else ("issue-" ++ toString issue ++ "-").toList) ++
    description

def cutTo (limit : Int) (name : Chars) : Chars :=
  let n := if limit < 0 then name.length - limit.natAbs else limit.toNat
  dropEndWhile (· == '-') (name.take n)

/-- The name of a new branch. -/
def makeName (type description : String) (issue : Int) (c : Config) : Result String := do
  let lead ← (← c.prefixes).fieldOr type (.str (type ++ "/"))
  let body := cleaned description
  if body.isEmpty then
    throw (.invalid ("Branch name cannot be empty after cleaning: '" ++ description ++ "'"))
  let name := longName lead.display issue body
  let limit ← c.maxLength
  if ← before limit name.length then
    match limit.whole? with
    | some n => return .ofList (cutTo n name)
    | none => throw (.kind "slice indices must be integers or None or have an __index__ method")
  return .ofList name

/-! ### Checking -/

/-- What is said of a name. -/
structure NameReport where
  errors : List String := []
  warnings : List String := []
deriving DecidableEq, Repr

def NameReport.valid (r : NameReport) : Bool := r.errors.isEmpty

def fitsClass (allowed name : String) : Result Bool :=
  let text := "^[" ++ allowed ++ "/]+$"
  match Pattern.parse {} text with
  | .ok p => .ok (p.starts name)
  | .error .tooManyRounds => .error (.overflow (Pattern.Error.tooManyRounds.message text))
  | .error e => .error (.pattern (e.message text))

def mentionsIssue (name : String) : Bool := (Pattern.ofString "issue-\\d+|#\\d+|\\d+-").occurs name

def letterErrors (name : String) (c : Config) : Result (List String) := do
  let limit ← c.pathOr ["naming", "maxLength"] (.int 64)
  let tooLong ← before limit name.length
  let allowed := (← c.allowedChars).display
  let fits ← fitsClass allowed name
  return (if tooLong then
      ["Branch name exceeds max length (" ++ toString name.length ++ " > " ++ limit.display ++ ")"]
        else [])
    ++ (if fits then []
      else ["Branch name contains invalid characters (allowed: " ++ allowed ++ ")"])
    ++ (if name == lower name then [] else ["Branch name must be lowercase"])
    ++ (if contains name "_" then ["Branch name should use hyphens (-) not underscores (_)"]
      else [])

def prefixErrors (name : String) (c : Config) : Result (List String) := do
  let prefixes ← c.prefixes
  if (← typeAmong? name (← prefixes.pairs)).isSome then return []
  let all ← joinTexts ", " (.list (← prefixes.values))
  return ["Branch name must start with a known prefix: " ++ all]

def hyphenWarnings (name : String) : List String :=
  ((split name "/").filter fun p => startsWith p "-" || endsWith p "-").map fun p =>
    "Branch segment '" ++ p ++ "' has leading/trailing hyphen"

def checkName (name : String) (c : Config) : Result NameReport := do
  let naming ← c.fieldOr "naming" (.map [])
  if (← c.main).same name || (← c.develop).same name then return {}
  let letters ← letterErrors name c
  let leads ← prefixErrors name c
  let issueNeeded := (← naming.fieldOr "requireIssue" false).truthy
  return {
    errors := letters ++ leads
      ++ (if contains name "//" then ["Branch name contains double slashes"] else [])
    warnings := (if contains name "--" then ["Branch name contains double hyphens"] else [])
      ++ hyphenWarnings name
      ++ (if issueNeeded && !mentionsIssue name then
          ["Branch name should include issue reference (e.g., issue-42)"] else []) }

end Workbench.Branch
