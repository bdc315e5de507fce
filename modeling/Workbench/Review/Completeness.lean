import Workbench.Markdown.Fence
import Workbench.Pattern.Reader
import Workbench.Review.Issue

/-!
# Completeness of an answer

Checks whether an answer handles errors and edge cases, explains itself, gives examples, and speaks
about what was asked for.
-/

namespace Workbench.Review

open Tool Pattern Markdown Text

/-- A check and how it went. -/
structure Check where
  name : String
  passed : Bool
  message : String
deriving DecidableEq, Repr

/-- A check with what it costs. -/
structure Assessed where
  check : Check
  gap : Option String := none
  suggestion : Option String := none
  points : Int := 0

def assess (name : String) (passed : Bool) (good bad gap suggestion : String) (points : Int) :
    Assessed :=
  if passed then { check := ⟨name, true, good⟩ }
  else { check := ⟨name, false, bad⟩, gap := some gap, suggestion := some suggestion, points }

def mentions (pattern text : String) : Bool := (ofString pattern).occurs text

def mentionsAnyCase (pattern text : String) : Bool :=
  (ofString pattern { ignoreCase := true }).occurs text

def fillers : List String :=
  ["that", "this", "with", "from", "have", "will", "would", "could", "should", "been", "were",
   "they", "their", "them", "then", "than", "when", "where", "what", "which", "while", "also",
   "your", "about", "into", "some", "more", "like",
   "just", "only", "other", "each", "make", "made", "does", "done"]

def keywords (text : String) : List String :=
  let prose := (ofString "\x60\x60\x60.*?\x60\x60\x60" { dotAll := true }).replaceAll "" text
  let words := ((ofString "\\b[a-zA-Z]\x7b4,\x7d\\b").all (lower prose)).map (·.whole)
  sort (dedup (words.filter fun w => !fillers.contains w))

def edgeCaseSigns : List String :=
  ["\\b(empty|null|none|undefined|zero|negative)\\b",
   "\\b(edge\\s*case|corner\\s*case|boundary)\\b", "\\bif\\s+len\\s*\\([^)]+\\)\\s*[=<>]",
   "\\bif\\s+not\\s+\\w+\\b"]

def codeChecks (code : String) : List Assessed :=
  let handles := mentions "\\b(try|catch|except|finally)\\b" code
    || mentions "\\b(if\\s+err|error\\s*!=|\\.catch\\(|on_?error)\\b" code
  let validates := mentionsAnyCase
    ("\\b(validat|sanitiz|check|verify|assert|if\\s+not?\\s+|if\\s+\\w+\\s*[!=]=|"
      ++ "typeof|instanceof)\\b") code
  [assess "error_handling" handles "Error handling is present" "No error handling found"
     "Missing error handling for potential failures"
     "Add try/catch blocks or error checks for I/O, network, or parsing operations" 15,
   assess "input_validation" validates "Input validation is present" "No input validation found"
     "Missing input validation"
       "Validate inputs before processing (check types, ranges, null/undefined)" 10]

def coverageChecks (answer requirements : String) : List Assessed :=
  let wanted := keywords requirements
  let given := keywords answer
  if requirements == "" || wanted.isEmpty then []
  else
    let covered := (wanted.filter given.contains).length
    let coverage := Float.ofNat covered / Float.ofNat wanted.length * 100.0
    let message := s!"Requirements coverage: {Decimal.fixed coverage 0}%"
    if 80.0 ≤ coverage then [{ check := ⟨"requirements_coverage", true, message⟩ }]
    else
      let missing := wanted.filter fun w => !given.contains w
      [{ check := ⟨"requirements_coverage", false, message⟩
         gap := some ("Missing requirement keywords: " ++ join ", " (missing.take 5))
         points := Decimal.truncate ((100.0 - coverage) / 5.0) }]

def completenessChecks (answer requirements : String) : List Assessed :=
  let hasCode := 0 < count answer "\x60\x60\x60" / 2
  let code := join "\n" ((blocks answer).map fun b => .ofList b.code)
  let signs := (edgeCaseSigns.filter (mentionsAnyCase · answer)).length
  let explains := !hasCode || 100 < (answer.length : Int) - code.length
  let comments := mentions "(#|//|/\\*|\"\"\"|''')" code
  let documents := mentions "(\"\"\"|''')[^\"']+\\1" code
  let tests := mentions "\\b(test_|_test|Test|spec\\.|describe\\(|it\\(|expect\\(|assert)" answer
  let examples := mentionsAnyCase "(example|usage|output|result)[:\\s]" answer
  (if hasCode then codeChecks code else [])
  ++ [assess "edge_cases" (2 ≤ signs) s!"Edge cases considered ({signs} indicators found)"
        "Few edge cases considered" "Edge cases may not be fully addressed"
        "Consider: empty inputs, null values, boundary conditions, concurrent access" 10,
      assess "documentation" (explains || comments || documents)
        "Explanation or documentation provided"
        "Minimal explanation provided" "Code lacks explanation or comments"
        "Add brief explanation of approach or comments for complex logic" 5,
      assess "examples_tests" (tests || examples) "Tests or usage examples provided"
        "No tests or examples provided" "Missing tests or usage examples"
        "Include a usage example or basic test case" 10]
  ++ coverageChecks answer requirements

def completenessReport (answer requirements : String) : Value :=
  let cs := completenessChecks answer requirements
  let score : Int := max 0 (100 - ((cs.map Assessed.points).foldr (· + ·) 0))
  let passed := (cs.filter (·.check.passed)).length
  .object
    [("score", score),
     ("checks", .list (cs.map fun a =>
       .object [("name", a.check.name), ("passed", a.check.passed), ("message", a.check.message)])),
     ("gaps", .strings (cs.filterMap Assessed.gap)),
     ("suggestions", .strings (cs.filterMap Assessed.suggestion)),
     ("summary", s!"Passed {passed}/{cs.length} completeness checks with score {score}/100")]

/-- Checks the answer that the first argument names against what the second requires. -/
def completenessCommand (argv : List String) : Tool Unit := do
  match argv with
  | [] =>
    complain "Usage: check-completeness.py <response-file> [requirements-file]"
    complain "       echo 'response' | check-completeness.py -"
    exit 1
  | a :: more =>
    let answer ← subjectOf a
    let requirements ← match more with
      | [] => pure ""
      | r :: _ => textOf r
    sayJson (completenessReport answer requirements)

end Workbench.Review
