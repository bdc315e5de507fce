import Workbench.Pattern.Reader
import Workbench.Research.Reference

/-!
# Assessment of findings

Two views of a written finding: how complete it is, with a score, and whether it keeps to the
standards.
-/

namespace Workbench.Research

open Tool Text Decimal

def occursAnyCase (pattern text : String) : Bool :=
  (Pattern.ofString pattern { ignoreCase := true }).occurs text

def lineMatches (pattern text : String) : Nat :=
  ((Pattern.ofString pattern { multiline := true }).all text).length

def expectedSections : List String :=
  ["##?\\s*(Summary|Overview)", "##?\\s*(Background|Context)",
   "##?\\s*(Implementation|Approach|How)", "##?\\s*(Evidence|Examples|Findings)",
   "##?\\s*(Recommendations|Conclusions)"]

def actionWords : List String :=
  ["recommend", "suggest", "should", "consider", "next steps", "todo", "follow-up"]

/-- What is measured of a report. -/
structure Metrics where
  sectionsFound : Nat
  evidence : Nat
  strongEvidence : Bool
  words : Nat
  organized : Bool
  actionable : Bool
  topics : Nat
  technical : Bool
deriving DecidableEq, Repr

namespace Metrics

def sectionCoverage (m : Metrics) : Float :=
  Float.ofNat m.sectionsFound / Float.ofNat expectedSections.length * 100.0

def detailed (m : Metrics) : Bool := 500 ≤ m.words

def wordsPerTopic (m : Metrics) : Float := Float.ofNat m.words / Float.ofNat (max m.topics 1)

def balanced (m : Metrics) : Bool := 100.0 ≤ m.wordsPerTopic && m.wordsPerTopic ≤ 400.0

def factors (m : Metrics) : List Bool :=
  [80.0 ≤ m.sectionCoverage, m.strongEvidence, m.detailed, m.organized, m.actionable,
   m.balanced, m.technical]

def score (m : Metrics) : Float :=
  Float.ofNat (m.factors.filter id).length / Float.ofNat m.factors.length * 100.0

def value (m : Metrics) : Value :=
  .object
    [("section_coverage", .float m.sectionCoverage), ("evidence_count", m.evidence),
     ("has_strong_evidence", m.strongEvidence), ("word_count", m.words),
     ("sufficient_detail", m.detailed), ("has_organization", m.organized),
     ("actionable", m.actionable), ("unique_topics", m.topics),
     ("avg_section_length", .int (truncate m.wordsPerTopic)), ("balanced_coverage", m.balanced),
     ("technical_depth", m.technical), ("completeness_score", .float m.score)]

end Metrics

def measure (text : String) : Metrics :=
  let refs := (references text).length
  let blocks := ((Pattern.ofString "\x60\x60\x60[\\s\\S]*?\x60\x60\x60").all text).length
  let bullets := lineMatches "^\\s*[-*+]\\s" text
  let numbered := lineMatches "^\\s*\\d+\\.\\s" text
  let headings := lineMatches "^#\x7b1,6\x7d\\s" text
  let small := lower text
  let actions := (actionWords.map (count small)).foldr (· + ·) 0
  let topics := dedup (((Pattern.ofString "##\\s*([^\\n]+)").all text).map (·.group 1))
  let specific := (Pattern.ofString "(line \\d+|version \\d+|\\d+ms|\\d+%|bytes|KB|MB)").occurs text
  let terms := occursAnyCase "(function|class|method|API|endpoint|database|query|cache)" text
  { sectionsFound := (expectedSections.filter (occursAnyCase · text)).length
    evidence := refs + blocks
    strongEvidence := 3 ≤ refs || 2 ≤ blocks
    words := (words text).length
    organized := (5 ≤ bullets || 3 ≤ numbered) && 3 ≤ headings
    actionable := 3 ≤ actions
    topics := topics.length
    technical := specific && terms }

def categoryOf (score : Float) : String × String :=
  if 85.0 ≤ score then ("Excellent", "✅")
  else if 70.0 ≤ score then ("Good", "✓")
  else if 50.0 ≤ score then ("Adequate", "⚠️")
  else ("Incomplete", "❌")

def Metrics.reaches (m : Metrics) (threshold : Float) : Bool := threshold ≤ m.score

def Metrics.lines (m : Metrics) (file : String) (threshold : Float) : List String :=
  let (category, sign) := categoryOf m.score
  let yes := fun (c : Bool) => if c then "Yes" else "No"
  let limit := s!"({floatText threshold}%)"
  let advice := fun (c : Bool) (s : String) => if c then [s!"  • {s}"] else []
  [s!"\n{pageRule}", s!"Research Completeness Assessment: {file}", s!"{pageRule}\n",
   s!"Overall Completeness: {fixed m.score 1}% - {category} {sign}\n",
   "Detailed Metrics:",
   s!"  • Section Coverage: {fixed m.sectionCoverage 0}%",
   s!"  • Evidence Items: {m.evidence} (Strong: {yes m.strongEvidence})",
   s!"  • Word Count: {m.words} (Sufficient: {yes m.detailed})",
   "  • Organization: " ++ (if m.organized then "Well-structured" else "Needs improvement"),
   s!"  • Actionability: {yes m.actionable}",
   s!"  • Topics Covered: {m.topics}",
   s!"  • Avg Section Length: {truncate m.wordsPerTopic} words",
   "  • Balance: " ++ (if m.balanced then "Good" else "Too shallow/focused"),
   s!"  • Technical Depth: {yes m.technical}",
   s!"\n{pageRule}"]
  ++ (if m.reaches threshold then [s!"✅ Research meets completeness threshold {limit}"]
    else
      [s!"❌ Research below completeness threshold {limit}", "\nSuggestions for improvement:"]
      ++ advice (m.sectionCoverage < 80.0)
        "Add missing sections (Background, Implementation, Evidence, Recommendations)"
      ++ advice (!m.strongEvidence) "Include more file references and code examples"
      ++ advice (!m.detailed) "Expand explanations and provide more context"
      ++ advice (!m.organized) "Add bullet points, numbered lists, and clear headings"
      ++ advice (!m.actionable) "Include recommendations and next steps"
      ++ advice (!m.balanced) "Balance breadth and depth (aim for 100-400 words per section)"
      ++ advice (!m.technical)
        "Add specific technical details (line numbers, metrics, terminology)")

def assessmentForm : Options.Form where
  operands := [{ dest := "research_file" }]
  switches :=
    [{ Options.valued "threshold" ["--threshold"] with kind := .real, default := .float 70.0 }]

def examined (file : Path) : Tool String :=
  readExamined "file" file s!"Error: File '{file.toString}' does not exist"

def assessmentCommand (argv : List String) : Tool Unit := do
  let a ← Options.settle (assessmentForm.read argv)
  let file := Path.ofString (a.text "research_file")
  let m := measure (← examined file)
  let threshold := match a.value "threshold" with
    | .float x => x
    | _ => 70.0
  sayAll (m.lines file.name threshold)
  exit (if m.reaches threshold then 0 else 1)

/-! ### Standards -/

def standards (text : String) : List (String × Bool) :=
  let small := lower text
  [("has_summary", occursAnyCase "##?\\s*(Summary|Overview)" text),
   ("has_file_references", hasReferences text),
   ("has_evidence", containsAny text ["Evidence:", "Location:", "Example:", "Source:"]),
   ("has_recommendations", containsAny small ["recommend", "suggest", "consider", "should"]),
   ("has_structure", 3 ≤ count text "##"),
   ("sufficient_length", 200 < text.length),
   ("has_citations", occursAnyCase "\\[\\d+\\]|\\bsource:" text)]

def standardsLines (checks : List (String × Bool)) (file : String) : List String × Int :=
  let passed := (checks.filter (·.2)).length
  let total := checks.length
  let percent := fixed (Float.ofNat passed / Float.ofNat total * 100.0) 0
  let (verdict, code) :=
    if passed == total then ("✅ All quality checks passed!", 0)
    else if Float.ofNat total * 0.7 ≤ Float.ofNat passed then
      ("⚠️  Most checks passed, but some improvements needed", 0)
    else ("❌ Quality standards not met. Please improve the research output.", 1)
  ([s!"\n{pageRule}", s!"Research Quality Validation: {file}", s!"{pageRule}\n",
    s!"Overall Score: {passed}/{total} checks passed ({percent}%)\n"]
   ++ checks.map (fun (name, ok) => "  " ++ (if ok then "✓" else "✗") ++ " "
        ++ title (replace name "_" " "))
   ++ [s!"\n{pageRule}", verdict], code)

def standardsCommand (argv : List String) : Tool Unit := do
  match argv with
  | [] =>
    sayAll
      ["Usage: python validate-research.py <research-output-file>",
       "\nValidates research output for quality standards:", "  - Has summary/overview section",
       "  - Includes file references with line numbers", "  - Contains evidence or examples",
       "  - Provides recommendations", "  - Has structured sections",
       "  - Sufficient content length", "  - Includes citations/sources"]
    exit 1
  | a :: _ =>
    let file := Path.ofString a
    let (lines, code) := standardsLines (standards (← examined file)) file.name
    sayAll lines
    exit code

end Workbench.Research
