import Workbench.Component.Frontmatter
import Workbench.Value.Access

/-!
# Quality of components

Scores a component from 1 to 5 in several dimensions: how clear its description is, which tools it
asks for, how safe and how usable it is, and for skills when it is invoked.
-/

namespace Workbench.Component.Quality

open Tool Text

def orchestrators : List String :=
  ["project-coordinator", "investigator", "workflow-orchestrator", "meta-architect"]

/-- A score with remarks. -/
structure Grade where
  score : Int
  remarks : List String
deriving DecidableEq, Repr

/-- Points for one aspect. -/
structure Mark where
  points : Int
  remark : String
deriving DecidableEq, Repr

def markIf (c : Bool) (points : Int) (remark : String) : List Mark :=
  if c then [⟨points, remark⟩] else []

def gradeOf (ms : List Mark) : Grade :=
  ⟨max 1 (5 - ((ms.map Mark.points).foldr (· + ·) 0)), ms.map Mark.remark⟩

/-- The kinds of components. -/
inductive Kind where
  | agent
  | skill
  | command
  | hook
  | unknown
deriving DecidableEq, Repr

def Kind.name : Kind → String
  | .agent => "agent"
  | .skill => "skill"
  | .command => "command"
  | .hook => "hook"
  | .unknown => "unknown"

def kindOf (file : Path) : Kind :=
  let path := replace file.toString "\\" "/"
  if contains path "/agents/" then .agent
  else if contains path "/skills/" && file.name == "SKILL.md" then .skill
  else if contains path "/commands/" then .command
  else if file.name == "hooks.json" then .hook
  else .unknown

def frontMatter (content : String) : Tool Value := do
  match Sheet.ofText? content with
  | none => return .map []
  | some s =>
    match ← s.fields with
    | .ok v => return v
    | .error e =>
      complain s!"Error parsing YAML: {e}"
      return .map []

def descriptionGrade (front : Value) (kind : Kind) : Result Grade := do
  let value ← front.fieldOr "description" ""
  let size ← value.size
  let text ← value.textFor "lower"
  let small := lower text
  return gradeOf
    ((if size < 50 then [⟨2, "Description too short (< 50 chars)"⟩]
      else markIf (size < 100) 1 "Description could be more detailed (< 100 chars)")
    ++ markIf (containsAny small ["helps", "manages", "handles", "does", "works with"]) 1
      "Description contains vague words (helps, manages, etc.)"
    ++ markIf (kind == .skill
        && !containsAny small ["auto-invokes when", "automatically activated when", "use when"]) 1
      "Skill description missing auto-invoke trigger specification"
    ++ markIf (!contains text "e.g." && !contains small "example") 1 "No examples in description")

def toolsOf (front : Value) : Result Value := do
  let others ← front.fieldOr "tools" (.list [])
  match ← front.fieldOr "allowed-tools" others with
  | .str s => return .strings ((split s ",").map trim)
  | v => return v

def toolGrade (front : Value) (kind : Kind) : Result Grade := do
  let tools ← toolsOf front
  if !tools.truthy then return ⟨5, []⟩
  let elevated :=
    (← tools.parts).filterMap fun t => t.str?.filter ["Bash", "Write", "Edit"].contains
  let count ← tools.size
  let delegates ← if kind == .agent then tools.hasText "Task" else pure false
  let exempt := match ← front.fieldOr "name" "" with
    | .str n => orchestrators.contains n
    | _ => false
  let writes ← tools.hasText "Write"
  let edits ← tools.hasText "Edit"
  return gradeOf
    (markIf (!elevated.isEmpty) 1
      ("Has elevated permissions: " ++ join ", " elevated ++ " (ensure justified)")
    ++ markIf (6 < count) 1 s!"Many tools specified ({count}), ensure all are necessary"
    ++ (if delegates then
        [if exempt then ⟨0, "✓ Orchestrator agent: Task tool permitted for delegation"⟩
         else ⟨1, "Agent has Task tool (potential circular delegation)"⟩]
      else [])
    ++ markIf (writes && !edits) 0 "Has Write but not Edit (intentional? Edit is often better)")

def triggerGrade (front : Value) : Result Grade := do
  let text ← (← front.fieldOr "description" "").textFor "lower"
  let small := lower text
  if !containsAny small ["auto-invokes when", "automatically activated when"] then
    return gradeOf [⟨2, "No clear auto-invoke triggers specified in description"⟩]
  return gradeOf
    (markIf (!contains text "\"" && !contains text "'") 1
      "No specific trigger phrases quoted (e.g., 'how does X work?')"
    ++ markIf (containsAny small ["when user needs help", "when appropriate", "when necessary"]) 2
      "Triggers are too vague")

def safetyGrade (front : Value) (content : String) : Result Grade := do
  let tools ← toolsOf front
  let small := lower content
  let bash ← tools.hasText "Bash"
  let changes ← if !bash then pure false
    else if ← tools.hasText "Write" then pure true
    else tools.hasText "Edit"
  return gradeOf
    ((if changes then
        [⟨2, "SECURITY RISK: Bash + Write/Edit combination (command injection risk)"⟩]
      else markIf bash 1 "Bash tool present (ensure input validation)")
    ++ markIf (bash && !contains small "validate" && !contains small "sanitize") 1
      "Bash tool used but no mention of input validation"
    ++ markIf (contains small "security" || contains small "validate") 0
      "✓ Security considerations mentioned")

def isDocLine (line : String) : Bool :=
  let t := trim line
  t != "" && !startsWith t "#"

def usabilityGrade (content : String) : Grade :=
  let small := lower content
  gradeOf
    (markIf (!contains content "\x60\x60\x60") 1 "No code examples in documentation"
    ++ markIf (!contains small "## usage" && !contains small "## example") 1
      "No usage or examples section"
    ++ markIf (!contains small "## capabilities" && !contains small "## features") 0
      "Consider adding capabilities/features section"
    ++ markIf (((split content "\n").filter isDocLine).length < 20) 1
      "Sparse documentation (< 20 lines of content)")

/-- The grades of a component. -/
structure Grades where
  kind : Kind
  name : Value
  description : Grade
  tools : Grade
  triggers : Option Grade
  safety : Grade
  usability : Grade

def Grades.dimensions (g : Grades) : List (String × Option Grade) :=
  [("description_clarity", some g.description), ("tool_permissions", some g.tools),
   ("auto_invoke_triggers", g.triggers), ("security", some g.safety),
   ("usability", some g.usability)]

def Grades.overall (g : Grades) : Float :=
  let scores := g.dimensions.filterMap fun (_, d) => d.map Grade.score
  Decimal.ofInt (scores.foldr (· + ·) 0) / Float.ofNat scores.length

def Grades.value (g : Grades) : Value :=
  .object
    [("component_type", g.kind.name), ("component_name", g.name),
      ("overall_score", .float g.overall),
     ("scores", .object (g.dimensions.map fun (k, d) =>
       (k, Value.ofOption (fun (x : Grade) => .int x.score) d))),
     ("issues", .object (g.dimensions.map fun (k, d) =>
       (k, .strings ((d.map Grade.remarks).getD []))))]

def grades (kind : Kind) (file : Path) (front : Value) (content : String) : Result Grades := do
  let description ← descriptionGrade front kind
  let tools ← toolGrade front kind
  let safety ← safetyGrade front content
  let triggers ← if kind == .skill then some <$> triggerGrade front else pure none
  return { kind, name := (← front.fieldOr "name" file.stem), description, tools, triggers, safety
           usability := usabilityGrade content }

def analyze (file : Path) : Tool Value := do
  let kind := kindOf file
  if kind == .hook then
    complain "Hook analysis not yet implemented"
    return .map []
  let content ← readText file.toString
  let front ← frontMatter content
  return (← grades kind file front content).value

def level (score : Float) : String :=
  if 4.5 ≤ score then "Excellent ✅"
  else if 4.0 ≤ score then "Good ✓"
  else if 3.0 ≤ score then "Adequate ⚠"
  else if 2.0 ≤ score then "Poor ⚠⚠"
  else "Critical ❌"

def heading (dimension : Value) : Result String := do
  return title (replace (← dimension.textFor "replace") "_" " ")

def banner (rule title : String) : List String := [times rule 60, title, times rule 60]

def remarkLine (v : Value) : Result String := do
  let s ← v.textFor "startswith"
  return if startsWith s "✓" then s!"  {s}"
    else if startsWith s "SECURITY" then s!"  🔴 {s}"
    else s!"  • {s}"

def overallOf (v : Value) : Result Float :=
  match v with
  | .str _ => .error (.invalid "Unknown format code 'f' for object of type 'str'")
  | other => other.number

def reportLines (analysis : Value) : Result (List String) := do
  let name ← analysis.field "component_name"
  let kind ← analysis.field "component_type"
  let overall ← overallOf (← analysis.field "overall_score")
  let scores ← (← (← analysis.field "scores").pairs).filterMapM fun (k, v) => do
    if v matches .null then return none
    let h ← heading k
    return some (h ++ times "." (40 - h.length) ++ s!" {v.display}/5")
  let issues ← (← (← analysis.field "issues").pairs).filterMapM fun (k, v) => do
    if !v.truthy then return none
    return some (s!"\n{← heading k}:" :: (← (← v.parts).mapM remarkLine))
  return banner "=" "Component Quality Analysis"
    ++ [s!"Component: {name.display}", s!"Type: {kind.display}",
        s!"Overall Quality: {Decimal.fixed overall 1}/5.0", "",
        s!"Quality Level: {level overall}", ""]
    ++ banner "-" "Quality Scores" ++ scores ++ [""] ++ banner "-" "Issues Identified"
    ++ (if issues.isEmpty then ["\nNo issues identified! ✅"] else issues.flatten) ++
      ["", times "=" 60]

def report (analysis : Value) : Result String := do return join "\n" (← reportLines analysis)

def command (argv : List String) : Tool Unit := do
  match argv with
  | [] =>
    complain "Usage: python quality-scorer.py <component-file>"
    complain "  component-file: Path to agent, skill, or command markdown file"
    exit 1
  | a :: _ =>
    let file := Path.ofString a
    if !(← pathExists file.toString) then
      complain s!"Error: File not found: {file.toString}"
      exit 1
    guarded
      (do
        let analysis ← analyze file
        say (← report analysis)
        let overall ← (← analysis.field "overall_score").number
        exit (if overall < 3.0 then 2 else if overall < 4.0 then 1 else 0))
      (fun e => !e.isExit)
      fun e => do
        complain s!"Error analyzing component: {e.message}"
        complain "<traceback>"
        exit 3

end Workbench.Component.Quality
