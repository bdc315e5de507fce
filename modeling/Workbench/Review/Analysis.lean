import Workbench.Markdown.Fence
import Workbench.Pattern.Reader
import Workbench.Review.Issue
import Workbench.Review.Syntax

/-!
# Analysis of the code in a conversation

Goes through the blocks of a text and collects issues, lessons and counts.  From these, general
patterns are drawn.
-/

namespace Workbench.Review

open Pattern Source Markdown Tool Text

/-- What an analysis reports. -/
structure Issue where
  severity : Severity
  type : String
  message : String
  snippet : String := ""
deriving DecidableEq, Repr

/-- What there is to learn. -/
structure Lesson where
  key : String
  text : String
deriving DecidableEq, Repr

/-- What many issues have in common. -/
structure Trend where
  type : String
  description : String
  severity : Severity
deriving DecidableEq, Repr

/-- What is counted in the blocks. -/
structure Counts where
  blocks : Nat := 0
  python : Nat := 0
  javascript : Nat := 0
  other : Nat := 0
  functions : Nat := 0
  classes : Nat := 0
  lines : Nat := 0
  complexity : Int := 0
deriving DecidableEq, Repr

/-- All that an analysis gives. -/
structure Analysis where
  issues : List Issue := []
  counts : Counts := {}
  trends : List Trend := []
  lessons : List Lesson := []
deriving DecidableEq, Repr

/-- What one block adds: an issue, a lesson, or a function that decides too much. -/
inductive Remark where
  | issue (i : Issue)
  | lesson (l : Lesson)
  | tangle (complexity : Int)
deriving DecidableEq, Repr

def Remark.issue? : Remark → Option Issue
  | issue i => some i
  | _ => none

def Remark.lesson? : Remark → Option Lesson
  | lesson l => some l
  | _ => none

def Remark.complexity : Remark → Int
  | tangle n => n
  | _ => 0

def note (severity : Severity) (type message : String) : Remark :=
  .issue { severity, type, message }

def noteIf (c : Bool) (severity : Severity) (type message : String) : List Remark :=
  if c then [note severity type message] else []

/-! ### Python -/

def functionRemarks (name : String) (f : Tree) : List Remark :=
  let function := s!"Function '{name}'"
  let decisions := Review.complexity f
  let parameters := parameterCount f ["args", "posonlyargs", "kwonlyargs"]
  noteIf (!isDocumented f && 5 < linesAfterFirst f) .minor "missing_docstring"
    s!"{function} lacks a docstring"
  ++ ((bareHandlers f).map fun _ => note .important "bare_except"
      (s!"Bare except clause in function '{name}' - catches all exceptions "
        ++ "including KeyboardInterrupt"))
  ++ (if 10 < decisions then
      [note .important "high_complexity"
        s!"{function} has cyclomatic complexity of {decisions} (>10 is high)",
       .tangle decisions]
    else [])
  ++ noteIf (5 < parameters) .minor "too_many_arguments"
    s!"{function} has {parameters} arguments (>5 may indicate need for refactoring)"
  ++ noteIf (!declaresResult f && name != "__init__" && 3 < linesAfterFirst f) .minor
    "missing_type_hint"
    s!"{function} lacks return type hint"

def sourceOf (code : String) (t : Tree) : String :=
  join "\n" (((split code "\n").take t.endLine).drop (t.line - 1))

def snippetLength : Nat := 200

def shown (code : String) (t : Tree) (severity : Severity) (type message : String) : Remark :=
  .issue { severity, type, message, snippet := take (sourceOf code t) snippetLength }

def asksForShell (k : Tree) : Bool :=
  k.kind == .keyword (some "shell") && (k.child? "value").any fun v => v.kind == .literal .true

def callRemarks (code : String) (t : Tree) : List Remark :=
  let name := callName t
  (if name == "eval" || name == "exec" then
    [shown code t .critical "dangerous_eval"
      s!"Use of {name}() is dangerous - can execute arbitrary code",
     .lesson ⟨"avoid_eval_exec",
      "Avoid eval() and exec() - use ast.literal_eval() for data parsing or explicit parsing"⟩]
  else [])
  ++ (if name == "pickle.loads" || name == "pickle.load" then
    [shown code t .critical "insecure_deserialization"
      "pickle.load() can execute arbitrary code - don't use with untrusted data"]
  else [])
  ++ (if ["subprocess.call", "subprocess.run", "subprocess.Popen"].contains name then
    ((t.those "keywords").filter asksForShell).flatMap fun _ =>
      [shown code t .important "shell_injection"
        "subprocess with shell=True can lead to command injection",
       .lesson ⟨"subprocess_shell_false",
         "Use subprocess with shell=False and pass arguments as a list"⟩]
  else [])
  ++ (if name == "os.system" then
    [shown code t .important "shell_injection"
      "os.system() is vulnerable to command injection - use subprocess instead"]
  else [])

def secretParts : List String := ["password", "secret", "api_key", "apikey", "token", "credential"]

def nodeRemarks (code : String) (t : Tree) : List Remark :=
  (if t.kind == .call then callRemarks code t else [])
  ++ ((assignedTexts t).filter fun (name, text) =>
      containsAny (lower name) secretParts && 5 < text.length).flatMap fun (name, _) =>
    [note .critical "hardcoded_secret" s!"Potential hardcoded secret in variable '{name}'",
     .lesson ⟨"use_env_vars_for_secrets",
       "Store secrets in environment variables or secure vaults, not in code"⟩]

def isMainGuard (t : Tree) : Bool :=
  t.kind == .ifStmt && match t.child? "test" with
    | some test =>
      test.kind == .compare ["=="] && (test.child? "left").any (·.kind == .name "__name__")
        && (test.child? "comparators").any (·.kind == .literal (.str "__main__"))
    | none => false

def isCallStatement (t : Tree) : Bool :=
  t.kind == .exprStmt && (t.child? "value").any (·.kind == .call)

def moduleRemarks (t : Tree) : List Remark :=
  ((wildcardImports t).map fun m => note .minor "wildcard_import"
    s!"Wildcard import from {m} - imports unknown names into namespace")
  ++ noteIf ((t.those "body").any isCallStatement && !(t.those "body").any isMainGuard) .minor
    "missing_main_guard"
    "Module has top-level code without if __name__ == '__main__' guard"

def orderedFunctions (t : Tree) : List (String × Tree) :=
  let fs := functions t
  fs.filter (fun (_, f) => !isAsync f) ++ fs.filter fun (_, f) => isAsync f

def programRemarks (code : String) (t : Tree) : List Remark :=
  ((orderedFunctions t).flatMap fun (name, f) => functionRemarks name f) ++
    t.walk.flatMap (nodeRemarks code)
    ++ moduleRemarks t

/-- What one block gives. -/
structure BlockResult where
  remarks : List Remark := []
  functions : Nat := 0
  classes : Nat := 0

def brokenLength : Nat := 100

def analyzePython (code : String) : BlockResult :=
  match Source.parse code with
  | .error r =>
    { remarks :=
        [.issue
          { severity := .important
            type := "syntax_error"
            message := s!"Python syntax error: {r.message} at line {lineText r}"
            snippet := take code brokenLength }] }
  | .ok t =>
    { remarks := programRemarks code t, functions := (orderedFunctions t).length,
      classes := classCount t }

/-! ### Other languages -/

def occurs (pattern code : String) : Bool := (ofString pattern).occurs code

def placesOf (pattern code : String) : Nat := ((ofString pattern).all code).length

def teachIf (c : Bool) (i : Issue) (l : Lesson) : List Remark :=
  if c then [.issue i, .lesson l] else []

def javascriptRemarks (code : String) : List Remark :=
  let logs := placesOf "\\bconsole\\.log\\s*\\(" code
  let vars := placesOf "\\bvar\\s+\\w+" code
  let loose := placesOf "[^=!]==[^=]" code
  teachIf (occurs "\\beval\\s*\\(" code)
    { severity := .critical, type := "dangerous_eval"
      message := "Use of eval() in JavaScript is dangerous - can execute arbitrary code" }
    ⟨"avoid_eval_js", "Avoid eval() in JavaScript - use JSON.parse() for data or explicit parsing"⟩
  ++ teachIf (occurs "\\.innerHTML\\s*=\\s*[^\"'\x60]" code)
    { severity := .critical, type := "potential_xss"
      message := "innerHTML assignment with variable - potential XSS vulnerability" }
    ⟨"use_textcontent",
     "Use textContent instead of innerHTML when possible, or sanitize HTML input"⟩
  ++ noteIf (occurs "\\bdocument\\.write\\s*\\(" code) .important "document_write"
    "document.write() is deprecated and can cause security issues"
  ++ noteIf (5 < logs) .minor "excessive_logging"
    s!"Found {logs} console.log statements - remove before production"
  ++ noteIf (3 < vars) .minor "use_let_const"
    s!"Found {vars} uses of 'var' - prefer 'let' or 'const' for block scoping"
  ++ noteIf (0 < loose) .minor "use_strict_equality"
    s!"Found {loose} uses of '==' - prefer '===' for strict comparison"

def shellRemarks (code : String) : List Remark :=
  teachIf (occurs "\\$\\w+(?![\"'])" code && !occurs "\"\\$\\w+\"" code)
    { severity := .important, type := "unquoted_variable"
      message := "Unquoted shell variables can cause word splitting issues" }
    ⟨"quote_shell_vars", "Always quote shell variables: use \"$var\" instead of $var"⟩
  ++ teachIf (occurs "rm\\s+-rf?\\s+\\$" code)
    { severity := .critical, type := "dangerous_rm"
      message := "rm -rf with variable path is dangerous - variable could be empty or wrong" }
    ⟨"safe_rm_rf",
     "Use 'rm -rf \"$\x7bvar:?\x7d\"' to fail if variable is empty, or use explicit paths"⟩
  ++ noteIf (occurs "curl.*\\|\\s*(?:ba)?sh" code) .critical "curl_pipe_bash"
    "curl | bash is dangerous - downloads and executes untrusted code"

def queryRemarks (code : String) : List Remark :=
  teachIf (occurs "['\"].*\\+.*['\"]|f['\"].*\\\x7b.*\\\x7d.*['\"]" code)
    { severity := .critical, type := "sql_injection"
      message := "String concatenation in SQL query - use parameterized queries" }
    ⟨"parameterized_queries",
     "Always use parameterized queries (?, :param, or %s) instead of string concatenation"⟩
  ++ noteIf ((ofString "SELECT\\s+\\*" { ignoreCase := true }).occurs code) .minor "select_star"
    "SELECT * can fetch unnecessary data - specify columns explicitly"

/-! ### Whole texts -/

/-- How a language is analysed. -/
inductive Family where
  | python
  | javascript
  | shell
  | query
  | unknown
deriving DecidableEq, Repr

def familyOf (language : String) : Family :=
  if ["python", "py", "python3"].contains language then .python
  else if ["javascript", "js", "typescript", "ts", "jsx", "tsx"].contains language then .javascript
  else if ["bash", "sh", "shell", "zsh"].contains language then .shell
  else if ["sql", "mysql", "postgresql", "postgres"].contains language then .query
  else .unknown

def analyzeSnippet (s : Snippet) : BlockResult :=
  match familyOf s.language with
  | .python => analyzePython s.code
  | .javascript => { remarks := javascriptRemarks s.code }
  | .shell => { remarks := shellRemarks s.code }
  | .query => { remarks := queryRemarks s.code }
  | .unknown => {}

def Counts.add (c : Counts) (s : Snippet) (r : BlockResult) : Counts :=
  let family := familyOf s.language
  { c with
    blocks := c.blocks + 1
    python := c.python + (if family == .python then 1 else 0)
    javascript := c.javascript + (if family == .javascript then 1 else 0)
    other := c.other + (if family == .python || family == .javascript then 0 else 1)
    functions := c.functions + r.functions
    classes := c.classes + r.classes
    lines := c.lines + lineCount s.code
    complexity := c.complexity + ((r.remarks.map Remark.complexity).foldr (· + ·) 0) }

def securityTypes : List String :=
  ["dangerous_eval", "shell_injection", "sql_injection", "potential_xss", "hardcoded_secret",
   "insecure_deserialization", "dangerous_rm", "curl_pipe_bash"]

def trendsOf (issues : List Issue) (complexity : Int) : List Trend :=
  let ofSeverity := fun (s : Severity) => (issues.filter (·.severity == s)).length
  let security := (issues.filter fun i => securityTypes.contains i.type).length
  let bare := (issues.filter (·.type == "bare_except")).length
  let critical := ofSeverity .critical
  let important := ofSeverity .important
  (if 0 < security then
    [⟨"security_vulnerabilities", s!"Found {security} security issues in code", .critical⟩] else [])
  ++ (if 20 < complexity then
    [⟨"high_code_complexity", s!"Code has high complexity score of {complexity}", .important⟩]
      else [])
  ++ (if 0 < bare then
    [⟨"poor_error_handling", s!"Found {bare} bare except clauses", .important⟩] else [])
  ++ (if 3 ≤ critical then
      [⟨"critical_code_issues",
        s!"Code has {critical} critical issues requiring immediate attention", .critical⟩]
    else if 5 ≤ important then
      [⟨"code_quality_concerns", s!"Code has {important} important issues to address", .important⟩]
    else [])

def analyze (text : String) : Analysis :=
  let results := (snippets text).map fun s => (s, analyzeSnippet s)
  let remarks := results.flatMap fun (_, r) => r.remarks
  let issues := remarks.filterMap Remark.issue?
  let counts := results.foldl (fun c (s, r) => c.add s r) {}
  { issues, counts, trends := trendsOf issues counts.complexity,
    lessons := remarks.filterMap Remark.lesson? }

def Issue.value (i : Issue) : Value :=
  .object [("severity", i.severity.name), ("type", i.type), ("message", i.message),
    ("snippet", i.snippet)]

def Lesson.value (l : Lesson) : Value := .object [("key", l.key), ("text", l.text)]

def Trend.value (t : Trend) : Value :=
  .object [("type", t.type), ("description", t.description), ("severity", t.severity.name)]

def Counts.value (c : Counts) : Value :=
  .object
    [("total_code_blocks", c.blocks), ("python_blocks", c.python),
      ("javascript_blocks", c.javascript),
     ("other_blocks", c.other), ("total_functions", c.functions), ("total_classes", c.classes),
     ("total_lines", c.lines), ("complexity_score", c.complexity)]

def Analysis.value (a : Analysis) : Value :=
  .object
    [("issues", .list (a.issues.map Issue.value)), ("metrics", a.counts.value),
     ("patterns", .list (a.trends.map Trend.value)),
     ("learnings", .list (a.lessons.map Lesson.value))]

def analysisCommand (argv : List String) : Tool Unit := do
  match argv with
  | [] =>
    complain "Usage: analyze-code-quality.py <text-file> [output-file]"
    exit 1
  | input :: more =>
    let text ← guarded (readText input) (fun e => !e.isExit) fun e => do
      complain
        (if e.isMissing then s!"Error: File not found: {input}"
          else s!"Error reading file: {e.message}")
      exit 1
    let output ← renderJson .indented (analyze text).value
    match more with
    | [] => say output
    | target :: _ => if target == "" then say output else writeText target output

end Workbench.Review
