import Workbench.Markdown.Fence
import Workbench.Pattern.Reader
import Workbench.Review.Issue
import Workbench.Review.Syntax

/-!
# Security of code

Looks for dangerous code by patterns and, in programs that parse, by the syntax tree.  One issue is
kept for each line and type.
-/

namespace Workbench.Review

open Source Markdown Tool Text

/-- A pattern that should not occur. -/
structure Danger where
  pattern : String
  name : String
  message : String
deriving DecidableEq, Repr

def criticalDangers : List Danger :=
  [⟨"\\beval\\s*\\(", "eval()", "Code execution vulnerability - eval can run arbitrary code"⟩,
   ⟨"\\bexec\\s*\\(", "exec()", "Code execution vulnerability - exec can run arbitrary code"⟩,
   ⟨"pickle\\.(loads?|dump)", "pickle",
    "Insecure deserialization - pickle can execute arbitrary code"⟩,
   ⟨"yaml\\.load\\s*\\([^)]*\\)", "yaml.load", "Use yaml.safe_load() instead of yaml.load()"⟩,
   ⟨"subprocess.*shell\\s*=\\s*True", "shell=True", "Command injection risk - avoid shell=True"⟩,
   ⟨"\\bos\\.system\\s*\\(", "os.system()",
    "Command injection risk - use subprocess with shell=False"⟩,
   ⟨"\\.innerHTML\\s*=", "innerHTML", "XSS vulnerability - sanitize HTML or use textContent"⟩,
   ⟨"document\\.write\\s*\\(", "document.write()", "XSS vulnerability - avoid document.write"⟩,
   ⟨"rm\\s+-rf?\\s+[\"']?\\$", "rm -rf $var", "Dangerous file deletion with variable"⟩,
   ⟨"curl.*\\|\\s*(?:ba)?sh", "curl | bash", "Remote code execution - never pipe curl to shell"⟩]

def importantDangers : List Danger :=
  [⟨"password\\s*=\\s*[\"'][^\"']+[\"']", "Hardcoded password",
    "Store passwords in environment variables or vaults"⟩,
   ⟨"api_?key\\s*=\\s*[\"'][^\"']+[\"']", "Hardcoded API key",
    "Store API keys in environment variables"⟩,
   ⟨"secret\\s*=\\s*[\"'][^\"']+[\"']", "Hardcoded secret", "Store secrets securely, not in code"⟩,
   ⟨"token\\s*=\\s*[\"'][^\"']+[\"']", "Hardcoded token", "Store tokens in environment variables"⟩,
   ⟨"[\"']-----BEGIN (?:RSA |DSA )?PRIVATE KEY-----", "Private key in code",
    "Never commit private keys"⟩,
   ⟨"(?:mysql|postgres|mongodb)://[^:]+:[^@]+@", "Database URL with password",
    "Use environment variables for credentials"⟩,
   ⟨"SELECT.*FROM.*WHERE.*[\"'].*\\+", "SQL string concatenation", "Use parameterized queries"⟩,
   ⟨"f[\"'].*SELECT.*\\\x7b", "SQL f-string", "Use parameterized queries, not f-strings"⟩,
   ⟨"query\\s*\\+\\s*[\"']", "SQL concatenation", "Use parameterized queries"⟩,
   ⟨"\\$_(?:GET|POST|REQUEST)\\[", "Unsanitized PHP input", "Sanitize and validate all user input"⟩,
   ⟨"dangerouslySetInnerHTML", "dangerouslySetInnerHTML", "XSS risk - sanitize content first"⟩]

def minorDangers : List Danger :=
  [⟨"\\bMD5\\s*\\(|hashlib\\.md5", "MD5 hash", "MD5 is weak - use SHA-256 or bcrypt for passwords"⟩,
   ⟨"\\bSHA1\\s*\\(|hashlib\\.sha1", "SHA1 hash", "SHA1 is weak - use SHA-256 or better"⟩,
   ⟨"verify\\s*=\\s*False", "SSL verification disabled",
    "Don't disable SSL certificate verification"⟩,
   ⟨"random\\.(random|randint|choice)\\s*\\(", "Weak random",
    "Use secrets module for security-sensitive randomness"⟩,
   ⟨"Math\\.random\\s*\\(", "Math.random()", "Use crypto.getRandomValues() for security"⟩,
   ⟨"chmod\\s+777", "chmod 777", "Overly permissive - use minimal required permissions"⟩,
   ⟨"console\\.(log|warn)\\s*\\(.*(password|secret|key|token)", "Logging sensitive data",
    "Don't log secrets"⟩]

/-- What shows an issue: the text that matched, or advice how to mend the program. -/
inductive Evidence where
  | found (text : String)
  | fix (text : String)
deriving DecidableEq, Repr

/-- What a scan reports. -/
structure Threat where
  severity : Severity
  type : String
  message : String
  line : Nat
  evidence : Evidence
deriving DecidableEq, Repr

def Threat.value (t : Threat) : Value :=
  .object
    [("severity", t.severity.name), ("type", t.type), ("message", t.message), ("line", t.line),
     match t.evidence with
     | .found s => ("match", s)
     | .fix s => ("fix", s)]

def Danger.type (d : Danger) : String := replace (replace (lower d.name) " " "_") "()" ""

def lineAt (code : String) (pos : Nat) : Nat := count (take code pos) "\n" + 1

def shownLength : Nat := 50

def Danger.threats (code : String) (severity : Severity) (d : Danger) : List Threat :=
  ((Pattern.ofString d.pattern { ignoreCase := true, multiline := true }).all code).map fun m =>
    ⟨severity, d.type, d.message, lineAt code m.start, .found (take m.whole shownLength)⟩

def patternThreats (code : String) : List Threat :=
  criticalDangers.flatMap (Danger.threats code .critical) ++
    importantDangers.flatMap (Danger.threats code .important)
    ++ minorDangers.flatMap (Danger.threats code .minor)

def secretWords : List String := ["password", "secret", "api_key", "token", "credential"]

def nodeThreats (t : Tree) : List Threat :=
  let calls :=
    if t.kind == .call then
      let name := callName t
      (if name == "eval" then
        [(⟨.critical, "code_execution", "eval() can execute arbitrary code", t.line,
          .fix "Use ast.literal_eval() for data parsing, or explicit parsing"⟩ : Threat)] else [])
      ++ (if name == "exec" then
        [⟨.critical, "code_execution", "exec() can execute arbitrary code", t.line,
          .fix "Avoid exec() - use explicit function calls instead"⟩] else [])
      ++ (if name == "pickle.load" || name == "pickle.loads" then
        [⟨.critical, "insecure_deserialization",
          "pickle can execute arbitrary code during deserialization", t.line,
          .fix "Use JSON or other safe serialization formats"⟩] else [])
    else []
  let secrets := (assignedTexts t).filter fun (name, text) =>
    containsAny (lower name) secretWords && 3 < text.length
  calls ++ secrets.map fun (name, _) =>
    ⟨.important, "hardcoded_secret", s!"Potential hardcoded secret in '{name}'", t.line,
      .fix "Use os.environ.get() or a secrets manager"⟩

def treeThreats (code : String) : List Threat :=
  match Source.parse code with
  | .ok t => t.walk.flatMap nodeThreats
  | .error _ => []

def allCode (text : String) : String :=
  join "\n" ((blocks text).map fun b => .ofList b.code) ++ s!"\n{text}"

def firstOfKind (ts : List Threat) : List Threat :=
  ts.foldl (fun acc t => if acc.any fun u => u.line == t.line && u.type == t.type then acc
    else acc ++ [t]) []

def Severity.points : Severity → Int
  | .critical => 25
  | .important => 10
  | .minor => 3

def threats (text : String) : List Threat :=
  let code := allCode text
  (firstOfKind (patternThreats code ++ treeThreats code)).mergeSort fun a b =>
    a.severity.rank ≤ b.severity.rank

def securityScore (ts : List Threat) : Int :=
  max 0 (100 - ((ts.map fun t => t.severity.points).foldr (· + ·) 0))

def countOf (s : Severity) (ts : List Threat) : Nat := (ts.filter (·.severity == s)).length

def securitySummary (ts : List Threat) : String :=
  let critical := countOf .critical ts
  let important := countOf .important ts
  let minor := countOf .minor ts
  if 0 < critical then s!"CRITICAL: Found {critical} critical security issues"
  else if 0 < important then s!"WARNING: Found {important} important security issues"
  else if 0 < minor then s!"INFO: Found {minor} minor security concerns"
  else "PASS: No security issues detected"

def securityReport (ts : List Threat) : Value :=
  .object
    [("score", securityScore ts), ("issues", .list (ts.map Threat.value)),
     ("counts", .object
       [("critical", countOf .critical ts), ("important", countOf .important ts),
         ("minor", countOf .minor ts)]),
     ("summary", securitySummary ts)]

/-- Reviews the text that the first argument names.  The exit code tells the gravest issue. -/
def securityCommand (argv : List String) : Tool Unit := do
  match argv with
  | [] =>
    complain "Usage: check-security.py <file-or-text>"
    complain "       echo 'code' | check-security.py -"
    exit 1
  | a :: _ =>
    let ts := threats (← subjectOf a)
    sayJson (securityReport ts)
    if 0 < countOf .critical ts then exit 2
    else if 0 < countOf .important ts then exit 1

end Workbench.Review
