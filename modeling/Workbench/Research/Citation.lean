import Workbench.Markdown.Fence
import Workbench.Research.Assessment

/-!
# Citations

What a finding cites: places in files, pages of the web by number, blocks of code with their source,
and packages.
-/

namespace Workbench.Research

open Options Pattern Tool Text

/-- A cited page. -/
structure WebCitation where
  number : Int
  url : String
  description : String
  domain : String
deriving DecidableEq, Repr

/-- A block of code with its source. -/
structure CodeCitation where
  language : String
  lines : Nat
  source : Option String
deriving DecidableEq, Repr

/-- A cited package. -/
structure PackageCitation where
  name : String
  version : String
deriving DecidableEq, Repr

/-- All that a text cites. -/
structure Citations where
  files : List Reference
  web : List WebCitation
  blocks : List CodeCitation
  packages : List PackageCitation

/-! ### Web -/

def isHexGroup (s : Chars) : Bool :=
  !s.isEmpty && s.length ≤ 4 && s.all fun c => (Json.hexValue? c).isSome

def isOctet (s : Chars) : Bool :=
  !s.isEmpty && s.all isAsciiDigit && s.length ≤ 3 && (s.length == 1 || s.head? != some '0')
    && Decimal.natOf s ≤ 255

def isDottedAddress (s : Chars) : Bool :=
  let parts := splitWhere (· == '.') s
  parts.length == 4 && parts.all isOctet

def addressGroups? (s : Chars) : Option (List Chars) :=
  let groups := splitWhere (· == ':') s
  match groups.getLast? with
  | some last =>
    if !last.contains '.' then some groups
    else if isDottedAddress last then some (groups.dropLast ++ [['0'], ['0']])
    else none
  | none => none

/-- Whether a text is an address of eight hexadecimal groups, of which one run may be left out. -/
def isGroupAddress (s : Chars) : Bool :=
  match addressGroups? s with
  | none => false
  | some groups =>
    let count := groups.length
    let gaps := (List.range count).filter fun i => 0 < i && i + 1 < count && groups[i]? == some []
    if count < 3 || 9 < count || (splitWhere (· == ':') s).length < 3 then false
    else match gaps with
      | [] => count == 8 && groups.all isHexGroup
      | [i] =>
        let high := if groups.head? == some [] then groups.take i |>.drop 1 else groups.take i
        let low :=
          if groups.getLast? == some [] then (groups.drop (i + 1)).dropLast else groups.drop (i + 1)
        let headFits := groups.head? != some [] || high.isEmpty
        let lastFits := groups.getLast? != some [] || low.isEmpty
        headFits && lastFits && high.length + low.length < 8 && high.all isHexGroup &&
          low.all isHexGroup
      | _ => false

def isZonedAddress (s : Chars) : Bool :=
  match s.dropWhile (· != '%') with
  | [] => isGroupAddress s
  | _ :: zone =>
    !s.contains '/' && !zone.isEmpty && !zone.contains '%' &&
      isGroupAddress (s.takeWhile (· != '%'))

def lookalikes : Chars :=
  ['\u2047', '\u2048', '\u2049', '\u2100', '\u2101', '\u2105', '\u2106', '\u2A74', '\uFE13',
   '\uFE16', '\uFE55', '\uFE56', '\uFE5F', '\uFE6B', '\uFF03', '\uFF0F', '\uFF1A',
   '\uFF1F', '\uFF20']

def checkHost (host : Chars) : Result Unit :=
  match host with
  | 'v' :: rest =>
    let version := rest.takeWhile fun c => (Json.hexValue? c).isSome
    match rest.drop version.length with
    | '.' :: _ :: _ =>
      if version.isEmpty then .error (.invalid "IPvFuture address is invalid") else .ok ()
    | _ => .error (.invalid "IPvFuture address is invalid")
  | _ =>
    if isDottedAddress host then .error (.invalid "An IPv4 address cannot be in brackets")
    else if isZonedAddress host then .ok ()
    else .error (.invalid
      s!"{quoted (String.ofList host)} does not appear to be an IPv4 or IPv6 address")

def domainOf (url : String) : Result String := do
  let rest := (url.toList.dropWhile (· != ':')).drop 3
  let host := rest.takeWhile fun c => c != '/' && c != '?' && c != '#'
  if host.contains '[' != host.contains ']' then throw (.invalid "Invalid IPv6 URL")
  if host.contains '[' then
    checkHost (((host.dropWhile (· != '[')).drop 1).takeWhile (· != ']'))
  if host.any lookalikes.contains then
    throw (.invalid
      s!"netloc {String.ofList host} contains invalid characters under NFKC normalization")
  return .ofList host

def descriptionOf (number text : String) : String :=
  let pattern := ofString s!"\\[{number}\\]\\s*([^-\\n]+?)(?:\\s*-\\s*https?://|$)"
  match pattern.search text with
  | some m => trim (m.group 1)
  | none => ""

/-- The pages of the web that a text cites, in the order of their first use. -/
def webCitations (text : String) : Result (List WebCitation) := do
  let markers := ((ofString "\\[(\\d+)\\]").all text).map (·.group 1)
  let urls := ((ofString "\\[(\\d+)\\]\\s*(?:.*?-\\s*)?(https?://[^\\s\\)]+)"
    { multiline := true }).all text).map fun m => (m.group 1, m.group 2)
  let known ← urls.mapM fun (n, url) => do
    return (n, ({ number := (← wholeOf n), url, description := descriptionOf n text
                  domain := (← domainOf url) } : WebCitation))
  return (dedup markers).filterMap fun m => known.reverse.lookup m

/-! ### Code and packages -/

/-- The source that a text names: the first reference after the word, as it is written between the
backticks. -/
def sourceFrom : (fuel : Nat) → Chars → Option String
  | 0, _ => none
  | _, [] => none
  | fuel + 1, c :: s =>
    match dropFront? "Source:".toList (c :: s) with
    | some rest =>
      match rest.dropWhile isBlank with
      | '\x60' :: inside =>
        match openReference? inside with
        | some (r, _) => some s!"{r.pathText}:{r.linesText}"
        | none => sourceFrom fuel s
      | _ => sourceFrom fuel s
    | none => sourceFrom fuel s

def sourceReach : Nat := 300

def blockSource (text : String) (b : Markdown.Block) : Option String := do
  let written := Markdown.fence ++ b.label ++ '\n' :: b.code ++ Markdown.fence
  let start ← findFrom written 0 text.toList
  let near := (text.toList.drop start).take sourceReach
  sourceFrom (near.length + 1) near

def codeCitations (text : String) : List CodeCitation :=
  (Markdown.blocks text).map fun b =>
    { language := if b.label.isEmpty then "unknown" else .ofList b.label
      lines := (split (trim (.ofList b.code)) "\n").length
      source := blockSource text b }

def packageCitations (text : String) : List PackageCitation :=
  ((ofString "[-*]\\s*\\*\\*([^*]+)\\*\\*\\s*\\(v?([\\d.]+)\\)").all text).map fun m =>
    ⟨trim (m.group 1), m.group 2⟩

def citations (text : String) : Result Citations := do
  return { files := references text, web := (← webCitations text), blocks := codeCitations text
           packages := packageCitations text }

/-! ### Values -/

def Reference.value (r : Reference) : Value :=
  .object [("type", "file"), ("path", r.pathText), ("lines", r.linesText), ("reference", r.text)]

def WebCitation.value (c : WebCitation) : Value :=
  .object [("type", "web"), ("number", c.number), ("url", c.url), ("description", c.description),
    ("domain", c.domain)]

def CodeCitation.value (c : CodeCitation) : Value :=
  .object [("type", "code_block"), ("language", c.language), ("lines", c.lines),
    ("source", Value.ofOption .str c.source)]

def PackageCitation.value (c : PackageCitation) : Value :=
  .object [("type", "package"), ("name", c.name), ("version", c.version)]

def Citations.value (c : Citations) : Value :=
  .object
    [("files", .list (c.files.map Reference.value)), ("web", .list (c.web.map WebCitation.value)),
     ("code_blocks", .list (c.blocks.map CodeCitation.value)),
     ("packages", .list (c.packages.map PackageCitation.value))]

/-! ### Quality -/

def Citations.total (c : Citations) : Nat :=
  c.files.length + c.web.length + c.blocks.length + c.packages.length

def Citations.sourced (c : Citations) : Nat :=
  (c.blocks.filter fun b => b.source.any (· != "")).length

def Citations.domains (c : Citations) : Nat := (dedup (c.web.map WebCitation.domain)).length

def Citations.score (c : Citations) : Float :=
  let five := fun (n : Nat) => Float.ofNat (min (n * 5) 25)
  let sourced := if c.blocks.isEmpty then 0.0
    else Float.ofNat c.sourced / Float.ofNat c.blocks.length * 25.0
  (five c.files.length + five c.web.length + sourced + five c.domains) / 100.0 * 100.0

def Citations.qualityValue (c : Citations) : Value :=
  .object
    [("total_citations", c.total), ("file_citations", c.files.length),
      ("web_citations", c.web.length),
     ("code_blocks", c.blocks.length), ("packages", c.packages.length),
     ("has_references_section", decide (0 < c.web.length)), ("code_blocks_with_sources", c.sourced),
     ("unique_domains", c.domains), ("quality_score", .float c.score)]

/-- The references that hold, and those that do not. -/
structure Existence where
  valid : List Reference
  invalid : List Reference

def Citations.lookUp (c : Citations) (dir : Path) : Tool Existence := do
  let found ← c.files.mapM fun r => do return (r, ← pathExists (dir / r.pathText).toString)
  return ⟨(found.filter (·.2)).map (·.1), (found.filter fun f => !f.2).map (·.1)⟩

def Existence.value (e : Existence) : Value :=
  .object
    [("valid_files", .list (e.valid.map Reference.value)),
      ("invalid_files", .list (e.invalid.map Reference.value)),
     ("web_status", .list [])]

def reportSection (title : String) (count : Nat) (rows : List String) : List String :=
  if count == 0 then [] else s!"{title} ({count}):" :: rows ++ [""]

def Citations.lines (c : Citations) (existence : Option Existence) : List String :=
  let shorten := fun (s : String) => if 50 < s.length then s!"{take s 50}..." else s
  [s!"\n{pageRule}", "Citation Analysis Report", s!"{pageRule}\n", s!"Total Citations: {c.total}",
   s!"Quality Score: {Decimal.fixed c.score 1}/100\n"]
  ++ reportSection "File References" c.files.length
      ((c.files.take 10).map (fun r => s!"  • {r.text}")
        ++ (if 10 < c.files.length then [s!"  ... and {c.files.length - 10} more"] else []))
  ++ reportSection "Web Citations" c.web.length
      (c.web.flatMap fun w => [s!"  [{w.number}] {shorten w.description}", s!"      {w.url}"])
  ++ reportSection "Code Examples" c.blocks.length
      (c.blocks.map fun b =>
        s!"  • {b.language} ({b.lines} lines) - Source: " ++ b.source.getD "None")
  ++ reportSection "Dependencies" c.packages.length
      (c.packages.map fun p => s!"  • {p.name} (v{p.version})")
  ++ ["Citation Quality Metrics:", s!"  • File citations: {c.files.length}",
      s!"  • Web citations: {c.web.length}",
      s!"  • Code blocks with sources: {c.sourced}/{c.blocks.length}",
      s!"  • Unique domains: {c.domains}",
      "  • References section: " ++ (if 0 < c.web.length then "Yes" else "No")]
  ++ (match existence with
    | none => []
    | some e =>
      "\nValidation:"
      :: (if e.valid.isEmpty then [] else [s!"  ✓ Valid file references: {e.valid.length}"])
      ++ (if e.invalid.isEmpty then []
          else s!"  ✗ Invalid file references: {e.invalid.length}"
            :: (e.invalid.take 5).map fun r => s!"      • {r.pathText} (not found)"))
  ++ [s!"\n{pageRule}\n"]

def citationForm : Options.Form where
  operands := [{ dest := "research_file" }]
  switches :=
    [{ valued "format" ["--format"] with choices := ["text", "json"], default := .str "text" },
     flagged "validate" ["--validate"],
     { valued "codebase_dir" ["--codebase-dir"] with default := .str "." }]

/-- Reports on the citations in a file.  The exit code tells whether they are good enough. -/
def citationCommand (argv : List String) : Tool Unit := do
  let a ← settle (citationForm.read argv)
  let c ← citations (← examined (Path.ofString (a.text "research_file")))
  let existence ← if a.flag "validate" then
      some <$> c.lookUp (← resolve (Path.ofString (a.text "codebase_dir")))
    else pure none
  if a.text "format" == "json" then
    sayJson (.object
      [("citations", c.value), ("quality", c.qualityValue),
        ("validation", Value.ofOption Existence.value existence)])
  else sayAll (c.lines existence)
  if c.total == 0 then
    say "⚠️  Warning: No citations found in document"
    exit 1
  else if c.score < 50.0 then
    say "⚠️  Warning: Low citation quality score"
    exit 1
  else
    say "✅ Citations look good!"
    exit 0

end Workbench.Research
