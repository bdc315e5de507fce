import Workbench.Options.Basic
import Workbench.Pattern.Reader
import Workbench.Research.Entry
import Workbench.Template.Basic
import Workbench.Yaml.Printer

/-!
# The log of learnings

Learnings are kept as entries in one directory for each month, next to an index of all entries and a
table of their tags.
-/

namespace Workbench.Research.Learning

open Options Tool Text

def logDir : Tool Path := beside ".learning-log"

def confidence (e : Entry) : Result Value := e.metadata.fieldOr "confidence" "medium"

def applied (e : Entry) : Result Value := e.metadata.fieldOr "applied" false

def source (e : Entry) : Result Value := e.metadata.fieldOr "source" "manual"

def reviewed (e : Entry) : Result Value := e.metadata.fieldOr "reviewed_count" (.int 0)

def insightPattern : Pattern.Node :=
  Pattern.ofString "##\\s*Key Insight\\s*\\n(.+?)(?=\\n##)" { dotAll := true }

def keyInsight (e : Entry) : String :=
  match insightPattern.search e.content with
  | some m => take (trim (m.group 1)) 200
  | none => ""

def monthDirs : Tool (List Path) := do (← glob (← logDir) ["*-*"]).filterM fun p => isDir p.toString

def limited {α : Type} (n : Option Int) (xs : List α) : List α :=
  match n with
  | none => xs
  | some n =>
    if n == 0 then xs else if 0 < n then xs.take n.toNat else xs.take (xs.length - n.natAbs)

def list (tag : Option String) (recent : Option Int) : Tool (List Entry) := do
  let keep := fun (e : Entry) => match tag with
    | some t => if t == "" then pure true else do return ← (← e.tags).hasText t
    | none => pure true
  let found ← (← monthDirs).reverse.mapM fun dir => do loadAll "Learning" keep (← glob dir ["*.md"])
  return limited recent (← newestFirst found.flatten)

def search (query : String) : Tool (List Entry) := do
  (← list none none).filterM fun e => e.matchesQuery query

def find? (id : String) : Tool (Option Entry) := do
  let rec go : List Path → Tool (Option Entry)
    | [] => return none
    | dir :: dirs => do
      let file := dir / (id ++ ".md")
      if ← pathExists file.toString then some <$> Entry.load "Learning" file else go dirs
  go (← monthDirs)

/-! ### The index -/

def indexRecord (e : Entry) : Result Value := do
  return .object
    [("id", e.id), ("topic", (← e.topic)),
      ("date", Value.ofOption (fun t => .str t.iso) (← e.date)),
     ("tags", (← e.tags)), ("confidence", (← confidence e)), ("applied", (← applied e)),
     ("source", (← source e))]

/-- What the table knows about a tag: the learnings that have it, once for each time, and the tags
beside it. -/
structure TagRecord where
  tag : Value
  learnings : List String := []
  related : List Value := []

def addTag (id : String) (all : List Value) (table : List TagRecord) (tag : Value) :
    Result (List TagRecord) := do
  if !tag.isKey then throw tag.unhashable
  let others := all.filter fun t => !t.same tag
  match others.find? fun t => !t.isKey with
  | some t => throw t.unhashable
  | none => pure ()
  let extend := fun (r : TagRecord) =>
    { r with
      learnings := r.learnings ++ [id]
      related :=
        others.foldl (fun acc t => if acc.any (·.same t) then acc else acc ++ [t]) r.related }
  if table.any (·.tag.same tag) then return table.map fun r => if r.tag.same tag then extend r
  else r
  return table ++ [extend { tag }]

def tagTable (es : List Entry) : Result (List TagRecord) :=
  es.foldlM (fun table e => do
    let tags ← (← e.tags).parts
    tags.foldlM (addTag e.id tags) table) []

def tableValue (table : List TagRecord) : Value :=
  .map (table.map fun r => (r.tag, .object
    [("count", r.learnings.length), ("learnings", .strings r.learnings),
     ("related", .list (r.related.mergeSort fun a b => le a.display b.display))]))

def updateIndex : Tool Unit := do
  let es ← list none none
  let records ← es.mapM fun e => indexRecord e
  let dir ← logDir
  makePath dir
  keepText (dir / "index.json").toString (← renderJson .indented (.object
    [("last_updated", (← now).iso), ("total_learnings", es.length), ("learnings", .list records)]))
  keepText (dir / "tags.json").toString (← renderJson .indented (tableValue (← tagTable es)))

/-! ### Changes -/

def builtInTemplate : String :=
  join "\n"
    ["---", "date: \x7bdate\x7d", "topic: \x7btopic\x7d", "source: \x7bsource\x7d",
     "tags: \x7btags\x7d", "confidence: \x7bconfidence\x7d", "applied: false", "reviewed_count: 0",
     "last_reviewed: null", "---", "",
     "# What I Learned", "", "## Key Insight", "[Your key insight here]", "", "## Why It Matters",
     "[Why this is important]", "", "## How to Apply", "[Practical application]", "",
     "## Related Learnings", "[Related topics]", "", "## Questions to Explore",
     "[Follow-up questions]", "", "## Status Checklist",
     "- [ ] Understood concept", "- [ ] Applied in code", "- [ ] Reviewed and retained", ""]

/-- What is to be added to the log. -/
structure Addition where
  topic : String
  tags : List String := []
  source : String := ""
  confidence : String := "medium"

def Addition.origin (a : Addition) : String := if a.source == "" then "manual" else a.source

def Addition.metadata (a : Addition) (day : Calendar.Date) : Value :=
  .object
    [("date", .str day.plain), ("topic", a.topic), ("source", a.origin), ("tags", .strings a.tags),
     ("confidence", a.confidence), ("applied", .bool false), ("reviewed_count", (0 : Nat)),
     ("last_reviewed", .null)]

def bodyOf (filled : String) : Result String :=
  match splitAtMost filled "---" 2 with
  | [_, _, body] => .ok body
  | [_, _] => .error (.index "list index out of range")
  | _ => .ok filled

def add (a : Addition) : Tool Path := do
  let day := (← now).date
  let dir := (← logDir) / day.yearMonth
  makePath dir
  let templateFile := (← beside "assets/learning-entry-template.md").toString
  let template ← if ← pathExists templateFile then recallText templateFile else pure builtInTemplate
  let filled ← Template.fill template
    [("date", day.plain), ("topic", a.topic), ("source", a.origin),
      ("tags", Json.text .line (.strings a.tags)),
     ("confidence", a.confidence)]
  let file := dir / (entryName a.topic day ++ ".md")
  let text := joinFront (Yaml.render (a.metadata day)) ("\n" ++ (← bodyOf filled))
  keepText file.toString text
  updateIndex
  return file

def markApplied (id : String) : Tool Bool := do
  match ← find? id with
  | none => return false
  | some e =>
    match splitFront? (← recallText e.file.toString) with
    | none => return false
    | some (front, rest) =>
      let read ← recallDocument Yaml.parse front
      let metadata ← (← read).setField "applied" true
      amendDocument front metadata
      keepText e.file.toString (joinFront (Yaml.render metadata) rest)
      return true

/-! ### Reports -/

/-- The numbers of a log. -/
structure Stats where
  total : Nat
  thisMonth : Nat := 0
  applied : Nat := 0
  sure : Nat := 0
  tags : List (Value × Nat) := []
  byMonth : List (Value × Nat) := []

def Stats.add (month : String) (s : Stats) (e : Entry) : Result Stats := do
  let date ← e.date
  let done := (← Learning.applied e).truthy
  let sureness ← confidence e
  let tags ← countParts (← e.tags) s.tags
  if !sureness.isKey then throw sureness.unhashable
  let one := fun (c : Bool) => if c then 1 else 0
  return { s with
    tags
    thisMonth := s.thisMonth + one (date.any fun d => d.date.yearMonth == month)
    applied := s.applied + one done
    sure := s.sure + one (sureness.same "high")
    byMonth := match date with
      | some d => countUp d.date.yearMonth s.byMonth
      | none => s.byMonth }

def stats : Tool Stats := do
  let es ← list none none
  let month := (← now).date.yearMonth
  es.foldlM (fun s e => s.add month e) { total := es.length }

def bar (n : Nat) : String := take (times "█" n ++ times "░" (20 - min n 20)) 20

def Stats.lines (s : Stats) : List String :=
  let percent := fun (n : Nat) => Decimal.fixed (Float.ofNat n / Float.ofNat s.total * 100.0) 0
  let share := fun (title short : String) (n : Nat) =>
    if 0 < s.total then s!"  {title}: {n} ({percent n}%)" else s!"  {short}: 0"
  [s!"\n{rule}", "Learning Log Statistics", s!"{rule}\n", s!"Total learnings: {s.total}",
   s!"  This month: {s.thisMonth}", share "Applied in code" "Applied" s.applied,
   share "High confidence" "High confidence" s.sure ++ "\n"]
  ++ (if s.tags.isEmpty then []
      else
        "Top Topics:" :: (mostCommon 5 s.tags).map
          (fun (k, n) => s!"  {k.display}: {n} learnings") ++ [""])
  ++ (if s.byMonth.isEmpty then []
      else "Learning Velocity (last 6 months):" :: (latestMonths 6 s.byMonth).map fun (k, n) =>
        s!"  {k.display}: {bar n} {n} learnings")
  ++ [s!"\n{rule}\n"]

def confidenceSign (v : Value) : Result String :=
  if !v.isKey then .error v.unhashable
  else .ok (match v with
    | .str "high" => "●"
    | .str "medium" => "◐"
    | _ => "○")

def saySummary (detailed : Bool) (e : Entry) : Tool Unit := do
  let status := if (← applied e).truthy then "✓ Applied" else "○ Not Applied"
  let sign ← confidenceSign (← confidence e)
  let day := dayText (← e.date)
  say s!"{status} {sign} [{day}] {(← e.topic).display}"
  say s!"   ID: {e.id}"
  let tags ← e.tags
  if tags.truthy then say ("   Tags: " ++ (← tags.joinTexts ", "))
  if detailed then
    let insight := keyInsight e
    if insight != "" then say s!"   Insight: {take insight 100}..."
    say s!"   Source: {(← source e).display}"
    say s!"   Confidence: {(← confidence e).display}"
    say s!"   Reviewed: {(← reviewed e).display} times"
  say ""

def sayEntry (e : Entry) : Tool Unit := do
  say rule
  say s!"Learning: {(← e.topic).display}"
  say s!"{rule}\n"
  say s!"ID: {e.id}"
  say s!"Date: {dayText (← e.date)}"
  say ("Applied: " ++ (if (← applied e).truthy then "Yes" else "No"))
  say s!"Confidence: {(← confidence e).display}"
  let tags ← e.tags
  if tags.truthy then say ("Tags: " ++ (← tags.joinTexts ", "))
  say s!"Source: {(← source e).display}"
  say s!"Reviewed: {(← reviewed e).display} times"
  sayAll [s!"\n{rule}", "Content:", s!"{rule}\n", e.content]

def forms : Options.Commands where
  forms :=
    [("list", { switches := [valued "tag" ["--tag"],
                             { valued "recent" ["--recent"] with kind := .whole },
                             flagged "verbose" ["-v", "--verbose"]] }),
     ("search",
      { operands := [{ dest := "query" }], switches := [flagged "verbose" ["-v", "--verbose"]] }),
     ("show", { operands := [{ dest := "learning_id" }] }),
     ("add", { operands := [{ dest := "topic" }]
               switches := [valued "tags" ["--tags"], valued "source" ["--source"],
                            { valued "confidence" ["--confidence"] with
                              choices := ["low", "medium", "high"], default := .str "medium" }] }),
     ("stats", {}),
     ("review", { switches := [flagged "unapplied" ["--unapplied"]] }),
     ("mark-applied", { operands := [{ dest := "learning_id" }] })]

def tagList (s : String) : List String := if s == "" then [] else split s ","

def sayFound (heading : String) (detailed : Bool) (es : List Entry) : Tool Unit := do
  say s!"Found {es.length}{heading}\n"
  es.forM (saySummary detailed)

def command (argv : List String) : Tool Unit := do
  let a ← settle (forms.read argv)
  match a.command? with
  | some "list" =>
    let es ← list (a.text? "tag") (a.whole? "recent")
    if es.isEmpty then say "No learning entries found."
    else sayFound " learning entries:" (a.flag "verbose") es
  | some "search" =>
    let es ← search (a.text "query")
    if es.isEmpty then say ("No learnings found matching '" ++ a.text "query" ++ "'")
    else sayFound " matching learnings:" (a.flag "verbose") es
  | some "show" =>
    match ← find? (a.text "learning_id") with
    | none =>
      say ("Learning not found: " ++ a.text "learning_id")
      exit 1
    | some e => sayEntry e
  | some "add" =>
    let file ← add
      { topic := a.text "topic", tags := tagList (a.text "tags"), source := a.text "source"
        confidence := a.text "confidence" }
    sayAll [s!"✓ Learning entry created: {file.stem}", s!"  File: {file.toString}",
      "\nEdit the file to add details, then mark as applied when used in code."]
  | some "stats" => sayAll (← stats).lines
  | some "review" =>
    if a.flag "unapplied" then
      let es ← (← list none none).filterM fun e => do return !(← applied e).truthy
      say s!"\n{es.length} unapplied learnings:\n"
      es.forM (saySummary true)
    else
      let es ← list none (some 10)
      say "\nRecent learnings for review:\n"
      es.forM (saySummary true)
  | some "mark-applied" =>
    if ← markApplied (a.text "learning_id") then
      say ("✓ Marked learning as applied: " ++ a.text "learning_id")
    else
      say ("✗ Learning not found: " ++ a.text "learning_id")
      exit 1
  | _ =>
    sayHelp
    exit 1

end Workbench.Research.Learning
