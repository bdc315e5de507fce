import Workbench.Options.Basic
import Workbench.Research.Entry
import Workbench.Yaml.Printer

/-!
# The cache of findings

Findings are kept as entries in one directory for each category.  An entry expires thirty days after
it was added.
-/

namespace Workbench.Research.Cache

open Options Tool

def categories : List String := ["investigations", "best-practices", "patterns", "comparisons"]

def lifetime : Int := 30

def cacheDir : Tool Path := beside ".research-cache"

def expiry (e : Entry) : Result (Option Calendar.DateTime) := e.time "expiry"

def isExpired (e : Entry) (now : Calendar.DateTime) : Result Bool := do
  match ← expiry e with
  | some t => isBefore t now
  | none => return false

def relatedFiles (e : Entry) : Result Value := e.metadata.fieldOr "related_files" (.list [])

def list (category : Option String) (showExpired : Bool) : Tool (List Entry) := do
  let dir ← cacheDir
  let now ← now
  let keep : Entry → Tool Bool := fun e => if showExpired then pure true else do
    return !(← isExpired e now)
  let searched := match category with
    | some c => [c]
    | none => categories
  let found ← searched.mapM fun c => do
    let folder := dir / c
    if ← pathExists folder.toString then loadAll "Cache" keep (← glob folder ["*.md"])
    else return []
  newestFirst found.flatten

def search (query : String) : Tool (List Entry) := do
  (← list none true).filterM fun e => e.matchesQuery query

def find? (id : String) : Tool (Option Entry) := do
  let dir ← cacheDir
  let rec go : List String → Tool (Option Entry)
    | [] => return none
    | c :: cs => do
      let file := dir / c / (id ++ ".md")
      if ← pathExists file.toString then some <$> Entry.load "Cache" file else go cs
  go categories

/-- What is added: where it belongs, what it is about, and where its text comes from. -/
structure Addition where
  category : String
  topic : String
  source : Path
  tags : List String := []
  related : List String := []
  hash : String := ""

def Addition.metadata (a : Addition) (day expiry : Calendar.Date) : Value :=
  .object
    ([("research_type", Value.str (Text.trimEndSet a.category "s")), ("topic", .str a.topic),
      ("date", .str day.plain), ("expiry", .str expiry.plain), ("tags", .strings a.tags),
      ("related_files", .strings a.related)]
     ++ (if a.hash == "" then [] else [("codebase_hash", .str a.hash)]))

def add (a : Addition) : Tool Path := do
  if !categories.contains a.category then
    throw (.invalid
      s!"Invalid category: {a.category}. Must be one of {(Value.strings categories).literal}")
  let now ← now
  if !(← pathExists a.source.toString) then
    throw (.noFile s!"Source file not found: {a.source.toString}")
  let content ← recallText a.source.toString
  match now.addDays? lifetime with
  | none => throw (.overflow "date value out of range")
  | some expiry =>
    let dir := (← cacheDir) / a.category
    makePath dir
    let file := dir / (entryName a.topic now.date ++ ".md")
    keepText file.toString
      (joinFront (Yaml.render (a.metadata now.date expiry.date)) ("\n" ++ content))
    return file

def invalidate (id : String) : Tool Bool := do
  match ← find? id with
  | some e =>
    removeFile e.file.toString
    return true
  | none => return false

/-- Deletes all entries, or the expired ones, of a category or of all; gives their number. -/
def clear (all expiredOnly : Bool) (category : Option String) : Tool Nat := do
  let now ← now
  let gone ← (← list category true).filterM fun e => do
    let delete ← if all then pure true else if expiredOnly then isExpired e now else pure false
    if delete then removeFile e.file.toString
    return delete
  return gone.length

/-- The numbers of a cache. -/
structure Stats where
  total : Nat
  expired : Nat := 0
  active : Nat := 0
  byCategory : List (Value × Nat) := []
  byMonth : List (Value × Nat) := []
  tags : List (Value × Nat) := []

def Stats.add (now : Calendar.DateTime) (s : Stats) (e : Entry) : Result Stats := do
  let byCategory := countUp e.folder s.byCategory
  let expired ← isExpired e now
  let date ← e.date
  let tags ← countParts (← e.tags) s.tags
  return { s with
    byCategory, tags
    expired := s.expired + (if expired then 1 else 0)
    active := s.active + (if expired then 0 else 1)
    byMonth := match date with
      | some d => countUp d.date.yearMonth s.byMonth
      | none => s.byMonth }

def stats : Tool Stats := do
  let es ← list none true
  let now ← now
  es.foldlM (fun s e => s.add now e) { total := es.length }

def saySummary (detailed : Bool) (e : Entry) : Tool Unit := do
  let status := if ← isExpired e (← now) then "⏰ EXPIRED" else "✓"
  let day := dayText (← e.date)
  say s!"{status} [{e.folder}] {(← e.topic).display}"
  say s!"   ID: {e.id}"
  say s!"   Date: {day}"
  let tags ← e.tags
  if tags.truthy then say ("   Tags: " ++ (← tags.joinTexts ", "))
  if detailed then
    match ← expiry e with
    | some t => say s!"   Expiry: {t.date.plain}"
    | none => pure ()
    let related ← relatedFiles e
    if related.truthy then say s!"   Related files: {← related.size}"
    say s!"   Content: {e.content.length} chars"
  say ""

def sayEntry (e : Entry) : Tool Unit := do
  say rule
  say s!"Cache Entry: {(← e.topic).display}"
  say s!"{rule}\n"
  say s!"ID: {e.id}"
  say s!"Category: {e.folder}"
  say s!"Date: {dayText (← e.date)}"
  say ("Expired: " ++ (if ← isExpired e (← now) then "Yes" else "No"))
  match ← expiry e with
  | some t => say s!"Expiry: {t.date.plain}"
  | none => pure ()
  let tags ← e.tags
  if tags.truthy then say ("Tags: " ++ (← tags.joinTexts ", "))
  let related ← relatedFiles e
  if related.truthy then say ("Related files: " ++ (← related.joinTexts ", "))
  sayAll [s!"\n{rule}", "Content:", s!"{rule}\n", e.content]

def Stats.lines (s : Stats) : List String :=
  let section_ := fun (title : String) (rows : List (Value × Nat)) =>
    if rows.isEmpty then [] else title :: rows.map (fun (k, n) => s!"  {k.display}: {n}") ++ [""]
  [s!"\n{rule}", "Research Cache Statistics", s!"{rule}\n", s!"Total entries: {s.total}",
   s!"  Active: {s.active}", s!"  Expired: {s.expired}\n"]
  ++ section_ "By Category:" s.byCategory
  ++ section_ "Top Tags:" ((mostCommon 10 s.tags).take 5)
  ++ (if s.byMonth.isEmpty then []
      else
        "Recent Activity:" :: (latestMonths 3 s.byMonth).map fun (k, n) =>
          s!"  {k.display}: {n} entries")
  ++ [s!"\n{rule}\n"]

def forms : Options.Commands where
  forms :=
    [("list", { operands := [{ dest := "category", arity := .optional, choices := categories }]
                switches := [flagged "hide_expired" ["--hide-expired"],
                             flagged "verbose" ["-v", "--verbose"]] }),
     ("search",
      { operands := [{ dest := "query" }], switches := [flagged "verbose" ["-v", "--verbose"]] }),
     ("show", { operands := [{ dest := "cache_id" }] }),
     ("add",
      { operands :=
          [{ dest := "category", choices := categories }, { dest := "topic" }, { dest := "file" }]
        switches := [valued "tags" ["--tags"], valued "related_files" ["--related-files"],
          valued "codebase_hash" ["--codebase-hash"]] }),
     ("invalidate", { operands := [{ dest := "cache_id" }] }),
     ("clear", { switches := [flagged "all" ["--all"], flagged "expired" ["--expired"],
                              { valued "category" ["--category"] with choices := categories }]
                 exclusive := ["all", "expired", "category"] }),
     ("stats", {})]

def commaList (s : String) : List String := if s == "" then [] else Text.split s ","

def sayFound (heading : String) (detailed : Bool) (es : List Entry) : Tool Unit := do
  say s!"Found {es.length}{heading}\n"
  es.forM (saySummary detailed)

def clearCommand (a : Options.Args) : Tool Unit := do
  let said := fun (n : Nat) => say s!"✓ Cleared {n} cache entries"
  if a.flag "all" then
    let answer ← ask "Clear ALL cache entries? [y/N]: "
    if Text.lower answer != "y" then say "Aborted."
    else said (← clear true false none)
  else if a.flag "expired" then said (← clear false true none)
  else if a.flag "category" then said (← clear false false (a.text? "category"))
  else
    say "Specify --all, --expired, or --category"
    exit 1

def command (argv : List String) : Tool Unit := do
  let a ← settle (forms.read argv)
  match a.command? with
  | some "list" =>
    let es ← list (a.text? "category") (!a.flag "hide_expired")
    if es.isEmpty then say "No cache entries found."
    else sayFound " cache entries:" (a.flag "verbose") es
  | some "search" =>
    let es ← search (a.text "query")
    if es.isEmpty then say ("No cache entries found matching '" ++ a.text "query" ++ "'")
    else sayFound " matching entries:" (a.flag "verbose") es
  | some "show" =>
    match ← find? (a.text "cache_id") with
    | none =>
      say ("Cache entry not found: " ++ a.text "cache_id")
      exit 1
    | some e => sayEntry e
  | some "add" =>
    let file ← add
      { category := a.text "category", topic := a.text "topic",
        source := Path.ofString (a.text "file")
        tags := commaList (a.text "tags"), related := commaList (a.text "related_files")
        hash := a.text "codebase_hash" }
    sayAll [s!"✓ Cache entry created: {file.stem}", "  Category: " ++ a.text "category",
      s!"  File: {file.toString}"]
  | some "invalidate" =>
    if ← invalidate (a.text "cache_id") then
      say ("✓ Cache entry invalidated: " ++ a.text "cache_id")
    else
      say ("✗ Cache entry not found: " ++ a.text "cache_id")
      exit 1
  | some "clear" => clearCommand a
  | some "stats" => sayAll (← stats).lines
  | _ =>
    sayHelp
    exit 1

end Workbench.Research.Cache
