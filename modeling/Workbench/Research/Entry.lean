import Workbench.Value.Access
import Workbench.World.Memory
import Workbench.Yaml.Document

/-!
# Entries of a store

An entry is a file with front matter between two lines of dashes.
-/

namespace Workbench.Research

open Tool

/-- A file with its metadata. -/
structure Entry where
  file : Path
  metadata : Value
  content : String

def dashes : String := "---\n"

def splitFront? (text : String) : Option (String × String) :=
  if Text.startsWith text dashes then
    match Text.splitAtMost text dashes 2 with
    | [_, front, rest] => some (front, rest)
    | _ => none
  else none

def joinFront (front rest : String) : String := dashes ++ front ++ dashes ++ rest

def isBadFront : Fault → Bool
  | .yaml _ _ => true
  | _ => false

namespace Entry

def load (what : String) (file : Path) : Tool Entry := do
  if !(← pathExists file.toString) then throw (.noFile s!"{what} file not found: {file.toString}")
  let text ← recallText file.toString
  match splitFront? text with
  | none => return ⟨file, .map [], text⟩
  | some (front, rest) =>
    match ← recallDocument Yaml.parse front with
    | .ok v => return ⟨file, v, Text.trim rest⟩
    | .error e =>
      if isBadFront e then
        say s!"Warning: Could not parse YAML frontmatter: {e.message}"
        return ⟨file, .map [], text⟩
      else throw e

def id (e : Entry) : String := e.file.stem

def folder (e : Entry) : String := e.file.parent.name

def topic (e : Entry) : Result Value :=
  e.metadata.fieldOr "topic" (.str (Text.replace e.id "-" " "))

def time (e : Entry) (key : String) : Result (Option Calendar.DateTime) := do
  let v ← e.metadata.fieldOrNull key
  if !v.truthy then return none
  return (Calendar.DateTime.ofIso v.display).toOption

def date (e : Entry) : Result (Option Calendar.DateTime) := e.time "date"

def tags (e : Entry) : Result Value := e.metadata.fieldOr "tags" (.list [])

def matchesQuery (e : Entry) (query : String) : Result Bool := do
  let query := Text.lower query
  let contains := fun (v : Value) => do
    return Text.contains (Text.lower (← v.textFor "lower")) query
  if ← contains (← e.topic) then return true
  if ← Value.anyM contains (← (← e.tags).parts) then return true
  return Text.contains (Text.lower e.content) query

end Entry

def firstMoment : Calendar.DateTime :=
  { date := ⟨1, 1, 1⟩, hour := 0, minute := 0, second := 0, micro := 0 }

def mixedTimes : Fault := .kind "can't compare offset-naive and offset-aware datetimes"

def isBefore (a b : Calendar.DateTime) : Result Bool :=
  if a.offset.isSome == b.offset.isSome then .ok (a.instant < b.instant) else .error mixedTimes

def newestFirst (es : List Entry) : Result (List Entry) := do
  let keyed ← es.mapM fun e => do return ((← e.date).getD firstMoment, e)
  if keyed.any (fun k => k.1.offset.isSome) && keyed.any (fun k => k.1.offset.isNone) then
    throw mixedTimes
  return (keyed.mergeSort fun a b => b.1.instant ≤ a.1.instant).map (·.2)

/-- Reads the entries in some files.  A file that cannot be read, or that `keep` fails on, is
reported and left out. -/
def loadAll (what : String) (keep : Entry → Tool Bool) (files : List Path) : Tool (List Entry) := do
  let found ← files.mapM fun file =>
    guarded
      (do
        let e ← Entry.load what file
        if ← keep e then return some e else return none)
      (fun f => !f.isExit)
      fun f => do
        complain s!"Warning: Could not load {file.toString}: {f.message}"
        return none
  return found.filterMap fun e => e

def entryName (topic : String) (day : Calendar.Date) : String :=
  let kept := (Text.lower topic).toList.map fun c =>
    if ('a' ≤ c && c ≤ 'z') || ('0' ≤ c && c ≤ '9') then c else '-'
  let words := (Text.splitWhere (· == '-') kept).filter fun w => !w.isEmpty
  Text.join "-" (words.map .ofList) ++ "-" ++ day.plain

def dayText (d : Option Calendar.DateTime) : String :=
  match d with
  | some t => t.date.plain
  | none => "Unknown"

def rule : String := Text.times "=" 60

def countUp (k : Value) (counts : List (Value × Nat)) : List (Value × Nat) :=
  if counts.any fun c => c.1.same k then counts.map fun c => if c.1.same k then (c.1, c.2 + 1)
  else c
  else counts ++ [(k, 1)]

def mostCommon (n : Nat) (counts : List (Value × Nat)) : List (Value × Nat) :=
  (counts.mergeSort fun a b => b.2 ≤ a.2).take n

def latestMonths (n : Nat) (counts : List (Value × Nat)) : List (Value × Nat) :=
  (counts.mergeSort fun a b => Text.le b.1.display a.1.display).take n

def countParts (v : Value) (counts : List (Value × Nat)) : Result (List (Value × Nat)) := do
  (← v.parts).foldlM (fun acc x => if x.isKey then .ok (countUp x acc)
    else .error x.unhashable) counts

end Workbench.Research
