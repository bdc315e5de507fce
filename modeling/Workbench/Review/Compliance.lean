import Workbench.Value.Access
import Workbench.World.Memory

/-!
# Whether advice is followed

Advice given at the start of a session is kept in a file until the session is checked.
-/

namespace Workbench.Review.Compliance

open Decimal Tool Value

def logDir : Tool Path := do return (← home) / ".claude" / "self-improvement"

def databaseFile : Tool String := do return ((← logDir) / "compliance.json").toString

def adviceFile : Tool String := do return ((← logDir) / "current-session-advice.json").toString

def emptyDatabase : Value :=
  .object
    [("sessions", .list []),
     ("aggregate", .object
       [("total_advice_given", (0 : Nat)), ("total_advice_followed", (0 : Nat)),
         ("by_pattern", .object [])])]

def ensureDatabase : Tool Unit := do
  makePath (← logDir)
  let file ← databaseFile
  if !(← pathExists file) then keepText file (← renderJson .indented emptyDatabase)

def readDatabase (file : String) : Tool Value := do parseJson (← recallText file)

def record (session : String) (advice : Value) : Tool Value := do
  ensureDatabase
  let data : Value := .object
    [("session_id", session), ("timestamp", (← now).iso), ("advice_given", advice),
      ("status", "active")]
  keepText (← adviceFile) (← renderJson .indented data)
  return .object [("status", "recorded"), ("advice_count", (← advice.size)), ("patterns", advice)]

/-- The outcome of a check: advice that was given, and the parts of it that were followed and
ignored. -/
structure Outcome where
  given : List Value
  followed : List Value
  ignored : List Value

def Outcome.of (given found : List Value) : Outcome :=
  ⟨given, given.filter fun p => !found.any (·.same p), given.filter fun p => found.any (·.same p)⟩

def Outcome.rate (o : Outcome) : Float :=
  if o.given.isEmpty then 1.0 else quotient o.followed.length o.given.length

def Outcome.value (o : Outcome) (session time : String) : Value :=
  .object
    [("session_id", session), ("timestamp", time), ("advice_given", .list o.given),
     ("advice_followed", .list o.followed), ("advice_ignored", .list o.ignored),
     ("compliance_rate", .float (roundTo o.rate 2)), ("status", "checked")]

def increment (v : Value) (k : String) : Result Value := do
  v.setField k (← (← v.field k).add (.int 1))

def setKey (v k x : Value) : Result Value :=
  match v with
  | .map es => .ok (.map (put k x es))
  | other => .error (.kind s!"'{other.kindText}' object does not support item assignment")

def getKey (v k : Value) : Result Value :=
  match v with
  | .map es => match lookup k es with
    | some x => .ok x
    | none => .error (.key k)
  | other => .error (.kind s!"'{other.kindText}' object is not subscriptable")

def countPattern (o : Outcome) (patterns : Value) (p : Value) : Result Value := do
  let fresh : Value :=
    .object [("given", (0 : Nat)), ("followed", (0 : Nat)), ("ignored", (0 : Nat))]
  let patterns ← if ← patterns.has p then pure patterns else setKey patterns p fresh
  let counts ← increment (← getKey patterns p) "given"
  let kept := if o.followed.any (·.same p) then "followed" else "ignored"
  setKey patterns p (← increment counts kept)

def sessionLimit : Nat := 100

def updated (data : Value) (o : Outcome) (result : Value) : Result Value := do
  let sessions ← match ← data.field "sessions" with
    | .list xs => .ok (xs ++ [result])
    | other => .error (other.lacks "append")
  let data ← data.setField "sessions" (.list (sessions.drop (sessions.length - sessionLimit)))
  let aggregate ← data.field "aggregate"
  let aggregate ← aggregate.setField "total_advice_given"
    (← (← aggregate.field "total_advice_given").add o.given.length)
  let aggregate ← aggregate.setField "total_advice_followed"
    (← (← aggregate.field "total_advice_followed").add o.followed.length)
  if o.given.isEmpty then data.setField "aggregate" aggregate
  else
    let patterns ← o.given.foldlM (countPattern o) (← aggregate.field "by_pattern")
    data.setField "aggregate" (← aggregate.setField "by_pattern" patterns)

def check (session : String) (found : Value) : Tool Value := do
  ensureDatabase
  let file ← adviceFile
  if !(← pathExists file) then
    return .object [("status", "no_advice"), ("message", "No advice was recorded for this session")]
  let text ← recallText file
  match parseJson text with
  | .error e =>
    if e.isJson then
      return .object [("status", "error"), ("message", "Failed to read session data")] else throw e
  | .ok data =>
    let given ← (← data.fieldOr "advice_given" (.list [])).distinct
    let o := Outcome.of given (← found.distinct)
    let result := o.value session (← now).iso
    let db ← databaseFile
    let old ← guarded (readDatabase db) (fun e => e.isJson || e.isMissing) fun _ =>
      return emptyDatabase
    keepText db (← renderJson .indented (← updated old o result))
    if ← pathExists file then removeFile file
    return result

def recommendations (stats : List Value) : Result (List String) := do
  let found ← stats.mapM fun s => do
    let rate ← s.field "compliance_rate"
    let low ← rate.before (.float 0.3)
    let often3 ← if low then do pure !(← (← s.field "times_advised").before (.int 3))
      else pure false
    let percent := do
      let x ← rate.number
      pure (fixed (match rate with
        | .float y => y * 100.0
        | _ => x * 100.0) 0 ++ "%")
    if low && often3 then
      return some ("Pattern '" ++ (← s.field "pattern").display ++
        s!"' has very low compliance ({← percent}"
        ++ "). Consider: stronger enforcement, better templates, or root cause analysis.")
    let half ← rate.before (.float 0.5)
    let often5 ← if half then do pure !(← (← s.field "times_advised").before (.int 5))
      else pure false
    if half && often5 then
      return some ("Pattern '" ++ (← s.field "pattern").display ++
        s!"' is frequently ignored ({← percent}"
        ++ " compliance). Review the actionable template for clarity.")
    return none
  match found.filterMap id with
  | [] => return ["Compliance rates look healthy. Keep monitoring for trends."]
  | rs => return rs.take 3

def share (part whole : Value) : Result Value := do
  if ← before (.int 0) whole then part.divide whole else return .int 0

def total (xs : List Value) : Result Value := xs.foldlM add (.int 0)

def trend (rates : List Value) : Result String := do
  if rates.length < 5 then return "insufficient_data"
  let half := rates.length / 2
  let first ← (← (← total (rates.take half)).divide half).number
  let second ← (← (← total (rates.drop half)).divide (.int (rates.length - half))).number
  return if first + 0.1 < second then "improving" else if second < first - 0.1 then
    "declining" else "stable"

def statistics (data : Value) : Result Value := do
  let aggregate ← data.fieldOr "aggregate" (.map [])
  let given ← aggregate.fieldOr "total_advice_given" (.int 0)
  let followed ← aggregate.fieldOr "total_advice_followed" (.int 0)
  let overall ← share followed given
  let patterns ← (← (← aggregate.fieldOr "by_pattern" (.map [])).pairs).mapM fun (p, counts) => do
    let given ← counts.fieldOr "given" (.int 0)
    let followed ← counts.fieldOr "followed" (.int 0)
    let rate := (← share followed given).rounded 2
    return (rate, object
      [("pattern", p), ("times_advised", given), ("times_followed", followed),
        ("compliance_rate", rate)])
  let patterns := (← sortByKey patterns).map (·.2)
  let sessions ← match ← data.fieldOr "sessions" (.list []) with
    | .list xs => .ok (xs.drop (xs.length - 10))
    | other => do (← other.front 0).parts
  let rates ← sessions.mapM fun s => s.field "compliance_rate"
  let average ← if rates.isEmpty then pure (.int 0)
    else do (← total rates).divide (.int rates.length)
  return .object
    [("status", "ok"),
     ("overall", .object
       [("total_advice_given", given), ("total_advice_followed", followed),
        ("overall_compliance_rate", overall.rounded 2)]),
     ("recent", .object
       [("sessions_analyzed", rates.length), ("average_compliance", average.rounded 2),
         ("trend", (← trend rates))]),
     ("by_pattern", .list patterns),
     ("recommendations", .strings (← recommendations patterns))]

def stats : Tool Value := do
  ensureDatabase
  let file ← databaseFile
  let data ← guarded (some <$> readDatabase file) (fun e => e.isJson || e.isMissing) fun _ =>
    return none
  match data with
  | none => return .object [("status", "no_data"), ("message", "No compliance data yet")]
  | some data => statistics data

def readList (text : String) : Result Value :=
  match parseJson text with
  | .ok v => .ok v
  | .error e => if e.isJson then .ok (.list []) else .error e

def command (argv : List String) : Tool Unit := do
  let usage := fun (s : String) => do
    complain s!"Usage: compliance-tracker.py {s}"
    exit 1
  match argv with
  | [] => usage "<record|check|stats> [args]"
  | "record" :: session :: advice :: _ => sayJson (← record session (← readList advice))
  | "record" :: _ => usage "record <session_id> <advice_json>"
  | "check" :: session :: found :: _ => sayJson (← check session (← readList found))
  | "check" :: _ => usage "check <session_id> <patterns_found_json>"
  | "stats" :: _ => sayJson (← stats)
  | other :: _ =>
    complain s!"Unknown command: {other}"
    exit 1

end Workbench.Review.Compliance
