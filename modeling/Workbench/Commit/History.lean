import Workbench.Commit.Message
import Workbench.Pattern.Reader
import Workbench.Value.Access

/-!
# Quality of commits

Reads commits off a log and judges each: its form, its wording, its references and its size.
-/

namespace Workbench.Commit

open Tool Text Decimal Color

/-- A commit as the log tells it. -/
structure Record where
  hash : String
  subject : String
  body : String
  author : String := ""
  email : String := ""
deriving DecidableEq, Repr

def Record.value (c : Record) : Value :=
  .object [("hash", c.hash), ("subject", c.subject), ("body", c.body), ("author", c.author),
    ("email", c.email)]

def Record.ofValue (v : Value) : Result Record := do
  let subject ← v.field "subject"
  let body ← v.field "body"
  let hash ← v.field "hash"
  return { subject := ← subject.subject, body := ← body.subject, hash := ← hash.subject }

namespace History

def git (args : List String) : Tool String :=
  outputOrComplain (fun e => paint red s!"Git error: {e}") ("git" :: args)

def recordOf? (part : String) : Option Record :=
  if trim part == "" then none
  else match splitAtMost part "|" 4 with
    | hash :: subject :: rest =>
      some { hash, subject, body := rest.headD "", author := (rest.drop 1).headD "",
             email := (rest.drop 2).headD "" }
    | _ => none

def ofLog (log : String) : List Record := (split log "\n\n").filterMap recordOf?

def commits (branch : Option String) (count : Int) : Tool (List Record) := do
  let range := match branch with
    | none | some "" => s!"-{count}"
    | some b => s!"main...{b}"
  return ofLog (← git ["log", range, "--format=%H|%s|%b|%an|%ae"])

def numberBefore (word text : String) : Result Int :=
  match (Pattern.ofString s!"(\\d+) {word}").search text with
  | some m => wholeOf (m.group 1)
  | none => .ok 0

def changedLines (hash : String) : Tool (Int × Int) := do
  let stats ← git ["show", "--stat", "--format=", hash]
  return (← numberBefore "insertion" stats, ← numberBefore "deletion" stats)

/-! ### Rating -/

/-- What one check of a commit gives. -/
structure Mark where
  points : Nat := 0
  issues : List String := []
  suggestions : List String := []

def Mark.join (a b : Mark) : Mark :=
  ⟨a.points + b.points, a.issues ++ b.issues, a.suggestions ++ b.suggestions⟩

def vagueWords : List String := ["wip", "temp", "stuff", "things", "update", "fix"]

def formMark (subject : String) : Mark :=
  let issues := formatIssues subject
  if issues.isEmpty then { points := 30 } else { issues }

def wordingMark (subject : String) : Mark :=
  (if 10 < subject.length then { points := 10 }
    else { issues := ["Subject too short"] } : Mark).join
    (if containsAny (lower subject) vagueWords then
      { issues := ["Subject too vague"], suggestions := ["Be more specific about what changed"] }
    else { points := 15 })

def bodyMark (subject body : String) : Mark :=
  if 20 < body.length then { points := 20 }
  else if 50 < subject.length then { suggestions := ["Consider adding a body to explain changes"] }
  else {}

def referenceMark (subject body : String) : Mark :=
  if (Pattern.ofString "(closes?|fixes?|resolves?) #\\d+" { ignoreCase := true }).occurs body then
    { points := 15 }
  else if (Pattern.ofString "#\\d+").occurs (subject ++ body) then
    { points := 10, suggestions := ["Use 'Closes #N' syntax for automatic issue closing"] }
  else { suggestions := ["Add issue reference if applicable"] }

def sizeMark (size : Int) : Mark :=
  if size < 500 then { points := 10 }
  else if size < 1000 then
    { points := 5, suggestions := ["Consider splitting into smaller commits"] }
  else
    { issues := [s!"Very large commit ({size} LOC)"]
      suggestions := ["Definitely split into multiple atomic commits"] }

/-- How good a commit is. -/
inductive Rating where
  | excellent
  | good
  | lacking
  | poor
deriving DecidableEq, Repr

def Rating.ofPoints (n : Nat) : Rating :=
  if 80 ≤ n then .excellent else if 60 ≤ n then .good else if 40 ≤ n then .lacking else .poor

def Rating.name : Rating → String
  | .excellent => "Excellent"
  | .good => "Good"
  | .lacking => "Needs Improvement"
  | .poor => "Poor"

def Rating.color : Rating → String
  | .excellent => green
  | .good => blue
  | .lacking => yellow
  | .poor => red

/-- What is said of a commit. -/
structure Judgement where
  hash : String
  subject : String
  mark : Mark
  size : Int

def Judgement.rating (j : Judgement) : Rating := .ofPoints j.mark.points

def Judgement.value (j : Judgement) : Value :=
  .object
    [("hash", j.hash), ("subject", j.subject), ("score", j.mark.points),
      ("issues", Value.strings j.mark.issues),
     ("suggestions", Value.strings j.mark.suggestions), ("size", .int j.size),
     ("rating", paint j.rating.color j.rating.name)]

def judge (c : Record) : Tool Judgement := do
  let (inserted, deleted) ← changedLines c.hash
  let size := inserted + deleted
  let mark :=
    ((((formMark c.subject).join (wordingMark c.subject)).join (bodyMark c.subject c.body)).join
    (referenceMark c.subject c.body)).join (sizeMark size)
  return { hash := take c.hash 7, subject := c.subject, mark, size }

/-! ### Reports -/

def title (lines : List String) : List String :=
  [s!"\n{Message.rule}"] ++ lines ++ [s!"{Message.rule}\n"]

def Record.short (c : Record) : String := s!"{take c.hash 7}: {c.subject}"

def reportFormat (branch : Option String) : Tool Unit := do
  let cs ← commits branch 20
  sayAll (title ["Checking Conventional Commit Format"])
  for c in cs do
    let issues := formatIssues c.subject
    let sign := if issues.isEmpty then paint green "✓" else paint red "✗"
    sayAll (s!"{sign} {Record.short c}" :: issues.map ("  - " ++ ·))
  let good := (cs.filter fun c => (formatIssues c.subject).isEmpty).length
  if cs.isEmpty then throw (.divisionByZero false)
  let percent := fixed (Float.ofNat good / Float.ofNat cs.length * 100.0) 0
  say s!"\nCompliance: {good}/{cs.length} ({percent}%)"
  if good < cs.length then
    say ("\n" ++ paint yellow "Suggestion:"
      ++ " Run interactive rebase to fix non-compliant messages")

/-- A commit that mends an earlier one. -/
structure Fixup where
  commit : Record
  related : Option Record

/-- The commits that could be joined: temporary ones, and those whose subject a later one
repeats. -/
def fixups : List Record → List Fixup
  | [] => []
  | c :: rest =>
    let subject := lower c.subject
    let temporary := containsAny subject ["wip", "fixup", "temp", "tmp", "checkpoint"]
    let similar :=
      if 10 < subject.length then rest.find? fun o => contains (lower o.subject) subject else none
    (if temporary then [⟨c, none⟩] else []) ++
      (similar.toList.map fun o => ⟨c, some o⟩) ++ fixups rest

def reportFixups (branch : Option String) : Tool Unit := do
  let found := fixups (← commits branch 20)
  sayAll (title ["Finding Fixup Opportunities"])
  if found.isEmpty then
    say (paint green "✓" ++ " No fixup opportunities found. Commit history looks clean!")
    return
  say s!"Found {found.length} fixup opportunities:\n"
  for f in found do
    say (paint yellow "→" ++ s!" {Record.short f.commit}")
    match f.related with
    | none => sayAll ["  Reason: Temporary commit", ""]
    | some o => sayAll ["  Reason: Similar to another commit", s!"  Related: {Record.short o}", ""]
  say ("\n" ++ paint blue "Suggestion:" ++ " Use interactive rebase to squash/fixup these commits")

def sizeName (n : Int) : String :=
  if n < 10 then paint blue "Tiny"
  else if n < 50 then paint green "Small"
  else if n < 200 then paint yellow "Medium"
  else if n < 500 then paint yellow "Large"
  else paint red "Very Large"

def reportSizes (branch : Option String) : Tool Unit := do
  let cs ← commits branch 20
  sayAll (title ["Commit Size Analysis"])
  let sizes ← cs.mapM fun c => do
    let (inserted, deleted) ← changedLines c.hash
    let size := inserted + deleted
    say s!"{take c.hash 7}: {padLeft (toString size) 4} LOC - {sizeName size}"
    if 500 < size then say "  ⚠️  Consider splitting this commit"
    sayAll [s!"  {c.subject}", ""]
    return size
  let average :=
    if sizes.isEmpty then 0.0 else ofInt (sizes.foldr (· + ·) 0) / Float.ofNat sizes.length
  say s!"\nAverage commit size: {fixed average 0} LOC"
  match sizes with
  | [] => throw (.invalid "max() arg is an empty sequence")
  | n :: ns =>
    say s!"Largest commit: {ns.foldl max n} LOC"
    say s!"Smallest commit: {ns.foldl min n} LOC"

def Judgement.lines (j : Judgement) : List String :=
  let part := fun (name : String) (xs : List String) => if xs.isEmpty then []
    else name :: xs.map ("    - " ++ ·)
  [s!"{j.hash}: {take j.subject 60}",
   s!"  Score: {j.mark.points}/100 - {paint j.rating.color j.rating.name}"]
  ++ part ("  " ++ paint red "Issues:") j.mark.issues
  ++ part ("  " ++ paint blue "Suggestions:") j.mark.suggestions
  ++ [""]

def reportQuality (branch : Option String) : Tool Unit := do
  let cs ← commits branch 20
  let named := match branch with
    | none | some "" => []
    | some b => [s!"Branch: {b}"]
  sayAll (title ("Commit Quality Report" :: named))
  say s!"Analyzed {cs.length} commits\n"
  let ratings ← cs.mapM fun c => do
    let j ← judge c
    sayAll (Judgement.lines j)
    return j.rating
  let count := fun (r : Rating) => (ratings.filter (· == r)).length
  sayAll (title ["Summary"])
  sayAll ([Rating.excellent, .good, .lacking, .poor].map fun r =>
    paint r.color s!"{r.name}:" ++ s!" {count r}")
  let overall := if cs.isEmpty then 0.0
    else Float.ofNat (count .excellent + count .good) / Float.ofNat cs.length * 100.0
  say s!"\nOverall Quality: {fixed overall 0}%"

def forms : Options.Commands where
  forms := ["check-format", "find-fixups", "analyze-size", "report"].map fun name =>
    (name, { switches := [Options.valued "branch" ["--branch"]] })

def command (argv : List String) : Tool Unit := do
  let a ← Options.settle (forms.read argv)
  let branch := a.text? "branch"
  match a.command? with
  | some "check-format" => reportFormat branch
  | some "find-fixups" => reportFixups branch
  | some "analyze-size" => reportSizes branch
  | some "report" => reportQuality branch
  | _ => Options.sayHelp

end History

end Workbench.Commit
