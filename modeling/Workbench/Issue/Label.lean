import Workbench.Options.Basic
import Workbench.Value.Access
import Workbench.World.Color
import Workbench.World.Shell

/-!
# Labels

Creates labels one by one, from a file or from a preset, applies them to issues, suggests them from
what an issue says, and repairs names that break the conventions.
-/

namespace Workbench.Issue.Label

open Options Tool Text

def gh (args : List String) : Tool String :=
  outputOr ("gh" :: args) fun r => Notice.fail s!"gh command failed: {r.err}"

def current : Tool Value := do
  let out ← gh ["label", "list", "--json", "name,description,color", "--limit", "1000"]
  if out == "" then return .list [] else parseJson out

def names (labels : Value) : Result (List Value) := do
  let all ← (← labels.parts).mapM fun l => (l.field "name" : Result Value)
  (Value.list all).distinct

/-- A label that there should be. -/
structure Wanted where
  name : Value
  color : Value
  description : Value

def Wanted.ofValue (v : Value) : Result Wanted := do
  return { name := ← v.field "name", color := ← v.field "color"
           description := ← v.fieldOr "description" "" }

/-- Makes or changes a label; a label that is there is changed only with `force`.  Tells whether
something was done. -/
def create (l : Wanted) (force : Bool) : Tool Bool := do
  let known ← (Value.list (← names (← current))).has l.name
  if !l.name.isKey then throw l.name.unhashable
  if known && !force then
    Notice.warn s!"Label '{l.name.display}' already exists. Use --force to update."
    return false
  let verb := if known then "edit" else "create"
  let _ ← gh ["label", verb, ← l.name.pathText, "--color", ← l.color.pathText,
    "--description", ← l.description.pathText]
  if known then Notice.inform s!"Updated label: {l.name.display}"
  else Notice.success s!"Created label: {l.name.display}"
  return true

def agreed (question : String) : Tool Bool := do return lower (← ask question) == "y"

def delete (name : Value) (confirm : Bool) : Tool Bool := do
  let sure ← if confirm then agreed s!"Delete label '{name.display}'? [y/N]: " else pure true
  if !sure then
    say "Cancelled"
    return false
  let _ ← gh ["label", "delete", ← name.pathText, "--yes"]
  Notice.success s!"Deleted label: {name.display}"
  return true

/-! ### Presets -/

def preset (name : String) : Tool Value := do
  let file := (← beside "assets/label-presets.json").toString
  if !(← pathExists file) then Notice.fail s!"Preset file not found: {file}"
  let presets ← readJson file
  if !(← presets.hasText name) then
    let known := (← presets.pairs).map (·.1.display)
    Notice.fail (s!"Preset '{name}' not found. Available: " ++ join ", " known)
  presets.field name

def cleanUp (wanted : List Value) : Tool Unit := do
  let existing ← (← current).parts
  let kept ← names (.list wanted)
  let rest ← existing.filterM fun l =>
    (do return !(kept.any (·.same (← l.field "name"))) : Result Bool)
  if rest.isEmpty then return
  let surplus ← rest.mapM fun l => (l.field "name" : Result Value)
  Notice.warn s!"Cleanup: {surplus.length} labels not in preset"
  sayAll (surplus.map fun n => s!"  - {n.display}")
  if ← agreed "Delete these labels? [y/N]: " then
    for n in surplus do let _ ← delete n false

def applyPreset (name : String) (cleanup dryRun force : Bool) : Tool Unit := do
  let p ← preset name
  if !p.truthy then return
  let labels ← p.fieldOr "labels" (.list [])
  let count := toString (← labels.size)
  if dryRun then
    Notice.inform s!"DRY RUN: Would create {count} labels"
    for l in ← labels.parts do
      let w ← Wanted.ofValue l
      say s!"  - {w.name.display} ({w.color.display}): {w.description.display}"
    return
  Notice.inform s!"Applying preset '{name}' ({count} labels)..."
  let wanted ← labels.parts
  let done ← wanted.mapM fun l => do create (← Wanted.ofValue l) force
  let n := toString (done.filter id).length
  Notice.success ("Preset applied: " ++
    (if force then s!"0 created, {n}" else s!"{n} created, 0") ++ " updated")
  if cleanup then cleanUp wanted

/-! ### Many at once -/

def createAll (file : String) (force : Bool) : Tool Unit := do
  if !(← pathExists (Path.ofString file).toString) then Notice.fail s!"File not found: {file}"
  match ← readJson (Path.ofString file).toString with
  | .list labels =>
    let total := toString labels.length
    Notice.inform s!"Creating {total} labels..."
    let done ← labels.mapM fun l => do
      let named ← l.hasText "name"
      let complete ← if named then (do return ← l.hasText "color") else pure false
      if complete then create (← Wanted.ofValue l) force
      else
        Notice.warn s!"Skipping invalid label: {l.display}"
        return false
    Notice.success s!"Created {(done.filter id).length}/{total} labels"
  | _ => Notice.fail "JSON file must contain an array of label objects"

def sayIssues (issues : Value) : Tool Unit := do
  for i in ← (← issues.front 10).parts do
    say ("  - #" ++ (← i.field "number").display ++ ": " ++ (← i.field "title").display)
  let n ← issues.size
  if 10 < n then say s!"  ... and {n - 10} more"

def applyAll (query name : String) (dryRun : Bool) : Tool Unit := do
  let out ← gh ["issue", "list", "--search", query, "--json", "number,title", "--limit", "1000"]
  if out == "" then
    Notice.warn "No issues found matching filter"
    return
  let issues ← parseJson out
  let total := toString (← issues.size)
  if dryRun then
    Notice.inform s!"DRY RUN: Would apply '{name}' to {total} issues"
    sayIssues issues
    return
  Notice.inform s!"Applying '{name}' to {total} issues..."
  for (i, n) in (← issues.parts).zipIdx do
    let _ ← gh ["issue", "edit", (← i.field "number").display, "--add-label", name]
    put s!"\r{n + 1}/{total}"
  say ""
  Notice.success s!"Applied label to {total} issues"

/-! ### Suggestions -/

/-- A label with the reason for it. -/
structure Suggestion where
  label : String
  reason : String
deriving DecidableEq, Repr

def suggestedBy (content : String) (words : List String) (label reason : String) :
    List Suggestion :=
  if containsAny content words then [⟨label, reason⟩] else []

def suggestions (content : String) : List Suggestion :=
  let among := suggestedBy content
  let high :=
    among ["urgent", "critical", "asap", "immediately", "blocking"] "priority:high"
      "Urgent keywords detected"
  let low :=
    among ["minor", "low priority", "nice to have", "eventually"] "priority:low"
      "Low priority keywords detected"
  among ["bug", "error", "crash", "broken", "fail"] "bug" "Issue describes a bug"
    ++ among ["feature", "add", "new", "implement"] "feature" "Issue requests a feature"
    ++ among ["document", "docs", "readme", "guide"] "documentation" "Issue mentions documentation"
    ++ (if high.isEmpty then low else high)
    ++ among ["ui", "ux", "frontend", "interface", "design", "css"] "scope:frontend"
      "Frontend keywords detected"
    ++ among ["api", "backend", "server", "database", "endpoint"] "scope:backend"
      "Backend keywords detected"
    ++ among ["security", "vulnerability", "auth", "permission"] "security"
      "Security keywords detected"

def bodyOf (issue : Value) : Result String := do
  let body ← issue.fieldOrNull "body"
  if body.truthy then return lower (← body.textFor "lower") else return ""

def suggest (number : String) : Tool Unit := do
  let out ← gh ["issue", "view", number, "--json", "title,body,labels"]
  if out == "" then Notice.fail s!"Issue #{number} not found"
  let issue ← parseJson out
  let heading ← issue.field "title"
  let title := lower (← heading.textFor "lower")
  let body ← bodyOf issue
  let present ← names (← issue.fieldOr "labels" (.list []))
  let found := (suggestions s!"{title} {body}").filter fun s => !present.any (·.same s.label)
  if found.isEmpty then
    Notice.inform s!"Issue #{number}: No new labels to suggest"
    return
  sayAll ([s!"\nIssue #{number}: {heading.display}", "\nSuggested labels:"]
    ++ found.map fun s => s!"  ✓ {s.label} - {s.reason}")
  if ← agreed "\nApply these labels? [y/N]: " then
    let _ ← gh ["issue", "edit", number, "--add-label", join "," (found.map Suggestion.label)]
    Notice.success s!"Applied {found.length} labels to issue #{number}"

/-! ### Use -/

def uses (labels : List Value) : Tool (List (Value × Nat)) :=
  labels.foldlM (fun counts l => do
    let name ← l.field "name"
    let out ← gh ["issue", "list", "--label", ← name.pathText, "--json", "number",
      "--limit", "1000"]
    let n ← if out == "" then pure 0 else (do return ← (← parseJson out).size)
    return if counts.any (·.1.same name) then counts.map fun (k, m) => if k.same name then
      (k, n) else (k, m)
      else counts ++ [(name, n)]) []

def report : Tool Unit := do
  let labels ← current
  let counts ← uses (← labels.parts)
  let ranked := counts.mergeSort fun a b => b.2 ≤ a.2
  let line := fun (c : Value × Nat) => s!"  {padLeft (toString c.2) 3} issues: {c.1.display}"
  sayAll (["\n=== Label Usage Report ===\n", "Most Used Labels:"] ++ (ranked.take 10).map line)
  sayAll ("\nLeast Used Labels:" :: (ranked.drop (ranked.length - 5)).map line)
  let unused := ranked.filter (·.2 == 0)
  if !unused.isEmpty then
    sayAll (s!"\nUnused Labels ({unused.length}):" :: unused.map fun c => s!"  - {c.1.display}")
  say s!"\nTotal: {← labels.size} labels"

/-! ### Conventions -/

/-- A name that breaks a convention, the name that keeps it, and the convention. -/
structure Renaming where
  old : String
  new : String
  reason : String
deriving DecidableEq, Repr

/-- The renamings that the conventions ask for: small letters, hyphens for blanks, and a group
before a rank or an area. -/
def renamings (name : String) : List Renaming :=
  let starts := fun (leads : List String) => leads.any (startsWith name)
  (if name == lower name then [] else [⟨name, lower name, "Should be lowercase"⟩])
    ++ (if contains name " " && !contains name ":" then
        [⟨name, lower (replace name " " "-"), "Use hyphens instead of spaces"⟩] else [])
    ++ (if starts ["high", "medium", "low"] then
      [⟨name, s!"priority:{name}", "Use priority: prefix"⟩] else [])
    ++ (if starts ["frontend", "backend"] then
      [⟨name, s!"scope:{name}", "Use scope: prefix"⟩] else [])

def rename (labels : List Value) (r : Renaming) : Tool Unit := do
  match ← labels.findM? fun l => (do return (← l.field "name").same r.old : Result Bool) with
  | none => return
  | some l =>
    let wanted : Wanted :=
      { name := .str r.new, color := ← l.field "color",
        description := ← l.fieldOr "description" "" }
    let _ ← create wanted true
    let out ← gh ["issue", "list", "--label", r.old, "--json", "number", "--limit", "1000"]
    if out != "" then
      for i in ← (← parseJson out).parts do
        let _ ← gh ["issue", "edit", (← i.field "number").display, "--add-label", r.new,
          "--remove-label", r.old]
    let _ ← delete r.old false

/-- Finds the names that break the conventions and repairs them if that is wanted. -/
def repair : Tool Unit := do
  let labels ← (← current).parts
  let found ← labels.mapM fun l => do return renamings (← (← l.field "name").textFor "lower")
  let all := found.flatten
  if all.isEmpty then
    Notice.success "No consistency issues found!"
    return
  say s!"\nFound {all.length} consistency issues:\n"
  sayAll (all.flatMap fun r => [s!"  {r.old} → {r.new}", s!"    Reason: {r.reason}\n"])
  if ← agreed "Fix these issues? [y/N]: " then
    all.forM (rename labels)
    Notice.success s!"Fixed {all.length} consistency issues"

def forms : Options.Commands where
  forms :=
    [("apply-preset",
      { switches := [{ valued "name" ["--name"] with
            required := true, choices := ["standard", "comprehensive", "minimal"] },
          flagged "cleanup" ["--cleanup"], flagged "dry_run" ["--dry-run"],
          flagged "force" ["--force"]] }),
     ("bulk-create",
      { switches := [{ valued "file" ["--file"] with required := true },
          flagged "force" ["--force"]] }),
     ("bulk-apply",
      { switches := [{ valued "filter" ["--filter"] with required := true },
          { valued "label" ["--label"] with required := true }, flagged "dry_run" ["--dry-run"]] }),
     ("infer-labels",
      { switches := [{ valued "issue" ["--issue"] with required := true, kind := .whole }] }),
     ("report", {}), ("fix-consistency", {})]

def command (argv : List String) : Tool Unit := do
  let a ← settle (forms.read argv)
  match a.command? with
  | some "apply-preset" =>
    applyPreset (a.text "name") (a.flag "cleanup") (a.flag "dry_run") (a.flag "force")
  | some "bulk-create" => createAll (a.text "file") (a.flag "force")
  | some "bulk-apply" => applyAll (a.text "filter") (a.text "label") (a.flag "dry_run")
  | some "infer-labels" => suggest (toString (a.whole "issue"))
  | some "report" => report
  | some "fix-consistency" => repair
  | _ => sayHelp

end Workbench.Issue.Label
