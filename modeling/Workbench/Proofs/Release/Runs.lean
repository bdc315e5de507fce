import Mathlib.Tactic.Common
import Workbench.Proofs.Calendar.Dates
import Workbench.Proofs.Options.Lines
import Workbench.Proofs.Release.Log
import Workbench.Proofs.Release.Sections

/-!
# Releases in a changelog

Each run for a release puts its section before the sections that the changelog has, and makes the
file if there is none.
-/

open List

namespace Workbench.Release

open Tool Text Workbench.Path World

open Text (IsLine)

/-! ### What git tells -/

/-- A world that has git only. -/
def bare (w : World) : World := { respond := w.respond, calls := w.calls }

/-- A tool that does nothing but call programs, so that its outcome and its calls are the same in a
bare world. -/
def Asking {α : Type} (t : Tool α) : Prop :=
  ∀ w, t.exec w = ((t.exec (bare w)).1, { w with calls := (t.exec (bare w)).2.calls })

lemma Asking.eq_of_exec {α : Type} {t : Tool α} (ht : Asking t) {w w' : World} {r : Result α}
    (h : t.exec (bare w) = (r, w')) : w' = { respond := w.respond, calls := w'.calls } := by
  have hsame : bare (bare w) = bare w := rfl
  have hworld := congrArg Prod.snd ((ht (bare w)).symm.trans h)
  rw [hsame, h] at hworld
  exact hworld.symm

lemma asking_pure {α : Type} (a : α) : Asking (pure a : Tool α) := fun _ => rfl

lemma asking_bind {α β : Type} {t : Tool α} {f : α → Tool β} (ht : Asking t)
    (hf : ∀ a, Asking (f a)) : Asking (t >>= f) := by
  intro w
  rw [exec_bind, exec_bind, ht w]
  rcases hrun : t.exec (bare w) with ⟨e | a, w'⟩
  · rfl
  · have hworld : w' = bare { w with calls := w'.calls } := ht.eq_of_exec (w := w) hrun
    refine (hf a _).trans ?_
    rw [← hworld]

lemma asking_git (args : List String) : Asking (git args) := by
  have hrun : Asking (run ("git" :: args) "None") := by
    intro w
    rw [run, exec_bind_ok (exec_call _ w), exec_bind_ok (exec_call _ (bare w)), bare]
    cases w.respond w.calls ("git" :: args) <;> rfl
  refine asking_bind hrun fun ended => ?_
  split_ifs
  · exact asking_pure _
  · exact asking_pure _

lemma asking_lastTag? : Asking lastTag? := asking_bind (asking_git _) fun _ => asking_pure _

lemma asking_commitsSince (tag : Option String) : Asking (commitsSince tag) :=
  asking_bind (asking_git _) fun _ => asking_pure _

/-! ### Runs -/

/-- A run for a release: what is given to it, and the surroundings it has. -/
structure Run where
  version : String
  date : String
  respond : Responder
  now : Calendar.DateTime

namespace Run

/-- The commits that a run finds. -/
def found (r : Run) : List Commit :=
  match (lastTag? >>= commitsSince).exec { respond := r.respond } with
  | (.ok commits, _) => commits
  | (.error _, _) => []

/-- The date of a run. -/
def day (r : Run) : String := if r.date = "" then r.now.date.plain else r.date

/-- The heading of a run's section. -/
def heading (r : Run) : String := headingOf r.version r.day

/-- The lines of a run's section. -/
def lines (r : Run) : List String :=
  sectionLines r.version r.day (categorize (r.found.map Commit.short))

/-- The section of a run. -/
def made (r : Run) : String :=
  changelogSection r.version r.day (categorize (r.found.map Commit.short))

/-- The command line of a run. -/
def argv (r : Run) (file : String) : List String :=
  [r.version, "--date", r.date, "--output", file, "--prepend"]

/-- The world that a run is made in. -/
def world (r : Run) (w : World) : World :=
  { w with respond := r.respond, now := r.now, calls := [] }

/-- The world after a run that succeeds. -/
def perform (file : String) (w : World) (r : Run) : Option World :=
  match (changelogCommand (r.argv file)).exec (r.world w) with
  | (.ok _, w') => some w'
  | (.error _, _) => none

/-- A run that finds commits, with texts that are parts of lines and a version and a date that are
no switches. -/
structure Releases (r : Run) : Prop where
  version : IsLine r.version
  plain : Options.IsPlain r.version
  date : IsLine r.date
  plain_date : Options.IsPlain r.date
  found : r.found ≠ []
  commits : ∀ c ∈ r.found, IsLine c.hash ∧ IsLine c.subject

variable {r : Run} {w : World} {file : String}

lemma made_eq (r : Run) : r.made = join "\n" r.lines := rfl

lemma isHeading_made (r : Run) : isHeading r.made = true := by
  rw [made_eq, lines, sectionLines_eq, join.eq_3 "\n" _ _ (by simp)]
  simp [isHeading, headingOf, startsWith_iff]

lemma filter_lines (r : Run) : r.lines.filter isHeading = [r.heading] :=
  filter_isHeading_sectionLines _ _ _

lemma lines_ne_nil (r : Run) : r.lines ≠ [] := by
  simp [lines, sectionLines_eq]

lemma Releases.isLine_day (h : r.Releases) : IsLine r.day := by
  unfold day
  split_ifs
  · exact ⟨(Calendar.notMem_plain (by decide) (by decide) _).2,
      (Calendar.notMem_plain (by decide) (by decide) _).2⟩
  · exact h.date

lemma Releases.isLine_of_mem_lines (h : r.Releases) {l : String} (hl : l ∈ r.lines) : IsLine l := by
  have hlacks : ∀ x ∈ ['\n', '\r'], (∀ {s}, IsLine s → x ∉ s.toList) → x ∉ l.toList := by
    intro x hx hline
    refine notMem_of_mem_sectionLines hx (hline h.version) (hline h.isLine_day)
      (fun k e he => ?_) hl
    obtain ⟨c, hc, he⟩ := mem_flatMap.mp he
    obtain ⟨commit, hcommit, rfl⟩ := mem_map.mp hc
    obtain ⟨hhash, hsubject⟩ := h.commits commit hcommit
    exact Commit.lacks_of_mem_entriesFor (fun hmem => hline hhash (commit.subset_short hmem))
      (hline hsubject) he
  exact ⟨hlacks '\n' (by decide) And.left, hlacks '\r' (by decide) And.right⟩

/-! ### One run -/

lemma exists_exec_found (h : r.found ≠ []) :
    ∃ tag cs cs', ∀ w : World, w.respond = r.respond →
      (w.calls = [] → lastTag?.exec w = (.ok tag, { w with calls := cs })) ∧
      (w.calls = cs → (commitsSince tag).exec w = (.ok r.found, { w with calls := cs' })) := by
  rcases htag : lastTag?.exec { respond := r.respond } with ⟨e | tag, w₁⟩
  · refine absurd ?_ h
    rw [found, exec_bind_error htag]
  · have hasked := asking_lastTag?.eq_of_exec (w := { respond := r.respond }) htag
    rcases hcommits : (commitsSince tag).exec w₁ with ⟨e | commits, w₂⟩
    · refine absurd ?_ h
      rw [found, exec_bind_ok htag, hcommits]
    · have hfound : r.found = commits := by rw [found, exec_bind_ok htag, hcommits]
      refine ⟨tag, w₁.calls, w₂.calls, fun w hrespond => ⟨fun hcalls => ?_, fun hcalls => ?_⟩⟩
      · rw [asking_lastTag? w, bare, hrespond, hcalls, htag]
      · rw [asking_commitsSince tag w, bare, hrespond, hcalls, ← hasked, hcommits, hfound]

/-- What the command line of a run is read as. -/
def args (r : Run) (file : String) : Options.Args where
  values :=
    [("since", .null), ("date", .str r.date), ("output", .str file), ("prepend", .bool true),
      ("analyze", .bool false),
     ("version", .str r.version)]

lemma read_argv (h : r.Releases) (hfile : Options.IsPlain file) :
    changelogForm.read (r.argv file) = .ok (r.args file) := by
  have hmarks : changelogForm.marks (r.argv file) =
      .ok [(.operand, r.version),
        (.switch { switch := some (Options.valued "date" ["--date"]), name := "--date" }, "--date"),
        (.operand, r.date),
        (.switch { switch := some (Options.valued "output" ["--output", "-o"])
                   name := "--output" }, "--output"),
        (.operand, file),
        (.switch { switch := some (Options.flagged "prepend" ["--prepend"]), name := "--prepend" },
         "--prepend")] := by
    rw [argv, Options.marks_operand _ h.plain, Options.marks_switch rfl (by decide) (by decide),
      Options.marks_operand _ h.plain_date, Options.marks_switch rfl (by decide) (by decide),
      Options.marks_operand _ hfile]
    rfl
  have hoperands : changelogForm.operands = [{ dest := "version" }] := rfl
  unfold Options.Form.read Options.Form.readKnown
  rw [hmarks]
  simp only [bind, Except.bind]
  rw [hoperands, length_cons, Options.loop_operand _ _ _ _ h.plain]
  rfl

lemma exec_sectionDate (r : Run) {w : World} (hnow : w.now = r.now) :
    (sectionDate (some r.date)).exec w = (.ok r.day, w) := by
  unfold sectionDate day
  by_cases hdate : r.date = ""
  · rw [if_pos hdate, hdate, ← hnow]
    rfl
  · rw [if_neg hdate]
    split
    · rename_i hnone
      cases hnone
    · rename_i hempty
      exact absurd (Option.some.inj hempty) hdate
    · rename_i d hsome
      obtain rfl := Option.some.inj hsome
      rfl

lemma exists_exec_changelogCommand (h : r.Releases) (hfile : Options.IsPlain file) (w : World) :
    ∃ out cs, (changelogCommand (r.argv file)).exec (r.world w) =
      (addToFile (ofString file) true r.made).exec { r.world w with out, calls := cs } := by
  have hread : Options.settle (changelogForm.read (r.argv file)) = pure (r.args file) :=
    congrArg Options.settle (read_argv h hfile)
  have hanalyze : (r.args file).flag "analyze" = false := rfl
  obtain ⟨tag, cs, cs', hexec⟩ := exists_exec_found h.found
  have htag := (hexec (r.world w) rfl).1 rfl
  obtain ⟨out, hout⟩ :=
    exists_exec_sayAll [Color.paint Color.blue "Changelog Generator", "Version: " ++ r.version,
    "Since: " ++ tag.getD "beginning" ++ "\n"] { r.world w with calls := cs }
  have hcommits := (hexec { r.world w with out, calls := cs } rfl).2 rfl
  have hday := r.exec_sectionDate (w := { r.world w with out, calls := cs' }) rfl
  have hsome : ¬ (r.found.map Commit.short).isEmpty = true := by simpa using h.found
  refine ⟨out, cs', ?_⟩
  unfold changelogCommand
  rw [hread, exec_bind_ok (exec_pure _ _)]
  refine (exec_bind_ok htag _).trans
    ((exec_bind_ok hout _).trans ((exec_bind_ok hcommits _).trans ?_))
  dsimp only
  rw [if_neg hsome, hanalyze, if_neg Bool.false_ne_true]
  exact (exec_bind_ok hday _).trans rfl

end Run

/-! ### The file -/

/-- A path leads to a changelog with the sections of runs, the last one first, or to nothing if
there was no run. -/
structure Stands (w : World) (name : String) (runs : List Run) : Prop where
  reaches : w.Reaches name
  parent : w.files.node? (w.place name).dropLast = some .dir
  releases : ∀ r ∈ runs, r.Releases
  new : runs = [] → w.files.node? (w.place name) = none
  text : runs ≠ [] → w.file? name = some (.text (changelogOf (runs.map Run.made)))

variable {w : World} {file name : String} {r : Run} {runs : List Run}

/-- Only the files matter. -/
lemma Stands.congr {w' : World} (h : Stands w name runs) (hfiles : w'.files = w.files)
    (hcwd : w'.cwd = w.cwd) :
    Stands w' name runs := by
  have hplace : w'.place name = w.place name := by rw [place, place, hfiles, hcwd]
  refine ⟨⟨h.reaches.plain, ?_⟩, ?_, h.releases, fun hruns => ?_, fun hruns => ?_⟩
  · rw [hplace, hfiles, hcwd, h.reaches.leads]
  · rw [hplace, hfiles, h.parent]
  · rw [hplace, hfiles, h.new hruns]
  · rw [file?, hplace, hfiles, ← file?, h.text hruns]

lemma map_made (runs : List Run) : runs.map Run.made = (runs.map Run.lines).map (join "\n") := by
  rw [map_map]
  rfl

lemma isLine_of_mem_map_lines (hruns : ∀ r ∈ runs, r.Releases) :
    ∀ ls ∈ runs.map Run.lines, ∀ l ∈ ls, IsLine l := by
  intro ls hls l hl
  obtain ⟨r, hr, rfl⟩ := mem_map.mp hls
  exact (hruns r hr).isLine_of_mem_lines hl

lemma Stands.sets {t : Files} (h : Stands w name runs) (hr : r.Releases)
    (hsets : w.files.Sets t (w.place name)
    (some (.text (changelogOf ((r :: runs).map Run.made))))) :
    Stands { w with files := t } name (r :: runs) := by
  have hplace : ({ w with files := t } : World).place name = w.place name :=
    place_files hsets.links name
  have hother : (w.place name).dropLast ≠ w.place name := by
    intro heq
    have hfree := hsets.free
    rw [← heq] at hfree
    exact hfree h.parent
  refine ⟨h.reaches.grows hsets.grows, ?_, forall_mem_cons.mpr ⟨hr, h.releases⟩,
    fun hnil => absurd hnil (cons_ne_nil _ _), fun _ => ?_⟩
  · rw [hplace]
    exact (hsets.elsewhere _ hother).trans h.parent
  · rw [file?, hplace]
    exact hsets.here

lemma Stands.exec_readText (h : Stands w name runs) (hne : runs ≠ []) :
    (readText name).exec w = (.ok (changelogOf (runs.map Run.made)), w) := by
  refine exec_readText_ok h.reaches (h.text hne) ?_
  have hreturn : '\r' ∉ (changelogOf (runs.map Run.made)).toList := by
    rw [map_made]
    exact notMem_changelogOf (isLine_of_mem_map_lines h.releases)
  rw [decodeText, unixLineEnds_of_notMem hreturn, String.ofList_toList]

lemma Stands.exists_exec_writeText (h : Stands w name runs) (hr : r.Releases) :
    ∃ w', (writeText name (changelogOf ((r :: runs).map Run.made))).exec w = (.ok (), w') ∧
      Stands w' name (r :: runs) := by
  have hfree : w.files.node? (w.place name) ≠ some .dir := by
    by_cases hne : runs = []
    · rw [h.new hne]
      simp
    · obtain ⟨x, hnode⟩ := Files.node?_of_file? (h.text hne)
      rw [hnode]
      simp
  obtain ⟨t, hwrite, hsets⟩ :=
    exec_writeText_ok h.reaches hfree h.parent (changelogOf ((r :: runs).map Run.made))
  exact ⟨_, hwrite, h.sets hr hsets⟩

/-- One run puts its section above the others. -/
theorem Stands.exists_exec_addToFile (h : Stands w (ofString file).toString runs)
    (hr : r.Releases) :
    ∃ w', (addToFile (ofString file) true r.made).exec w = (.ok (), w') ∧
      Stands w' (ofString file).toString (r :: runs) := by
  obtain ⟨w', hwrite, hstands⟩ := h.exists_exec_writeText hr
  unfold addToFile
  cases runs with
  | nil =>
    have hexists := exec_pathExists_of_none h.reaches (h.new rfl)
    refine ⟨_, (exec_bind_ok hexists _).trans ((exec_bind_ok hwrite _).trans rfl), ?_⟩
    exact hstands.congr rfl rfl
  | cons first rest =>
    have hne : first :: rest ≠ [] := cons_ne_nil _ _
    have hexists := exec_pathExists_of_file? h.reaches (h.text hne)
    have hprepend : prepend (changelogOf ((first :: rest).map Run.made)) r.made =
        changelogOf ((r :: first :: rest).map Run.made) :=
          prepend_changelogOf first.isHeading_made _ _
    rw [← hprepend] at hwrite
    refine ⟨_, (exec_bind_ok hexists _).trans ((exec_bind_ok (h.exec_readText hne) _).trans
      ((exec_bind_ok hwrite _).trans rfl)), ?_⟩
    exact hstands.congr rfl rfl

/-! ### All runs -/

/-- So does the command. -/
theorem Stands.perform (h : Stands w (ofString file).toString runs) (hr : r.Releases)
    (hfile : Options.IsPlain file) :
    ∃ w', r.perform file w = some w' ∧ Stands w' (ofString file).toString (r :: runs) := by
  obtain ⟨out, cs, hcommand⟩ := Run.exists_exec_changelogCommand hr hfile w
  have hworld : Stands { r.world w with out, calls := cs } (ofString file).toString runs :=
    h.congr rfl rfl
  obtain ⟨w', hadd, hstands⟩ := hworld.exists_exec_addToFile hr
  refine ⟨w', ?_, hstands⟩
  rw [Run.perform, hcommand, hadd]

/-- After any runs the sections stand with the newest first. -/
theorem Stands.foldlM_perform {more : List Run} (h : Stands w (ofString file).toString runs)
    (hmore : ∀ r ∈ more, r.Releases) (hfile : Options.IsPlain file) :
    ∃ w', more.foldlM (Run.perform file) w = some w' ∧
      Stands w' (ofString file).toString (more.reverse ++ runs) := by
  induction more generalizing w runs with
  | nil => exact ⟨w, rfl, h⟩
  | cons r more ih =>
    obtain ⟨hr, hmore⟩ := forall_mem_cons.mp hmore
    obtain ⟨w₁, hperform, hstands⟩ := h.perform hr hfile
    obtain ⟨w', hrest, hstands'⟩ := ih hstands hmore
    refine ⟨w', ?_, ?_⟩
    · rw [foldlM_cons, hperform]
      exact hrest
    · rwa [reverse_cons, append_assoc]

lemma filter_split_changelogOf (hne : runs ≠ []) (hruns : ∀ r ∈ runs, r.Releases) :
    (split (changelogOf (runs.map Run.made)) "\n").filter isHeading = runs.map Run.heading := by
  have hlines : ∀ ls ∈ runs.map Run.lines, ls ≠ [] := by
    intro ls hls
    obtain ⟨r, -, rfl⟩ := mem_map.mp hls
    exact r.lines_ne_nil
  have hhead : headLines.filter isHeading = [] := by decide
  rw [map_made, split_changelogOf (by simpa using hne) hlines (isLine_of_mem_map_lines hruns),
    filter_append, hhead, nil_append, filter_flatten, map_map]
  have hheadings : runs.map (filter isHeading ∘ Run.lines) = (runs.map Run.heading).map fun h =>
      [h] := by
    rw [map_map]
    exact map_congr_left fun r _ => r.filter_lines
  rw [hheadings, ← flatMap_def, flatMap_singleton']

/-- Runs for releases in a directory without the changelog all succeed.  The file is then the head
followed by the sections of the releases with a line end between neighbours, the newest first, and
its lines that begin like a heading are the headings of the releases, the newest first. -/
theorem changelog_newest_first (hfile : Options.IsPlain file)
    (hreaches : w.Reaches (ofString file).toString)
    (hfree : w.files.node? (w.place (ofString file).toString) = none)
    (hparent : w.files.node? (w.place (ofString file).toString).dropLast = some .dir)
    (hne : runs ≠ []) (hruns : ∀ r ∈ runs, r.Releases) :
    ∃ w' text, runs.foldlM (Run.perform file) w = some w' ∧ w'.file? (ofString file).toString =
      some (.text text) ∧
      text = changelogHead ++ join "\n" (runs.reverse.map Run.made) ∧
      (split text "\n").filter (fun line => startsWith line "## ") =
        runs.reverse.map Run.heading := by
  have hstart : Stands w (ofString file).toString [] :=
    ⟨hreaches, hparent, by simp, fun _ => hfree, fun hnil => absurd rfl hnil⟩
  obtain ⟨w', hperform, hstands⟩ := hstart.foldlM_perform hruns hfile
  rw [List.append_nil] at hstands
  have hne' : runs.reverse ≠ [] := by simpa using hne
  refine ⟨w', _, hperform, hstands.text hne', rfl, ?_⟩
  exact filter_split_changelogOf hne' hstands.releases

/-- A run with a date, and a run on a day of the clock with a commit whose description begins like a
heading. -/
def firstRun : Run where
  version := "1.0.0"
  date := "2025-01-01"
  respond := fun _ call =>
    if call = logCall none then .finished 0 "0a1b2c3d4e|feat(core): start|text|||" ""
    else .finished 128 "" "fatal: No names found\n"
  now := { date := ⟨2025, 1, 1⟩ }

def secondRun : Run where
  version := "1.1.0"
  date := ""
  respond := fun _ call =>
    if call = logCall (some "v1.0.0") then .finished 0 "f00ba4|fix: ## all|text\n## more|||" ""
    else .finished 0 "v1.0.0\n" ""
  now := { date := ⟨2025, 1, 15⟩ }

lemma releases_firstRun : firstRun.Releases := by constructor <;> decide

lemma releases_secondRun : secondRun.Releases := by constructor <;> decide

/-- Two releases, the second with an entry that looks like a heading. -/
theorem changelog_newest_first_two :
    firstRun.Releases ∧ secondRun.Releases ∧ ∃ w' text,
      [firstRun, secondRun].foldlM (Run.perform "CHANGELOG.md") {} = some w' ∧
      w'.file? "CHANGELOG.md" = some (.text text) ∧
      text = changelogHead ++ "## [1.1.0] - 2025-01-15\n\n### 🐛 Bug Fixes\n\n- ## all (f00ba4)\n" ++
        "\n## [1.0.0] - 2025-01-01\n\n### ✨ Features\n\n- **core**: start (0a1b2c3)\n" ∧
      (split text "\n").filter (fun line => startsWith line "## ") =
        ["## [1.1.0] - 2025-01-15", "## [1.0.0] - 2025-01-01"] := by
  have hruns : ∀ r ∈ [firstRun, secondRun], r.Releases := by
    simp [releases_firstRun, releases_secondRun]
  have hfile : Options.IsPlain "CHANGELOG.md" := by decide
  obtain ⟨w', text, hperform, htext, heq, hlines⟩ :=
    changelog_newest_first (w := {}) hfile ⟨by decide, by decide⟩ rfl rfl (by simp) hruns
  refine ⟨releases_firstRun, releases_secondRun, w', text, hperform, htext, heq.trans ?_,
    hlines.trans ?_⟩
  · decide +kernel
  · decide

end Workbench.Release
