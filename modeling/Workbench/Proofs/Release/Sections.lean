import Workbench.Proofs.Calendar.Dates
import Workbench.Proofs.Text.Split
import Workbench.Proofs.Text.Trim
import Workbench.Proofs.World.Exec
import Workbench.Proofs.World.Names
import Workbench.Release.Changelog

/-!
# Sections of a changelog

A changelog is a head with sections below it.  Of the lines of a section only the first one begins
like the heading of a release, and no line of the head does.  Each entry of a section has a line of
its own (`section_shows_commits`).

Whatever the text of a changelog is, a section is put into it at one place, and nothing of the text
is lost.  The place is before all releases unless the first line of the text is the heading of a
release and another heading follows (`addToFile_inserts`).
-/

open Option hiding join

open List hiding take drop

namespace Workbench

open Text

/-! ### Parts of a subject -/

namespace Commit

variable {s rest d : Chars}

lemma subset_of_parenthesised? (h : parenthesised? s = some (d, rest)) : d ⊆ s ∧ rest ⊆ s := by
  unfold parenthesised? at h
  split at h
  · rename_i t
    cases hrest : t.dropWhile (· != ')') with
    | nil =>
      rw [hrest] at h
      cases h
    | cons c u =>
      simp only [hrest] at h
      split_ifs at h
      obtain ⟨rfl, rfl⟩ := Prod.mk.inj (Option.some.inj h)
      have hu : u ⊆ t := by
        intro x hx
        have hmem : x ∈ t.dropWhile (· != ')') := by
          rw [hrest]
          exact mem_cons_of_mem c hx
        exact (t.dropWhile_sublist _).subset hmem
      exact ⟨fun x hx => mem_cons_of_mem _ ((t.takeWhile_sublist _).subset hx), fun x hx =>
        mem_cons_of_mem _ (hu hx)⟩
  · cases h

lemma subset_of_scope? {scope : Option Chars} (h : scope? s = some (scope, rest)) :
    scope.getD [] ⊆ s ∧ rest ⊆ s := by
  unfold scope? at h
  split_ifs at h
  · obtain ⟨⟨inside, rest'⟩, hinside, heq⟩ := bind_eq_some_iff.mp h
    obtain ⟨rfl, rfl⟩ := Prod.mk.inj (Option.some.inj heq)
    exact subset_of_parenthesised? hinside
  · obtain ⟨rfl, rfl⟩ := Prod.mk.inj (Option.some.inj h)
    exact ⟨nil_subset _, Subset.refl _⟩

lemma subset_mark (s : Chars) : (mark s).2 ⊆ s := by
  unfold mark
  split
  · exact subset_cons_self _ _
  · exact Subset.refl _

lemma subset_of_description? (h : description? s = some d) : d ⊆ s := by
  obtain ⟨t, ht, h⟩ := bind_eq_some_iff.mp h
  obtain ⟨line, hline, h⟩ := bind_eq_some_iff.mp h
  have htail : t ⊆ s := by
    have hparts := eq_append_of_dropFront? ht
    rw [hparts]
    exact subset_append_right _ _
  have hfront : line ⊆ t := by
    unfold onlyLine? at hline
    dsimp only at hline
    split_ifs at hline
    obtain rfl := Option.some.inj hline
    exact (t.takeWhile_sublist _).subset
  split_ifs at h
  obtain rfl := Option.some.inj h
  exact Subset.trans hfront htail

lemma Subject.subset_of_read? {t : Subject} (h : Subject.read? s = some t) :
    t.scope.toList ⊆ s ∧ t.description.toList ⊆ s := by
  have hword : s.dropWhile isWord ⊆ s := (s.dropWhile_sublist _).subset
  unfold Subject.read? at h
  dsimp only at h
  split_ifs at h
  · cases h
  obtain ⟨⟨scope, tail⟩, hscope, h⟩ := bind_eq_some_iff.mp h
  obtain ⟨d, hd, h⟩ := bind_eq_some_iff.mp h
  obtain rfl := Option.some.inj h
  obtain ⟨hinside, htail⟩ := subset_of_scope? hscope
  simp only [String.toList_ofList]
  refine ⟨Subset.trans hinside hword, ?_⟩
  exact Subset.trans (subset_of_description? hd)
    (Subset.trans (subset_mark tail) (Subset.trans htail hword))

lemma Subject.subset_ofText (text : String) :
    (Subject.ofText text).scope.toList ⊆ text.toList ∧
      (Subject.ofText text).description.toList ⊆ text.toList := by
  unfold Subject.ofText
  cases h : Subject.read? text.toList with
  | none => exact ⟨nil_subset _, Subset.refl _⟩
  | some t => exact Subject.subset_of_read? h

end Commit

namespace Release

open Text (IsLine)

/-! ### Lines of a section -/

/-- The line is a heading of the second level. -/
def isHeading (line : String) : Bool := startsWith line "## "

/-- The heading of a release. -/
def headingOf (version date : String) : String := "## [" ++ version ++ "] - " ++ date

/-- An entry none of whose texts has the character `x`. -/
structure Entry.Lacks (x : Char) (e : Entry) : Prop where
  hash : x ∉ e.hash.toList
  scope : x ∉ e.scope.toList
  description : x ∉ e.description.toList

variable {e : Entry} {es : List Entry} {c : Categories} {title version date : String}
    {line : Entry → String} {x : Char}

lemma Entry.Lacks.scopedLine (hx : x ∈ ['\n', '\r']) (h : e.Lacks x) : x ∉ e.scopedLine.toList := by
  obtain ⟨hhash, hscope, hdescription⟩ := h
  unfold Entry.scopedLine
  simp only [mem_cons, not_mem_nil, or_false] at hx
  rcases hx with rfl | rfl <;> split_ifs <;> simp [hhash, hscope, hdescription]

lemma Entry.Lacks.plainLine (hx : x ∈ ['\n', '\r']) (h : e.Lacks x) : x ∉ e.plainLine.toList := by
  obtain ⟨hhash, -, hdescription⟩ := h
  unfold Entry.plainLine
  simp only [mem_cons, not_mem_nil, or_false] at hx
  rcases hx with rfl | rfl <;> simp [hhash, hdescription]

lemma mem_partLines {l : String} (hl : l ∈ partLines title line es) :
    l = "### " ++ title ∨ l = "" ∨ ∃ e ∈ es, line e = l := by
  unfold partLines at hl
  split_ifs at hl
  · cases hl
  · simp only [mem_append, mem_cons, not_mem_nil, or_false, List.mem_map] at hl
    tauto

lemma notMem_of_mem_partLines (hx : x ∈ ['\n', '\r']) (htitle : x ∉ title.toList)
    (hline : ∀ e ∈ es, x ∉ (line e).toList) {l : String} (hl : l ∈ partLines title line es) :
    x ∉ l.toList := by
  rcases mem_partLines hl with rfl | rfl | ⟨e, he, rfl⟩
  · have hmark : ∀ x ∈ ['\n', '\r'], x ∉ "### ".toList := Text.forall_mem_of_all (by decide)
    rw [String.toList_append, mem_append, not_or]
    exact ⟨hmark x hx, htitle⟩
  · simp
  · exact hline e he

lemma filter_partLines {p : String → Bool} (hmark : ∀ title, p ("### " ++ title) = false)
    (hempty : p "" = false) (title : String) (line : Entry → String) (es : List Entry) :
    (partLines title line es).filter p = (es.map line).filter p := by
  unfold partLines
  split_ifs with hes
  · rw [isEmpty_iff.mp hes]
    rfl
  · simp [filter_append, hmark, hempty]

lemma sectionLines_eq (version date : String) (c : Categories) :
    sectionLines version date c = headingOf version date :: "" ::
      (sectionTitles.flatMap (fun (k, title) => partLines title Entry.scopedLine (c k))
        ++ partLines "Other Changes" Entry.plainLine (c .other)) := rfl

lemma notMem_of_mem_sectionLines (hx : x ∈ ['\n', '\r']) (hversion : x ∉ version.toList)
    (hdate : x ∉ date.toList) (hc : ∀ k, ∀ e ∈ c k, e.Lacks x) {l : String}
    (hl : l ∈ sectionLines version date c) : x ∉ l.toList := by
  have hfixed : ∀ x ∈ ['\n', '\r'],
      x ∉ "## [".toList ∧ x ∉ "] - ".toList ∧ x ∉ "Other Changes".toList ∧
      ∀ t ∈ sectionTitles, x ∉ t.2.toList := Text.forall_mem_of_all (by decide)
  obtain ⟨hopen, hclose, hother, htitles⟩ := hfixed x hx
  rw [sectionLines_eq] at hl
  simp only [mem_cons, mem_append, mem_flatMap] at hl
  rcases hl with rfl | rfl | ⟨t, ht, hl⟩ | hl
  · simp only [headingOf, String.toList_append, mem_append, not_or]
    exact ⟨⟨⟨hopen, hversion⟩, hclose⟩, hdate⟩
  · simp
  · exact notMem_of_mem_partLines hx (htitles t ht) (fun e he => (hc t.1 e he).scopedLine hx) hl
  · exact notMem_of_mem_partLines hx hother (fun e he => (hc .other e he).plainLine hx) hl

/-- The lines of the entries, in the order of the section. -/
def entryLines (c : Categories) : List String :=
  sectionTitles.flatMap (fun t => (c t.1).map Entry.scopedLine) ++ (c .other).map Entry.plainLine

/-- Whatever does not tell of titles and empty lines tells of the heading and of the lines of
entries. -/
lemma filter_sectionLines {p : String → Bool} (hmark : ∀ title, p ("### " ++ title) = false)
    (hempty : p "" = false) (version date : String) (c : Categories) :
    (sectionLines version date c).filter p = (headingOf version date :: entryLines c).filter p := by
  have hparts :
      (sectionTitles.flatMap (fun (k, title) => partLines title Entry.scopedLine (c k))).filter p =
      (sectionTitles.flatMap fun t => (c t.1).map Entry.scopedLine).filter p := by
    rw [filter_flatMap, filter_flatMap]
    exact congrArg sectionTitles.flatMap (funext fun t => filter_partLines hmark hempty t.2 _ _)
  rw [sectionLines_eq, filter_cons, filter_cons_of_neg (by simp [hempty]), filter_append, hparts,
    filter_partLines hmark hempty, ← filter_append, ← filter_cons]
  rfl

lemma mem_entryLines {l : String} (hl : l ∈ entryLines c) :
    ∃ e : Entry, l = e.scopedLine ∨ l = e.plainLine := by
  simp only [entryLines, mem_append, mem_flatMap, List.mem_map] at hl
  rcases hl with ⟨-, -, e, -, rfl⟩ | ⟨e, -, rfl⟩
  · exact ⟨e, .inl rfl⟩
  · exact ⟨e, .inr rfl⟩

lemma exists_mem_entryLines {k : Kind} (he : e ∈ c k) :
    ∃ l ∈ entryLines c, l = e.scopedLine ∨ l = e.plainLine := by
  have htitle : k = .other ∨ ∃ t ∈ sectionTitles, t.1 = k := by cases k <;> decide
  rcases htitle with rfl | ⟨t, ht, rfl⟩
  · exact ⟨_, mem_append_right _ (mem_map_of_mem he), .inr rfl⟩
  · exact ⟨_, mem_append_left _ (mem_flatMap.mpr ⟨t, ht, mem_map_of_mem he⟩), .inl rfl⟩

lemma length_entryLines (c : Categories) :
    (entryLines c).length = (Kind.all.map fun k => (c k).length).sum := by
  simp only [entryLines, sectionTitles, Kind.all, flatMap_cons, flatMap_nil, append_nil,
    length_append, length_map, map_cons, map_nil, sum_cons, sum_nil]
  omega

lemma filter_isHeading_sectionLines (version date : String) (c : Categories) :
    (sectionLines version date c).filter isHeading = [headingOf version date] := by
  have hheading : isHeading (headingOf version date) = true := by
    simp [isHeading, headingOf, startsWith_iff]
  have hentries : (entryLines c).filter isHeading = [] := by
    refine filter_eq_nil_iff.mpr fun l hl => ?_
    obtain ⟨e, rfl | rfl⟩ := mem_entryLines hl
    · simp [isHeading, Entry.scopedLine, startsWith_iff]
    · simp [isHeading, Entry.plainLine, startsWith_iff]
  have hmark : ∀ title, isHeading ("### " ++ title) = false := by
    simp [isHeading, ← Bool.not_eq_true, startsWith_iff]
  rw [filter_sectionLines hmark (by decide), filter_cons_of_pos hheading, hentries]

lemma Commit.eq_entry_of_mem_entriesFor {commit : Commit} {k : Kind}
    (he : e ∈ commit.entriesFor k) : e = commit.entry := by
  unfold Commit.entriesFor at he
  rcases mem_append.mp he with he | he
  all_goals
    split_ifs at he
    · exact mem_singleton.mp he
    · cases he

lemma Commit.parsed_texts (commit : Commit) :
    commit.parsed.scope = (Workbench.Commit.Subject.ofText commit.subject).scope ∧
      commit.parsed.description = (Workbench.Commit.Subject.ofText commit.subject).description := by
  unfold Commit.parsed
  dsimp only
  split_ifs <;> exact ⟨rfl, rfl⟩

lemma Commit.lacks_of_mem_entriesFor {commit : Commit} (hhash : x ∉ commit.hash.toList)
    (hsubject : x ∉ commit.subject.toList) {k : Kind} (he : e ∈ commit.entriesFor k) :
    e.Lacks x := by
  obtain ⟨hscope, hdescription⟩ := Workbench.Commit.Subject.subset_ofText commit.subject
  rw [commit.eq_entry_of_mem_entriesFor he]
  refine ⟨hhash, fun hmem => hsubject (hscope ?_), fun hmem => hsubject (hdescription ?_)⟩
  · rwa [← commit.parsed_texts.1]
  · rwa [← commit.parsed_texts.2]

lemma Commit.subset_short (commit : Commit) : commit.short.hash.toList ⊆ commit.hash.toList := by
  rw [Commit.short, take, String.toList_ofList]
  exact (take_sublist 7 _).subset

/-! ### The text of a changelog -/

/-- A changelog with its head. -/
def changelogOf (sections : List String) : String := changelogHead ++ join "\n" sections

def headLines : List String :=
  ["# Changelog", "", "All notable changes to this project will be documented in this file.", ""]

def headFront : String := join "\n" headLines

lemma changelogHead_eq : changelogHead = headFront ++ "\n" := by decide

lemma notWithin_headFront (tail : Chars) :
    NotWithin "\n## ".toList headFront.toList ("\n## ".toList ++ tail) := by
  have hparts : headFront.toList = "# Changelog".toList ++ ("\n\n".toList ++
      ("All notable changes to this project will be documented in this file.".toList ++
        "\n".toList)) := by decide
  rw [hparts]
  refine notWithin_append.mpr ⟨notWithin_of_notMem (by decide) _ _, ?_⟩
  refine notWithin_append.mpr ⟨?_, notWithin_append.mpr ⟨notWithin_of_notMem (by decide) _ _, ?_⟩⟩
  · simp [notWithin_cons, notWithin_nil]
  · simp [notWithin_cons, notWithin_nil]

lemma exists_join_of_isHeading {s : String} (hs : isHeading s = true) (ss : List String) :
    ∃ tail, join "\n" (s :: ss) = "## " ++ tail := by
  obtain ⟨r, hr⟩ := startsWith_iff.mp hs
  have hs : s = "## " ++ .ofList r := by
    refine String.toList_injective (hr.symm.trans ?_)
    simp
  cases ss with
  | nil => exact ⟨_, hs⟩
  | cons s' ss =>
    refine ⟨.ofList r ++ "\n" ++ join "\n" (s' :: ss), ?_⟩
    rw [Text.join.eq_3 "\n" s (s' :: ss) (by simp), hs]
    simp only [String.append_assoc]

/-- A section is put right behind the head of a changelog. -/
theorem prepend_changelogOf {s : String} (hs : isHeading s = true) (ss : List String)
    (added : String) :
    prepend (changelogOf (s :: ss)) added = changelogOf (added :: s :: ss) := by
  obtain ⟨tail, htail⟩ := exists_join_of_isHeading hs ss
  have htext : changelogOf (s :: ss) = headFront ++ ("\n## " ++ tail) := by
    refine String.toList_injective ?_
    rw [changelogOf, htail, changelogHead_eq]
    simp only [String.toList_append, append_assoc]
    rfl
  have hfind : find? (changelogOf (s :: ss)) "\n## " = some headFront.length := by
    rw [htext]
    refine find?_append (by decide) ?_
    rw [String.toList_append]
    exact notWithin_headFront _
  have htake : take (headFront ++ ("\n## " ++ tail)) headFront.length = headFront := take_append _ _
  have hdrop : drop (headFront ++ ("\n## " ++ tail)) headFront.length = "\n## " ++ tail :=
    drop_append _ _
  have hheading : "\n## " ++ tail = "\n" ++ ("## " ++ tail) := by
    rw [← String.append_assoc]
    rfl
  rw [prepend, hfind]
  dsimp only
  rw [htext, htake, hdrop, changelogOf, Text.join.eq_3 "\n" added (s :: ss) (by simp), htail,
    changelogHead_eq, hheading]
  simp only [String.append_assoc]

lemma split_changelogOf {lss : List (List String)} (hne : lss ≠ []) (hlss : ∀ ls ∈ lss, ls ≠ [])
    (hlines : ∀ ls ∈ lss, ∀ l ∈ ls, IsLine l) :
    split (changelogOf (lss.map (join "\n"))) "\n" = headLines ++ lss.flatten := by
  have hflat : lss.flatten ≠ [] := by
    obtain ⟨ls, hls⟩ := exists_mem_of_ne_nil lss hne
    exact fun hnil => hlss ls hls (flatten_eq_nil_iff.mp hnil ls hls)
  have htext : changelogOf (lss.map (join "\n")) = join "\n" (headLines ++ lss.flatten) := by
    rw [join_append_append (by decide) hflat, changelogOf, join_map_join hlss,
      changelogHead_eq, headFront]
  rw [htext]
  refine split_join_lines (by simp [headLines]) fun l hl => ?_
  rcases mem_append.mp hl with hl | hl
  · have hhead : ∀ l ∈ headLines, IsLine l := by decide
    exact (hhead l hl).1
  · obtain ⟨ls, hls, hl⟩ := mem_flatten.mp hl
    exact (hlines ls hls l hl).1

lemma notMem_changelogOf {lss : List (List String)} (hlines : ∀ ls ∈ lss, ∀ l ∈ ls, IsLine l) :
    '\r' ∉ (changelogOf (lss.map (join "\n"))).toList := by
  intro hmem
  rw [changelogOf, String.toList_append, mem_append] at hmem
  rcases hmem with hmem | hmem
  · exact absurd hmem (by decide)
  · rcases mem_join hmem with hmem | ⟨s, hs, hmem⟩
    · exact absurd hmem (by decide)
    · obtain ⟨ls, hls, rfl⟩ := mem_map.mp hs
      rcases mem_join hmem with hmem | ⟨l, hl, hmem⟩
      · exact absurd hmem (by decide)
      · exact (hlines ls hls l hl).2 hmem

/-! ### Entries of a section -/

/-- A line tells of an entry. -/
structure Entry.ShownBy (e : Entry) (line : String) : Prop where
  isItem : startsWith line "- " = true
  description : contains line e.description = true
  hash : endsWith line ("(" ++ e.hash ++ ")") = true

lemma Entry.shownBy (e : Entry) (lead : String) :
    e.ShownBy ("- " ++ lead ++ e.description ++ " (" ++ e.hash ++ ")") := by
  refine ⟨startsWith_iff.mpr ?_, contains_iff.mpr ?_, endsWith_iff.mpr ?_⟩
  · exact ⟨lead.toList ++
      (e.description.toList ++ (" (".toList ++ (e.hash.toList ++ ")".toList))), by simp⟩
  · exact ⟨"- ".toList ++ lead.toList, " (".toList ++ (e.hash.toList ++ ")".toList), by simp⟩
  · exact ⟨"- ".toList ++ (lead.toList ++ (e.description.toList ++ " ".toList)), by simp⟩

lemma Entry.shownBy_line {l : String} (h : l = e.scopedLine ∨ l = e.plainLine) : e.ShownBy l := by
  rcases h with rfl | rfl
  · exact e.shownBy _
  · simpa [Entry.plainLine] using e.shownBy ""

lemma filter_isItem_sectionLines (version date : String) (c : Categories) :
    (sectionLines version date c).filter (startsWith · "- ") = entryLines c := by
  have hmark : ∀ title, startsWith ("### " ++ title) "- " = false := by
    simp [← Bool.not_eq_true, startsWith_iff]
  have hheading : ¬ startsWith (headingOf version date) "- " = true := by
    simp [headingOf, startsWith_iff]
  rw [filter_sectionLines hmark (by decide), filter_cons_of_neg (p := (startsWith · "- ")) hheading,
    filter_eq_self]
  intro l hl
  obtain ⟨e, he⟩ := mem_entryLines hl
  exact (Entry.shownBy_line he).isItem

lemma Commit.exists_mem_categorize {cs : List Commit} {commit : Commit} (h : commit ∈ cs) :
    ∃ k, commit.entry ∈ categorize cs k :=
  ⟨Kind.ofType commit.parsed.type, mem_flatMap.mpr ⟨commit, h, by simp [Commit.entriesFor]⟩⟩

lemma exists_exec_sectionDate {date : Option String}
    (hdate : ∀ d ∈ date, '\n' ∉ d.toList) (w : World) :
    ∃ day, (sectionDate date).exec w = (.ok day, w) ∧ '\n' ∉ day.toList := by
  have htoday : '\n' ∉ w.now.date.plain.toList :=
    (Calendar.notMem_plain (by decide) (by decide) _).2
  unfold sectionDate
  split
  · exact ⟨_, rfl, htoday⟩
  · exact ⟨_, rfl, htoday⟩
  · rename_i d _
    exact ⟨d, rfl, hdate d rfl⟩

/-- Of the lines of a section, as many are items as there are entries in all kinds together, and
each commit has an item that ends with its hash and tells its description. -/
theorem section_shows_commits {cs : List Commit} {date : Option String}
    (hcs : ∀ c ∈ cs, '\n' ∉ c.hash.toList ∧ '\n' ∉ c.subject.toList)
    (hversion : '\n' ∉ version.toList) (hdate : ∀ d ∈ date, '\n' ∉ d.toList) (w : World) :
    ∃ text, (do return changelogSection version (← sectionDate date) (categorize cs) :
        Tool String).exec w = (.ok text, w) ∧
      ((split text "\n").filter fun line => startsWith line "- ").length =
        (Kind.all.map fun k => (categorize cs k).length).sum ∧
      ∀ c ∈ cs, ∃ line ∈ split text "\n", startsWith line "- " = true ∧
        contains line (Workbench.Commit.Subject.ofText c.subject).description = true ∧
        endsWith line ("(" ++ c.hash ++ ")") = true := by
  obtain ⟨day, hday, hplain⟩ := exists_exec_sectionDate hdate w
  have hlines : split (changelogSection version day (categorize cs)) "\n" =
      sectionLines version day (categorize cs) := by
    refine split_join_lines (by simp [sectionLines_eq]) fun l hl => ?_
    refine notMem_of_mem_sectionLines (by decide) hversion hplain (fun k e he => ?_) hl
    obtain ⟨c, hc, he⟩ := mem_flatMap.mp he
    exact Commit.lacks_of_mem_entriesFor (hcs c hc).1 (hcs c hc).2 he
  refine ⟨_, Tool.exec_bind_ok hday _, ?_, fun c hc => ?_⟩
  · rw [hlines, filter_isItem_sectionLines, length_entryLines]
  · obtain ⟨k, hk⟩ := Commit.exists_mem_categorize hc
    obtain ⟨l, hl, hshown⟩ := exists_mem_entryLines hk
    rw [← filter_isItem_sectionLines version day] at hl
    obtain ⟨hitem, hdescription, hhash⟩ := Entry.shownBy_line hshown
    rw [Commit.entry, c.parsed_texts.2] at hdescription
    exact ⟨l, hlines ▸ (mem_filter.mp hl).1, hitem, hdescription, hhash⟩

/-- A breaking change with a scope, told twice, and a commit whose subject has no type but begins
like an item. -/
def toldCommits : List Commit :=
  [⟨"a1b2c3d", "feat(core)!: start", ""⟩, ⟨"d4e5f6a", "- merge (x)", ""⟩]

/-- Two commits have three lines, as one of them is shown as breaking too. -/
theorem toldCommits_shown : ∃ text,
    (do return changelogSection "1.0.0" (← sectionDate none) (categorize toldCommits) :
        Tool String).exec {} = (.ok text, {}) ∧
      ((split text "\n").filter fun line => startsWith line "- ").length = 3 ∧
      ∃ line ∈ split text "\n",
        contains line "- merge (x)" = true ∧ endsWith line "(d4e5f6a)" = true := by
  have hcommits : ∀ c ∈ toldCommits, '\n' ∉ c.hash.toList ∧ '\n' ∉ c.subject.toList := by decide
  have hversion : '\n' ∉ "1.0.0".toList := by decide
  have hdate : ∀ d ∈ (none : Option String), '\n' ∉ d.toList := by simp
  obtain ⟨text, hexec, hlength, hlines⟩ := section_shows_commits hcommits hversion hdate {}
  obtain ⟨line, hline, -, hdescription, hhash⟩ := hlines ⟨"d4e5f6a", "- merge (x)", ""⟩ (by decide)
  exact ⟨text, hexec, hlength.trans (by decide), line, hline, hdescription, hhash⟩

/-! ### The place of a section -/

open Tool World

variable {existing : String}

/-- Behind `front` a line begins like the heading of a release. -/
def ReleaseAt (text front : String) : Prop :=
  ∃ rest, text = front ++ rest ∧ (front = "" ∨ endsWith front "\n" = true) ∧
    startsWith rest "## [" = true

/-- Sections are put into a text between `front` and `rest`, with a line end before them or without
one. -/
structure Slot (existing front rest : String) : Prop where
  parts : existing = front ++ rest
  inserts : ∃ gap, (gap = "" ∨ gap = "\n") ∧ ∀ added,
    prepend existing added = front ++ (gap ++ added) ++ rest

/-- All releases stand behind `front`. -/
def BeforeReleases (existing front : String) : Prop :=
  ∀ lead, ReleaseAt existing lead → front.length ≤ lead.length

lemma releaseAt_empty (h : startsWith existing "## [" = true) : ReleaseAt existing "" :=
  ⟨existing, by simp, .inl rfl, h⟩

/-- The heading of a release is on the first line, or on one behind a line end. -/
lemma ReleaseAt.cases {lead : String} (h : ReleaseAt existing lead) :
    (lead = "" ∧ startsWith existing "## [" = true) ∨
      ∃ f r, lead.toList = f ++ ['\n'] ∧ existing.toList = f ++ ("\n## ".toList ++ r) := by
  obtain ⟨rest, rfl, hend, hrest⟩ := h
  rcases hend with rfl | hend
  · exact .inl ⟨rfl, by rwa [String.empty_append]⟩
  · obtain ⟨f, hf⟩ := endsWith_iff.mp hend
    obtain ⟨r, hr⟩ := startsWith_iff.mp hrest
    refine .inr ⟨f, '[' :: r, hf.symm, ?_⟩
    rw [String.toList_append, ← hf, ← hr]
    simp

/-! ### A heading below the first line -/

lemma exists_slot_of_contains (h : contains existing "\n## " = true) :
    ∃ front rest, Slot existing front rest ∧
      (BeforeReleases existing front ↔ startsWith existing "## [" = false) := by
  obtain ⟨u, v, hparts, hfirst⟩ := exists_first (contains_iff.mp h)
  have hwithin : NotWithin "\n## ".toList u ("\n## ".toList ++ v) := by simpa using hfirst []
  have htext : existing = .ofList u ++ ("\n## " ++ .ofList v) :=
    String.toList_injective (by simpa using hparts)
  refine ⟨.ofList u, "\n## " ++ .ofList v, ⟨htext, "\n", .inr rfl, fun added => ?_⟩,
    ⟨fun hbefore => ?_, fun hfront => ?_⟩⟩
  · have hfind : find? existing "\n## " = some (String.ofList u).length := by
      rw [htext]
      exact find?_append (by decide) (by simpa using hwithin)
    rw [prepend, hfind]
    dsimp only
    rw [htext, Text.take_append, Text.drop_append]
    simp only [String.append_assoc]
  · by_contra hstart
    have hlength := hbefore "" (releaseAt_empty (by simpa using hstart))
    obtain rfl : u = [] := by simpa using hlength
    obtain ⟨r, hr⟩ := startsWith_iff.mp ((Bool.not_eq_false _).mp hstart)
    rw [hparts] at hr
    simp at hr
  · intro lead hlead
    rcases hlead.cases with ⟨-, hstart⟩ | ⟨f, r, hlead, hr⟩
    · rw [hstart] at hfront
      cases hfront
    · -- Were the heading before the place, it would be found there.
      by_contra hshort
      have hlength : f.length < u.length := by
        have hlen := congrArg length hlead
        simp only [length_append, length_singleton, String.length_toList] at hlen
        simp only [String.length_ofList] at hshort
        omega
      obtain ⟨t, rfl⟩ : f <+: u :=
        prefix_of_prefix_length_le ⟨_, hr.symm⟩ ⟨_, hparts.symm⟩ hlength.le
      have hne : t ≠ [] := by
        rintro rfl
        simp at hlength
      refine hwithin t hne (suffix_append f t) ⟨r, ?_⟩
      rw [hr, append_assoc] at hparts
      exact append_cancel_left hparts

/-! ### No such heading -/

lemma isHeadLine_of_release {line : String} (h : startsWith line "## [" = true) :
    isHeadLine line = false := by
  have hblank : trim line ≠ "" := by
    intro hempty
    obtain ⟨r, hr⟩ := startsWith_iff.mp h
    exact absurd (trim_eq_empty_iff.mp hempty '#' (by rw [← hr]; simp)) (by decide)
  simp [isHeadLine, h, hblank]

lemma takeWhile_isHeadLine (h : startsWith existing "## [" = true) :
    (split existing "\n").takeWhile isHeadLine = [] := by
  obtain ⟨r, hr⟩ := startsWith_iff.mp h
  obtain ⟨t, ts, hpieces⟩ := exists_pieces_append (s := r)
    (notWithin_of_notMem (x := '\n') (u := "## [".toList) (by decide) [] r)
  have hline : startsWith (String.ofList ("## [".toList ++ t)) "## [" = true :=
    startsWith_iff.mpr (by simp)
  rw [split_eq, ← hr]
  refine (congrArg (takeWhile isHeadLine ∘ map String.ofList) hpieces).trans ?_
  exact takeWhile_cons_of_neg (by rw [isHeadLine_of_release hline]; decide)

lemma exists_slot_of_not_contains (h : contains existing "\n## " = false) :
    ∃ front rest, Slot existing front rest ∧ BeforeReleases existing front := by
  have hfind : find? existing "\n## " = none :=
    find?_eq_none (by decide) (by rw [← contains_iff, h]; decide)
  have hother : ∀ lead, ReleaseAt existing lead → startsWith existing "## [" = true := by
    intro lead hlead
    rcases hlead.cases with ⟨-, hstart⟩ | ⟨f, r, -, hr⟩
    · exact hstart
    · refine absurd (contains_iff.mpr ⟨f, r, ?_⟩) (by rw [h]; decide)
      rw [hr, append_assoc]
  obtain ⟨head, hhead⟩ : ∃ head, head = (split existing "\n").takeWhile isHeadLine := ⟨_, rfl⟩
  obtain ⟨tail, htail⟩ : ∃ tail, tail = (split existing "\n").dropWhile isHeadLine := ⟨_, rfl⟩
  have hlines : split existing "\n" = head ++ tail := by
    rw [hhead, htail, takeWhile_append_dropWhile]
  have htext : existing = join "\n" (head ++ tail) := by rw [← hlines, join_split rfl]
  have hprepend : ∀ added, prepend existing added = join "\n" head ++ "\n" ++ added ++
      join "\n" tail := by
    intro added
    rw [prepend, hfind]
    dsimp only
    rw [← hhead, hlines, drop_left]
  by_cases hempty : head = []
  · refine ⟨"", existing, ⟨by simp, "\n", .inr rfl, fun added => ?_⟩, fun lead _ => by simp⟩
    rw [hprepend, htext, hempty]
    simp [join]
  · -- A text that does not begin with a release has none.
    have hnone : ∀ lead, ¬ ReleaseAt existing lead := fun lead hlead =>
      hempty (hhead.trans (takeWhile_isHeadLine (hother lead hlead)))
    by_cases hlast : tail = []
    · refine ⟨existing, "", ⟨by simp, "\n", .inr rfl, fun added => ?_⟩, fun lead hlead =>
        absurd hlead (hnone lead)⟩
      rw [hprepend, htext, hlast]
      simp [join, String.append_assoc]
    · refine ⟨join "\n" head ++ "\n", join "\n" tail, ⟨?_, "", .inl rfl, fun added => ?_⟩,
        fun lead hlead => absurd hlead (hnone lead)⟩
      · rw [← join_append_append hempty hlast, htext]
      · rw [hprepend, String.empty_append]

/-- A changelog has one place for a new section, which is before all releases unless one of several
stands at the very top. -/
theorem exists_slot (existing : String) : ∃ front rest, Slot existing front rest ∧
    (BeforeReleases existing front ↔
      ¬ (startsWith existing "## [" = true ∧ contains existing "\n## " = true)) := by
  cases hfound : contains existing "\n## " with
  | true =>
    obtain ⟨front, rest, hslot, hbefore⟩ := exists_slot_of_contains hfound
    exact ⟨front, rest, hslot, by simpa using hbefore⟩
  | false =>
    obtain ⟨front, rest, hslot, hbefore⟩ := exists_slot_of_not_contains hfound
    exact ⟨front, rest, hslot, by simpa using hbefore⟩

/-! ### The file -/

/-- A section is written into a changelog between two parts of its text, at most with a line end
before it.  It comes before all releases exactly if the first line is not the heading of a release
or no heading follows it. -/
theorem addToFile_inserts {w : World} {file : Path} (hreaches : w.Reaches file.toString)
    (htext : w.file? file.toString = some (.text existing)) (hlines : '\r' ∉ existing.toList) :
    ∃ front gap rest, existing = front ++ rest ∧ (gap = "" ∨ gap = "\n") ∧
      (∀ added, ∃ w', (addToFile file true added).exec w = (.ok (), w') ∧
        w'.file? file.toString = some (.text (front ++ (gap ++ added) ++ rest))) ∧
      ((∀ lead, ReleaseAt existing lead → front.length ≤ lead.length) ↔
        ¬ (startsWith existing "## [" = true ∧ contains existing "\n## " = true)) := by
  obtain ⟨front, rest, ⟨hparts, gap, hgap, hinserts⟩, hbefore⟩ := exists_slot existing
  refine ⟨front, gap, rest, hparts, hgap, fun added => ?_, hbefore⟩
  obtain ⟨t, hwrite, hsets⟩ := exec_writeText_of_file? hreaches htext (prepend existing added)
  have hread : (readText file.toString).exec w = (.ok existing, w) :=
    exec_readText_ok hreaches htext
      (by rw [decodeText, unixLineEnds_of_notMem hlines, String.ofList_toList])
  unfold addToFile
  refine ⟨_, (exec_bind_ok (exec_pathExists_of_file? hreaches htext) _).trans
    ((exec_bind_ok hread _).trans
    ((exec_bind_ok hwrite _).trans rfl)), ?_⟩
  have hplace : ({ w with files := t } : World).place file.toString = w.place file.toString :=
    place_files hsets.links _
  rw [← hinserts]
  exact (congrArg t.file? hplace).trans hsets.here

/-- A changelog of two releases without a head. -/
def headless : String := "## [2.0.0] - 2025-01-01\n\n- x\n\n## [1.0.0] - 2024-01-01\n"

def headlessWorld : World where
  files := { entries := [(["CHANGELOG.md"], .file (.text headless) false)] }

/-- In a changelog without a head, sections are put behind the release on the first line. -/
theorem headless_behind_release : ∃ front gap rest, headless = front ++ rest ∧
    (∀ added, ∃ w', (addToFile ⟨false, ["CHANGELOG.md"]⟩ true added).exec headlessWorld =
      (.ok (), w') ∧
      w'.file? "CHANGELOG.md" = some (.text (front ++ (gap ++ added) ++ rest))) ∧
    ∃ lead, ReleaseAt headless lead ∧ lead.length < front.length := by
  have hfile : headlessWorld.file? "CHANGELOG.md" = some (.text headless) := by decide +kernel
  have hreaches : headlessWorld.Reaches (Path.toString ⟨false, ["CHANGELOG.md"]⟩) :=
    ⟨by decide, by decide +kernel⟩
  obtain ⟨front, gap, rest, hparts, -, hwrites, hbefore⟩ :=
    addToFile_inserts hreaches hfile (by decide +kernel)
  have hfirst : startsWith headless "## [" = true ∧ contains headless "\n## " = true := by
    decide +kernel
  have hbehind := mt hbefore.mp (not_not_intro hfirst)
  push Not at hbehind
  exact ⟨front, gap, rest, hparts, hwrites, hbehind⟩

end Release

end Workbench
