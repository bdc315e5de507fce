import Workbench.Branch.Worktree
import Workbench.Proofs.Branch.Git
import Workbench.Proofs.Text.Split
import Workbench.Proofs.Text.Trim
import Workbench.Proofs.World.Names

/-!
# Listings of git

git lists worktrees record by record, and branches line by line with a mark before each name.  What
it prints of worktrees is read back record by record.
-/

open List

namespace Workbench.Branch

open Text

variable {b : Mark × String}

/-! ### Printed lines -/

/-- Lines as they are printed. -/
def printLines (lines : List String) : String := String.join (lines.map (· ++ "\n"))

lemma printLines_eq {lines : List String} (hne : lines ≠ []) :
    printLines lines = join "\n" lines ++ "\n" := by
  refine String.toList_injective ?_
  unfold printLines
  induction lines with
  | nil => exact absurd rfl hne
  | cons line lines ih =>
    cases lines with
    | nil => simp [join]
    | cons next lines =>
      have hrest := ih (by simp)
      rw [join.eq_3 "\n" line (next :: lines) (by simp)]
      simp only [String.toList_join, String.toList_append, map_cons, flatMap_cons] at hrest ⊢
      rw [hrest]
      simp

lemma trim_printLines {lines : List String} (hne : lines ≠ []) :
    trim (printLines lines) = trim (join "\n" lines) := by
  rw [printLines_eq hne, trim, trim, String.toList_append]
  exact congrArg String.ofList (trimWhile_concat (by decide) _)

lemma trim_join {lines : List String} {first last : String} {x y : Char}
    (hfirst : first ∈ lines.head?) (hx : x ∈ first.toList.head?) (hblank : isBlank x = false)
    (hlast : last ∈ lines.getLast?)
    (hy : y ∈ last.toList.getLast?) (hblank' : isBlank y = false) :
    trim (join "\n" lines) = join "\n" lines := by
  have hhead : (join "\n" lines).toList.head? = some x := by
    cases lines with
    | nil => cases hfirst
    | cons line lines =>
      obtain rfl : line = first := Option.some.inj hfirst
      rw [toList_join, map_cons]
      cases lines with
      | nil => rwa [map_nil, intercalate_singleton]
      | cons next lines =>
        rw [map_cons, intercalate_cons_cons, append_assoc, head?_append, Option.mem_def.mp hx]
        rfl
  have htail : (join "\n" lines).toList.getLast? = some y := by
    obtain ⟨front, rfl⟩ := getLast?_eq_some_iff.mp hlast
    cases front with
    | nil => exact hy
    | cons line front =>
      rw [join_append (by simp), String.toList_append, getLast?_append, Option.mem_def.mp hy]
      rfl
  rw [trim, trimWhile_eq_self, String.ofList_toList]
  · intro c hc
    obtain rfl := Option.some.inj (hhead.symm.trans hc)
    exact hblank
  · intro c hc
    obtain rfl := Option.some.inj (htail.symm.trans hc)
    exact hblank'

lemma trim_join_gap {lines gap : List String} (hne : lines ≠ []) (hgap : ∀ l ∈ gap, trim l = "") :
    trim (join "\n" (lines ++ gap)) = trim (join "\n" lines) := by
  by_cases hempty : gap = []
  · rw [hempty, append_nil]
  rw [join_append_append hne hempty, String.append_assoc]
  refine trim_append_blank (fun c hc => ?_) _
  rw [String.toList_append] at hc
  rcases (mem_append.mp hc).imp_right mem_join with hc | hc | ⟨l, hl, hc⟩
  · rw [mem_singleton.mp hc]
    decide
  · rw [mem_singleton.mp hc]
    decide
  · exact trim_eq_empty_iff.mp (hgap l hl) c hc

/-- Of lines that begin with a letter and end with a line that is not blank, only the white space at
the end is trimmed. -/
lemma trim_join_concat {lines : List String} {first last : String} {x : Char}
    (hfirst : first ∈ lines.head?) (hx : x ∈ first.toList.head?) (hblank : isBlank x = false)
    (hlast : trim last ≠ "") :
    trim (join "\n" (lines ++ [last])) = join "\n" (lines ++ [trimEnd last]) := by
  have hne : lines ≠ [] := by
    rintro rfl
    cases hfirst
  have hhead : first ∈ (lines ++ [trimEnd last]).head? := by
    rw [head?_append, Option.mem_def.mp hfirst]
    rfl
  obtain ⟨y, hy, hblank'⟩ := exists_getLast?_trimEnd hlast
  obtain ⟨rest, hrest, hall⟩ := exists_eq_trimEnd_append last
  have hcut : join "\n" (lines ++ [last]) = join "\n" (lines ++ [trimEnd last]) ++ rest := by
    rw [join_append hne, join_append hne]
    conv_lhs => rw [hrest]
    simp only [String.append_assoc]
  rw [hcut, trim_append_blank hall, trim_join hhead hx hblank (by simp) hy hblank']

/-! ### Worktrees -/

namespace Worktree

/-- What is checked out in a worktree. -/
inductive Head where
  | bare
  | detached (commit : String)
  | on (commit branch : String)

/-- A line that says whether a worktree is locked or may be pruned. -/
def IsNote (line : String) : Prop :=
  "locked".toList <+: line.toList ∨ "prunable".toList <+: line.toList

instance (line : String) : Decidable (IsNote line) := inferInstanceAs (Decidable (_ ∨ _))

/-- The records once the last one is complete. -/
def closed (state : List Record × Record) : List Record :=
  if state.2.isEmpty then state.1 else state.1 ++ [state.2]

lemma ofListing_eq (text : String) :
    ofListing text = closed ((split text "\n").foldl addLine ([], {})) := rfl

variable {state : List Record × Record}

lemma dropFront?_lead (lead line : String) :
    dropFront? lead.toList (lead ++ line).toList = some line.toList := by
  rw [String.toList_append, dropFront?_append]

lemma addLine_path (state : List Record × Record) (path : String) :
    addLine state ("worktree " ++ path) = (closed state, { path := some path }) := by
  simp only [addLine, dropFront?_lead, Option.map_some, String.ofList_toList]
  rfl

lemma addLine_commit (state : List Record × Record) (commit : String) :
    addLine state ("HEAD " ++ commit) =
      (state.1, { state.2 with commit := some (take commit 8) }) := by
  have hpath : dropFront? "worktree ".toList ("HEAD " ++ commit).toList = none :=
    dropFront?_eq_none (by simp)
  simp only [addLine, hpath, dropFront?_lead, Option.map_none, Option.map_some,
    String.ofList_toList]

lemma addLine_branch (state : List Record × Record) {branch : String}
    (h : ¬ "refs/heads/".toList <:+: branch.toList) :
    addLine state ("branch refs/heads/" ++ branch) =
      (state.1, { state.2 with branch := some branch }) := by
  have hpath : dropFront? "worktree ".toList ("branch refs/heads/" ++ branch).toList = none :=
    dropFront?_eq_none (by simp)
  have hcommit : dropFront? "HEAD ".toList ("branch refs/heads/" ++ branch).toList = none :=
    dropFront?_eq_none (by simp)
  have hbranch : dropFront? "branch ".toList ("branch refs/heads/" ++ branch).toList =
      some ("refs/heads/" ++ branch).toList := by
    rw [← dropFront?_lead "branch ", ← String.append_assoc]
    rfl
  have hname : replace ("refs/heads/" ++ branch) "refs/heads/" "" = branch :=
    replace_front (by decide) h
  simp only [addLine, hpath, hcommit, hbranch, Option.map_none, Option.map_some,
    String.ofList_toList, hname]

lemma addLine_of_head (state : List Record × Record) {line : String}
    (h : ∀ c ∈ line.toList.head?, c ≠ 'w' ∧ c ≠ 'H' ∧ c ≠ 'b' ∧ c ≠ 'd') :
    addLine state line = state := by
  have hlead : ∀ lead ∈ ["worktree ", "HEAD ", "branch "],
      dropFront? lead.toList line.toList = none := by
    intro lead hlead
    refine dropFront?_eq_none fun ⟨more, hmore⟩ => ?_
    rw [← hmore] at h
    simp only [mem_cons, not_mem_nil, or_false] at hlead
    rcases hlead with rfl | rfl | rfl
    all_goals simp at h
  have hword : ∀ word ∈ ["bare", "detached"], (line == word) = false := by
    intro word hword
    rw [beq_eq_false_iff_ne]
    rintro rfl
    simp only [mem_cons, not_mem_nil, or_false] at hword
    rcases hword with rfl | rfl
    all_goals simp at h
  simp only [addLine, hlead "worktree " (by simp), hlead "HEAD " (by simp),
    hlead "branch " (by simp), Option.map_none, hword "bare" (by simp), hword "detached" (by simp),
    Bool.false_eq_true, if_false]

lemma addLine_note (state : List Record × Record) {line : String} (h : IsNote line) :
    addLine state line = state := by
  refine addLine_of_head state ?_
  rcases h with ⟨more, hmore⟩ | ⟨more, hmore⟩
  all_goals
    rw [← hmore]
    simp

/-! ### Stanzas

For each worktree git prints the line of its path, then the lines of its head with remarks anywhere
among them, then blank lines.  The text is taken without white space at its ends, which may cut the
last remark. -/

/-- The lines of a head. -/
def Head.lines : Head → List String
  | .bare => ["bare"]
  | .detached commit => ["HEAD " ++ commit, "detached"]
  | .on commit branch => ["HEAD " ++ commit, "branch refs/heads/" ++ branch]

/-- What git prints of one worktree. -/
structure Stanza where
  path : String
  head : Head
  /-- The lines between that of the path and the blank ones. -/
  below : List String
  gap : List String

namespace Stanza

/-- The branch of a worktree, if it is on one. -/
def branch? (s : Stanza) : Option String :=
  match s.head with
  | .on _ branch => some branch
  | _ => none

/-- The lines that are printed for a worktree. -/
def lines (s : Stanza) : List String := ("worktree " ++ s.path) :: s.below ++ s.gap

/-- The record that the stanza stands for. -/
def record (s : Stanza) : Record :=
  match s.head with
  | .bare => { path := some s.path, bare := true }
  | .detached commit => { path := some s.path, commit := some (take commit 8), detached := true }
  | .on commit branch =>
    { path := some s.path, commit := some (take commit 8), branch := some branch }

/-- A stanza that says the same when white space at its end is taken away. -/
structure Sound (s : Stanza) : Prop where
  lines : ∀ l ∈ s.lines, IsLine l
  below : s.below.filter (fun l => ¬ IsNote l) = s.head.lines
  branch : ∀ b ∈ s.branch?, ¬ "refs/heads/".toList <:+: b.toList
  last : ∀ l ∈ s.below.getLast?, IsNote l ∨ ∃ x ∈ l.toList.getLast?, isBlank x = false
  gap : ∀ l ∈ s.gap, trim l = ""

end Stanza

/-- What git prints for worktrees. -/
def porcelain (ss : List Stanza) : String := printLines (ss.flatMap Stanza.lines)

variable {s : Stanza} {ss : List Stanza} {l : String}

lemma closed_record (done : List Record) (s : Stanza) :
    closed (done, s.record) = done ++ [s.record] := by
  have hempty : s.record.isEmpty = false := by
    obtain ⟨path, head, below, gap⟩ := s
    cases head <;> simp [Stanza.record, Record.isEmpty]
  rw [closed, hempty]
  rfl

lemma addLine_blank (state : List Record × Record) (h : trim l = "") : addLine state l = state := by
  refine addLine_of_head state fun c hc => ?_
  have hblank : isBlank c = true := trim_eq_empty_iff.mp h c (mem_of_mem_head? hc)
  refine ⟨?_, ?_, ?_, ?_⟩
  all_goals
    rintro rfl
    exact absurd hblank (by decide)

lemma foldl_addLine_filter {p : String → Bool} {ls : List String}
    (hp : ∀ l ∈ ls, p l = false → ∀ state, addLine state l = state) (state : List Record × Record) :
    (ls.filter p).foldl addLine state = ls.foldl addLine state := by
  induction ls generalizing state with
  | nil => rfl
  | cons l ls ih =>
    obtain ⟨hl, hls⟩ := forall_mem_cons.mp hp
    cases hpl : p l with
    | true => rw [filter_cons_of_pos hpl, foldl_cons, foldl_cons, ih hls]
    | false => rw [filter_cons_of_neg (by simp [hpl]), foldl_cons, hl hpl, ih hls]

lemma foldl_gap {gap : List String} (hgap : ∀ l ∈ gap, trim l = "") (state : List Record × Record) :
    gap.foldl addLine state = state := by
  rw [← foldl_addLine_filter (p := fun _ => false)
    (fun l hl _ state => addLine_blank state (hgap l hl)), filter_false, foldl_nil]

lemma foldl_stanza (h : s.Sound) (state : List Record × Record) :
    s.lines.foldl addLine state = (closed state, s.record) := by
  have hbelow : ∀ l ∈ s.below, decide (¬ IsNote l) = false → ∀ state, addLine state l = state :=
    fun l _ hl state => addLine_note state (by simpa using hl)
  have hbranch := h.branch
  rw [Stanza.lines, foldl_append, foldl_gap h.gap, foldl_cons,
    addLine_path, ← foldl_addLine_filter hbelow, h.below]
  obtain ⟨path, head, below, gap⟩ := s
  cases head with
  | bare => rfl
  | detached commit =>
    rw [Head.lines, foldl_cons, foldl_cons, foldl_nil, addLine_commit]
    rfl
  | on commit branch =>
    rw [Head.lines, foldl_cons, foldl_cons, foldl_nil, addLine_commit,
      addLine_branch _ (hbranch branch rfl)]
    rfl

lemma closed_foldl_stanzas (hss : ∀ s ∈ ss, s.Sound) (state : List Record × Record) :
    closed ((ss.flatMap Stanza.lines).foldl addLine state) = closed state ++
      ss.map Stanza.record := by
  induction ss generalizing state with
  | nil => simp
  | cons s ss ih =>
    obtain ⟨hs, hss⟩ := forall_mem_cons.mp hss
    rw [flatMap_cons, foldl_append, foldl_stanza hs, ih hss, closed_record, map_cons, append_assoc]
    rfl

/-- What stands below the path has a last line, which is not blank and tells the same without white
space at its end. -/
lemma Stanza.Sound.exists_last (h : s.Sound) :
    ∃ init last, s.below = init ++ [last] ∧ trim last ≠ "" ∧
    ∀ state, addLine state (trimEnd last) = addLine state last := by
  have hne : s.below ≠ [] := by
    intro hnil
    have hnone := h.below
    rw [hnil] at hnone
    cases hhead : s.head <;> simp [hhead, Head.lines] at hnone
  obtain ⟨init, last, hinit⟩ := (eq_nil_or_concat' s.below).resolve_left hne
  have hlast : last ∈ s.below.getLast? := by simp [hinit]
  refine ⟨init, last, hinit, ?_⟩
  rcases h.last last hlast with hnote | ⟨x, hx, hblank⟩
  · have hfront : ∀ (lead : String) (x : Char), x ∈ lead.toList.getLast? → isBlank x = false →
        lead.toList <+: last.toList →
        trim last ≠ "" ∧ lead.toList <+: (trimEnd last).toList := by
      rintro lead x hx hblank ⟨more, hmore⟩
      obtain rfl : last = lead ++ .ofList more := String.toList_injective (by simp [← hmore])
      refine ⟨fun hempty => ?_, by simp [trimEnd_append hx hblank]⟩
      have hmem : x ∈ (lead ++ .ofList more).toList := by simp [mem_of_getLast? hx]
      rw [trim_eq_empty_iff.mp hempty x hmem] at hblank
      cases hblank
    have hboth : trim last ≠ "" ∧ IsNote (trimEnd last) := by
      rcases hnote with hlead | hlead
      · exact (hfront "locked" 'd' (by decide) (by decide) hlead).imp_right .inl
      · exact (hfront "prunable" 'e' (by decide) (by decide) hlead).imp_right .inr
    exact ⟨hboth.1, fun state => by rw [addLine_note _ hboth.2, addLine_note _ hnote]⟩
  · refine ⟨fun hempty => ?_, fun state => ?_⟩
    · rw [trim_eq_empty_iff.mp hempty x (mem_of_getLast? hx)] at hblank
      cases hblank
    · rw [← String.append_empty (s := last), trimEnd_append hx hblank]
      rfl

/-- The records of a printed listing are those of its stanzas, in their order. -/
theorem ofListing_porcelain (hss : ∀ s ∈ ss, s.Sound) :
    ofListing (trim (porcelain ss)) = ss.map Stanza.record := by
  rcases ss.eq_nil_or_concat' with rfl | ⟨us, s, rfl⟩
  · rfl
  have hs : s.Sound := hss s (by simp)
  obtain ⟨init, last, hbelow, hlast, hsame⟩ := hs.exists_last
  -- All lines but the last one that is not blank, and the blank ones.
  obtain ⟨front, hfront⟩ : ∃ front,
      front = us.flatMap Stanza.lines ++ ("worktree " ++ s.path) :: init := ⟨_, rfl⟩
  have hlines : (us ++ [s]).flatMap Stanza.lines = (front ++ [last]) ++ s.gap := by
    simp [hfront, Stanza.lines, hbelow]
  have hline : ∀ l ∈ (front ++ [last]) ++ s.gap, IsLine l := by
    intro l hl
    rw [← hlines] at hl
    obtain ⟨u, hu, hl⟩ := mem_flatMap.mp hl
    exact (hss u hu).lines l hl
  have hfirst : ∃ path, "worktree " ++ path ∈ front.head? := by
    rw [hfront]
    cases us with
    | nil => exact ⟨s.path, rfl⟩
    | cons u us => exact ⟨u.path, rfl⟩
  obtain ⟨path, hfirst⟩ := hfirst
  have htrim : trim (join "\n" ((front ++ [last]) ++ s.gap)) =
      join "\n" (front ++ [trimEnd last]) := by
    rw [trim_join_gap (by simp) hs.gap,
      trim_join_concat hfirst (x := 'w') (by simp) (by decide) hlast]
  have hcut : ∀ l ∈ front ++ [trimEnd last], '\n' ∉ l.toList := by
    intro l hl
    rcases mem_append.mp hl with hl | hl
    · exact (hline l (by simp [hl])).1
    · rw [mem_singleton.mp hl]
      refine ((hline last (by simp)).of_subset fun c hc => ?_).1
      rw [trimEnd, String.toList_ofList] at hc
      exact mem_of_mem_dropEndWhile hc
  have hgap : (front ++ [last] ++ s.gap).foldl addLine ([], {}) =
      (front ++ [last]).foldl addLine ([], {}) := by
    rw [foldl_append, foldl_gap hs.gap]
  have hfold : (front ++ [trimEnd last]).foldl addLine ([], {}) =
      ((us ++ [s]).flatMap Stanza.lines).foldl addLine ([], {}) := by
    rw [hlines, hgap, foldl_append, foldl_append, foldl_cons, foldl_cons, hsame]
  rw [porcelain, hlines, trim_printLines (by simp), htrim, ofListing_eq,
    split_join_lines (by simp) hcut, hfold, closed_foldl_stanzas hss]
  rfl

/-! ### What is read of stanzas -/

lemma isNote_or_mem_getLast? (h : s.below.filter (fun l => ¬ IsNote l) = s.head.lines)
    (hl : l ∈ s.below.getLast?) :
    IsNote l ∨ l ∈ s.head.lines.getLast? := by
  obtain ⟨init, hinit⟩ := getLast?_eq_some_iff.mp hl
  by_cases hnote : IsNote l
  · exact .inl hnote
  · rw [← h, hinit, filter_append, filter_cons_of_pos (by simpa using hnote)]
    exact .inr (by simp)

/-- The question for the worktrees. -/
def listCall : Argv := ["git", "worktree", "list", "--porcelain"]

variable {w : World} {err : String}

lemma exec_all {out : String} (hlist : w.respond w.calls listCall = .finished 0 out err) :
    all.exec w = (.ok (ofListing (trim out)), { w with calls := w.calls ++ [listCall] }) := by
  unfold all git
  rw [Tool.exec_bind_ok (exec_gitReporting_ok true hlist), Tool.exec_pure]
  rfl

/-- A stanza that git can print: below the path are the lines of the head with remarks among them,
and the name of the branch is neither taken for a place of branches nor has it white space at its
ends. -/
structure Stanza.WellPrinted (s : Stanza) : Prop where
  lines : ∀ l ∈ s.lines, IsLine l
  below : s.below.filter (fun l => ¬ IsNote l) = s.head.lines
  branch : ∀ b ∈ s.branch?, ¬ "refs/heads/".toList <:+: b.toList ∧ trim b = b
  gap : ∀ l ∈ s.gap, trim l = ""

lemma Stanza.WellPrinted.sound (h : s.WellPrinted) : s.Sound where
  lines := h.lines
  below := h.below
  branch b hb := (h.branch b hb).1
  last l hl := by
    refine (isNote_or_mem_getLast? h.below hl).imp_right fun hhead => ?_
    have hbranch := h.branch
    obtain ⟨path, head, below, gap⟩ := s
    cases head with
    | bare =>
      obtain rfl : "bare" = l := Option.some.inj hhead
      exact ⟨'e', by decide, by decide⟩
    | detached commit =>
      obtain rfl : "detached" = l := Option.some.inj hhead
      exact ⟨'d', by decide, by decide⟩
    | on commit b =>
      obtain rfl : "branch refs/heads/" ++ b = l := Option.some.inj hhead
      have htrim : b.toList = trimWhile isBlank b.toList := by
        rw [← String.toList_ofList (l := trimWhile isBlank b.toList), ← trim, (hbranch b rfl).2]
      cases hy : b.toList.getLast? with
      | none => exact ⟨'/', by simp [getLast?_cons, hy], by decide⟩
      | some y =>
        refine ⟨y, by simp [getLast?_cons, hy], ?_⟩
        rw [htrim] at hy
        exact getLast?_dropEndWhile hy
  gap := h.gap

/-- What git prints of worktrees is read as one record for each of them, in their order: with the
path, the front of the hash and the name of the branch, and as bare or detached where it is so. -/
theorem all_inverts_porcelain (hss : ∀ s ∈ ss, s.WellPrinted)
    (hlist : w.respond w.calls listCall = .finished 0 (porcelain ss) err) :
    all.exec w = (.ok (ss.map Stanza.record), { w with calls := w.calls ++ [listCall] }) := by
  rw [exec_all hlist, ofListing_porcelain fun s hs => (hss s hs).sound]

/-- A bare repository with a remark before what it is, a detached head, and a branch with white
space in its name and a remark behind it that is cut. -/
def oddStanzas : List Stanza :=
  [⟨"/srv/HEAD branch ", .bare, ["locked", "bare"], [""]⟩,
   ⟨"/srv/worktree bare", .detached "0123456789ab",
    ["HEAD 0123456789ab", "prunable gone", "detached"], ["", " "]⟩,
   ⟨" x", .on "89abcdef0123" "feature/HEAD a",
    ["HEAD 89abcdef0123", "branch refs/heads/feature/HEAD a", "locked for "], []⟩]

def oddWorld : World :=
  { respond := fun _ call => if call = listCall then .finished 0 (porcelain oddStanzas) ""
    else .missing }

/-- Paths that look like the other lines of a stanza are read back too. -/
theorem all_inverts_porcelain_odd :
    (∀ s ∈ oddStanzas, s.WellPrinted) ∧
    oddWorld.respond oddWorld.calls listCall = .finished 0 (porcelain oddStanzas) "" ∧
    (all.exec oddWorld).1 = .ok
      [{ path := some "/srv/HEAD branch ", bare := true },
       { path := some "/srv/worktree bare", commit := some "01234567", detached := true },
       { path := some " x", commit := some "89abcdef", branch := some "feature/HEAD a" }] := by
  have hodd : ∀ s ∈ oddStanzas, s.WellPrinted := by
    simp only [oddStanzas, forall_mem_cons, not_mem_nil, false_implies, implies_true, and_true]
    exact ⟨⟨by decide, by decide, by decide, by decide⟩,
      ⟨by decide, by decide, by decide, by decide⟩, ⟨by decide, by decide, by decide, by decide⟩⟩
  refine ⟨hodd, rfl, ?_⟩
  rw [all_inverts_porcelain hodd rfl]
  exact congrArg Except.ok (show oddStanzas.map Stanza.record = _ by decide)

end Worktree

/-! ### Branches -/

/-- A name of a branch: neither white space nor a star stands in it. -/
structure IsName (name : String) : Prop where
  ne_empty : name ≠ ""
  chars : ∀ c ∈ name.toList, isBlank c = false ∧ c ≠ '*'

instance (name : String) : Decidable (IsName name) :=
  decidable_of_iff (name ≠ "" ∧ name.toList.all (fun c => !isBlank c && c != '*') = true)
    ⟨fun h => ⟨h.1, by simpa using h.2⟩, fun h => ⟨h.ne_empty, by simpa using h.chars⟩⟩

/-- The mark before a branch: it is checked out here, in another worktree, or nowhere. -/
inductive Mark where
  | here
  | elsewhere
  | nowhere
deriving DecidableEq

/-- How a mark is printed. -/
def Mark.text : Mark → String
  | .here => "* "
  | .elsewhere => "+ "
  | .nowhere => "  "

/-- What git prints for branches. -/
def branchListing (bs : List (Mark × String)) : String :=
  printLines (bs.map fun b => b.1.text ++ b.2)

variable {name : String}

/-- The line of a branch. -/
def branchLine (b : Mark × String) : String := b.1.text ++ b.2

lemma isLine_branchLine (h : IsName b.2) : IsLine (branchLine b) := by
  have hname : IsLine b.2 :=
    ⟨fun hmem => absurd (h.chars _ hmem).1 (by decide), fun hmem =>
      absurd (h.chars _ hmem).1 (by decide)⟩
  have hmark : IsLine b.1.text := by cases b.1 <;> decide
  exact hmark.append hname

end Workbench.Branch
