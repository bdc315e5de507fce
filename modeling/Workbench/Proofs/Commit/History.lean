import Workbench.Commit.History
import Workbench.Proofs.Release.Log

/-!
# Reading commits off a log

A log is cut at blank lines, but git prints a single line end behind a commit, and a body may hold
blank lines.
-/

open List

namespace Workbench.Commit

open Text

/-- A commit as git prints it. -/
def Record.printed (c : Record) : String :=
  c.hash ++ "|" ++ c.subject ++ "|" ++ c.body ++ "|" ++ c.author ++ "|" ++ c.email ++ "\n"

/-- A commit that a log may hold: no field has a bar, only the body has line ends. -/
structure Record.Loggable (c : Record) : Prop where
  hash_ne : c.hash ≠ ""
  hash_hex : ∀ x ∈ c.hash.toList, Pattern.isHex x = true
  subject_ne : c.subject ≠ ""
  subject : '|' ∉ c.subject.toList ∧ '\n' ∉ c.subject.toList
  body : '|' ∉ c.body.toList
  author : '|' ∉ c.author.toList ∧ '\n' ∉ c.author.toList
  email : '|' ∉ c.email.toList ∧ '\n' ∉ c.email.toList

/-- The record tells of the commit, its body aside. -/
def Record.TellsOf (r c : Record) : Prop :=
  r.hash = c.hash ∧ r.subject = c.subject ∧ r.author = c.author ∧ r.email = c.email

abbrev blankLine : Chars := ['\n', '\n']

/-- Nothing of a commit is lost in a log of its own: neither to blank lines nor to the blanks at the
end of the log. -/
structure Record.Alone (c : Record) : Prop where
  email : ∀ x ∈ c.email.toList.getLast?, isBlank x = false
  body : ¬ blankLine <:+: c.body.toList

namespace History

variable {c : Record} {cs : List Record} {u v s t : Chars}

/-! ### Parts of a log -/

/-- The records that are read in a log. -/
def recordsIn (s : Chars) : List Record :=
  (pieces blankLine s).filterMap fun part => recordOf? (.ofList part)

lemma ofLog_eq (log : String) : ofLog log = recordsIn log.toList := by
  rw [ofLog, split_eq, filterMap_map, Function.comp_def]
  rfl

lemma recordOf?_bar (hu : '|' ∉ u) {x : Chars} {xs : List Chars}
    (h : splitChars ['|'] 3 t = x :: xs) :
    recordOf? (.ofList (u ++ '|' :: t)) =
      some { hash := .ofList u, subject := .ofList x, body := (xs.map .ofList).headD ""
             author := ((xs.map .ofList).drop 1).headD "", email :=
               ((xs.map .ofList).drop 2).headD "" } := by
  have hblank : trim (.ofList (u ++ '|' :: t)) ≠ "" := by
    intro hempty
    rw [trim, String.toList_ofList, ← String.toList_eq_nil_iff, String.toList_ofList,
      trimWhile_eq_nil_iff] at hempty
    exact absurd (hempty '|' (by simp)) (by decide)
  have hsplit : splitChars ['|'] 4 (u ++ '|' :: t) = u :: x :: xs := by
    rw [← h]
    exact splitChars_cut (by simp) (notWithin_of_notMem hu _ _) 3
  rw [recordOf?, if_neg (by simpa using hblank), splitAtMost, String.toList_ofList,
    String.toList_ofList, hsplit]
  rfl

lemma splitChars_bar (hu : '|' ∉ u) (n : Nat) :
    splitChars ['|'] (n + 1) (u ++ '|' :: t) = u :: splitChars ['|'] n t :=
  splitChars_cut (by simp) (notWithin_of_notMem hu _ _) n

lemma notWithin_bar (h : ¬ blankLine <:+: u) (t : Chars) : NotWithin blankLine u ('|' :: t) := by
  intro v hv hsuffix hfront
  match v, hv with
  | [x], _ => simp at hfront
  | x :: y :: v, _ =>
    obtain ⟨rfl, rfl⟩ : x = '\n' ∧ y = '\n' := by simpa [eq_comm] using hfront
    exact h (IsInfix.trans ⟨[], v, rfl⟩ hsuffix.isInfix)

lemma exists_mem_recordsIn_bars (hv : '|' ∉ v) (t : Chars) :
    ∃ r ∈ recordsIn (v ++ '|' :: '|' :: t), r.subject = "" := by
  -- by the blank lines before the bars: behind the last one the part with the bars begins
  induction hlen : v.length using Nat.strongRecOn generalizing v with
  | _ n ih =>
    by_cases hblank : blankLine <:+: v
    · obtain ⟨u, v', rfl, hfirst⟩ := exists_first hblank
      have hv' : '|' ∉ v' := fun h => hv (by simp [h])
      obtain ⟨r, hr, hsubject⟩ :=
        ih v'.length (by simp only [length_append, length_cons] at hlen; omega) hv' rfl
      refine ⟨r, ?_, hsubject⟩
      rw [recordsIn, append_assoc, append_assoc, pieces_cut (by simp) (hfirst _), filterMap_cons]
      cases recordOf? (.ofList u) with
      | none => exact hr
      | some r' => exact mem_cons_of_mem _ hr
    · have hwithin : NotWithin blankLine (v ++ ['|', '|']) t :=
        notWithin_append.mpr ⟨notWithin_bar hblank _, by simp [notWithin_cons, notWithin_nil]⟩
      obtain ⟨t', ts, hpieces⟩ := exists_pieces_append hwithin
      have hpart : v ++ ['|', '|'] ++ t' = v ++ '|' :: ([] ++ '|' :: t') := by simp
      have htext : v ++ '|' :: '|' :: t = v ++ ['|', '|'] ++ t := by simp
      rw [recordsIn, htext, hpieces, hpart, filterMap_cons,
        recordOf?_bar hv (splitChars_bar (by simp) 2)]
      exact ⟨_, mem_cons_self, rfl⟩

/-! ### Printed logs -/

/-- The question for the log. -/
def logCall (branch : Option String) (count : Int) : Argv :=
  ["git", "log", match branch with
    | none | some "" => "-" ++ toString count
    | some b => "main..." ++ b, "--format=%H|%s|%b|%an|%ae"]

/-- A log as git prints it. -/
def printedLog (cs : List Record) : String := String.join (cs.map Record.printed)

/-- A log without the blanks at its ends. -/
def logChars (cs : List Record) : Chars := trimWhile isBlank (printedLog cs).toList

lemma exec_commits {branch : Option String} {count : Int} {w : World} {err : String}
    (hgit : w.respond w.calls (logCall branch count) = .finished 0 (printedLog cs) err) :
    ((commits branch count).exec w).1 = .ok (recordsIn (logChars cs)) := by
  have hlog : logChars cs = (trim (printedLog cs)).toList := by simp [trim, logChars]
  rw [hlog, ← ofLog_eq]
  exact congrArg Prod.fst (Tool.exec_bind_ok (Tool.exec_outputOr hgit _) _)

/-- A printed commit up to its email. -/
def frontChars (c : Record) : List Char :=
  c.hash.toList ++
    '|' :: (c.subject.toList ++ '|' :: (c.body.toList ++ '|' :: (c.author.toList ++ ['|'])))

lemma exists_hash (hne : c.hash ≠ "") (hhex : ∀ x ∈ c.hash.toList, Pattern.isHex x = true) :
    ∃ x h, c.hash.toList = x :: h ∧ isBlank x = false := by
  obtain ⟨x, h, hhash⟩ := exists_cons_of_ne_nil (mt String.toList_eq_nil_iff.mp hne)
  exact ⟨x, h, hhash, Release.isBlank_of_isHex (hhex x (by simp [hhash]))⟩

lemma notMem_hash (hc : c.Loggable) {x : Char} (hx : Pattern.isHex x = false) :
    x ∉ c.hash.toList := fun h => by
  simp [hc.hash_hex x h] at hx

lemma logChars_cons (hc : c.Loggable) (cs : List Record) :
    logChars (c :: cs) = frontChars c ++
      dropEndWhile isBlank (c.email.toList ++ '\n' :: (printedLog cs).toList) := by
  obtain ⟨x, h, hhash, hx⟩ := exists_hash hc.hash_ne hc.hash_hex
  have hfront : ∀ t, frontChars c ++ t = [] ++ x :: ((h ++ '|' :: (c.subject.toList ++ '|' ::
      (c.body.toList ++ '|' :: c.author.toList))) ++ '|' :: t) := by
    simp [frontChars, hhash]
  have hprinted : (printedLog (c :: cs)).toList =
      frontChars c ++ (c.email.toList ++ '\n' :: (printedLog cs).toList) := by
    simp [printedLog, Record.printed, frontChars]
  rw [logChars, hprinted, hfront, hfront, trimWhile_append_cons (by simp) hx,
    dropEndWhile_append_cons Release.isBlank_bar]
  rfl

lemma logChars_single (hc : c.Loggable) :
    logChars [c] = frontChars c ++ dropEndWhile isBlank c.email.toList := by
  have hblank : isBlank '\n' = true := by decide
  rw [logChars_cons hc]
  simp [printedLog, dropEndWhile, hblank]

lemma exists_logChars_cons (hc : c.Loggable) {d : Record} (hd : d.Loggable) (cs : List Record) :
    ∃ x t, x ≠ '\n' ∧ logChars (c :: d :: cs) = frontChars c ++
      (c.email.toList ++ ['\n', x]) ++ t := by
  obtain ⟨x, h, hhash, hx⟩ := exists_hash hd.hash_ne hd.hash_hex
  have hne : x ≠ '\n' := by
    rintro rfl
    exact absurd hx (by decide)
  obtain ⟨rest, hrest⟩ : ∃ rest, (printedLog (d :: cs)).toList = x :: rest := by
    simp [printedLog, Record.printed, hhash]
  have hshape : c.email.toList ++ '\n' :: x :: rest = (c.email.toList ++ ['\n']) ++ x :: rest := by
    simp
  refine ⟨x, dropEndWhile isBlank rest, hne, ?_⟩
  rw [logChars_cons hc, hrest, hshape, dropEndWhile_append_cons hx]
  simp

/-! ### One record for each commit -/

lemma notWithin_frontChars (hc : c.Loggable) (hbody : ¬ blankLine <:+: c.body.toList) (t : Chars) :
    NotWithin blankLine (frontChars c) t := by
  have hbar : ∀ u, ¬ blankLine <+: '|' :: u := by simp
  have hline : ∀ {u}, '\n' ∉ u → ∀ t, NotWithin blankLine u t :=
    fun hu t => notWithin_of_notMem hu _ _
  simp only [frontChars, notWithin_append, notWithin_cons]
  exact ⟨hline (notMem_hash hc (by decide)) _, hbar _, hline hc.subject.2 _, hbar _,
    notWithin_bar hbody _, hbar _, hline hc.author.2 _, hbar _, notWithin_nil _ _⟩

lemma recordOf?_frontChars (hc : c.Loggable) (t : List Char) :
    recordOf? (.ofList (frontChars c ++ t)) = some { c with email := .ofList t } := by
  have hpart : frontChars c ++ t = c.hash.toList ++
      '|' :: (c.subject.toList ++ '|' :: (c.body.toList ++
      '|' :: (c.author.toList ++ '|' :: t))) := by simp [frontChars]
  have hsplit : splitChars ['|'] 3 (c.subject.toList ++ '|' :: (c.body.toList ++
      '|' :: (c.author.toList ++ '|' :: t))) = [c.subject.toList, c.body.toList,
      c.author.toList, t] := by
    rw [splitChars_bar hc.subject.1, splitChars_bar hc.body, splitChars_bar hc.author.1,
      splitChars_zero]
  rw [hpart, recordOf?_bar (notMem_hash hc (by decide)) hsplit]
  simp

lemma not_tell_of_blankLine (hc : c.Loggable) (hcs : ∀ d ∈ cs, d.Loggable)
    (hblank : blankLine <:+: c.body.toList) :
    ¬ Forall₂ Record.TellsOf (recordsIn (logChars (c :: cs))) (c :: cs) := by
  obtain ⟨u, v, hbody, hfirst⟩ := exists_first hblank
  have hbars : '|' ∉ u ++ (blankLine ++ v) := hbody ▸ hc.body
  have hu : '|' ∉ u := fun h => hbars (by simp [h])
  have hv : '|' ∉ v := fun h => hbars (by simp [h])
  rw [logChars_cons hc]
  generalize dropEndWhile isBlank _ = t
  -- the first part ends in the body, and the author and the email stand in a later one
  have htext : frontChars c ++ t = (c.hash.toList ++ '|' :: (c.subject.toList ++ '|' :: u)) ++
      (blankLine ++ (v ++ '|' :: (c.author.toList ++ '|' :: t))) := by simp [frontChars, hbody]
  have hwithin : NotWithin blankLine (c.hash.toList ++ '|' :: (c.subject.toList ++ '|' :: u))
      (blankLine ++ (v ++ '|' :: (c.author.toList ++ '|' :: t))) := by
    simp only [notWithin_append, notWithin_cons]
    exact ⟨notWithin_of_notMem (notMem_hash hc (by decide)) _ _, by simp,
      notWithin_of_notMem hc.subject.2 _ _, by simp, hfirst _⟩
  have hsplit : splitChars ['|'] 3 (c.subject.toList ++ '|' :: u) = [c.subject.toList, u] := by
    have hone := splitChars_of_notWithin (notWithin_of_notMem hu [] []) 2
    rw [splitChars_bar hc.subject.1, hone]
  rw [htext, recordsIn, pieces_cut (by simp) hwithin, filterMap_cons,
    recordOf?_bar (notMem_hash hc (by decide)) hsplit]
  rintro (_ | ⟨⟨-, -, hauthor, -⟩, hrest⟩)
  have hempty : c.author.toList = [] := by
    rw [← hauthor]
    rfl
  rw [hempty] at hrest
  obtain ⟨r, hr, hsubject⟩ := exists_mem_recordsIn_bars hv t
  have hsubjects : ∀ {rs ds}, Forall₂ Record.TellsOf rs ds → (∀ d ∈ ds, d.Loggable) →
      ∀ r ∈ rs, r.subject ≠ "" := by
    intro rs ds h hds
    induction h with
    | nil => simp
    | cons htells _ ih =>
      obtain ⟨hd, hds⟩ := forall_mem_cons.mp hds
      exact forall_mem_cons.mpr ⟨htells.2.1 ▸ hd.subject_ne, ih hds⟩
  exact hsubjects hrest hcs r hr hsubject

/-- Where git prints a log of commits, one record for each commit is read, in order and with its
hash, subject, author and email, if and only if there is a single commit, its body has no blank line
and its email does not end with white space. -/
theorem commits_tell_iff (branch : Option String) (count : Int) (w : World) {err : String}
    (hne : cs ≠ []) (hcs : ∀ c ∈ cs, c.Loggable)
    (hgit : w.respond w.calls (logCall branch count) = .finished 0 (printedLog cs) err) :
    ∃ found, ((commits branch count).exec w).1 = .ok found ∧
      (List.Forall₂ Record.TellsOf found cs ↔ ∃ c, cs = [c] ∧ c.Alone) := by
  refine ⟨_, exec_commits hgit, ?_⟩
  obtain ⟨c, cs, rfl⟩ := exists_cons_of_ne_nil hne
  obtain ⟨hc, hcs⟩ := forall_mem_cons.mp hcs
  have hsingle : ¬ blankLine <:+: c.body.toList → recordsIn (logChars [c]) =
      [{ c with email := String.ofList (dropEndWhile isBlank c.email.toList) }] := by
    intro hbody
    have hemail : '\n' ∉ dropEndWhile isBlank c.email.toList := fun h =>
      hc.email.2 (mem_of_mem_dropEndWhile h)
    have hwithin : NotWithin blankLine (logChars [c]) [] := by
      rw [logChars_single hc]
      exact notWithin_append.mpr ⟨notWithin_frontChars hc hbody _, notWithin_of_notMem hemail _ _⟩
    rw [recordsIn, pieces_of_notWithin hwithin, logChars_single hc, filterMap_cons,
      recordOf?_frontChars hc]
    rfl
  constructor
  · intro htell
    have hbody : ¬ blankLine <:+: c.body.toList := fun hblank =>
      not_tell_of_blankLine hc hcs hblank htell
    cases cs with
    | nil =>
      rw [hsingle hbody] at htell
      obtain ⟨⟨-, -, -, hemail⟩, -⟩ := forall₂_cons.mp htell
      refine ⟨c, rfl, fun x hx => ?_, hbody⟩
      rw [← hemail, String.toList_ofList] at hx
      exact getLast?_dropEndWhile hx
    | cons d ds =>
      -- the next commit is taken for a part of the email
      obtain ⟨x, t, hx, htext⟩ := exists_logChars_cons hc (forall_mem_cons.mp hcs).1 ds
      have hwithin : NotWithin blankLine (frontChars c ++ (c.email.toList ++ ['\n', x])) t := by
        refine notWithin_append.mpr ⟨notWithin_frontChars hc hbody _, notWithin_append.mpr
          ⟨notWithin_of_notMem hc.email.2 _ _, ?_⟩⟩
        simp [notWithin_cons, notWithin_nil, hx.symm]
      obtain ⟨t', ts, hpieces⟩ := exists_pieces_append hwithin
      rw [recordsIn, htext, hpieces, List.append_assoc, List.filterMap_cons,
        recordOf?_frontChars hc] at htell
      obtain ⟨⟨-, -, -, hemail⟩, -⟩ := forall₂_cons.mp htell
      replace hemail : String.ofList (c.email.toList ++ ['\n', x] ++ t') = c.email := hemail
      have hline : '\n' ∈ (String.ofList (c.email.toList ++ ['\n', x] ++ t')).toList := by simp
      rw [hemail] at hline
      exact absurd hline hc.email.2
  · rintro ⟨c', hlog, halone⟩
    obtain ⟨rfl, rfl⟩ := List.cons.inj hlog
    have hemail : dropEndWhile isBlank c.email.toList = c.email.toList := by
      rw [dropEndWhile_eq, rdropWhile_eq_self_iff]
      exact fun hne => by simpa using halone.email _ (getLast_mem_getLast? hne)
    rw [hsingle halone.body, hemail, String.ofList_toList]
    exact .cons ⟨rfl, rfl, rfl, rfl⟩ .nil

def twoCommits : List Record :=
  [⟨"0a1b", "fix: a", "", "Ann", "ann@x.org"⟩, ⟨"2c3d", "fix: b", "", "Bob", "bob@x.org"⟩]

/-- Of two commits one record is read. -/
theorem twoCommits_not_told : ∃ found,
    ((commits none 20).exec (Release.printing (printedLog twoCommits))).1 = .ok found ∧
      ¬ List.Forall₂ Record.TellsOf found twoCommits := by
  have hlog : ∀ c ∈ twoCommits, c.Loggable := by
    simp only [twoCommits, forall_mem_cons]
    exact ⟨⟨by decide, Text.forall_mem_of_all
      (by decide), by decide, by decide, by decide, by decide, by decide⟩,
      ⟨by decide, Text.forall_mem_of_all
      (by decide), by decide, by decide, by decide, by decide, by decide⟩, by simp⟩
  obtain ⟨found, hfound, hiff⟩ :=
    commits_tell_iff none 20 (Release.printing (printedLog twoCommits)) (by decide) hlog rfl
  refine ⟨found, hfound, fun htell => ?_⟩
  obtain ⟨c, hsingle, -⟩ := hiff.mp htell
  cases hsingle

end History

end Workbench.Commit
