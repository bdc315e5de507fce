import Mathlib.Data.List.DropRight
import Workbench.Text.Basic

/-!
# Trimming

What stays of a text when the characters of a class are dropped at its ends, and where a run of such
characters ends.
-/

namespace Workbench.Text

open List

variable {q : Char → Bool} {s u : Chars} {x : Char}

lemma isBlank_eq_false (hlow : 33 ≤ x.toNat) (hhigh : x.toNat ≤ 126) : isBlank x = false := by
  have hother : ∀ n ∈ blankCodes, n < 33 ∨ 126 < n := by decide
  rw [← Bool.not_eq_true]
  intro hblank
  have hcode := hother x.toNat (by simpa [isBlank] using hblank)
  omega

lemma dropEndWhile_eq (q : Char → Bool) (s : Chars) : dropEndWhile q s = s.rdropWhile q := rfl

lemma dropEndWhile_append_cons (hx : q x = false) (u s : Chars) :
    dropEndWhile q (u ++ x :: s) = u ++ x :: dropEndWhile q s := by
  have hkeep : (s.reverse ++ x :: u.reverse).dropWhile q = s.reverse.dropWhile q ++
      x :: u.reverse := by
    rw [dropWhile_append]
    split_ifs with hall
    · rw [isEmpty_iff.mp hall, dropWhile_cons_of_neg (by simp [hx]), nil_append]
    · rfl
  simp only [dropEndWhile, reverse_append, reverse_cons, append_assoc, singleton_append]
  rw [hkeep]
  simp

lemma trimWhile_append_cons (hu : ∀ c ∈ u, q c = true) (hx : q x = false) (s : Chars) :
    trimWhile q (u ++ x :: s) = x :: dropEndWhile q s := by
  have hdrop : (u ++ x :: s).dropWhile q = x :: s := by
    rw [dropWhile_append_of_pos hu, dropWhile_cons_of_neg (by simp [hx])]
  rw [trimWhile, hdrop]
  exact dropEndWhile_append_cons hx [] s

lemma trimWhile_eq_nil_iff : trimWhile q s = [] ↔ ∀ c ∈ s, q c = true := by
  constructor
  · intro h c hc
    rw [trimWhile, dropEndWhile_eq, rdropWhile_eq_nil_iff] at h
    rw [← takeWhile_append_dropWhile (p := q) (l := s)] at hc
    exact (mem_append.mp hc).elim mem_takeWhile_imp (h c)
  · intro h
    rw [trimWhile, dropWhile_eq_nil_iff.mpr h]
    rfl

lemma dropEndWhile_isPrefix : dropEndWhile q s <+: s := by
  rw [dropEndWhile_eq]
  exact rdropWhile_prefix q s

lemma mem_of_mem_dropEndWhile (h : x ∈ dropEndWhile q s) : x ∈ s := dropEndWhile_isPrefix.mem h

lemma mem_of_mem_trimWhile (h : x ∈ trimWhile q s) : x ∈ s :=
  (dropWhile_sublist q).mem (mem_of_mem_dropEndWhile h)

lemma getLast?_dropEndWhile (h : x ∈ (dropEndWhile q s).getLast?) : q x = false := by
  rw [dropEndWhile_eq] at h
  obtain ⟨hne, rfl⟩ := mem_getLast?_eq_getLast h
  simpa using rdropWhile_last_not q s hne

lemma head?_trimWhile (h : x ∈ (trimWhile q s).head?) : q x = false := by
  obtain ⟨t, ht⟩ := rdropWhile_prefix q (s.dropWhile q)
  have hhead : x ∈ (s.dropWhile q).head? := by
    rw [trimWhile, dropEndWhile_eq] at h
    rw [← ht, head?_append, Option.mem_def.mp h]
    rfl
  have hnot := head?_dropWhile_not q s
  rw [Option.mem_def.mp hhead] at hnot
  simpa using hnot

lemma trimWhile_concat (hx : q x = true) (s : Chars) : trimWhile q (s ++ [x]) = trimWhile q s := by
  rw [trimWhile, trimWhile, dropWhile_append]
  cases hdrop : s.dropWhile q with
  | nil => simp [List.dropWhile, hx]
  | cons c t =>
    rw [if_neg (by simp), dropEndWhile_eq, dropEndWhile_eq]
    exact rdropWhile_concat_pos q (c :: t) x hx

lemma trimWhile_eq_self (hfirst : ∀ x ∈ s.head?, q x = false)
    (hlast : ∀ x ∈ s.getLast?, q x = false) :
    trimWhile q s = s := by
  have hdrop : s.dropWhile q = s := by
    cases s with
    | nil => rfl
    | cons c s => exact dropWhile_cons_of_neg (by simp [hfirst c rfl])
  rw [trimWhile, hdrop, dropEndWhile_eq, rdropWhile_eq_self_iff]
  intro hne
  simp [hlast _ (getLast_mem_getLast? hne)]

lemma trimWhile_append (hu : ∀ c ∈ u, q c = true) (s : Chars) :
    trimWhile q (s ++ u) = trimWhile q s := by
  induction u using List.reverseRecOn with
  | nil => rw [append_nil]
  | append_singleton u c ih =>
    rw [← append_assoc, trimWhile_concat (hu c (by simp)), ih fun d hd => hu d (by simp [hd])]

/-! ### Trimmed texts -/

variable {a b : String}

lemma trim_eq_empty_iff : trim a = "" ↔ ∀ c ∈ a.toList, isBlank c = true := by
  rw [trim, ← trimWhile_eq_nil_iff]
  simp

lemma trim_append_blank (hb : ∀ c ∈ b.toList, isBlank c = true) (a : String) :
    trim (a ++ b) = trim a := by
  rw [trim, trim, String.toList_append, trimWhile_append hb]

lemma trimEnd_append (hx : x ∈ a.toList.getLast?) (hblank : isBlank x = false) (b : String) :
    trimEnd (a ++ b) = a ++ trimEnd b := by
  obtain ⟨u, hu⟩ := getLast?_eq_some_iff.mp hx
  refine String.toList_injective ?_
  rw [trimEnd, trimEnd, String.toList_append, String.toList_append, String.toList_ofList,
    String.toList_ofList, hu, append_assoc, append_assoc]
  exact dropEndWhile_append_cons hblank u b.toList

lemma exists_eq_trimEnd_append (a : String) :
    ∃ b : String, a = trimEnd a ++ b ∧ ∀ c ∈ b.toList, isBlank c = true := by
  refine ⟨.ofList (a.toList.reverse.takeWhile isBlank).reverse, String.toList_injective ?_,
    fun c hc => ?_⟩
  · have hparts :=
      congrArg reverse (takeWhile_append_dropWhile (p := isBlank) (l := a.toList.reverse))
    rw [reverse_append, reverse_reverse] at hparts
    rw [trimEnd, String.toList_append, String.toList_ofList, String.toList_ofList]
    exact hparts.symm
  · rw [String.toList_ofList, mem_reverse] at hc
    exact mem_takeWhile_imp hc

lemma exists_getLast?_trimEnd (h : trim a ≠ "") :
    ∃ x ∈ (trimEnd a).toList.getLast?, isBlank x = false := by
  have hne : dropEndWhile isBlank a.toList ≠ [] := by
    intro hnil
    rw [dropEndWhile_eq, rdropWhile_eq_nil_iff] at hnil
    exact h (trim_eq_empty_iff.mpr hnil)
  refine ⟨_, ?_, getLast?_dropEndWhile (getLast_mem_getLast? hne)⟩
  rw [trimEnd, String.toList_ofList]
  exact getLast_mem_getLast? hne

/-! ### Runs of a class -/

lemma isAsciiDigit_iff : isAsciiDigit x = true ↔ 48 ≤ x.toNat ∧ x.toNat ≤ 57 := by
  simp [isAsciiDigit, Char.le_def, UInt32.le_iff_toNat_le]

/-- A run of a class ends where the class does. -/
lemma takeWhile_run (hu : ∀ c ∈ u, q c = true) (hs : ∀ c ∈ s.head?, q c = false) :
    (u ++ s).takeWhile q = u := by
  rw [takeWhile_append_of_pos hu]
  cases s with
  | nil => simp
  | cons c s => simp [hs c rfl]

lemma dropWhile_run (hu : ∀ c ∈ u, q c = true) (hs : ∀ c ∈ s.head?, q c = false) :
    (u ++ s).dropWhile q = s := by
  rw [dropWhile_append_of_pos hu]
  cases s with
  | nil => rfl
  | cons c s => exact dropWhile_cons_of_neg (by simp [hs c rfl])

/-- A property of the letters of a text is decided on the text, not on all letters that there
are. -/
lemma forall_mem_of_all {α : Type} {p : α → Prop} [DecidablePred p] {l : List α}
    (h : (l.all fun x => p x) = true) :
    ∀ x ∈ l, p x := by
  simpa using h

end Workbench.Text

/-!
### Line ends

Carriage returns, alone or before a line feed, are read as line feeds.  This changes nothing else:
it goes on independently on both sides of a character that belongs to no line end.
-/

namespace Workbench.Text

open List String

variable {s u : Chars} {x : Char}

/-- A text without line ends. -/
def IsLine (line : String) : Prop := '\n' ∉ line.toList ∧ '\r' ∉ line.toList

instance (line : String) : Decidable (IsLine line) := inferInstanceAs (Decidable (_ ∧ _))

lemma IsLine.of_subset {a b : String} (h : IsLine b) (hab : a.toList ⊆ b.toList) : IsLine a :=
  ⟨fun hmem => h.1 (hab hmem), fun hmem => h.2 (hab hmem)⟩

lemma IsLine.append {a b : String} (ha : IsLine a) (hb : IsLine b) : IsLine (a ++ b) := by
  unfold IsLine
  rw [toList_append, mem_append, mem_append]
  exact ⟨fun h => h.elim ha.1 hb.1, fun h => h.elim ha.2 hb.2⟩

lemma unixLineEnds_of_notMem (h : '\r' ∉ s) : unixLineEnds s = s := by
  fun_induction unixLineEnds s with
  | case1 => rfl
  | case2 s _ => simp at h
  | case3 c s _ ih =>
    rw [mem_cons, not_or] at h
    rw [ih h.2, if_neg (Ne.symm h.1)]

lemma trim_line {line : String} (h : ∀ c ∈ line.toList, isBlank c = false) :
    trim (line ++ "\n") = line := by
  have hkept : trimWhile isBlank line.toList = line.toList :=
    trimWhile_eq_self (fun x hx => h x (mem_of_mem_head? hx)) fun x hx =>
      h x (mem_of_mem_getLast? hx)
  have hline : trimWhile isBlank (line.toList ++ ['\n']) = line.toList := by
    rw [trimWhile_concat (by decide), hkept]
  rw [trim, toList_append]
  exact (congrArg ofList hline).trans ofList_toList

end Workbench.Text
