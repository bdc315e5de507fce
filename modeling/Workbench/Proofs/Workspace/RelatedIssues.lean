import Workbench.Proofs.Workspace.IssueNumber

/-!
# All numbers in the name of a branch

Besides the number of its issue, the name of a branch may hold numbers that come from its
description.  Where all numbers of a name are collected, these are taken for issues as well.
-/

open List hiding all isEmpty_iff

namespace Workbench.Workspace

open Text Decimal NumberRule

/-! ### Numbers among words -/

/-- A word of digits. -/
def isNumber (w : Chars) : Bool := !w.isEmpty && w.all Text.isDecimal

/-- The words that are numbers by themselves.  A word right behind one that counts does not
count. -/
def loneNumbers : List Chars → List Chars
  | [] => []
  | [w] => if isNumber w then [w] else []
  | w :: v :: ws => if isNumber w then w :: loneNumbers ws else loneNumbers (v :: ws)

/-- The digits at the front of each word that stands behind a word with the mark of an issue at its
end. -/
def markedNumbers : List Chars → List Chars
  | v :: w :: ws =>
    (if "issue".toList <:+ v ∧ w.takeWhile Text.isDecimal ≠ [] then
      [w.takeWhile Text.isDecimal] else [])
      ++ markedNumbers (w :: ws)
  | _ => []

/-- The digits that a description brings into the name of a branch, by the words between its
hyphens. -/
def digitsIn (description : Chars) : List Chars :=
  markedNumbers (Text.pieces ['-'] description) ++ loneNumbers (Text.pieces ['-'] description).tail

/-- The numbers in a description. -/
def numbersIn (description : String) : List Int :=
  (digitsIn description.toList).map fun ds => (natOf ds : Int)

variable {r : NumberRule} {c : Char} {s t u v w ds rest : Chars} {ws : List Chars}

lemma isNumber_iff : isNumber w = true ↔ w ≠ [] ∧ ∀ x ∈ w, Text.isDecimal x = true := by
  simp [isNumber]

/-! ### Scanning -/

lemma all_eq_scan (h : r.opening = false) : r.all s = r.scan 0 s := by
  rw [all, h]
  rfl

lemma scan_skip (r : NumberRule) (u s : Chars) : r.scan u.length (u ++ s) = r.scan 0 s := by
  induction u with
  | nil => rfl
  | cons c u ih => rw [cons_append, length_cons, scan, ih]

lemma scan_of_none (h : r.front? (c :: s) = none) : r.scan 0 (c :: s) = r.scan 0 s := by
  rw [scan, h]

lemma scan_of_some (h : r.front? (c :: (u ++ rest)) = some (ds, rest)) :
    r.scan 0 (c :: (u ++ rest)) = ds :: r.scan 0 rest := by
  have hlength : (u ++ rest).length - rest.length = u.length := by
    rw [length_append]
    omega
  rw [scan, h]
  simp only [hlength, scan_skip]

lemma scan_eq_nil (h : Text.NotWithin r.lead.toList s []) : r.scan 0 s = [] := by
  have hpass := scan_of_notWithin h
  rw [append_nil] at hpass
  rw [hpass, scan]

lemma front?_lead (r : NumberRule) (s : Chars) :
    r.front? (r.lead.toList ++ s) = if s.takeWhile Text.isDecimal = [] then none
      else (r.ending.rest? (s.dropWhile Text.isDecimal)).map (s.takeWhile Text.isDecimal, ·) := by
  unfold front?
  rw [dropFront?_append]
  simp only [Option.bind_eq_bind, Option.bind_some, List.isEmpty_iff]
  split_ifs
  · rfl
  · cases r.ending.rest? (s.dropWhile Text.isDecimal) <;> rfl

lemma front?_of_no_digit (h : ∀ x ∈ s.head?, Text.isDecimal x = false) :
    r.front? (r.lead.toList ++ s) = none := by
  have htake : s.takeWhile Text.isDecimal = [] := takeWhile_run (u := []) (by simp) h
  rw [front?_lead, if_pos htake]

/-! ### Numbers between hyphens -/

abbrev hyphenRule : NumberRule := ⟨"-", .finishOrHyphen, false⟩

lemma isDecimal_hyphen : Text.isDecimal '-' = false := by decide

lemma exists_intercalate (v : Chars) (ws : List Chars) :
    ∃ s, ['-'].intercalate (v :: ws) = v ++ s ∧ (∀ x ∈ s.head?, x = '-') ∧
      Ending.finishOrHyphen.rest? s = some (['-'].intercalate ws) ∧ ['-'].intercalate ws <:+ s ∧
        (s = [] → ws = []) := by
  cases ws with
  | nil => exact ⟨[], by simp, by simp, rfl, suffix_rfl, fun _ => rfl⟩
  | cons u ws =>
    exact ⟨'-' :: ['-'].intercalate (u :: ws), by simp [intercalate_cons_cons], by simp, rfl,
      suffix_cons _ _, by simp⟩

lemma rest?_finishOrHyphen (hc : c ≠ '-') (hline : c :: s ≠ ['\n']) :
    Ending.finishOrHyphen.rest? (c :: s) = none := by
  have hend : (c :: s == [] || c :: s == ['\n']) = false := by simpa using hline
  unfold Ending.rest?
  simp only [hend, Bool.false_eq_true, if_false]
  split
  · rename_i heq
    exact absurd (cons.inj heq).1 hc
  · rfl

lemma front?_hyphenRule_eq_none (hv : isNumber v = false) (hyphen : '-' ∉ v)
    (hline : s = [] → v.getLast? ≠ some '\n') (hs : ∀ x ∈ s.head?, x = '-') :
    hyphenRule.front? ('-' :: (v ++ s)) = none := by
  by_cases hall : v.dropWhile Text.isDecimal = []
  · -- The word has digits only, so there are none.
    have hempty : v = [] := by
      by_contra hne
      rw [isNumber_iff.mpr ⟨hne, by simpa using hall⟩] at hv
      cases hv
    rw [hempty]
    exact front?_of_no_digit (r := hyphenRule) fun x hx => hs x hx ▸ isDecimal_hyphen
  · obtain ⟨x, rest, hdrop⟩ := exists_cons_of_ne_nil hall
    have hmem : x ∈ v := (dropWhile_sublist _).subset (hdrop ▸ mem_cons_self)
    have hbehind : (v ++ s).dropWhile Text.isDecimal = x :: (rest ++ s) := by
      rw [dropWhile_append, hdrop]
      rfl
    have hend : x :: (rest ++ s) ≠ ['\n'] := by
      intro heq
      obtain ⟨rfl, hnil⟩ := cons.inj heq
      obtain ⟨rfl, rfl⟩ := append_eq_nil_iff.mp hnil
      obtain ⟨u, hu⟩ := dropWhile_suffix Text.isDecimal (l := v)
      exact hline rfl (by rw [← hu, hdrop, getLast?_concat])
    refine (front?_lead hyphenRule (v ++ s)).trans ?_
    rw [hbehind, rest?_finishOrHyphen (fun h => hyphen (h ▸ hmem)) hend]
    split_ifs <;> rfl

lemma scan_hyphenRule_cons (hw : '-' ∉ w) (hv : '-' ∉ v)
    (hline : ∀ u ∈ (v :: ws).getLast?, u.getLast? ≠ some '\n') :
    hyphenRule.scan 0 (['-'].intercalate (w :: v :: ws)) =
      if isNumber v then v :: hyphenRule.scan 0 (['-'].intercalate ws)
      else hyphenRule.scan 0 (['-'].intercalate (v :: ws)) := by
  have hpass : hyphenRule.scan 0 (['-'].intercalate (w :: v :: ws)) =
      hyphenRule.scan 0 ('-' :: ['-'].intercalate (v :: ws)) := by
    rw [intercalate_cons_cons, append_assoc]
    exact scan_of_notWithin (notWithin_of_notMem hw [] _)
  obtain ⟨s, hs, hhyphen, hend, ⟨u, hu⟩, hlast⟩ := exists_intercalate v ws
  have hdecimal : ∀ x ∈ s.head?, Text.isDecimal x = false :=
    fun x hx => hhyphen x hx ▸ isDecimal_hyphen
  rw [hpass]
  split_ifs with hnumber
  · obtain ⟨hne, hdigits⟩ := isNumber_iff.mp hnumber
    have hfront : hyphenRule.front? ('-' :: ((v ++ u) ++ ['-'].intercalate ws)) =
        some (v, ['-'].intercalate ws) := by
      rw [append_assoc, hu]
      exact front?_append (r := hyphenRule) hdigits hne hdecimal hend
    rw [hs, ← hu, ← append_assoc]
    exact scan_of_some hfront
  · rw [hs]
    refine scan_of_none (front?_hyphenRule_eq_none (by simpa using hnumber) hv
      (fun hnil => ?_) hhyphen)
    exact hline v (by rw [hlast hnil]; rfl)

/-- Between hyphens the numbers among the words are found, from the second word on. -/
theorem scan_hyphenRule (hws : ∀ v ∈ w :: ws, '-' ∉ v)
    (hline : ∀ v ∈ (w :: ws).getLast?, v.getLast? ≠ some '\n') :
    hyphenRule.scan 0 (['-'].intercalate (w :: ws)) = loneNumbers ws := by
  have hlast : ∀ v, '-' ∉ v → hyphenRule.scan 0 (['-'].intercalate [v]) = [] := by
    intro v hv
    rw [intercalate_singleton]
    exact scan_eq_nil (notWithin_of_notMem hv [] [])
  fun_induction loneNumbers ws generalizing w with
  | case1 => exact hlast w (hws w (by simp))
  | case2 v hv =>
    rw [scan_hyphenRule_cons (hws w (by simp)) (hws v (by simp)) hline, if_pos hv]
    rfl
  | case3 v hv =>
    rw [scan_hyphenRule_cons (hws w (by simp)) (hws v (by simp)) hline, if_neg hv,
      hlast v (hws v (by simp))]
  | case4 v u ws hv ih =>
    rw [scan_hyphenRule_cons (hws w (by simp)) (hws v (by simp)) hline, if_pos hv,
      ih (fun y hy => hws y (by simp at hy ⊢; tauto)) hline]
  | case5 v u ws hv ih =>
    rw [scan_hyphenRule_cons (hws w (by simp)) (hws v (by simp)) hline, if_neg hv,
      ih (fun y hy => hws y (by simp at hy ⊢; tauto)) hline]

/-! ### Numbers behind the mark of an issue -/

abbrev markRule : NumberRule := ⟨"issue-", .anything, false⟩

lemma eq_of_append_hyphen (ht : '-' ∉ t) (hu : '-' ∉ u) (h : t ++ '-' :: s = u ++ '-' :: rest) :
    t = u := by
  have hword : ∀ v s : Chars, '-' ∉ v → (v ++ '-' :: s).takeWhile (· != '-') = v := by
    intro v s hv
    refine takeWhile_run (fun x hx => ?_) (by simp)
    simpa using fun heq : x = '-' => hv (heq ▸ hx)
  rw [← hword t s ht, h, hword u rest hu]

lemma eq_of_mark_isPrefix (ht : '-' ∉ t) (h : "issue-".toList <+: t ++ '-' :: s) :
    t = "issue".toList := by
  obtain ⟨u, hu⟩ := h
  have hsplit : "issue".toList ++ '-' :: u = t ++ '-' :: s := hu
  exact (eq_of_append_hyphen (by decide) ht hsplit).symm

lemma notWithin_mark (hv : '-' ∉ v) (h : ¬ "issue".toList <:+ v) (s : Chars) :
    Text.NotWithin "issue-".toList v ('-' :: s) := by
  intro t _ hsuffix hfront
  have ht : '-' ∉ t := fun hmem => hv (hsuffix.subset hmem)
  rw [eq_of_mark_isPrefix ht hfront] at hsuffix
  exact h hsuffix

lemma notWithin_before_mark (hu : '-' ∉ u) (s : Chars) :
    Text.NotWithin "issue-".toList u ("issue-".toList ++ s) := by
  intro t hne hsuffix hfront
  have ht : '-' ∉ t ++ "issue".toList := by
    intro hmem
    rcases mem_append.mp hmem with hmem | hmem
    · exact hu (hsuffix.subset hmem)
    · exact absurd hmem (by decide)
  have hword : t ++ ("issue-".toList ++ s) = (t ++ "issue".toList) ++ '-' :: s := by
    rw [append_assoc]
    rfl
  rw [hword] at hfront
  exact hne (append_left_eq_self.mp (eq_of_mark_isPrefix ht hfront))

lemma notWithin_mark_of_notMem (hv : '-' ∉ v) : Text.NotWithin "issue-".toList v [] := by
  intro t _ hsuffix hfront
  rw [append_nil] at hfront
  exact hv (hsuffix.subset (hfront.subset (by decide)))

lemma scan_mark (s : Chars) :
    markRule.scan 0 ("issue-".toList ++ s) =
      (if s.takeWhile Text.isDecimal ≠ [] then [s.takeWhile Text.isDecimal] else []) ++
        markRule.scan 0 s := by
  have hfront := front?_lead markRule s
  by_cases hne : s.takeWhile Text.isDecimal = []
  · -- Without digits nothing is found, and the mark does not stand in its own rest.
    have hpass : Text.NotWithin markRule.lead.toList "ssue-".toList s := by
      simp [notWithin_cons, notWithin_nil]
    rw [if_pos hne] at hfront
    rw [if_neg (by simpa using hne), nil_append, ← scan_of_notWithin hpass]
    exact scan_of_none hfront
  · have hsplit := takeWhile_append_dropWhile (p := Text.isDecimal) (l := s)
    have hparts : "issue-".toList ++ s =
        'i' :: (("ssue-".toList ++ s.takeWhile Text.isDecimal) ++ s.dropWhile Text.isDecimal) := by
      rw [append_assoc, hsplit]
      rfl
    have hrest : markRule.scan 0 s = markRule.scan 0 (s.dropWhile Text.isDecimal) := by
      have hletter : 'i' ∉ s.takeWhile Text.isDecimal :=
        fun hmem => absurd (mem_takeWhile_imp hmem) (by decide)
      conv_lhs => rw [← hsplit]
      exact scan_of_notWithin (notWithin_of_notMem hletter _ _)
    rw [if_neg hne] at hfront
    rw [if_pos hne, hrest]
    rw [hparts] at hfront ⊢
    exact scan_of_some hfront

lemma takeWhile_intercalate (w : Chars) (ws : List Chars) :
    (['-'].intercalate (w :: ws)).takeWhile Text.isDecimal = w.takeWhile Text.isDecimal := by
  cases ws with
  | nil => rw [intercalate_singleton]
  | cons v ws =>
    rw [intercalate_cons_cons, append_assoc, takeWhile_append]
    split_ifs with hall
    · have hself : w.takeWhile Text.isDecimal = w := takeWhile_prefix _ |>.eq_of_length hall
      rw [singleton_append, takeWhile_cons_of_neg (by simp [isDecimal_hyphen]), append_nil, hself]
    · rfl

/-- Behind marks the digits are found at the front of the words that follow. -/
theorem scan_markRule (hws : ∀ v ∈ ws, '-' ∉ v) :
    markRule.scan 0 (['-'].intercalate ws) = markedNumbers ws := by
  fun_induction markedNumbers ws with
  | case1 v w ws ih =>
    have hv : '-' ∉ v := hws v (by simp)
    have hrest := ih fun y hy => hws y (mem_cons_of_mem _ hy)
    rw [intercalate_cons_cons, append_assoc, singleton_append, ← hrest]
    by_cases hmark : "issue".toList <:+ v
    · obtain ⟨u, rfl⟩ := hmark
      have hu : '-' ∉ u := fun hmem => hv (mem_append_left _ hmem)
      have hparts : (u ++ "issue".toList) ++ '-' :: ['-'].intercalate (w :: ws) =
          u ++ ("issue-".toList ++ ['-'].intercalate (w :: ws)) := by
        rw [append_assoc]
        rfl
      rw [hparts, scan_of_notWithin (notWithin_before_mark hu _), scan_mark, takeWhile_intercalate]
      simp only [suffix_append, true_and]
    · rw [scan_of_notWithin (notWithin_mark hv hmark _), scan_of_none (front?_eq_none (by simp)),
        if_neg fun h => hmark h.1, nil_append]
  | case2 ws hshort =>
    match ws, hshort with
    | [], _ => rfl
    | [v], _ =>
      rw [intercalate_singleton]
      exact scan_eq_nil (notWithin_mark_of_notMem (hws v (by simp)))
    | v :: w :: ws, hshort => exact absurd rfl (hshort v w ws)

/-! ### Digits as numbers -/

lemma mem_loneNumbers (h : ds ∈ loneNumbers ws) : isNumber ds = true ∧ ∃ w ∈ ws, ds <+: w := by
  fun_induction loneNumbers ws with
  | case1 => cases h
  | case2 w hw =>
    obtain rfl := mem_singleton.mp h
    exact ⟨hw, ds, by simp, prefix_rfl⟩
  | case3 => cases h
  | case4 w v ws hw ih =>
    rcases mem_cons.mp h with rfl | h
    · exact ⟨hw, ds, by simp, prefix_rfl⟩
    · obtain ⟨hds, u, hu, hfront⟩ := ih h
      exact ⟨hds, u, by simp [hu], hfront⟩
  | case5 w v ws _ ih =>
    obtain ⟨hds, u, hu, hfront⟩ := ih h
    exact ⟨hds, u, mem_cons_of_mem _ hu, hfront⟩

lemma mem_markedNumbers (h : ds ∈ markedNumbers ws) : isNumber ds = true ∧ ∃ w ∈ ws, ds <+: w := by
  fun_induction markedNumbers ws with
  | case1 v w ws ih =>
    rcases mem_append.mp h with h | h
    · split_ifs at h with hmark
      · obtain rfl := mem_singleton.mp h
        exact ⟨isNumber_iff.mpr ⟨hmark.2, fun x hx => mem_takeWhile_imp hx⟩, w, by simp,
          takeWhile_prefix _⟩
      · cases h
    · obtain ⟨hds, u, hu, hfront⟩ := ih h
      exact ⟨hds, u, mem_cons_of_mem _ hu, hfront⟩
  | case2 => cases h

lemma mem_digitsIn (h : ds ∈ digitsIn s) : isNumber ds = true ∧ ds <:+: s := by
  have hword : isNumber ds = true ∧ ∃ w ∈ Text.pieces ['-'] s, ds <+: w := by
    rcases mem_append.mp h with h | h
    · exact mem_markedNumbers h
    · obtain ⟨hds, w, hw, hfront⟩ := mem_loneNumbers h
      exact ⟨hds, w, mem_of_mem_tail hw, hfront⟩
  obtain ⟨hds, w, hw, hfront⟩ := hword
  exact ⟨hds, hfront.isInfix.trans (infix_of_mem_pieces hw)⟩

lemma isAsciiDigit_of_isDecimal (hc : Branch.isNameChar c = true) (h : Text.isDecimal c = true) :
    Text.isAsciiDigit c = true := by
  have hsmall : c.toNat < 128 := by
    rcases Branch.isNameChar_iff.mp hc with hletter | hdigit | rfl
    · omega
    · omega
    · decide
  unfold Text.isDecimal Text.digitValue? at h
  simp only [hsmall, if_true] at h
  unfold Text.isAsciiDigit
  split_ifs at h with hdigit
  · exact hdigit
  · cases h

lemma wholeOf_of_mem_digitsIn (hchars : ∀ x ∈ s, Branch.isNameChar x = true)
    (hlen : s.length ≤ digitLimit) (h : ds ∈ digitsIn s) :
    wholeOf (.ofList ds) = .ok (natOf ds : Int) := by
  obtain ⟨hds, hpart⟩ := mem_digitsIn h
  obtain ⟨hne, hdigits⟩ := isNumber_iff.mp hds
  refine wholeOf_digits (fun x hx => ?_) hne (hpart.length_le.trans hlen)
  exact isAsciiDigit_of_isDecimal (hchars x (hpart.subset hx)) (hdigits x hx)

lemma mapM_wholeOf {dss : List Chars}
    (h : ∀ ds ∈ dss, wholeOf (.ofList ds) = .ok (natOf ds : Int)) :
    (dss.mapM fun ds => wholeOf (.ofList ds)) = .ok (dss.map fun ds => (natOf ds : Int)) := by
  induction dss with
  | nil => rfl
  | cons ds dss ih =>
    rw [mapM_cons, h ds (by simp), ih fun ds hds => h ds (mem_cons_of_mem _ hds)]
    rfl

/-! ### Each number once -/

lemma eraseDups_repeat (n : Int) (ns ms : List Int) :
    (n :: ns ++ n :: ms).eraseDups = (n :: (ns ++ ms)).eraseDups := by
  rw [cons_append, eraseDups_cons, eraseDups_cons]
  simp

lemma eraseDups_cons_eq_singleton_iff {n : Int} {ns : List Int} :
    (n :: ns).eraseDups = [n] ↔ ∀ m ∈ ns, m = n := by
  have hnil : ∀ ms : List Int, ms.eraseDups = [] ↔ ms = [] := by
    intro ms
    cases ms with
    | nil => simp
    | cons m ms => simp [eraseDups_cons]
  rw [eraseDups_cons, cons.injEq, hnil, filter_eq_nil_iff]
  simp

/-! ### The name of a branch for an issue -/

lemma intercalate_name (ds rest : Chars) :
    ['-'].intercalate ((u ++ "/issue".toList) :: ds :: Text.pieces ['-'] rest) =
      u ++ ("/issue-".toList ++ (ds ++ '-' :: rest)) := by
  have hne : Text.pieces ['-'] rest ≠ [] := splitChars_ne_nil _ _ _
  rw [intercalate_cons_cons, intercalate_cons_of_ne_nil hne, intercalate_pieces]
  simp

abbrev slashRule : NumberRule := ⟨"/", .hyphen, false⟩

abbrev openingRule : NumberRule := ⟨"", .hyphen, true⟩

lemma scan_slashRule (hu : '/' ∉ u) (hs : '/' ∉ s) :
    slashRule.scan 0 (u ++ ("/issue-".toList ++ s)) = [] := by
  have hrest : '/' ∉ "issue-".toList ++ s := by
    intro hmem
    rcases mem_append.mp hmem with hmem | hmem
    · exact absurd hmem (by decide)
    · exact hs hmem
  have hletter : ∀ x ∈ ("issue-".toList ++ s).head?, Text.isDecimal x = false := by
    intro x hx
    obtain rfl : 'i' = x := Option.some.inj hx
    decide
  have hpass : Text.NotWithin slashRule.lead.toList u ("/issue-".toList ++ s) :=
    notWithin_of_notMem hu [] _
  rw [scan_of_notWithin hpass]
  refine (scan_of_none (front?_of_no_digit (r := slashRule) hletter)).trans ?_
  exact scan_eq_nil (notWithin_of_notMem hrest [] [])

lemma all_openingRule (h : ∀ x ∈ s.head?, Text.isDecimal x = false) : openingRule.all s = [] := by
  have hfront : openingRule.front? s = none := front?_of_no_digit (r := openingRule) h
  rw [all, if_pos rfl, hfront]
  rfl

lemma loneNumbers_cons (hds : isNumber ds = true) (hne : ws ≠ []) :
    loneNumbers (ds :: ws) = ds :: loneNumbers ws.tail := by
  obtain ⟨w, ws, rfl⟩ := exists_cons_of_ne_nil hne
  rw [loneNumbers, if_pos hds]
  rfl

lemma markedNumbers_mark (hds : isNumber ds = true) (u : Chars) (ws : List Chars) :
    markedNumbers ((u ++ "/issue".toList) :: ds :: ws) = ds :: markedNumbers ws := by
  obtain ⟨hne, hdigits⟩ := isNumber_iff.mp hds
  have hself : ds.takeWhile Text.isDecimal = ds := takeWhile_eq_self_iff.mpr hdigits
  have hmark : "issue".toList <:+ u ++ "/issue".toList := ⟨u ++ ['/'], by simp⟩
  have hletter : ¬ "issue".toList <:+ ds := by
    intro hsuffix
    exact absurd (hdigits 'i' (hsuffix.subset (by decide))) (by decide)
  rw [markedNumbers, hself, if_pos ⟨hmark, hne⟩, singleton_append]
  cases ws with
  | nil => rfl
  | cons w ws => rw [markedNumbers, if_neg fun h => hletter h.1, nil_append]

variable {type : Chars}

/-- The digits that all rules find in the name of a branch for an issue: those of the issue, by two
rules, and those that the description brings. -/
theorem flatMap_allNumberRules (htype : ∀ x ∈ type, 97 ≤ x.toNat ∧ x.toNat ≤ 122) (hne : type ≠ [])
    (hds : isNumber ds = true) (hrest : ∀ x ∈ rest, Branch.isNameChar x = true) :
    allNumberRules.flatMap (·.all (type ++ ("/issue-".toList ++ (ds ++ '-' :: rest)))) =
      (ds :: markedNumbers (Text.pieces ['-'] rest)) ++
        (ds :: loneNumbers (Text.pieces ['-'] rest).tail) := by
  have hdigits := (isNumber_iff.mp hds).2
  have hpieces : Text.pieces ['-'] rest ≠ [] := splitChars_ne_nil _ _ _
  have htypeNot : ∀ x : Char, ¬ (97 ≤ x.toNat ∧ x.toNat ≤ 122) → x ∉ type :=
    fun x hx hmem => hx (htype x hmem)
  have hdsNot : ∀ x : Char, Text.isDecimal x = false → x ∉ ds := by
    intro x hx hmem
    rw [hdigits x hmem] at hx
    cases hx
  have hrestNot : ∀ x : Char, Branch.isNameChar x = false → x ∉ rest := by
    intro x hx hmem
    rw [hrest x hmem] at hx
    cases hx
  have hwords : ∀ v ∈ (type ++ "/issue".toList) :: ds :: Text.pieces ['-'] rest,
      '-' ∉ v ∧ '\n' ∉ v := by
    intro v hv
    rcases mem_cons.mp hv with rfl | hv
    · simp [htypeNot]
    · rcases mem_cons.mp hv with rfl | hv
      · exact ⟨hdsNot _ (by decide), hdsNot _ (by decide)⟩
      · refine ⟨notMem_of_mem_pieces hv, fun hmem => ?_⟩
        exact hrestNot '\n' (by decide) ((infix_of_mem_pieces hv).subset hmem)
  have hmark := scan_markRule fun v hv => (hwords v hv).1
  have hhyphen := scan_hyphenRule (fun v hv => (hwords v hv).1)
    fun v hv hend => (hwords v (mem_of_getLast? hv)).2 (mem_of_getLast? hend)
  rw [intercalate_name, markedNumbers_mark hds] at hmark
  rw [intercalate_name, loneNumbers_cons hds hpieces] at hhyphen
  have hslash : '/' ∉ ds ++ '-' :: rest := by
    simp [hdsNot '/' (by decide), hrestNot '/' (by decide)]
  have hletter : ∀ x ∈ (type ++ ("/issue-".toList ++ (ds ++ '-' :: rest))).head?,
      Text.isDecimal x = false := by
    intro x hx
    rw [head?_append_of_ne_nil _ hne] at hx
    have hbounds := htype x (mem_of_mem_head? hx)
    rw [← Bool.not_eq_true]
    intro hdecimal
    have hname : Branch.isNameChar x = true := Branch.isNameChar_iff.mpr (Or.inl hbounds)
    have hascii := isAsciiDigit_iff.mp (isAsciiDigit_of_isDecimal hname hdecimal)
    omega
  unfold allNumberRules
  rw [flatMap_cons, flatMap_cons, flatMap_cons, flatMap_singleton, all_eq_scan (r := markRule) rfl,
    all_eq_scan (r := slashRule) rfl, all_eq_scan (r := hyphenRule) rfl, all_openingRule hletter,
    scan_slashRule (htypeNot '/' (by decide)) hslash, hmark, hhyphen]
  rfl

/-- The issues that are found in the name of a branch for an issue: this one first, and each number
of the description once. -/
theorem issuesIn_name {branch : String} {n : Nat} (htype : ∀ x ∈ type, 97 ≤ x.toNat ∧ x.toNat ≤ 122)
    (hne : type ≠ []) (hlen : (Nat.toDigits 10 n).length ≤ digitLimit)
    (hrest : ∀ x ∈ rest, Branch.isNameChar x = true)
    (hshort : rest.length ≤ digitLimit)
    (hbranch : branch.toList = type ++ ("/issue-".toList ++ (Nat.toDigits 10 n ++ '-' :: rest))) :
    issuesIn branch = .ok ((n : Int) :: numbersIn (.ofList rest)).eraseDups := by
  have hdigits := (Json.numeral_toDigits n).digits
  have hds : isNumber (Nat.toDigits 10 n) = true :=
    isNumber_iff.mpr ⟨Nat.toDigits_ne_nil, isDecimal_of_mem_toDigits n⟩
  have hissue := wholeOf_digits hdigits Nat.toDigits_ne_nil hlen
  have hothers : ∀ ds ∈ digitsIn rest, wholeOf (.ofList ds) = .ok (natOf ds : Int) := by
    intro ds hmem
    exact wholeOf_of_mem_digitsIn hrest hshort hmem
  have hread : ∀ ds ∈ (Nat.toDigits 10 n :: markedNumbers (Text.pieces ['-'] rest)) ++
      (Nat.toDigits 10 n :: loneNumbers (Text.pieces ['-'] rest).tail),
      wholeOf (.ofList ds) = .ok (natOf ds : Int) := by
    intro ds hmem
    rcases mem_append.mp hmem with hmem | hmem
    all_goals rcases mem_cons.mp hmem with rfl | hmem
    · exact hissue
    · exact hothers ds (mem_append_left _ hmem)
    · exact hissue
    · exact hothers ds (mem_append_right _ hmem)
  unfold issuesIn
  rw [hbranch, flatMap_allNumberRules htype hne hds hrest, mapM_wholeOf hread]
  simp only [bind, Except.bind, pure, Except.pure, foldl_eq_eraseDups, map_append, map_cons]
  rw [eraseDups_repeat, Json.natOf_toDigits, numbersIn, String.toList_ofList, digitsIn, map_append]

/-! ### What is recorded of a branch -/

lemma exec_git?_head {branch err : String} {w : World}
    (hblank : ∀ c ∈ branch.toList, Text.isBlank c = false)
    (hgit : w.respond w.calls Branch.headCall = .finished 0 (branch ++ "\n") err) :
    (git? ["rev-parse", "--abbrev-ref", "HEAD"] none).exec w =
      (.ok (some branch), { w with calls := w.calls ++ [Branch.headCall] }) := by
  have hline := trim_line hblank
  have houtput : (Tool.output? Branch.headCall).exec w =
      (.ok (some branch), { w with calls := w.calls ++ [Branch.headCall] }) := by
    rw [Tool.output?, Tool.exec_bind_ok (Tool.exec_run_finished hgit "None"), Tool.exec_pure,
      if_pos (by rfl), hline]
  refine Tool.exec_guarded_ok ?_ _ _
  refine (Tool.exec_bind_ok houtput _).trans ?_
  rw [Tool.exec_pure, Option.some_or]

lemma exec_branchInfo {name : String} {w w' : World} {scopes : Value}
    {scope : Option (String × String)}
    (hgit : (git? ["rev-parse", "--abbrev-ref", "HEAD"] none).exec w = (.ok (some name), w'))
    (hne : name ≠ "")
    (hscope : scopeOfBranch name scopes = .ok scope) :
    ((branchInfo scopes).exec w).1 = (issuesIn name).map fun issues => .object
      [("name", name), ("relatedIssues", .list (issues.map Value.int)),
       ("detectedScope", Value.ofOption (fun s => .str s.1) scope),
       ("scopeLabel", Value.ofOption (fun s => .str s.2) scope)] := by
  rw [branchInfo, Tool.exec_bind_ok hgit]
  split
  · contradiction
  · rename_i heq
    exact absurd (Option.some.inj heq) hne
  · rename_i heq
    obtain rfl := Option.some.inj heq
    rw [hscope]
    cases issuesIn name <;> rfl

lemma not_blank_of_isNameChar (h : Branch.isNameChar c = true ∨ c = '/') :
    Text.isBlank c = false := by
  have hbounds : 45 ≤ c.toNat ∧ c.toNat ≤ 122 := by
    rcases h with hname | rfl
    · rcases Branch.isNameChar_iff.mp hname with hletter | hdigit | rfl
      · omega
      · omega
      · decide
    · decide
  exact isBlank_eq_false (by omega) (by omega)

end Workbench.Workspace

namespace Workbench.Branch

open Workspace

lemma letters_of_flowType {type : String} (h : type ∈ flowTypes) :
    type.toList ≠ [] ∧ ∀ x ∈ type.toList, 97 ≤ x.toNat ∧ x.toNat ≤ 122 := by
  simp only [flowTypes, mem_cons, not_mem_nil, or_false] at h
  rcases h with rfl | rfl | rfl | rfl
  all_goals simp

lemma exists_rest_of_makeName {type : String} (htype : type ∈ flowTypes) {n : Nat} (hpos : 0 < n)
    (hlt : n < 10 ^ 40) {description name : String}
    (hname : makeName type description n builtIn = .ok name) :
    ∃ rest, Tidy rest ∧ rest.length ≤ 64 ∧
      name.toList = type.toList ++ ("/issue-".toList ++ (Nat.toDigits 10 n ++ '-' :: rest)) := by
  obtain ⟨hsetting, hlead, -⟩ := setting_flowTypes htype
  have hlength : (Nat.toDigits 10 n).length ≤ 40 := Nat.toDigits_length 10 n 40 (by omega) hlt
  have hmark := issueMark_of_pos hpos
  -- Prefix and mark take 55 of the 64 characters at most.
  have hroom : (((type ++ "/").toList ++ issueMark n).length : Int) < 64 := by
    have hissue : "issue-".toList.length = 6 := by decide
    rw [hmark]
    simp only [length_append, String.length_toList, length_cons, length_nil, hissue]
    omega
  obtain ⟨rest, htidy, -, hsplit, hlimit⟩ :=
    exists_of_makeName_front hsetting hname (tidy_cleaned description)
    (cleaned_ne_nil_of_makeName hsetting hname) (append_assoc _ _ _).symm fun m hm => by
      obtain rfl : (64 : Int) = m := Option.some.inj hm
      exact hroom
  refine ⟨rest, htidy, ?_, ?_⟩
  · rw [before_of_whole rfl rfl, Except.ok.injEq, decide_eq_false_iff_not, ← String.length_toList,
      hsplit] at hlimit
    simp only [length_append] at hlimit
    omega
  · rw [hsplit, hmark]
    simp

/-- Of a branch that is made for an issue this issue is recorded, and with it the numbers that the
description brings into the name.  So the issue is the only one just if the description brings no
other number. -/
theorem branchInfo_makeName {type : String} (htype : type ∈ flowTypes) {issue : Int}
    (hpos : 0 < issue) (hlt : issue < 10 ^ 40) {description name : String}
    (hname : makeName type description issue builtIn = .ok name)
    {scopes : Value} {scope : Option (String × String)}
    (hscope : scopeOfBranch name scopes = .ok scope) {w : World} {err : String}
    (hgit : w.respond w.calls headCall = .finished 0 (name ++ "\n") err) :
    ∃ rest issues, name = type ++ "/issue-" ++ toString issue ++ "-" ++ rest ∧
      issues = (issue :: numbersIn rest).eraseDups ∧
      ((branchInfo scopes).exec w).1 = .ok (.object
        [("name", name), ("relatedIssues", .list (issues.map Value.int)),
         ("detectedScope", Value.ofOption (fun s => .str s.1) scope),
         ("scopeLabel", Value.ofOption (fun s => .str s.2) scope)]) ∧
      (issues = [issue] ↔ ∀ n ∈ numbersIn rest, n = issue) := by
  obtain ⟨n, rfl⟩ := Int.eq_ofNat_of_zero_le hpos.le
  have hpos : 0 < n := by exact_mod_cast hpos
  have hlt : n < 10 ^ 40 := by exact_mod_cast hlt
  obtain ⟨hne, hletters⟩ := letters_of_flowType htype
  obtain ⟨rest, htidy, hshort, hparts⟩ := exists_rest_of_makeName htype hpos hlt hname
  have hlength : (Nat.toDigits 10 n).length ≤ 40 := Nat.toDigits_length 10 n 40 (by omega) hlt
  have hissues := issuesIn_name hletters hne (hlength.trans (by decide)) htidy.chars
    (hshort.trans (by decide)) hparts
  have hblank : ∀ c ∈ name.toList, Text.isBlank c = false := by
    intro c hc
    refine not_blank_of_isNameChar ?_
    have hmark : "/issue-".toList.all (fun x => isNameChar x || x == '/') = true := by decide
    simp only [hparts, List.mem_append, List.mem_cons] at hc
    rcases hc with hc | hc | hc | rfl | hc
    · exact Or.inl (isNameChar_iff.mpr (Or.inl (hletters c hc)))
    · simpa using List.all_eq_true.mp hmark c hc
    · exact Or.inl (isNameChar_of_mem_toDigits hc)
    · exact Or.inl (by decide)
    · exact Or.inl (htidy.chars c hc)
  have hhead := exec_git?_head hblank hgit
  have htext : name ≠ "" := by
    rintro rfl
    rw [String.toList_empty] at hparts
    exact hne (List.append_eq_nil_iff.mp hparts.symm).1
  refine ⟨String.ofList rest, _, ?_, rfl, ?_, eraseDups_cons_eq_singleton_iff⟩
  · refine String.toList_injective ?_
    simp only [hparts, String.toList_append, Json.toList_int, String.toList_ofList,
      Int.natAbs_natCast]
    rw [if_neg (by omega)]
    simp
  · rw [exec_branchInfo hhead htext hscope, hissues]
    rfl

/-- Git is on a branch. -/
def onBranch (name : String) : World :=
  { respond := fun _ call => .finished 0 (if call = headCall then name ++ "\n" else "") "" }

/-- The description repeats the issue, begins with a number that does not count, and brings one
behind a mark and another one by itself. -/
theorem branchInfo_makeName_numbers :
    makeName "release" "3 issue-70s 5 8 9" 5 builtIn = .ok "release/issue-5-3-issue-70s-5-8-9" ∧
    numbersIn "3-issue-70s-5-8-9" = [70, 5, 9] ∧
    ∃ rest issues, "release/issue-5-3-issue-70s-5-8-9" = "release" ++ "/issue-" ++ toString
      (5 : Int) ++ "-" ++ rest ∧
      issues = (5 :: numbersIn rest).eraseDups ∧
      ((branchInfo .null).exec (onBranch "release/issue-5-3-issue-70s-5-8-9")).1 = .ok (.object
        [("name", "release/issue-5-3-issue-70s-5-8-9"),
          ("relatedIssues", .list (issues.map Value.int)),
         ("detectedScope", .null), ("scopeLabel", .null)]) ∧
      (issues = [5] ↔ ∀ n ∈ numbersIn rest, n = 5) := by
  have hname : makeName "release" "3 issue-70s 5 8 9" 5 builtIn =
      .ok "release/issue-5-3-issue-70s-5-8-9" := by rfl
  have hscope : scopeOfBranch "release/issue-5-3-issue-70s-5-8-9" .null = .ok none := by rfl
  refine ⟨hname, by decide, ?_⟩
  exact branchInfo_makeName (by decide) (by decide) (by decide) hname hscope rfl

/-- A number in the description is recorded as an issue. -/
theorem branchInfo_records_other_number :
    makeName "feature" "add 3 things" 5 builtIn = .ok "feature/issue-5-add-3-things" ∧
    ∃ info, ((branchInfo .null).exec (onBranch "feature/issue-5-add-3-things")).1 = .ok info ∧
      info.field "relatedIssues" = .ok (.list [.int 5, .int 3]) ∧
      info.field "relatedIssues" ≠ .ok (.list [.int 5]) := by
  have hfield :
      (Value.object [("name", "feature/issue-5-add-3-things"),
        ("relatedIssues", .list [.int 5, .int 3]),
      ("detectedScope", .null), ("scopeLabel", .null)]).field "relatedIssues" = .ok (.list [.int 5,
      .int 3]) := by rfl
  refine ⟨by rfl, _, by rfl, hfield, ?_⟩
  rw [hfield]
  simp

end Workbench.Branch
