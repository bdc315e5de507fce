import Mathlib.Algebra.Ring.Parity
import Workbench.Proofs.Workspace.RelatedIssues

/-!
# The first number and all numbers of a name

One reader takes the first number that it finds in the name of a branch for its issue, another one
collects all numbers. Both look by the same rules but for the last one: where all numbers are
collected, a number takes the hyphen behind it along, and this hyphen is missing before the next
number.
-/

open List hiding all

namespace Workbench.Workspace

open Text NumberRule

variable {r : NumberRule} {s t u v w ds rest : Chars} {ws : List Chars} {branch : String} {n : Int}

/-! ### Numbers in a row -/

/-- How many numbers stand in a row at the end of a list of words. -/
def closing (ws : List Chars) : Nat := (ws.reverse.takeWhile isNumber).length

lemma closing_cons (w : Chars) (ws : List Chars) :
    closing (w :: ws) = if closing ws = ws.length ∧ isNumber w = true then ws.length + 1
      else closing ws := by
  unfold closing
  rw [reverse_cons, takeWhile_append, length_reverse]
  by_cases hall : (ws.reverse.takeWhile isNumber).length = ws.length
  · cases hw : isNumber w <;> simp [hall, hw]
  · simp [hall]

lemma closing_le (ws : List Chars) : closing ws ≤ ws.length :=
  (takeWhile_sublist _).length_le.trans length_reverse.le

/-- A number behind other words counts just if it is the first, the third, and so on of the numbers
in a row. -/
theorem loneNumbers_concat (hds : isNumber ds = true) (ws : List Chars) :
    loneNumbers (ws ++ [ds]) = loneNumbers ws ++ if Even (closing ws) then [ds] else [] := by
  fun_induction loneNumbers ws with
  | case1 => simp [loneNumbers, closing, hds]
  | case2 w hw => simp [loneNumbers, closing, hw]
  | case3 w hw => simp [loneNumbers, closing, hw, hds]
  | case4 w v ws hw ih =>
    -- Both words in front belong to the row or neither does.
    have hparity : Even (closing (w :: v :: ws)) ↔ Even (closing ws) := by
      have hle := closing_le ws
      rw [closing_cons, closing_cons, length_cons]
      by_cases hall : closing ws = ws.length
      · cases hv : isNumber v <;> simp [hall, hw, Nat.even_add_one]
      · have hne : closing ws ≠ ws.length + 1 := by omega
        simp [hall, hne]
    rw [cons_append, cons_append, loneNumbers, if_pos hw, ih, cons_append]
    simp only [hparity]
  | case5 w v ws hw ih =>
    have hsame : closing (w :: v :: ws) = closing (v :: ws) := by simp [closing_cons w, hw]
    rw [cons_append, cons_append, loneNumbers, if_neg hw, ← cons_append, ih, hsame]

/-! ### Numbers at the end -/

lemma exists_of_front? (h : r.front? s = some (ds, rest)) :
    ∃ behind, s = r.lead.toList ++ (ds ++ behind) ∧ isNumber ds = true ∧
      r.ending.rest? behind = some rest := by
  have hlead : r.lead.toList <+: s := by
    by_contra hother
    rw [front?_eq_none hother] at h
    cases h
  obtain ⟨t, rfl⟩ := hlead
  rw [front?_lead] at h
  split_ifs at h with hempty
  obtain ⟨rest', hrest, h⟩ := Option.map_eq_some_iff.mp h
  obtain ⟨rfl, rfl⟩ := Prod.mk.inj h
  refine ⟨t.dropWhile isDecimal, ?_,
    isNumber_iff.mpr ⟨hempty, fun x hx => mem_takeWhile_imp hx⟩, hrest⟩
  rw [takeWhile_append_dropWhile]

lemma exists_front?_of_mem_scan {skip : Nat} (h : ds ∈ r.scan skip s) :
    ∃ t rest, t <:+ s ∧ r.front? t = some (ds, rest) := by
  fun_induction scan r skip s with
  | case1 => cases h
  | case2 skip c s ih =>
    obtain ⟨t, rest, ht, hfront⟩ := ih h
    exact ⟨t, rest, ht.trans (suffix_cons c s), hfront⟩
  | case3 c s digits rest hfront ih =>
    rcases mem_cons.mp h with rfl | h
    · exact ⟨c :: s, rest, suffix_rfl, hfront⟩
    · obtain ⟨t, rest, ht, hfront⟩ := ih h
      exact ⟨t, rest, ht.trans (suffix_cons c s), hfront⟩
  | case4 c s _ ih =>
    obtain ⟨t, rest, ht, hfront⟩ := ih h
    exact ⟨t, rest, ht.trans (suffix_cons c s), hfront⟩

abbrev finishRule : NumberRule := ⟨"-", .finish, false⟩

lemma exists_of_mem_finishRule (hline : s.getLast? ≠ some '\n') (h : ds ∈ finishRule.all s) :
    isNumber ds = true ∧ ∃ u, s = u ++ '-' :: ds := by
  obtain ⟨t, rest, ⟨u, rfl⟩, hfront⟩ := exists_front?_of_mem_scan h
  obtain ⟨behind, rfl, hds, hrest⟩ := exists_of_front? hfront
  have hend : behind = [] := by
    by_contra hne
    have hbreak : behind = ['\n'] ∧ behind = rest := by simpa [Ending.rest?, hne] using hrest
    exact hline (by rw [hbreak.1, ← append_assoc, ← append_assoc, getLast?_concat])
  exact ⟨hds, u, by rw [hend, append_nil]; rfl⟩

lemma intercalate_concat (hne : ws ≠ []) (x : Char) (w : Chars) :
    [x].intercalate (ws ++ [w]) = [x].intercalate ws ++ x :: w := by
  induction ws with
  | nil => exact absurd rfl hne
  | cons v ws ih =>
    cases ws with
    | nil => simp [intercalate_cons_cons]
    | cons v' ws =>
      rw [cons_append, cons_append, intercalate_cons_cons, ← cons_append, ih (by simp),
        intercalate_cons_cons]
      simp

lemma pieces_concat {x : Char} (hw : x ∉ w) (u : Chars) :
    pieces [x] (u ++ x :: w) = pieces [x] u ++ [w] := by
  have hne : pieces [x] u ≠ [] := splitChars_ne_nil _ _ _
  have hwords : ∀ v ∈ pieces [x] u ++ [w], x ∉ v := by
    intro v hv
    rcases mem_append.mp hv with hv | hv
    · exact notMem_of_mem_pieces hv
    · rwa [mem_singleton.mp hv]
  have hpieces := pieces_intercalate (by simp) hwords
  rwa [intercalate_concat hne, intercalate_pieces] at hpieces

/-! ### Both readers -/

abbrev sharedRules : List NumberRule := [markRule, slashRule, openingRule]

/-- The words of a name between its first and its last one, by the hyphens. -/
def innerWords (branch : String) : List Chars := (pieces ['-'] branch.toList).tail.dropLast

/-- All numbers that the rules find. -/
def foundNumbers (branch : String) : List Chars := allNumberRules.flatMap (·.all branch.toList)

lemma foundNumbers_eq (branch : String) :
    foundNumbers branch = sharedRules.flatMap (·.all branch.toList) ++
      hyphenRule.all branch.toList := by
  simp [foundNumbers, allNumberRules, sharedRules]

lemma exists_mem_issuesIn_iff : (∃ ns, issuesIn branch = .ok ns ∧ n ∈ ns) ↔
    (∀ ds ∈ foundNumbers branch, ∃ m, wholeOf (.ofList ds) = .ok m) ∧
      ∃ ds ∈ foundNumbers branch, wholeOf (.ofList ds) = .ok n := by
  rw [← exists_mapM_ok_iff]
  unfold issuesIn
  constructor
  · rintro ⟨ns, hns, hn⟩
    obtain ⟨ms, hms, hns⟩ := exists_of_bind_ok hns
    refine ⟨⟨ms, hms⟩, (mem_mapM_ok_iff hms).mp ?_⟩
    rwa [← Except.ok.inj hns, foldl_eq_eraseDups, mem_eraseDups] at hn
  · rintro ⟨⟨ms, hms⟩, hn⟩
    refine ⟨ms.eraseDups, ?_, mem_eraseDups.mpr ((mem_mapM_ok_iff hms).mpr hn)⟩
    rw [← foldl_eq_eraseDups]
    unfold foundNumbers at hms
    rw [hms]
    rfl

lemma all_hyphenRule (hline : branch.toList.getLast? ≠ some '\n') :
    hyphenRule.all branch.toList = loneNumbers (pieces ['-'] branch.toList).tail := by
  obtain ⟨w, ws, hwords⟩ : ∃ w ws, pieces ['-'] branch.toList = w :: ws :=
    exists_cons_of_ne_nil (splitChars_ne_nil _ _ _)
  have hjoined := intercalate_pieces '-' branch.toList
  rw [hwords] at hjoined
  have hscan : hyphenRule.scan 0 (['-'].intercalate (w :: ws)) = loneNumbers ws := by
    refine scan_hyphenRule (fun v hv => notMem_of_mem_pieces (hwords ▸ hv)) fun v hv hend => ?_
    -- The name ends as its last word does.
    obtain ⟨front, hfront⟩ := getLast?_eq_some_iff.mp hv
    obtain ⟨v', rfl⟩ := getLast?_eq_some_iff.mp hend
    rw [← hjoined, hfront] at hline
    cases front with
    | nil => exact hline (by simp)
    | cons u front =>
      exact hline
        (by rw [intercalate_concat (by simp), ← cons_append, ← append_assoc, getLast?_concat])
  rw [hwords, all_eq_scan rfl, ← hjoined, hscan]
  rfl

lemma getLast?_ne_of_trim (htrim : trim branch = branch) : branch.toList.getLast? ≠ some '\n' := by
  intro hend
  have htext : trimWhile isBlank branch.toList = branch.toList := by
    rw [trim] at htrim
    rw [← String.toList_ofList (l := trimWhile isBlank branch.toList), htrim]
  rw [← htext] at hend
  exact absurd (getLast?_dropEndWhile hend) (by decide)

/-- Where no rule that both readers have finds a number, the first reader takes the last word. -/
lemma cases_of_firstDigits? (htrim : trim branch = branch)
    (h : firstDigits? branch.toList = some ds) :
    (∃ r ∈ sharedRules, ds ∈ r.all branch.toList) ∨ (∀ r ∈ sharedRules, r.all branch.toList = []) ∧
      isNumber ds = true ∧ (pieces ['-'] branch.toList).tail = innerWords branch ++ [ds] := by
  have hrules : firstNumberRules = sharedRules ++ [finishRule] := rfl
  rw [firstDigits?, hrules, findSome?_append] at h
  cases hshared : sharedRules.findSome? fun r => (r.all branch.toList).head? with
  | some digits =>
    rw [hshared] at h
    obtain ⟨r, hr, hfound⟩ := exists_of_findSome?_eq_some hshared
    obtain rfl : digits = ds := Option.some.inj h
    exact .inl ⟨r, hr, mem_of_head? hfound⟩
  | none =>
    rw [hshared, Option.none_or] at h
    obtain ⟨r, hr, hfound⟩ := exists_of_findSome?_eq_some h
    obtain rfl := mem_singleton.mp hr
    obtain ⟨hds, u, hsplit⟩ :=
      exists_of_mem_finishRule (getLast?_ne_of_trim htrim) (mem_of_head? hfound)
    have hyphen : '-' ∉ ds := fun hmem => absurd ((isNumber_iff.mp hds).2 _ hmem) (by decide)
    have htail : (pieces ['-'] branch.toList).tail = (pieces ['-'] u).tail ++ [ds] := by
      have hne : pieces ['-'] u ≠ [] := splitChars_ne_nil _ _ _
      rw [hsplit, pieces_concat hyphen, tail_append_of_ne_nil hne]
    refine .inr ⟨fun r hr => ?_, hds, ?_⟩
    · exact head?_eq_none_iff.mp (findSome?_eq_none_iff.mp hshared r hr)
    · rw [innerWords, htail, dropLast_concat]

lemma exists_related_iff {scopes : Value} {scope : Option (String × String)} {w w' : World}
    (hne : branch ≠ "") (hscope : scopeOfBranch branch scopes = .ok scope)
    (hgit : (git? ["rev-parse", "--abbrev-ref", "HEAD"] none).exec w = (.ok (some branch), w')) :
    (∃ info related, ((branchInfo scopes).exec w).1 = .ok info ∧
      info.field "relatedIssues" = .ok (.list related) ∧
      .int n ∈ related) ↔ ∃ ns, issuesIn branch = .ok ns ∧ n ∈ ns := by
  rw [exec_branchInfo hgit hne hscope]
  constructor
  · rintro ⟨info, related, hinfo, hrelated, hn⟩
    cases hns : issuesIn branch with
    | error e =>
      rw [hns] at hinfo
      cases hinfo
    | ok ns =>
      rw [hns] at hinfo
      obtain rfl := Except.ok.inj hinfo
      obtain rfl : ns.map Value.int = related := Value.list.inj (Except.ok.inj hrelated)
      exact ⟨ns, rfl, by simpa using hn⟩
  · rintro ⟨ns, hns, hn⟩
    rw [hns]
    exact ⟨_, _, rfl, rfl, mem_map_of_mem hn⟩

/-- The number that the first reader takes for the issue of a branch is among those that the second
one records if and only if all numbers of the name can be read, and a rule that both have finds one,
or the numbers in a row before the last word are even in number, or a number that counts among the
words before it has the same value. -/
theorem issue_among_related_iff (htrim : trim branch = branch)
    (hissue : issueIn? branch = .ok (some n)) {scopes : Value} {scope : Option (String × String)}
    (hscope : scopeOfBranch branch scopes = .ok scope) {w w' : World}
    (hgit : (git? ["rev-parse", "--abbrev-ref", "HEAD"] none).exec w = (.ok (some branch), w')) :
    (∃ info related, ((branchInfo scopes).exec w).1 = .ok info ∧
      info.field "relatedIssues" = .ok (.list related) ∧
      .int n ∈ related) ↔
    (∀ ds ∈ foundNumbers branch, ∃ m, wholeOf (.ofList ds) = .ok m) ∧
      ((∃ r ∈ sharedRules, r.all branch.toList ≠ []) ∨ Even (closing (innerWords branch)) ∨
        ∃ ds ∈ loneNumbers (innerWords branch), wholeOf (.ofList ds) = .ok n) := by
  have hne : branch ≠ "" := by
    rintro rfl
    cases hissue
  obtain ⟨ds, hds, hn⟩ : ∃ ds,
      firstDigits? branch.toList = some ds ∧ wholeOf (.ofList ds) = .ok n := by
    unfold issueIn? at hissue
    split at hissue
    · rename_i ds hds
      obtain ⟨m, hm, hmn⟩ := exists_of_bind_ok hissue
      obtain rfl := Option.some.inj (Except.ok.inj hmn)
      exact ⟨ds, hds, hm⟩
    · cases hissue
  rw [exists_related_iff hne hscope hgit, exists_mem_issuesIn_iff]
  refine and_congr_right fun _ => ?_
  rw [foundNumbers_eq]
  rcases cases_of_firstDigits? htrim hds with ⟨r, hr, hmem⟩ | ⟨hnone, hnumber, htail⟩
  · have hfound : ds ∈ sharedRules.flatMap (·.all branch.toList) := mem_flatMap.mpr ⟨r, hr, hmem⟩
    exact iff_of_true ⟨ds, mem_append_left _ hfound, hn⟩ (.inl ⟨r, hr, ne_nil_of_mem hmem⟩)
  · have hshared : sharedRules.flatMap (·.all branch.toList) = [] := flatMap_eq_nil_iff.mpr hnone
    have hothers : ¬ ∃ r ∈ sharedRules, r.all branch.toList ≠ [] :=
      fun ⟨r, hr, hfound⟩ => hfound (hnone r hr)
    rw [hshared, nil_append, all_hyphenRule (getLast?_ne_of_trim htrim), htail,
      loneNumbers_concat hnumber]
    by_cases heven : Even (closing (innerWords branch))
    · simp only [heven, if_true, true_or, or_true, iff_true]
      exact ⟨ds, by simp, hn⟩
    · simp only [heven, hothers, if_false, append_nil, false_or]

/-- The last of three numbers in a row is recorded, and the last of two is not. -/
theorem issue_among_related_row :
    issueIn? "fix/upgrade-2-3-4" = .ok (some 4) ∧ issueIn? "fix/upgrade-3-4" = .ok (some 4) ∧
    (∃ info related, ((branchInfo .null).exec (Branch.onBranch "fix/upgrade-2-3-4")).1 = .ok info ∧
      info.field "relatedIssues" = .ok (.list related) ∧ .int 4 ∈ related) ∧
    ¬ ∃ info related, ((branchInfo .null).exec (Branch.onBranch "fix/upgrade-3-4")).1 = .ok info ∧
      info.field "relatedIssues" = .ok (.list related) ∧ .int 4 ∈ related := by
  have hthree : issueIn? "fix/upgrade-2-3-4" = .ok (some 4) := by rfl
  have htwo : issueIn? "fix/upgrade-3-4" = .ok (some 4) := by rfl
  have hthree' : scopeOfBranch "fix/upgrade-2-3-4" .null = .ok none := by rfl
  have htwo' : scopeOfBranch "fix/upgrade-3-4" .null = .ok none := by rfl
  refine ⟨hthree, htwo, ?_, ?_⟩
  · rw [issue_among_related_iff (by rfl) hthree hthree' (by rfl)]
    refine ⟨?_, .inr (.inl (by decide))⟩
    have hfound : foundNumbers "fix/upgrade-2-3-4" = ["2".toList, "4".toList] := by decide
    rw [hfound]
    simp only [forall_mem_cons, not_mem_nil, false_imp_iff, implies_true, and_true]
    exact ⟨⟨2, by rfl⟩, 4, by rfl⟩
  · rw [issue_among_related_iff (by rfl) htwo htwo' (by rfl)]
    rintro ⟨-, hshared | hrow | ⟨ds, hds, hvalue⟩⟩
    · exact absurd hshared (by decide)
    · exact absurd hrow (by decide)
    · have hinner : loneNumbers (innerWords "fix/upgrade-3-4") = ["3".toList] := by decide
      rw [hinner, mem_singleton] at hds
      rw [hds] at hvalue
      cases hvalue

end Workbench.Workspace
