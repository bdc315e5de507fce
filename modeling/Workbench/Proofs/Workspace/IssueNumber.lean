import Mathlib.Data.Nat.Digits.Defs
import Workbench.Proofs.Branch.Git
import Workbench.Proofs.Branch.Names
import Workbench.Proofs.Json.Numbers
import Workbench.Proofs.Text.Trim
import Workbench.Proofs.Value.Entries
import Workbench.Workspace.BranchName
import Workbench.Workspace.Environment

/-!
# The number of an issue in the name of a branch

The name of a branch that is made for an issue holds the number of the issue behind a mark.  Whoever
reads the name looks for numbers by rules, the mark first (`issueIn?_makeName`).
-/

namespace Workbench.Workspace

open NumberRule

variable {r : NumberRule} {s u ds rest rest' : Chars}

/-! ### What a rule finds -/

lemma front?_eq_none (h : ¬ r.lead.toList <+: s) : r.front? s = none := by
  unfold front?
  rw [Text.dropFront?_eq_none h]
  rfl

lemma front?_append (hds : ∀ x ∈ ds, Text.isDecimal x = true) (hne : ds ≠ [])
    (hrest : ∀ x ∈ rest.head?, Text.isDecimal x = false)
    (hending : r.ending.rest? rest = some rest') :
    r.front? (r.lead.toList ++ (ds ++ rest)) = some (ds, rest') := by
  have htake := Text.takeWhile_run hds hrest
  have hdrop := Text.dropWhile_run hds hrest
  have hempty : ds.isEmpty = false := by simpa using hne
  unfold front?
  rw [Text.dropFront?_append]
  simp only [Option.bind_eq_bind, Option.bind_some, htake, hdrop, hempty, hending,
    Bool.false_eq_true, if_false]
  rfl

lemma scan_of_notWithin (h : Text.NotWithin r.lead.toList u s) :
    r.scan 0 (u ++ s) = r.scan 0 s := by
  induction u with
  | nil => rfl
  | cons c u ih =>
    obtain ⟨hfirst, hrest⟩ := Text.notWithin_cons.mp h
    rw [List.cons_append, scan, front?_eq_none hfirst]
    exact ih hrest

lemma head?_scan (h : Text.NotWithin r.lead.toList u (r.lead.toList ++ (ds ++ rest)))
    (hds : ∀ x ∈ ds, Text.isDecimal x = true) (hne : ds ≠ [])
    (hrest : ∀ x ∈ rest.head?, Text.isDecimal x = false)
    (hending : r.ending.rest? rest = some rest') :
    (r.scan 0 (u ++ (r.lead.toList ++ (ds ++ rest)))).head? = some ds := by
  have hfront := front?_append hds hne hrest hending
  rw [scan_of_notWithin h]
  obtain ⟨c, t, ht⟩ :=
    List.exists_cons_of_ne_nil (l := r.lead.toList ++ (ds ++ rest)) (by simp [hne])
  rw [ht] at hfront ⊢
  rw [scan, hfront]
  rfl

lemma firstDigits?_mark (h : Text.NotWithin "issue-".toList u ("issue-".toList ++ (ds ++ rest)))
    (hds : ∀ x ∈ ds, Text.isDecimal x = true) (hne : ds ≠ [])
    (hrest : ∀ x ∈ rest.head?, Text.isDecimal x = false) :
    firstDigits? (u ++ ("issue-".toList ++ (ds ++ rest))) = some ds := by
  have hfound := head?_scan (r := ⟨"issue-", .anything, false⟩) h hds hne hrest rfl
  unfold firstDigits? firstNumberRules
  rw [List.findSome?_cons, all, if_neg (by simp), hfound]

lemma issueIn?_of_mark {n : Nat} {branch : String}
    (hlen : (Nat.toDigits 10 n).length ≤ Decimal.digitLimit)
    (hbranch : branch.toList = u ++ ("issue-".toList ++ (Nat.toDigits 10 n ++ rest)))
    (h : Text.NotWithin "issue-".toList u ("issue-".toList ++ (Nat.toDigits 10 n ++ rest)))
    (hrest : ∀ x ∈ rest.head?, Text.isDecimal x = false) : issueIn? branch = .ok (some n) := by
  have htext : .ofList (Nat.toDigits 10 n) = toString (n : Int) := by
    refine String.toList_injective ?_
    rw [String.toList_ofList, Json.toList_int, if_neg (by omega), Int.natAbs_natCast]
  have hwhole : wholeOf (.ofList (Nat.toDigits 10 n)) = .ok (n : Int) := by
    rw [htext]
    exact wholeOf_toString (by rwa [Int.natAbs_natCast])
  rw [issueIn?, hbranch, firstDigits?_mark h
    (Decimal.isDecimal_of_mem_toDigits n) Nat.toDigits_ne_nil hrest]
  simp only [hwhole]
  rfl

end Workbench.Workspace

namespace Workbench.Branch

/-! ### Names that are made -/

/-- The types of branches with a flow. -/
def flowTypes : List String := ["feature", "bugfix", "hotfix", "release"]

lemma issueMark_of_pos {n : Nat} (h : 0 < n) :
    issueMark n = "issue-".toList ++ (Nat.toDigits 10 n ++ ['-']) := by
  have hne : ((n : Int) == 0) = false := by
    rw [beq_eq_false_iff_ne]
    omega
  unfold issueMark
  rw [hne]
  simp only [Bool.false_eq_true, if_false, String.toList_append, Json.toList_int,
    Int.natAbs_natCast]
  rw [if_neg (by omega), List.append_assoc]
  rfl

lemma setting_flowTypes {type : String} (h : type ∈ flowTypes) :
    Setting builtIn type (type ++ "/") (.int 64) ∧ (type ++ "/").length ≤ 8 ∧
      ∀ s, Text.NotWithin "issue-".toList (type ++ "/").toList s := by
  simp only [flowTypes, List.mem_cons, List.not_mem_nil, or_false] at h
  rcases h with rfl | rfl | rfl | rfl
  all_goals
    refine ⟨⟨⟨_, rfl, rfl⟩, rfl, rfl⟩, by decide, fun s => ?_⟩
    simp [Text.notWithin_cons, Text.notWithin_nil]

/-- The number of an issue that is put into the name of a branch is read back from the name, however
long the description is and whatever numbers it holds. -/
theorem issueIn?_makeName {type : String} (htype : type ∈ flowTypes) {issue : Int}
    (hpos : 0 < issue) (hlt : issue < 10 ^ 40) {description name : String}
    (hname : makeName type description issue builtIn = .ok name) :
    Workspace.issueIn? name = .ok (some issue) := by
  obtain ⟨hsetting, hlead, hwithin⟩ := setting_flowTypes htype
  obtain ⟨n, rfl⟩ := Int.eq_ofNat_of_zero_le hpos.le
  have hpos : 0 < n := by exact_mod_cast hpos
  have hlength : (Nat.toDigits 10 n).length ≤ 40 :=
    Nat.toDigits_length 10 n 40 (by omega) (by exact_mod_cast hlt)
  have hmark := issueMark_of_pos hpos
  -- Prefix and mark take 55 of the 64 characters at most, so the cut falls behind the number.
  have hroom : (((type ++ "/").toList ++ issueMark n).length : Int) < 64 := by
    have hissue : "issue-".toList.length = 6 := by decide
    rw [hmark]
    simp only [List.length_append, String.length_toList, List.length_cons, List.length_nil, hissue]
    omega
  obtain ⟨r, -, -, hsplit, -⟩ := exists_of_makeName_front hsetting hname (tidy_cleaned description)
    (cleaned_ne_nil_of_makeName hsetting hname) (List.append_assoc _ _ _).symm fun m hm => by
      obtain rfl : (64 : Int) = m := Option.some.inj hm
      exact hroom
  have hparts : name.toList = (type ++ "/").toList ++
      ("issue-".toList ++ (Nat.toDigits 10 n ++ '-' :: r)) := by
    rw [hsplit, hmark]
    simp
  refine Workspace.issueIn?_of_mark (hlength.trans (by decide)) hparts (hwithin _) fun x hx => ?_
  obtain rfl : '-' = x := by simpa using hx
  decide

/-- A number of forty digits takes up most of the name and is found in it. -/
theorem issueIn?_makeName_cut :
    makeName "release" "issue-7 8-9" 9999999999999999999999999999999999999999 builtIn =
      .ok "release/issue-9999999999999999999999999999999999999999-issue-7-8" ∧
    Workspace.issueIn? "release/issue-9999999999999999999999999999999999999999-issue-7-8" =
      .ok (some 9999999999999999999999999999999999999999) := by
  have hname : makeName "release" "issue-7 8-9" 9999999999999999999999999999999999999999 builtIn =
      .ok "release/issue-9999999999999999999999999999999999999999-issue-7-8" := by rfl
  exact ⟨hname, issueIn?_makeName (by decide) (by decide) (by decide) hname⟩

end Workbench.Branch
