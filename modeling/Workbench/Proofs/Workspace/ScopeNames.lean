import Workbench.Proofs.Text.Split
import Workbench.Workspace.Environment
import Workbench.Workspace.Scope

/-!
# The scope that a branch names

A scope is looked for in the name of a branch in two places: where the project is described, with
and without the hyphens of both names, and where a label is asked for, with the hyphens only.  The
usual words of a branch name, which both try last, find nothing new.
-/

namespace Workbench.Workspace

open List Option Value Text

/-- The branch names the scope. -/
def names (branch scope : String) : Bool := contains (lower branch) (lower scope)

/-- The branch names the scope, hyphens aside. -/
def likens (branch scope : String) : Bool :=
  names branch scope || contains (withoutHyphens (lower branch)) (withoutHyphens (lower scope))

variable {branch scope word : String} {scopes : List String} {s : Chars}

lemma names_iff : names branch scope = true ↔ (lower scope).toList <:+: (lower branch).toList := by
  rw [names, contains_iff]

lemma prefix_of_scopeWord? (h : scopeWord? s = some word) : word.toList <+: s := by
  simp only [scopeWord?, ite_none_left_eq_some, Option.some.injEq] at h
  rw [← h.2, String.toList_ofList]
  exact takeWhile_prefix _ |>.trans <| takeWhile_prefix _

lemma infix_of_mem_usualWords (h : word ∈ usualWords s) : word.toList <:+: s := by
  simp only [usualWords, mem_append, mem_toList] at h
  rcases h with h | h
  · obtain ⟨kind, -, hkind⟩ := exists_of_findSome?_eq_some h
    obtain ⟨t, ht, hword⟩ := bind_eq_some_iff.mp hkind
    rw [eq_append_of_dropFront? ht]
    exact (prefix_of_scopeWord? hword).isInfix.trans (suffix_append _ t).isInfix
  · split_ifs at h
    exact (prefix_of_scopeWord? h).isInfix

/-- A scope found by a usual word stands in the name of the branch, so the search for whole names
finds one, too. -/
lemma names_of_scopeByWord? (h : scopeByWord? (lower branch) scopes = some scope) :
    scope ∈ scopes ∧ names branch scope = true := by
  obtain ⟨word, hword, hfound⟩ := exists_of_findSome?_eq_some h
  obtain rfl : word = lower scope := by simpa using find?_some hfound
  exact ⟨mem_of_find?_eq_some hfound, names_iff.mpr (infix_of_mem_usualWords hword)⟩

lemma find?_or_scopeByWord? {p : String → Bool} (hp : ∀ s, names branch s = true → p s = true) :
    (scopes.find? p).or (scopeByWord? (lower branch) scopes) = scopes.find? p := by
  cases hfound : scopes.find? p with
  | some s => rfl
  | none =>
    rw [none_or, eq_none_iff_forall_ne_some]
    intro s hs
    obtain ⟨hmem, hnames⟩ := names_of_scopeByWord? hs
    exact find?_eq_none.mp hfound s hmem (hp s hnames)

lemma scopeIn?_eq (h : branch ≠ "") (scopes : List String) :
    scopeIn? branch scopes = scopes.find? (likens branch) := by
  rw [scopeIn?, if_neg (by simpa using h)]
  exact find?_or_scopeByWord? fun s hs => (Bool.or_eq_true _ _).mpr (Or.inl hs)

lemma exactScopeIn?_eq (h : branch ≠ "") (scopes : List String) :
    exactScopeIn? branch scopes = scopes.find? (names branch) := by
  rw [exactScopeIn?, if_neg (by simpa using h)]
  exact find?_or_scopeByWord? fun _ hs => hs

lemma leadingTexts_strings (scopes : List String) :
    leadingTexts (scopes.map .str) = (scopes, true) := by
  induction scopes with
  | nil => rfl
  | cons s scopes ih => rw [map_cons, leadingTexts, ih]

lemma scopeAmong?_strings (find : String → List String → Option String) (h : branch ≠ "")
    (hnil : find branch [] = none) (scopes : List String) :
    scopeAmong? find branch (strings scopes) = .ok (find branch scopes) := by
  cases scopes with
  | nil => simp [scopeAmong?, strings, truthy, hnil, pure, Except.pure]
  | cons s scopes =>
    have hempty : (branch == "" || !(strings (s :: scopes)).truthy) = false := by
      simp [h, strings, truthy]
    rw [scopeAmong?, hempty]
    simp only [strings, parts, bind, Except.bind, leadingTexts_strings]
    cases find branch (s :: scopes) <;> rfl

lemma scopeOfBranch_strings (h : branch ≠ "") (scopes : List String) :
    scopeOfBranch branch (strings scopes) =
    .ok ((scopes.find? (likens branch)).map fun s => (s, scopeLabel s)) := by
  rw [scopeOfBranch, scopeAmong?_strings _ h (by rw [scopeIn?_eq h]; rfl), scopeIn?_eq h]
  rfl

lemma branchLabel?_strings (h : branch ≠ "") (scopes : List String) :
    branchLabel? branch (strings scopes) = .ok ((scopes.find? (names branch)).map scopeLabel) := by
  rw [branchLabel?, scopeAmong?_strings _ h (by rw [exactScopeIn?_eq h]; rfl), exactScopeIn?_eq h]
  rfl

lemma find?_likens_eq_iff :
    scopes.find? (likens branch) = scopes.find? (names branch) ↔
      ∀ s ∈ scopes.find? (likens branch), names branch s = true := by
  constructor
  · intro h s hs
    rw [h] at hs
    exact find?_some hs
  · intro h
    have hother : ∀ s, likens branch s = false → names branch s = false := by
      simp +contextual [likens]
    cases hfound : scopes.find? (likens branch) with
    | none =>
      refine (find?_eq_none.mpr fun s hs => ?_).symm
      simpa using hother s (by simpa using find?_eq_none.mp hfound s hs)
    | some s =>
      obtain ⟨-, before, after, rfl, hbefore⟩ := find?_eq_some_iff_append.mp hfound
      refine (find?_eq_some_iff_append.mpr ⟨h s hfound, before, after, rfl, fun t ht => ?_⟩).symm
      simpa using hother t (by simpa using hbefore t ht)

/-- Both places label a branch with the same scope just if the first scope that the branch names
with or without hyphens is one that it names as it is written. -/
theorem labels_agree_iff (branch : String) (scopes : List String) :
    (scopeOfBranch branch (strings scopes)).map (Option.map Prod.snd) =
      branchLabel? branch (strings scopes) ↔
      branch = "" ∨ ∀ s ∈ scopes.find? (likens branch), names branch s = true := by
  by_cases hbranch : branch = ""
  · subst hbranch
    simp [scopeOfBranch, branchLabel?, scopeAmong?, bind, Except.bind, pure,
      Except.pure, Except.map]
  · have hlabel : Function.Injective (Option.map scopeLabel) :=
      map_injective fun s t h => by simpa [scopeLabel] using h
    have hloose : (scopeOfBranch branch (strings scopes)).map (Option.map Prod.snd) =
        .ok ((scopes.find? (likens branch)).map scopeLabel) := by
      rw [scopeOfBranch_strings hbranch, Except.map, Option.map_map]
      rfl
    rw [hloose, branchLabel?_strings hbranch, Except.ok.injEq, hlabel.eq_iff, find?_likens_eq_iff,
      or_iff_right hbranch]

example : scopeIn? "fix/githubworkflows" ["github-workflows"] = some "github-workflows" ∧
    exactScopeIn? "fix/githubworkflows" ["github-workflows"] = none := by decide

/-! ### The first scope -/

/-- A text without its hyphens. -/
def unhyphened (s : String) : Chars := s.toList.filter (· ≠ '-')

lemma toList_withoutHyphens (s : String) : (withoutHyphens s).toList = unhyphened s := by
  have hloop : ∀ t : Chars, replaceLoop ['-'] [] 0 t = t.filter (· ≠ '-') := by
    intro t
    induction t with
    | nil => rfl
    | cons c t ih =>
      rw [replaceLoop, filter_cons, ← ih]
      by_cases hc : c = '-'
      · subst hc
        rfl
      · simp [isFront, dropFront?, Ne.symm hc, hc]
  rw [withoutHyphens, Text.replace, String.toList_ofList]
  exact hloop s.toList

lemma names_eq (branch scope : String) :
    names branch scope = decide ((lower scope).toList <:+: (lower branch).toList) := by
  rw [Bool.eq_iff_iff, names_iff, decide_eq_true_eq]

lemma likens_eq (branch scope : String) :
    likens branch scope = decide ((lower scope).toList <:+: (lower branch).toList ∨
    unhyphened (lower scope) <:+: unhyphened (lower branch)) := by
  rw [Bool.eq_iff_iff, likens, Bool.or_eq_true, names_eq, contains_iff, toList_withoutHyphens,
    toList_withoutHyphens, decide_eq_true_eq, decide_eq_true_eq]

/-- Where the project is described, the scope of a branch is the first that stands in its name, with
or without the hyphens of both; where a label is asked for, it is the first that stands in it as it
is.  A scope that the usual words give is one that stands in the name, so that they never decide. -/
theorem first_scope_in_branch (h : branch ≠ "") (scopes : List String) :
    scopeOfBranch branch (strings scopes) =
      .ok ((scopes.find? fun s => (lower s).toList <:+: (lower branch).toList ∨
      unhyphened (lower s) <:+: unhyphened (lower branch)).map fun s => (s, "scope:" ++ s)) ∧
    branchLabel? branch (strings scopes) =
      .ok
        ((scopes.find? fun s => (lower s).toList <:+: (lower branch).toList).map ("scope:" ++ ·)) ∧
    ∀ s ∈ scopeByWord? (lower branch) scopes,
      s ∈ scopes ∧ (lower s).toList <:+: (lower branch).toList := by
  refine ⟨?_, ?_, fun s hs => ?_⟩
  · rw [scopeOfBranch_strings h, funext (likens_eq branch)]
    rfl
  · rw [branchLabel?_strings h, funext (names_eq branch)]
    rfl
  · obtain ⟨hmem, hnames⟩ := names_of_scopeByWord? hs
    exact ⟨hmem, names_iff.mp hnames⟩

/-- Hyphens are overlooked by one of the two readers only. -/
theorem first_scope_in_branch_hyphens : "Fix/GitHubWorkflows-api" ≠ "" ∧
    scopeOfBranch "Fix/GitHubWorkflows-api" (strings ["docs", "github-workflows", "API"]) =
      .ok (some ("github-workflows", "scope:github-workflows")) ∧
    branchLabel? "Fix/GitHubWorkflows-api" (strings ["docs", "github-workflows", "API"]) =
      .ok (some "scope:API") := by
  obtain ⟨hloose, hexact, -⟩ := @first_scope_in_branch "Fix/GitHubWorkflows-api" (by decide)
    ["docs", "github-workflows", "API"]
  exact ⟨by decide, hloose.trans (congrArg Except.ok (by decide +kernel)),
    hexact.trans (congrArg Except.ok (by decide +kernel))⟩

end Workbench.Workspace
