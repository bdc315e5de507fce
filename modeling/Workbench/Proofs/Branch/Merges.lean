import Workbench.Branch.Merge
import Workbench.Proofs.Branch.Names

/-!
# Merges that a flow prescribes

A merge is judged by the flow of the branch, by the kind of its target, by the strategy and by the
policies.
-/

open List hiding all lookup

open Except

namespace Workbench.Branch

open Value Workbench.Branch.Template

variable {c : Config} {type source target : String} {before : List String}
variable {v : Value} {s : String}

/-! ### Texts in a value -/

lemma lookup_isSome_iff {es : List (Value × Value)} :
    (lookup s es).isSome = true ↔ .str s ∈ es.map Prod.fst := by
  induction es with
  | nil => simp [lookup]
  | cons e es ih =>
    obtain ⟨k, v⟩ := e
    rw [lookup, map_cons, mem_cons, ← ih]
    by_cases hk : k.same s = true
    · simp [same_str_iff.mp hk]
    · have hne : ¬ str s = k := fun heq => hk (same_str_iff.mpr heq.symm)
      simp [hk, hne]

lemma hasText_of_parts {xs : List Value} (hv : ∀ t, v ≠ .str t) (hparts : v.parts = .ok xs) :
    v.hasText s = .ok true ↔ .str s ∈ xs := by
  have hany : ∀ ys : List Value, ys.any (·.same s) = true ↔ .str s ∈ ys := by
    intro ys
    simp [any_eq_true, same_str_iff]
  cases v with
  | str t => exact absurd rfl (hv t)
  | list ys | tuple ys | set ys =>
    obtain rfl := ok.inj hparts
    rw [hasText, has, ok.injEq]
    exact hany ys
  | map es =>
    obtain rfl := ok.inj hparts
    rw [hasText, has, if_pos (by rfl), ok.injEq]
    exact lookup_isSome_iff
  | _ => cases hparts

lemma exists_parts_of_hasText (hv : ∀ t, v ≠ .str t) (h : v.hasText s = .ok true) :
    ∃ xs, v.parts = .ok xs ∧ .str s ∈ xs := by
  have hparts : ∃ xs, v.parts = .ok xs := by
    cases v with
    | str t => exact absurd rfl (hv t)
    | list _ | tuple _ | set _ | map _ => exact ⟨_, rfl⟩
    | _ => cases h
  obtain ⟨xs, hxs⟩ := hparts
  exact ⟨xs, hxs, (hasText_of_parts hv hxs).mp h⟩

lemma targetsOf_ne_str (goal : Value) (t : String) : targetsOf goal ≠ .str t := by
  cases goal <;> simp [targetsOf, strings]

/-! ### Judging beyond the flow -/

/-- The flow of the type leads to the target. -/
def Prescribes (c : Config) (type target : String) : Prop :=
  ∃ flows flow goal, c.flows = .ok flows ∧ flows.field type = .ok flow ∧
    flow.field "to" = .ok goal ∧
    (targetsOf goal).hasText target = .ok true

/-- The verdict of the strategy and the policies on a merge, after some reasons were given. -/
def judgeBeyondFlow (type source target : String) (c : Config) (before : List String) :
    Result MergeVerdict := do
  match ← strategyObjection? type source target c with
  | some objection => return ⟨false, before ++ [objection]⟩
  | none =>
    let reasons := before ++ (← policyReasons target c)
    return ⟨!reasons.any forbids, reasons⟩

lemma truthy_of_field {x : Value} {k : String} (h : v.field k = .ok x) : v.truthy = true := by
  unfold field at h
  split at h
  · rename_i es
    cases es with
    | nil => cases h
    | cons e es => rfl
  all_goals cases h

lemma field_of_fieldOr {x d : Value} {k : String} (h : v.fieldOr k d = .ok x) (hne : x ≠ d) :
    v.field k = .ok x := by
  cases v with
  | map es =>
    rw [fieldOr, ok.injEq] at h
    cases hlookup : lookup k es with
    | none => exact absurd (by rw [← h, hlookup]; rfl) hne
    | some y =>
      rw [hlookup] at h
      rw [field, hlookup]
      exact congrArg Except.ok h
  | _ => cases h

lemma judgeTyped_of_prescribes (h : Prescribes c type target) (source : String)
    (before : List String) :
    judgeTyped type source target c before = judgeBeyondFlow type source target c before := by
  obtain ⟨flows, flow, goal, hflows, hflow, hgoal, htarget⟩ := h
  unfold judgeTyped
  simp only [hflows, fieldOr_of_field hflow, fieldOr_of_field hgoal, truthy_of_field hgoal, htarget,
    bind, Except.bind, Bool.not_true, Bool.false_eq_true, if_false]
  rfl

lemma judgeMerge_eq (hsource : typeOf? source c = .ok (some type)) (hne : type ≠ "") :
    judgeMerge source target c = (do
      let _ ← c.main
      let before ← targetReasons target c
      judgeTyped type source target c before) := by
  have hsome : (ok (some type) : Result (Option String)) = pure (some type) := rfl
  unfold judgeMerge
  rw [hsource, hsome, pure_bind]
  split
  · contradiction
  · rename_i hempty
    exact absurd (Option.some.inj hempty) hne
  · rename_i found hfound
    rw [Option.some.inj hfound]

/-- A merge into a target that the flow of the branch prescribes is judged by the kind of the
target, the strategy and the policies. -/
lemma judgeMerge_of_prescribes (hsource : typeOf? source c = .ok (some type)) (hne : type ≠ "")
    (h : Prescribes c type target) :
    judgeMerge source target c = (do
      let _ ← c.main
      let before ← targetReasons target c
      judgeBeyondFlow type source target c before) := by
  rw [judgeMerge_eq hsource hne]
  simp only [judgeTyped_of_prescribes h]

/-! ### Policies -/

/-- A policy that asks for requests to a branch does not apply to a target: the target is another
branch, or the policy is off. -/
def Spares (c : Config) (target : String) (branch : Result Value) (key : String) : Prop :=
  ∃ protectee asked, branch = .ok protectee ∧ c.pathOr ["policies", key] false = .ok asked ∧
    (protectee.same target = true → asked.truthy = false)

/-- No policy asks for a pull request. -/
def Exempt (target : String) (c : Config) : Prop :=
  Spares c target c.main "requirePRForMain" ∧ Spares c target c.develop "requirePRForDevelop"

/-- No policy asks for requests to a branch as far as it is the target, whatever else the policies
are. -/
def Waives (c : Config) (target : String) (branch : Value) (key : String) : Prop :=
  branch = .str target → ∃ asked,
    c.pathOr ["policies", key] false = .ok asked ∧ asked.truthy = false

/-- What one policy has against a merge. -/
def policyReason (c : Config) (target : String) (branch : Value) (key : String) :
    Result (List String) := do
  if !branch.same target then return []
  if !(← c.pathOr ["policies", key] false).truthy then return []
  return ["Merging to " ++ branch.display ++ " requires a Pull Request"]

lemma policyReasons_eq {main develop : Value} (hmain : c.main = .ok main)
    (hdevelop : c.develop = .ok develop) :
    policyReasons target c = (do
      return (← policyReason c target main "requirePRForMain") ++
        (← policyReason c target develop "requirePRForDevelop")) := by
  obtain ⟨branches, hbranches⟩ := exists_of_pathOr hmain
  obtain ⟨policies, hpolicies⟩ : ∃ policies, c.fieldOr "policies" (.map []) = .ok policies := by
    cases c with
    | map es => exact ⟨_, rfl⟩
    | _ => cases hbranches
  unfold policyReasons policyReason
  simp only [pathOr_pair, hpolicies, hmain, hdevelop, bind, Except.bind]

lemma forbids_request (name : String) :
    forbids ("Merging to " ++ name ++ " requires a Pull Request") = true := by
  have hpart : Text.contains ("Merging to " ++ name ++ " requires a Pull Request") "requires" =
      true :=
    Text.contains_iff.mpr ⟨("Merging to " ++ name ++ " ").toList, " a Pull Request".toList, by simp⟩
  simp [forbids, Text.containsAny, hpart]

lemma policyReason_of_waives {branch : Value} {key : String} (h : Waives c target branch key) :
    policyReason c target branch key = .ok [] := by
  unfold policyReason
  cases hsame : branch.same target with
  | false => rfl
  | true =>
    obtain ⟨asked, hasked, hoff⟩ := h (same_str_iff.mp hsame)
    simp only [hasked, hoff, bind, Except.bind, Bool.not_true, Bool.not_false, Bool.false_eq_true,
      if_false, if_true]
    rfl

lemma waives_of_policyReason {branch : Value} {key : String} {reasons : List String}
    (h : policyReason c target branch key = .ok reasons) (hreasons : reasons.any forbids = false) :
    Waives c target branch key := by
  rintro rfl
  rw [policyReason, same_str_iff.mpr rfl] at h
  obtain ⟨asked, hasked, h⟩ := exists_of_bind_ok h
  refine ⟨asked, hasked, ?_⟩
  by_contra hon
  rw [Bool.not_eq_false] at hon
  rw [hon] at h
  obtain rfl := ok.inj h
  rw [any_cons, forbids_request] at hreasons
  cases hreasons

lemma policyReasons_spare_iff {main develop : Value} (hmain : c.main = .ok main)
    (hdevelop : c.develop = .ok develop) :
    (∃ reasons, policyReasons target c = .ok reasons ∧ reasons.any forbids = false) ↔
      Waives c target main "requirePRForMain" ∧ Waives c target develop "requirePRForDevelop" := by
  rw [policyReasons_eq hmain hdevelop]
  constructor
  · rintro ⟨reasons, h, hreasons⟩
    obtain ⟨first, hfirst, h⟩ := exists_of_bind_ok h
    obtain ⟨second, hsecond, h⟩ := exists_of_bind_ok h
    obtain rfl : first ++ second = reasons := ok.inj h
    rw [any_append, Bool.or_eq_false_iff] at hreasons
    exact ⟨waives_of_policyReason hfirst hreasons.1, waives_of_policyReason hsecond hreasons.2⟩
  · rintro ⟨hfirst, hsecond⟩
    rw [policyReason_of_waives hfirst, policyReason_of_waives hsecond]
    exact ⟨[], rfl, rfl⟩

lemma policyReasons_of_exempt (h : Exempt target c) : policyReasons target c = .ok [] := by
  obtain ⟨⟨main, forMain, hmain, hforMain, hoff⟩, develop, forDevelop, hdevelop,
    hforDevelop, hoff'⟩ := h
  have hfirst : Waives c target main "requirePRForMain" :=
    fun hself => ⟨forMain, hforMain, hoff (same_str_iff.mpr hself)⟩
  have hsecond : Waives c target develop "requirePRForDevelop" :=
    fun hself => ⟨forDevelop, hforDevelop, hoff' (same_str_iff.mpr hself)⟩
  rw [policyReasons_eq hmain hdevelop, policyReason_of_waives hfirst,
    policyReason_of_waives hsecond]
  rfl

/-! ### The strategy -/

/-- The strategy has nothing against a merge: where everything goes to the main branch, so does
this, and where changes are released, neither a feature nor the branch of development goes there
directly. -/
def Suits (strategy main develop : Value) (type source target : String) : Prop :=
  (strategy = .str "github-flow" → main = .str target) ∧
    (strategy = .str "gitflow" → main = .str target → type ≠ "feature" ∧ develop ≠ .str source)

lemma strategyObjection?_eq_none_iff {strategy main develop : Value}
    (hstrategy : c.strategy "gitflow" = .ok strategy) (hmain : c.main = .ok main)
    (hdevelop : c.develop = .ok develop) (type source target : String) :
    strategyObjection? type source target c = .ok none ↔
      Suits strategy main develop type source target := by
  unfold strategyObjection? Suits
  simp only [hstrategy, hmain, hdevelop, bind, Except.bind, pure, Except.pure]
  split_ifs with hflow hfeature hself hhub
  all_goals rw [same_str_iff] at hflow
  · rw [Bool.and_eq_true, beq_iff_eq, same_str_iff] at hfeature
    simp [hflow, hfeature]
  · rw [Bool.and_eq_true, same_str_iff, same_str_iff] at hself
    simp [hflow, hself]
  · rw [Bool.and_eq_true, beq_iff_eq, same_str_iff] at hfeature
    rw [Bool.and_eq_true, same_str_iff, same_str_iff] at hself
    refine iff_of_true rfl ⟨fun hhub => by simp [hflow] at hhub, fun _ htarget => ?_⟩
    exact ⟨fun htype => hfeature ⟨htype, htarget⟩, fun hsource => hself ⟨hsource, htarget⟩⟩
  · rw [Bool.and_eq_true, Bool.not_eq_true', ← Bool.not_eq_true, same_str_iff, same_str_iff] at hhub
    simp [hhub]
  · rw [Bool.and_eq_true, Bool.not_eq_true', ← Bool.not_eq_true, same_str_iff, same_str_iff,
      not_and_not_right] at hhub
    exact iff_of_true rfl ⟨hhub, fun hgitflow => absurd hgitflow hflow⟩

lemma strategyObjection?_eq_none {strategy main : String} {develop : Value}
    (hstrategy : c.strategy "gitflow" = .ok strategy) (hmain : c.main = .ok main)
    (hdevelop : c.develop = .ok develop) (hgitflow : strategy = "gitflow" → target ≠ main)
    (hgithub : strategy = "github-flow" → target = main) (type source : String) :
    strategyObjection? type source target c = .ok none := by
  rw [strategyObjection?_eq_none_iff hstrategy hmain hdevelop]
  refine ⟨fun hhub => ?_, fun hflow hself => ?_⟩
  · rw [hgithub (str.inj hhub)]
  · exact absurd (str.inj hself).symm (hgitflow (str.inj hflow))

/-- A merge that the flow prescribes, that the strategy has nothing against and that no policy asks
a request for is judged by the kind of the target alone. -/
lemma judgeMerge_of_exempt {main : Value} (hsource : typeOf? source c = .ok (some type))
    (hne : type ≠ "") (h : Prescribes c type target) (hmain : c.main = .ok main)
    (hbefore : targetReasons target c = .ok before)
    (hstrategy : strategyObjection? type source target c = .ok none) (hexempt : Exempt target c) :
    judgeMerge source target c = .ok ⟨!before.any forbids, before⟩ := by
  rw [judgeMerge_of_prescribes hsource hne h]
  unfold judgeBeyondFlow
  simp only [hmain, hbefore, hstrategy, policyReasons_of_exempt hexempt, bind,
    Except.bind, append_nil]
  rfl

/-! ### Merges that are allowed -/

lemma targetReasons_spare_iff :
    (∃ reasons, targetReasons target c = .ok reasons ∧ reasons.any forbids = false) ↔
      ∃ found, typeOf? target c = .ok found ∧ found ≠ some "feature" ∧ found ≠ some "bugfix" := by
  have hfeature : forbids "Cannot merge into feature branch" = true := by decide
  have hbugfix : forbids "Cannot merge into bugfix branch" = true := by decide
  unfold targetReasons
  cases htype : typeOf? target c with
  | error e => simp [bind, Except.bind]
  | ok found =>
    rw [show (ok found : Result (Option String)) = pure found from rfl, pure_bind]
    cases found with
    | none => exact iff_of_true ⟨[], rfl, rfl⟩ ⟨none, rfl, by simp, by simp⟩
    | some t =>
      by_cases hkind : t = "feature" ∨ t = "bugfix"
      · rcases hkind with rfl | rfl
        · simp [pure, Except.pure, hfeature]
        · simp [pure, Except.pure, hbugfix]
      · simp [pure, Except.pure, not_or.mp hkind]

lemma judgeTyped_allowed_iff :
    (∃ reasons, judgeTyped type source target c before = .ok ⟨true, reasons⟩) ↔
    Prescribes c type target ∧ strategyObjection? type source target c = .ok none ∧
      before.any forbids = false ∧
      ∃ reasons, policyReasons target c = .ok reasons ∧ reasons.any forbids = false := by
  constructor
  · rintro ⟨reasons, h⟩
    unfold judgeTyped at h
    obtain ⟨flows, hflows, h⟩ := exists_of_bind_ok h
    obtain ⟨flow, hflow, h⟩ := exists_of_bind_ok h
    split_ifs at h with hempty
    · cases h
    obtain ⟨goal, hgoal, h⟩ := exists_of_bind_ok h
    obtain ⟨listed, hlisted, h⟩ := exists_of_bind_ok h
    split_ifs at h with hother
    · obtain ⟨names, -, h⟩ := exists_of_bind_ok h
      cases h
    obtain ⟨objection, hobjection, h⟩ := exists_of_bind_ok h
    cases objection with
    | some objection => cases h
    | none =>
      obtain ⟨more, hmore, h⟩ := exists_of_bind_ok h
      have hspare := (MergeVerdict.mk.inj (ok.inj h)).1
      rw [Bool.not_eq_true', any_append, Bool.or_eq_false_iff] at hspare
      obtain rfl : listed = true := by simpa using hother
      have hflow' : flows.field type = .ok flow :=
        field_of_fieldOr hflow (by rintro rfl; exact hempty rfl)
      have hgoal' : flow.field "to" = .ok goal :=
        field_of_fieldOr hgoal (by rintro rfl; cases hlisted)
      exact ⟨⟨flows, flow, goal, hflows, hflow', hgoal', hlisted⟩, hobjection, hspare.1, more,
        hmore, hspare.2⟩
  · rintro ⟨hflow, hobjection, hbefore, reasons, hpolicies, hreasons⟩
    have hspare : (before ++ reasons).any forbids = false := by
      rw [any_append, hbefore, hreasons, Bool.or_self]
    rw [judgeTyped_of_prescribes hflow, judgeBeyondFlow, hobjection, hpolicies]
    refine ⟨before ++ reasons, ?_⟩
    simp only [bind, Except.bind, hspare]
    rfl

/-- A branch with a type may be merged into a target if and only if its flow leads to the target,
the target is no branch of a feature or of a fix, the strategy has nothing against it, and no policy
asks for a request. -/
theorem judgeMerge_allowed_iff (hsource : typeOf? source c = .ok (some type)) (hne : type ≠ "") :
    (∃ reasons, judgeMerge source target c = .ok ⟨true, reasons⟩) ↔
      Prescribes c type target ∧
      (∃ found, typeOf? target c = .ok found ∧ found ≠ some "feature" ∧ found ≠ some "bugfix") ∧
      ∃ strategy main develop, c.strategy "gitflow" = .ok strategy ∧ c.main = .ok main ∧
        c.develop = .ok develop ∧
        Suits strategy main develop type source target ∧
        Waives c target main "requirePRForMain" ∧
          Waives c target develop "requirePRForDevelop" := by
  rw [judgeMerge_eq hsource hne, ← targetReasons_spare_iff]
  constructor
  · rintro ⟨reasons, h⟩
    obtain ⟨main, hmain, h⟩ := exists_of_bind_ok h
    obtain ⟨before, hbefore, h⟩ := exists_of_bind_ok h
    obtain ⟨hflow, hobjection, hspare, hpolicies⟩ := judgeTyped_allowed_iff.mp ⟨reasons, h⟩
    obtain ⟨branches, hbranches⟩ := exists_of_pathOr hmain
    have hdevelop : ∃ develop, c.develop = .ok develop :=
      ⟨_, by rw [Config.develop, pathOr_pair, hbranches]; rfl⟩
    obtain ⟨develop, hdevelop⟩ := hdevelop
    obtain ⟨strategy, hstrategy, -⟩ := exists_of_bind_ok hobjection
    refine ⟨hflow, ⟨before, hbefore, hspare⟩, strategy, main, develop, hstrategy,
      hmain, hdevelop, ?_⟩
    exact ⟨(strategyObjection?_eq_none_iff hstrategy hmain hdevelop _ _ _).mp hobjection,
      (policyReasons_spare_iff hmain hdevelop).mp hpolicies⟩
  · rintro ⟨hflow, ⟨before, hbefore, hspare⟩, strategy, main, develop, hstrategy, hmain, hdevelop,
      hsuits, hwaives⟩
    simp only [hmain, hbefore, bind, Except.bind]
    have hobjection := (strategyObjection?_eq_none_iff hstrategy hmain hdevelop _ _ _).mpr hsuits
    exact judgeTyped_allowed_iff.mpr
      ⟨hflow, hobjection, hspare, (policyReasons_spare_iff hmain hdevelop).mpr hwaives⟩

/-- With the configuration of a project that has none, a hotfix may be merged into the main branch.
Where a policy asks for requests to the main branch it may not. -/
theorem judgeMerge_allowed_hotfix : typeOf? "hotfix/x" builtInForChecks = .ok (some "hotfix") ∧
    (∃ reasons, judgeMerge "hotfix/x" "main" builtInForChecks = .ok ⟨true, reasons⟩) ∧
    typeOf? "hotfix/x" builtIn = .ok (some "hotfix") ∧
    ¬ ∃ reasons, judgeMerge "hotfix/x" "main" builtIn = .ok ⟨true, reasons⟩ := by
  refine ⟨by rfl, (judgeMerge_allowed_iff (by rfl) (by decide)).mpr ?_, by rfl, fun hallowed => ?_⟩
  · refine ⟨⟨_, _, _, rfl, rfl, rfl, rfl⟩, ⟨none, by rfl, by simp, by simp⟩, "gitflow", "main",
      "develop", rfl, rfl, rfl, ⟨fun _ => rfl, fun _ _ => ⟨by decide, by simp⟩⟩, ?_, ?_⟩
    · exact fun _ => ⟨_, rfl, rfl⟩
    · exact fun _ => ⟨_, rfl, rfl⟩
  · obtain ⟨-, -, _, main, _, -, hmain, -, -, hwaives, -⟩ :=
      (judgeMerge_allowed_iff (by rfl) (by decide)).mp hallowed
    obtain ⟨asked, hasked, hoff⟩ := hwaives (ok.inj hmain).symm
    rw [← ok.inj hasked] at hoff
    cases hoff

/-- A configuration with a prefix for a type without a name. -/
def nameless : Config :=
  .object [("branches", .object [("prefixes", prefixMap [("", "x/")])]),
    ("flows", .object [("", .object [("to", "develop")])])]

/-- A type without a name counts as none: the branch may be merged into a target that its flow does
not lead to. -/
theorem judgeMerge_nameless : typeOf? "x/a" nameless = .ok (some "") ∧
    judgeMerge "x/a" "main" nameless =
      .ok ⟨true, ["Warning: 'x/a' is not a recognized flow branch"]⟩ ∧
    ¬ Prescribes nameless "" "main" := by
  refine ⟨by rfl, by rfl, ?_⟩
  rintro ⟨flows, flow, goal, hflows, hflow, hgoal, htarget⟩
  obtain rfl := ok.inj hflows
  obtain rfl := ok.inj hflow
  obtain rfl := ok.inj hgoal
  cases htarget

/-! ### The configurations to start from -/

/-- The targets of a flow. -/
def goalTexts (flow : Value) : List String :=
  match flow.field "to" >>= fun goal => (targetsOf goal).parts with
  | .ok xs => xs.filterMap str?
  | .error _ => []

/-- All types with the targets of their flows. -/
def prescribed (fs : List (String × Value)) : List (String × String) :=
  fs.flatMap fun e => (goalTexts e.2).map fun target => (e.1, target)

lemma mem_prescribed {fs : List (String × Value)} (hflows : c.flows = .ok (.object fs))
    (h : Prescribes c type target) :
    (type, target) ∈ prescribed fs := by
  obtain ⟨flows, flow, goal, hflows', hflow, hgoal, htarget⟩ := h
  obtain rfl : object fs = flows := ok.inj (hflows.symm.trans hflows')
  have hentry : (type, flow) ∈ fs := by
    rw [object_eq, field, lookup_keyed] at hflow
    cases hlookup : fs.lookup type with
    | none => simp [hlookup] at hflow
    | some found =>
      obtain rfl : found = flow := by simpa [hlookup] using hflow
      obtain ⟨before, after, rfl, -⟩ := lookup_eq_some_iff.mp hlookup
      simp
  obtain ⟨xs, hparts, hmem⟩ := exists_parts_of_hasText (targetsOf_ne_str goal) htarget
  have hgoals : target ∈ goalTexts flow := by
    rw [goalTexts, hgoal]
    simp only [bind, Except.bind, hparts, mem_filterMap]
    exact ⟨_, hmem, rfl⟩
  exact mem_flatMap.mpr ⟨_, hentry, mem_map.mpr ⟨target, hgoals, rfl⟩⟩

/-- What a strategy has against the merges of its own flows. -/
def ownObjections (strategy : String) : List String :=
  if strategy = "simple" then ["Cannot merge into feature branch"] else []

/-- What is known of the merges of a configuration to start from: the strategy bears its name, and
where no policy applies to a target that a flow prescribes, the target is not the main branch of a
project with a branch of development. -/
structure Judged (strategy : String) (c : Config) (fs : List (String × Value)) : Prop where
  flows : c.flows = .ok (.object fs)
  strategy_eq : c.strategy "gitflow" = .ok strategy
  main_eq : c.main = .ok "main"
  develop_eq : ∃ develop, c.develop = .ok develop
  targets : ∀ p ∈ prescribed fs, (policyReasons p.2 c).toOption = some [] →
    p.1 ≠ "" ∧ (strategy = "gitflow" → p.2 ≠ "main") ∧ (strategy = "github-flow" → p.2 = "main") ∧
      (targetReasons p.2 c).toOption = some (ownObjections strategy)

lemma exists_judged : ∀ e ∈ all, ∃ fs, Judged e.1 e.2 fs := by
  have hgitflow : ∃ fs, Judged "gitflow" gitflow fs :=
    ⟨_, rfl, rfl, rfl, ⟨_, rfl⟩, by decide +kernel⟩
  have hgithub : ∃ fs, Judged "github-flow" githubFlow fs :=
    ⟨_, rfl, rfl, rfl, ⟨_, rfl⟩, by decide +kernel⟩
  have hgitlab : ∃ fs, Judged "gitlab-flow" gitlabFlow fs :=
    ⟨_, rfl, rfl, rfl, ⟨_, rfl⟩, by decide +kernel⟩
  have htrunk : ∃ fs, Judged "trunk-based" trunkBased fs :=
    ⟨_, rfl, rfl, rfl, ⟨_, rfl⟩, by decide +kernel⟩
  have hsimple : ∃ fs, Judged "simple" simple fs := ⟨_, rfl, rfl, rfl, ⟨_, rfl⟩, by decide +kernel⟩
  simp only [all, forall_mem_cons, not_mem_nil, false_imp_iff, implies_true, and_true]
  exact ⟨hgitflow, hgithub, hgitlab, htrunk, hsimple⟩

/-- A configuration to start from allows every merge that its flows prescribe for a branch and that
no policy asks a request for, up to the one without prefixes: there every target is taken for a
feature, and none of these merges is allowed. -/
theorem judgeMerge_prescribed {strategy : String} (hc : (strategy, c) ∈ all)
    (hsource : typeOf? source c = .ok (some type)) (h : Prescribes c type target)
    (hexempt : Exempt target c) :
    judgeMerge source target c =
      .ok
        (if strategy = "simple" then ⟨false, ["Cannot merge into feature branch"]⟩
        else ⟨true, []⟩) := by
  obtain ⟨fs, hjudged⟩ := exists_judged _ hc
  have hpolicies : (policyReasons target c).toOption = some [] := by
    rw [policyReasons_of_exempt hexempt]
    rfl
  obtain ⟨hne, hgitflow, hgithub, hreasons⟩ :=
    hjudged.targets _ (mem_prescribed hjudged.flows h) hpolicies
  obtain ⟨develop, hdevelop⟩ := hjudged.develop_eq
  have hstrategy :=
    strategyObjection?_eq_none hjudged.strategy_eq hjudged.main_eq hdevelop hgitflow
      hgithub type source
  have hbefore : targetReasons target c = .ok (ownObjections strategy) := by
    cases htarget : targetReasons target c with
    | error e =>
      rw [htarget] at hreasons
      cases hreasons
    | ok reasons =>
      rw [htarget] at hreasons
      exact congrArg Except.ok (Option.some.inj hreasons)
  rw [judgeMerge_of_exempt hsource hne h hjudged.main_eq hbefore hstrategy hexempt]
  have hforbids : forbids "Cannot merge into feature branch" = true := by decide
  unfold ownObjections
  split_ifs
  · simp [hforbids]
  · rfl

/-- Without prefixes a feature may not be merged into the main branch, which is where it leads to;
with branches of environments a hotfix may be merged into the production branch. -/
theorem judgeMerge_prescribed_simple : makeName "feature" "Fix It" 7 simple = .ok "issue-7-fix-it" ∧
    judgeMerge "issue-7-fix-it" "main" simple = .ok ⟨false, ["Cannot merge into feature branch"]⟩ ∧
    makeName "hotfix" "Fix It" 7 gitlabFlow = .ok "hotfix/issue-7-fix-it" ∧
    judgeMerge "hotfix/issue-7-fix-it" "production" gitlabFlow = .ok ⟨true, []⟩ := by
  have hsimple : Prescribes simple "feature" "main" := ⟨_, _, _, rfl, rfl, rfl, rfl⟩
  have hgitlab : Prescribes gitlabFlow "hotfix" "production" := ⟨_, _, _, rfl, rfl, rfl, rfl⟩
  have hexempt : Exempt "main" simple :=
    ⟨⟨_, _, rfl, rfl, fun _ => rfl⟩, _, _, rfl, rfl, fun hsame => by cases hsame⟩
  have hexempt' : Exempt "production" gitlabFlow :=
    ⟨⟨_, _, rfl, rfl, fun hsame => by cases hsame⟩, _, _, rfl, rfl, fun hsame => by cases hsame⟩
  have hc : ("simple", simple) ∈ all := by simp [all]
  have hc' : ("gitlab-flow", gitlabFlow) ∈ all := by simp [all]
  refine ⟨by rfl, ?_, by rfl, ?_⟩
  · exact judgeMerge_prescribed hc (by rfl) hsimple hexempt
  · exact judgeMerge_prescribed hc' (by rfl) hgitlab hexempt'

/-! ### From the branch of development to the main branch -/

section Development

variable {main develop : String}

lemma exists_objection (hstrategy : c.strategy "gitflow" = .ok "gitflow")
    (hmain : c.main = .ok main) (hdevelop : c.develop = .ok develop) (type : String) :
    ∃ objection, strategyObjection? type develop main c = .ok (some objection) := by
  have hsame : ∀ s : String, (str s).same s = true := fun _ => same_str_iff.mpr rfl
  unfold strategyObjection?
  simp only [hstrategy, hmain, hdevelop, hsame, bind, Except.bind, Bool.and_true, if_true]
  split_ifs <;> exact ⟨_, rfl⟩

lemma not_allowed_of_objection {objection : String}
    (h : strategyObjection? type source target c = .ok (some objection)) {v : MergeVerdict}
    (hv : judgeTyped type source target c before = .ok v) : v.allowed = false := by
  obtain ⟨allowed, reasons⟩ := v
  cases allowed with
  | false => rfl
  | true =>
    obtain ⟨-, hnone, -⟩ := judgeTyped_allowed_iff.mp ⟨reasons, hv⟩
    cases h.symm.trans hnone

/-- Where branches of development are released through branches of their own, a merge of the branch
of development into the main branch is allowed if and only if no type is read off the name of the
former: the objection to such a merge is made for branches with a type alone. -/
theorem develop_into_main_allowed_iff (hstrategy : c.strategy "gitflow" = .ok "gitflow")
    (hmain : c.main = .ok main) (hdevelop : c.develop = .ok develop) :
    ((∃ reasons, judgeMerge develop main c = .ok ⟨true, reasons⟩) ↔
      (typeOf? develop c = .ok none ∨ typeOf? develop c = .ok (some "")) ∧
        ∃ type, typeOf? main c = .ok type) ∧
    ∀ ps, c.prefixes = .ok (prefixMap ps) →
      ((∃ reasons, judgeMerge develop main c = .ok ⟨true, reasons⟩) ↔
      ∀ p ∈ ps.find? fun p => Text.startsWith develop p.2, p.1 = "") := by
  have hiff : (∃ reasons, judgeMerge develop main c = .ok ⟨true, reasons⟩) ↔
      (typeOf? develop c = .ok none ∨ typeOf? develop c = .ok (some "")) ∧
        ∃ type, typeOf? main c = .ok type := by
    constructor
    · rintro ⟨reasons, hallowed⟩
      obtain ⟨type, htype, hrest⟩ := exists_of_bind_ok hallowed
      obtain ⟨_, -, hrest⟩ := exists_of_bind_ok hrest
      obtain ⟨before, hbefore, -⟩ := exists_of_bind_ok hrest
      obtain ⟨found, hfound, -⟩ := exists_of_bind_ok hbefore
      refine ⟨?_, found, hfound⟩
      rw [htype]
      cases type with
      | none => exact .inl rfl
      | some type =>
        by_cases hne : type = ""
        · exact .inr (by rw [hne])
        -- a branch with a type is judged by its flow, and then by the strategy
        rw [judgeMerge_eq htype hne] at hallowed
        obtain ⟨_, -, hallowed⟩ := exists_of_bind_ok hallowed
        obtain ⟨before, -, hallowed⟩ := exists_of_bind_ok hallowed
        obtain ⟨objection, hobjection⟩ := exists_objection hstrategy hmain hdevelop type
        cases not_allowed_of_objection hobjection hallowed
    · rintro ⟨hnone | hempty, found, hfound⟩
      all_goals
        have hbefore : ∃ before, targetReasons main c = .ok before := by
          rw [targetReasons, hfound]
          cases found <;> exact ⟨_, rfl⟩
        obtain ⟨before, hbefore⟩ := hbefore
        simp only [judgeMerge, *, bind, Except.bind]
        exact ⟨_, rfl⟩
  refine ⟨hiff, fun ps hps => hiff.trans ?_⟩
  rw [typeOf?_prefixMap hps, typeOf?_prefixMap hps]
  cases ps.find? fun p => Text.startsWith develop p.2 <;> simp

/-- With the configuration of a project that has none, the branch of development may be merged into
the main branch; with one more prefix, which the name of the branch begins with, it may not. -/
theorem develop_into_main_built_in :
    judgeMerge "develop" "main" builtInForChecks =
      .ok ⟨true, ["Warning: 'develop' is not a recognized flow branch"]⟩ ∧
    (∃ reasons, judgeMerge "develop" "main" builtInForChecks = .ok ⟨true, reasons⟩) ∧
    ¬ ∃ reasons, judgeMerge "develop" "main"
      (.object [("branches", .object [("prefixes", prefixMap [("work", "dev")])])]) =
      .ok ⟨true, reasons⟩ := by
  refine ⟨by rfl, (develop_into_main_allowed_iff rfl rfl rfl).1.mpr ⟨.inl (by rfl), none, by rfl⟩,
    ?_⟩
  rw [(develop_into_main_allowed_iff rfl rfl rfl).2 [("work", "dev")] rfl]
  decide

end Development

end Workbench.Branch
