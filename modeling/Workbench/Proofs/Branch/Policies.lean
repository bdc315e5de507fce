import Workbench.Proofs.Branch.Merges
import Workbench.Proofs.Branch.Plan

/-!
# Finishing and the policies

Whether a branch may be merged is judged by its flow, the kind of its target, the strategy and the
policies.
-/

open List Except

namespace Workbench.Branch

open Value

variable {branch type source target : String} {c c' : Config} {flow : Flow} {targets : List String}

/-! ### What is looked at -/

lemma finishBranch_congr (hprefixes : c'.prefixes = c.prefixes) (hflows : c'.flows = c.flows)
    (branch : String) :
    finishBranch branch c' = finishBranch branch c := by
  unfold finishBranch typeOf? flowOf
  rw [hprefixes, hflows]

/-! ### Where a flow leads -/

/-- Where the flow of a type leads. -/
def Aims (c : Config) (type : String) (goal : Value) : Prop :=
  ∃ flows flow, c.flows = .ok flows ∧ flows.field type = .ok flow ∧ flow.field "to" = .ok goal

lemma field_or_default {v x : Value} {k : String} {default : Value}
    (h : v.fieldOr k default = .ok x) :
    v.field k = .ok x ∨ x = default ∧ ∀ y, v.field k ≠ .ok y := by
  unfold fieldOr at h
  split at h
  · rename_i es
    cases hlookup : lookup k es with
    | none =>
      rw [hlookup] at h
      refine .inr ⟨(ok.inj h).symm, fun y hy => ?_⟩
      simp [field, hlookup] at hy
    | some y =>
      rw [hlookup] at h
      obtain rfl : y = x := ok.inj h
      exact .inl (by simp [field, hlookup])
  all_goals cases h

lemma exists_of_flowOf (h : flowOf type c = .ok flow) :
    ∃ flows entry goal, c.flows = .ok flows ∧ flows.fieldOr type (.map []) = .ok entry ∧
      entry.fieldOr "to" "develop" = .ok goal ∧ flow.goals = targetsOf goal := by
  unfold flowOf at h
  obtain ⟨flows, hflows, h⟩ := exists_of_bind_ok h
  obtain ⟨entry, hentry, h⟩ := exists_of_bind_ok h
  obtain ⟨goal, hgoal, h⟩ := exists_of_bind_ok h
  obtain ⟨delete, -, h⟩ := exists_of_bind_ok h
  obtain ⟨squash, -, h⟩ := exists_of_bind_ok h
  obtain ⟨tag, -, h⟩ := exists_of_bind_ok h
  obtain rfl := ok.inj h
  exact ⟨flows, entry, goal, hflows, hentry, hgoal, rfl⟩

lemma Along.prescribes (h : Along branch c type flow targets) (htarget : target ∈ targets) :
    Prescribes c type target ∨ (∀ goal, ¬ Aims c type goal) ∧ target = "develop" := by
  obtain ⟨flows, entry, goal, hflows, hentry, hgoal, hgoals⟩ := exists_of_flowOf h.flow_eq
  have hparts := h.goals_eq
  rw [hgoals] at hparts
  have hdefault : goal = .str "develop" → target = "develop" := by
    rintro rfl
    have hone : [str "develop"] = targets.map str := ok.inj hparts
    have hmem : str target ∈ [str "develop"] := hone ▸ mem_map_of_mem htarget
    exact str.inj (mem_singleton.mp hmem)
  rcases field_or_default hentry with hentry | ⟨rfl, hnone⟩
  · rcases field_or_default hgoal with hgoal | ⟨rfl, hnone⟩
    · refine .inl ⟨flows, entry, goal, hflows, hentry, hgoal, ?_⟩
      exact (hasText_of_parts (targetsOf_ne_str goal) hparts).mpr (mem_map_of_mem htarget)
    · refine .inr ⟨?_, hdefault rfl⟩
      rintro goal ⟨flows', entry', hflows', hentry', hgoal'⟩
      obtain rfl := ok.inj (hflows.symm.trans hflows')
      obtain rfl := ok.inj (hentry.symm.trans hentry')
      exact hnone goal hgoal'
  · refine .inr ⟨?_, hdefault (ok.inj hgoal).symm⟩
    rintro goal ⟨flows', entry', hflows', hentry', -⟩
    obtain rfl := ok.inj (hflows.symm.trans hflows')
    exact hnone entry' hentry'

lemma hasText_nil (s : String) : (targetsOf (.list [])).hasText s = .ok false := rfl

lemma not_allowed_of_aimless (hsource : typeOf? source c = .ok (some type)) (hne : type ≠ "")
    (h : ∀ goal, ¬ Aims c type goal) {verdict : MergeVerdict}
    (hverdict : judgeMerge source target c = .ok verdict) :
    verdict.allowed = false := by
  rw [judgeMerge_eq hsource hne] at hverdict
  obtain ⟨main, -, hverdict⟩ := exists_of_bind_ok hverdict
  obtain ⟨before, -, hverdict⟩ := exists_of_bind_ok hverdict
  unfold judgeTyped at hverdict
  obtain ⟨flows, hflows, hverdict⟩ := exists_of_bind_ok hverdict
  obtain ⟨entry, hentry, hverdict⟩ := exists_of_bind_ok hverdict
  by_cases hempty : entry.truthy = true
  · -- The flow is there, so it has no field that says where it leads.
    rcases field_or_default hentry with hentry | ⟨rfl, -⟩
    · simp only [hempty, Bool.not_true, Bool.false_eq_true, if_false] at hverdict
      obtain ⟨goal, hgoal, hverdict⟩ := exists_of_bind_ok hverdict
      rcases field_or_default hgoal with hgoal | ⟨rfl, -⟩
      · exact absurd ⟨flows, entry, hflows, hentry, hgoal⟩ (h goal)
      · rw [hasText_nil] at hverdict
        obtain ⟨found, hfound, hverdict⟩ := exists_of_bind_ok hverdict
        obtain rfl := ok.inj hfound
        obtain ⟨names, -, hverdict⟩ := exists_of_bind_ok hverdict
        obtain rfl := ok.inj hverdict
        rfl
    · cases hempty
  · simp only [hempty, Bool.not_false, if_true] at hverdict
    obtain rfl := ok.inj hverdict
    rfl

/-! ### What is pushed -/

lemma mem_targets_of_push {f : Finish} (h : pushCall target ∈ f.plan) :
    target ∈ f.targets ∨ f.tag = true ∧
      ∃ version, versionIn? f.branch.toList = some version ∧ target = tagOf version := by
  rcases mem_plan.mp h with hstatus | ⟨goal, hgoal, hmerge⟩ | ⟨htag, hpush⟩ | ⟨-, hdelete⟩
  · exact absurd hstatus (by simp [pushCall, statusCall])
  · have heq : target = goal := by simpa [mem_mergeCalls, pushCall] using hmerge
    exact .inl (heq ▸ hgoal)
  · unfold tagCalls at hpush
    cases hversion : versionIn? f.branch.toList with
    | none =>
      rw [hversion] at hpush
      cases hpush
    | some version =>
      rw [hversion] at hpush
      have heq : target = tagOf version := by simpa [pushCall, tagCall] using hpush
      exact .inr ⟨htag, version, rfl, heq⟩
  · simp [pushCall, deleteCalls] at hdelete

lemma not_asks_push (target : String) : ¬ Asks (pushCall target) := by
  rintro ⟨more, hmore⟩
  simp [pushCall] at hmore

lemma exists_along_of_push {given : Option String} {w w₁ w₂ : World}
    (hload : load.exec w = (.ok c, w₁)) (hchosen : (chosen given).exec w₁ = (.ok branch, w₂))
    (hpush : pushCall target ∈ ((finish given).events w).map Prod.fst) :
    ∃ type flow targets, Along branch c type flow targets ∧
      pushCall target ∈ (flow.finish branch targets).plan := by
  rcases quiet_or_along branch c with hquiet | ⟨type, flow, targets, halong⟩
  · -- Only the questions before are left, and none of them pushes.
    obtain ⟨asked, hevents, hasks, -, -⟩ := exists_events_of_load hload hchosen
    obtain ⟨es, hadds, rfl⟩ := hquiet w₂
    rw [hevents, hadds.events_eq, append_nil] at hpush
    obtain ⟨e, he, hcall⟩ := mem_map.mp hpush
    exact absurd (hcall ▸ hasks e he) (not_asks_push target)
  · obtain ⟨asked, done, hcalls, hasks, hdone, -⟩ := halong.exists_calls hload hchosen
    rw [hcalls] at hpush
    rcases mem_append.mp hpush with hask | hmem
    · exact absurd (hasks _ hask) (not_asks_push target)
    · exact ⟨type, flow, targets, halong, hdone.subset hmem⟩

/-- A finish pushes by the flow alone, and agrees with the judgement on merges no further than that:
whatever the policies say, every branch that the flow leads to is pushed if all goes well, and
nothing else but the tag of the version.  A branch that the flow prescribes is judged by the kind of
the target, the strategy and the policies; where the flow leads nowhere the branch of development is
pushed, although this is never allowed. -/
theorem finish_pushes_by_flow_alone {given : Option String} {w w₁ w₂ : World}
    (hload : load.exec w = (.ok c, w₁)) (hchosen : (chosen given).exec w₁ = (.ok branch, w₂))
    (htype : typeOf? branch c = .ok (some type)) (hne : type ≠ "") :
    (∀ c' : Config, c'.prefixes = c.prefixes → c'.flows = c.flows →
      finishBranch branch c' = finishBranch branch c) ∧
    (∀ target, pushCall target ∈ ((finish given).events w).map Prod.fst →
      (Prescribes c type target ∧
        judgeMerge branch target c = (do
          let _ ← c.main
          let before ← targetReasons target c
          judgeBeyondFlow type branch target c before)) ∨
      ((∀ goal, ¬ Aims c type goal) ∧ target = "develop" ∧
        ∀ verdict, judgeMerge branch target c = .ok verdict → verdict.allowed = false) ∨
      ∃ flow version, flowOf type c = .ok flow ∧ flow.tag = true ∧
        versionIn? branch.toList = some version ∧
        target = tagOf version) ∧
    (Obliging w → ∀ (flow : Flow) (targets : List String), flowOf type c = .ok flow →
      flow.goals.parts = .ok (targets.map str) →
      ∀ target ∈ targets, pushCall target ∈ ((finish given).events w).map Prod.fst) := by
  refine ⟨fun c' hprefixes hflows => finishBranch_congr hprefixes hflows branch,
    fun target hpush => ?_, ?_⟩
  · obtain ⟨found, flow, targets, halong, hmem⟩ := exists_along_of_push hload hchosen hpush
    obtain rfl : type = found := Option.some.inj (Except.ok.inj (htype.symm.trans halong.type_eq))
    rcases mem_targets_of_push hmem with htarget | ⟨htag, version, hversion, rfl⟩
    · rcases halong.prescribes htarget with hprescribes | ⟨haimless, rfl⟩
      · exact .inl ⟨hprescribes, judgeMerge_of_prescribes htype hne hprescribes⟩
      · exact .inr (.inl ⟨haimless, rfl, fun _ => not_allowed_of_aimless htype hne haimless⟩)
    · exact .inr (.inr ⟨flow, version, halong.flow_eq, htag, hversion, rfl⟩)
  · intro hwell flow targets hflow hgoals target htarget
    have halong : Along branch c type flow targets := ⟨htype, hne, hflow, hgoals⟩
    exact halong.pushes hload hchosen hwell htarget

/-- A release is pushed to the main branch although its policies ask for a request; a branch of
documents, which has no flow, is pushed to the branch of development. -/
theorem finish_pushes_by_flow_alone_release :
    pushCall "main" ∈ ((finish (some "release/1.0.0")).events {}).map Prod.fst ∧
    pushCall "develop" ∈ ((finish (some "docs/x")).events {}).map Prod.fst ∧
    (∀ goal, ¬ Aims builtIn "docs" goal) ∧
    ∀ verdict, judgeMerge "docs/x" "develop" builtIn = .ok verdict → verdict.allowed = false := by
  obtain ⟨w, hload⟩ := exists_load_empty
  have hchosen : ∀ name, (chosen (some name)).exec w = (.ok name, w) :=
    fun name => Tool.exec_pure name w
  have hrelease : typeOf? "release/1.0.0" builtIn = .ok (some "release") := by rfl
  have hdocs : typeOf? "docs/x" builtIn = .ok (some "docs") := by rfl
  obtain ⟨-, -, hpushed⟩ := finish_pushes_by_flow_alone hload (hchosen _) hrelease (by decide)
  obtain ⟨-, hjudged, hpushed'⟩ := finish_pushes_by_flow_alone hload (hchosen _) hdocs (by decide)
  have hmain := hpushed obliging_empty _ ["main", "develop"] rfl rfl "main" (by simp)
  have hdevelop := hpushed' obliging_empty _ ["develop"] rfl rfl "develop" (by simp)
  refine ⟨hmain, hdevelop, ?_⟩
  rcases hjudged "develop" hdevelop with ⟨hprescribes, -⟩ | ⟨haimless, -, hverdict⟩ | ⟨_, version,
    -, -, hversion, -⟩
  · obtain ⟨flows, flow, -, hflows, hflow, -⟩ := hprescribes
    obtain rfl := Except.ok.inj hflows
    cases hflow
  · exact ⟨haimless, hverdict⟩
  · cases hversion

/-- With the built-in configuration, which asks for requests to the main branch and lists it among
the branches that are not pushed to, a release is pushed to the main branch. -/
theorem finish_pushes_protected :
    pushCall "main" ∈ ((finish (some "release/1.0.0")).events {}).map Prod.fst ∧
    builtIn.pathOr ["policies", "preventDirectPush"] (.list []) = .ok (strings ["main"]) ∧
    judgeMerge "release/1.0.0" "main" builtIn =
      .ok ⟨false, ["Merging to main requires a Pull Request"]⟩ := by
  obtain ⟨w, hload⟩ := exists_load_empty
  obtain ⟨flow, halong, -⟩ :=
    along_release (by decide : "release/".toList <+: "release/1.0.0".toList)
  exact ⟨halong.pushes hload (Tool.exec_pure _ w) obliging_empty (by simp), by rfl, by rfl⟩

end Workbench.Branch
