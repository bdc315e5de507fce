import Workbench.Proofs.Branch.Finish
import Workbench.Proofs.Branch.Names

/-!
# The plan of a finish

What a finish calls is fixed by the flow of the branch before the first call is made.
-/

open Except

namespace Workbench.Branch

open List Tool Text Value

variable {α β : Type}
variable {es : List Event} {u : Unit → Tool β} {target : String} {given : Option String}
    {w w₁ w₂ : World}

/-! ### Runs along a plan -/

/-- A call goes well: it succeeds, and if it asks for uncommitted changes there are none. -/
def GoesWell (e : Event) : Prop := e.2.Succeeds ∧ (e.1 = statusCall → Clean e.2)

/-- Git does all that it is asked for. -/
def Obliging (w : World) : Prop := ∀ before call, GoesWell (call, w.respond before call)

/-- The calls of a run are the first ones of a plan, all of them if the run ends well; and it does
so if every call goes well. -/
structure Carries (plan : List Argv) (r : Result α) (es : List Event) : Prop where
  calls : es.map Prod.fst <+: plan
  complete : ∀ a, r = .ok a → es.map Prod.fst = plan
  ends : (∀ e ∈ es, GoesWell e) → ∃ a, r = .ok a

/-- Some calls are made, whether or not the run ends well; and it does so if every call goes
well. -/
structure Makes (calls : List Argv) (r : Result α) (es : List Event) : Prop where
  calls : es.map Prod.fst = calls
  ends : (∀ e ∈ es, GoesWell e) → ∃ a, r = .ok a

variable {cs cs' : List Argv} {t : Tool α} {f : α → Tool β}

lemma Makes.carries {r : Result α} (h : Makes cs r es) : Carries cs r es where
  calls := h.calls ▸ prefix_rfl
  complete _ _ := h.calls
  ends := h.ends

lemma Carries.append {a : α} {r : Result β} {es' : List Event}
    (h : Carries cs (.ok a : Result α) es) (h' : Carries cs' r es') :
    Carries (cs ++ cs') r (es ++ es') := by
  have hfirst := h.complete a rfl
  refine ⟨?_, fun b hb => ?_, fun hwell => ?_⟩
  · rw [map_append, hfirst]
    exact (prefix_append_right_inj _).mpr h'.calls
  · rw [map_append, hfirst, h'.complete b hb]
  · exact h'.ends fun e he => hwell e (mem_append_right _ he)

/-- A run that failed is one of a longer plan too. -/
lemma Carries.error {e : Fault} (h : Carries cs (.error e : Result α) es) (cs' : List Argv) :
    Carries (cs ++ cs') (.error e : Result β) es := by
  refine ⟨h.calls.trans (prefix_append _ _), fun a ha => (by cases ha), fun hwell => ?_⟩
  obtain ⟨a, ha⟩ := h.ends hwell
  cases ha

lemma carries_bind (ht : Records t (Carries cs)) (hf : ∀ a, Records (f a) (Carries cs')) :
    Records (t >>= f) (Carries (cs ++ cs')) := by
  refine (ht.bind hf).mono ?_
  rintro r es (⟨e, rfl, hcarries⟩ | ⟨a, es₁, es₂, rfl, hcarries₁, hcarries₂⟩)
  · exact hcarries.error cs'
  · exact hcarries₁.append hcarries₂

/-! ### Steps -/

lemma makes_modify {g : World → World}
    (h : ∀ w, (g w).respond = w.respond ∧ (g w).calls = w.calls) :
    Records (modify g : Tool PUnit) (Makes []) := by
  intro w
  rw [exec_modify]
  exact ⟨[], ⟨(h w).1, [], by rw [(h w).2, append_nil], rfl⟩, rfl, fun _ => ⟨_, rfl⟩⟩

lemma makes_say (s : String) : Records (say s) (Makes []) := makes_modify fun _ => ⟨rfl, rfl⟩

lemma makes_sayAll (ss : List String) : Records (sayAll ss) (Makes []) :=
  makes_modify fun _ => ⟨rfl, rfl⟩

lemma makes_pure (a : α) : Records (pure a) (Makes []) := by
  refine (records_pure a).mono ?_
  rintro r es ⟨rfl, rfl⟩
  exact ⟨rfl, fun _ => ⟨a, rfl⟩⟩

lemma carries_say_bind (s : String) (hu : Records (u ()) (Carries cs)) :
    Records (say s >>= u) (Carries cs) :=
  carries_bind ((makes_say s).mono fun _ _ h => h.carries) fun _ => hu

lemma records_lift_bind_ok {x : Result α} {a : α} {Q : Result β → List Event → Prop}
    (hx : x = .ok a) (hf : Records (f a) Q) : Records ((liftM x : Tool α) >>= f) Q := by
  refine records_lift_bind (fun e he => ?_) fun b hb => ?_
  · cases hx.symm.trans he
  · obtain rfl := ok.inj (hx.symm.trans hb)
    exact hf

lemma records_git_ok (args : List String) :
    Records (git args) fun r es => ∃ reply, es = [("git" :: args, reply)] ∧ ∀ out err,
      reply = .finished 0 out err →
      r = .ok (trim out) := by
  intro w
  obtain ⟨es, hadds, reply, hes, -⟩ := records_git args w
  refine ⟨es, hadds, reply, hes, fun out err hreply => ?_⟩
  -- The reply that was recorded is what the world answers to the call.
  have hanswer : w.respond w.calls ("git" :: args) = .finished 0 out err := by
    obtain ⟨cs, -, hcs⟩ := hadds.calls
    cases cs with
    | nil => simp [answered, hes] at hcs
    | cons call cs =>
      rw [hes, answered] at hcs
      obtain ⟨hfirst, -⟩ := List.cons.inj hcs
      obtain ⟨rfl, hanswered⟩ := Prod.mk.inj hfirst
      rw [← hanswered, hreply]
  unfold git gitReporting
  rw [exec_bind_ok (exec_run_finished hanswer "None")]
  rfl

lemma exists_of_succeeds {reply : Reply} (h : reply.Succeeds) :
    ∃ out err, reply = .finished 0 out err := by
  cases reply with
  | finished code out err =>
    obtain rfl : code = 0 := h
    exact ⟨out, err, rfl⟩
  | missing => exact h.elim
  | timeout => exact h.elim

lemma makes_git (args : List String) : Records (git args) (Makes ["git" :: args]) := by
  refine (records_git_ok args).mono ?_
  rintro r es ⟨reply, rfl, hreply⟩
  refine ⟨rfl, fun hwell => ?_⟩
  obtain ⟨out, err, rfl⟩ := exists_of_succeeds (hwell _ (mem_singleton.mpr rfl)).1
  exact ⟨_, hreply out err rfl⟩

lemma makes_bind (ht : Records t (Makes cs)) (hf : ∀ a, Records (f a) (Makes [])) :
    Records (t >>= f) (Makes cs) := by
  refine (ht.bind hf).mono ?_
  rintro r es (⟨e, rfl, hmakes⟩ | ⟨a, es₁, es₂, rfl, hmakes₁, hmakes₂⟩)
  · refine ⟨hmakes.calls, fun hwell => ?_⟩
    obtain ⟨a, ha⟩ := hmakes.ends hwell
    cases ha
  · refine ⟨by rw [map_append, hmakes₁.calls, hmakes₂.calls, append_nil], fun hwell => ?_⟩
    exact hmakes₂.ends fun e he => hwell e (mem_append_right _ he)

lemma makes_run (args : List String) : Records (run args) (Makes ["git" :: args]) :=
  makes_bind (makes_git args) fun _ => makes_pure ()

lemma carries_run_bind (args : List String) (hu : Records (u ()) (Carries cs)) :
    Records (run args >>= u) (Carries (("git" :: args) :: cs)) :=
  carries_bind ((makes_run args).mono fun _ _ h => h.carries) fun _ => hu

lemma makes_orElse {t t' : Tool Unit} (ht : Records t (Makes cs)) (ht' : Records t' (Makes [])) :
    Records (orElse t t') (Makes cs) := by
  refine (Records.guarded ht fun _ => ht').mono ?_
  rintro r es (hmakes | ⟨e, es₁, es₂, rfl, hmakes₁, hmakes₂⟩)
  · exact hmakes
  · refine ⟨by rw [map_append, hmakes₁.calls, hmakes₂.calls, append_nil], fun hwell => ?_⟩
    exact hmakes₂.ends fun e he => hwell e (mem_append_right _ he)

lemma makes_gitOrSay (args : List String) (warning : String) :
    Records (gitOrSay args warning) (Makes ["git" :: args]) :=
  makes_orElse (makes_run args) (makes_say warning)

lemma carries_gitOrSay_bind (args : List String) (warning : String)
    (hu : Records (u ()) (Carries cs)) :
    Records (gitOrSay args warning >>= u) (Carries (("git" :: args) :: cs)) :=
  carries_bind ((makes_gitOrSay args warning).mono fun _ _ h => h.carries) fun _ => hu

/-! ### The plan -/

/-- The push of a branch or tag. -/
def pushCall (target : String) : Argv := ["git", "push", "origin", target]

/-- The calls that merge a branch into a target. -/
def mergeCalls (squash : Bool) (branch target : String) : List Argv :=
  [["git", "checkout", target], ["git", "pull", "origin", target],
    ["git", "merge", if squash then "--squash" else "--no-ff", branch]]
  ++ (if squash then [["git", "commit", "-m", "Merge " ++ branch ++ " into " ++ target]] else [])
  ++ [pushCall target]

/-- The tag of a version. -/
def tagOf (version : Chars) : String := "v" ++ .ofList version

/-- The call that sets the tag of a version. -/
def tagCall (version : Chars) : Argv :=
  ["git", "tag", "-a", tagOf version, "-m", "Release " ++ .ofList version]

/-- The calls that tag a release. -/
def tagCalls (branch : String) : List Argv :=
  match versionIn? branch.toList with
  | none => []
  | some version => [tagCall version, pushCall (tagOf version)]

/-- The calls that delete a branch. -/
def deleteCalls (branch : String) : List Argv :=
  [["git", "branch", "-d", branch], ["git", "push", "origin", "--delete", branch]]

/-- All calls of a finish, in their order. -/
def Finish.plan (f : Finish) : List Argv :=
  [statusCall] ++ (f.targets.flatMap (mergeCalls f.squash f.branch)
    ++ ((if f.tag then tagCalls f.branch else []) ++
      ((if f.delete then deleteCalls f.branch else []) ++ [])))

lemma mem_plan {f : Finish} {call : Argv} :
    call ∈ f.plan ↔ call = statusCall ∨
      (∃ target ∈ f.targets, call ∈ mergeCalls f.squash f.branch target) ∨
      (f.tag = true ∧ call ∈ tagCalls f.branch) ∨
        (f.delete = true ∧ call ∈ deleteCalls f.branch) := by
  unfold Finish.plan
  simp only [mem_append, mem_singleton, mem_flatMap, not_mem_nil, or_false]
  cases f.tag <;> cases f.delete <;> simp

lemma mem_mergeCalls {squash : Bool} {branch : String} {call : Argv} :
    call ∈ mergeCalls squash branch target ↔
      call = ["git", "checkout", target] ∨ call = ["git", "pull", "origin", target] ∨
      call = ["git", "merge", if squash then "--squash" else "--no-ff", branch] ∨
      (squash = true ∧ call = ["git", "commit", "-m", "Merge " ++ branch ++ " into " ++ target]) ∨
      call = pushCall target := by
  cases squash <;> simp [mergeCalls]

lemma push_mem_plan {f : Finish} (h : target ∈ f.targets) : pushCall target ∈ f.plan :=
  mem_plan.mpr (.inr (.inl ⟨target, h, mem_mergeCalls.mpr (by simp)⟩))

lemma carries_mergeInto (f : Finish) (target : String) :
    Records (mergeInto f target) (Carries (mergeCalls f.squash f.branch target)) := by
  have hpush : Records (do
      say ("Pushing " ++ target ++ " to origin...")
      run ["push", "origin", target]
      say ("✅ Merged to " ++ target)) (Carries [pushCall target]) :=
    carries_say_bind _ (carries_run_bind _ ((makes_say _).mono fun _ _ h => h.carries))
  unfold mergeInto
  refine carries_say_bind _ (carries_run_bind _ ?_)
  refine carries_gitOrSay_bind _ _ (carries_run_bind _ ?_)
  cases f.squash with
  | false => exact hpush
  | true => exact carries_run_bind _ hpush

lemma carries_forM_mergeInto (f : Finish) (targets : List String) :
    Records (targets.forM (mergeInto f))
      (Carries (targets.flatMap (mergeCalls f.squash f.branch))) := by
  induction targets with
  | nil => exact (makes_pure ()).mono fun _ _ h => h.carries
  | cons target targets ih =>
    rw [flatMap_cons]
    exact carries_bind (carries_mergeInto f target) fun _ => ih

lemma carries_tagVersion (branch : String) :
    Records (tagVersion branch) (Carries (tagCalls branch)) := by
  unfold tagVersion tagCalls
  cases versionIn? branch.toList with
  | none => exact (makes_pure ()).mono fun _ _ h => h.carries
  | some version =>
    exact carries_say_bind _
      (carries_run_bind _ (carries_run_bind _ ((makes_say _).mono fun _ _ h => h.carries)))

lemma carries_deleteBranch (branch : String) :
    Records (deleteBranch branch) (Carries (deleteCalls branch)) := by
  unfold deleteBranch
  refine carries_say_bind _ (carries_run_bind _ ?_)
  have hremote : Records (orElse (do
      run ["push", "origin", "--delete", branch]
      say "✅ Deleted remote branch") (say "Note: Remote branch may not exist or already deleted"))
      (Makes [["git", "push", "origin", "--delete", branch]]) :=
    makes_orElse (makes_bind (makes_run _) fun _ => makes_say _) (makes_say _)
  exact (makes_bind hremote fun _ => makes_say _).mono fun _ _ h => h.carries

lemma trim_eq_of_clean {out err : String} (h : Clean (.finished 0 out err)) : trim out = "" := by
  obtain ⟨out', err', heq, hblank⟩ := h
  obtain ⟨-, rfl, -⟩ := Reply.finished.inj heq
  rwa [trim, String.ofList_eq_empty_iff, trimWhile_eq_nil_iff]

/-- Whatever git replies, the events of a finish are a run of its plan. -/
theorem carries_carryOut (f : Finish) : Records f.carryOut (Carries f.plan) := by
  have hend : Records (sayAll ["", "✅ Branch " ++ f.branch ++ " completed!"]) (Carries []) :=
    (makes_sayAll _).mono fun _ _ h => h.carries
  have hdelete : Records (do
      if f.delete then deleteBranch f.branch
      sayAll ["", "✅ Branch " ++ f.branch ++ " completed!"])
      (Carries ((if f.delete then deleteCalls f.branch else []) ++ [])) := by
    cases f.delete with
    | false => exact hend
    | true => exact carries_bind (carries_deleteBranch _) fun _ => hend
  have htag : Records (do
      if f.tag then tagVersion f.branch
      if f.delete then deleteBranch f.branch
      sayAll ["", "✅ Branch " ++ f.branch ++ " completed!"])
      (Carries ((if f.tag then tagCalls f.branch else []) ++
        ((if f.delete then deleteCalls f.branch else []) ++ []))) := by
    cases f.tag with
    | false => exact hdelete
    | true => exact carries_bind (carries_tagVersion _) fun _ => hdelete
  have hmerges := carries_bind (carries_forM_mergeInto f f.targets) fun _ => htag
  unfold Finish.carryOut Finish.plan
  generalize f.targets.flatMap (mergeCalls f.squash f.branch)
    ++ ((if f.tag then tagCalls f.branch else []) ++
      ((if f.delete then deleteCalls f.branch else []) ++ [])) = rest
    at hmerges
  -- What follows depends on what git prints: nothing is called unless the status is empty.
  refine ((records_git_ok ["status", "--porcelain"]).bind (Q := fun status r es =>
    (status = "" → Carries rest r es) ∧
      (status ≠ "" → es = [] ∧ ∃ e, r = .error e)) fun status => ?_).mono ?_
  · by_cases hstatus : status = ""
    · have hclean : (status != "") = false := by simpa using hstatus
      simp only [hclean, Bool.false_eq_true, if_false]
      exact hmerges.mono fun _ _ h => ⟨fun _ => h, fun hne => absurd hstatus hne⟩
    · have hchanged : (status != "") = true := by simpa using hstatus
      simp only [hchanged, if_true]
      refine (quiet_sayAll _).bind
        (fun e => ⟨fun h => absurd h hstatus, fun _ => ⟨rfl, e, rfl⟩⟩) fun _ => ?_
      refine (records_throw_bind _ _).mono ?_
      rintro r es ⟨rfl, rfl⟩
      exact ⟨fun h => absurd h hstatus, fun _ => ⟨rfl, _, rfl⟩⟩
  · rintro r es
      (⟨e, rfl, reply, rfl, hreply⟩ | ⟨status, es₁, es₂, rfl, ⟨reply, rfl, hreply⟩, hgood, hbad⟩)
    · refine ⟨⟨rest, rfl⟩, fun a ha => (by cases ha), fun hwell => ?_⟩
      obtain ⟨out, err, rfl⟩ := exists_of_succeeds (hwell _ (mem_singleton.mpr rfl)).1
      cases hreply out err rfl
    · by_cases hstatus : status = ""
      · have hcarries := hgood hstatus
        refine ⟨?_, fun a ha => ?_, fun hwell => ?_⟩
        · exact (prefix_append_right_inj [statusCall]).mpr hcarries.calls
        · rw [map_append, hcarries.complete a ha]
          rfl
        · exact hcarries.ends fun e he => hwell e (mem_append_right _ he)
      · obtain ⟨rfl, e, rfl⟩ := hbad hstatus
        refine ⟨⟨rest, rfl⟩, fun a ha => (by cases ha), fun hwell => ?_⟩
        have hstatusWell := hwell (statusCall, reply) (by simp [statusCall])
        obtain ⟨out, err, rfl⟩ := exists_of_succeeds hstatusWell.1
        exact absurd ((ok.inj (hreply out err rfl)).trans (trim_eq_of_clean (hstatusWell.2 rfl)))
          hstatus

/-! ### From the flow to the plan -/

/-- The finish of a branch along a flow. -/
def Flow.finish (flow : Flow) (branch : String) (targets : List String) : Finish :=
  { branch, targets, squash := flow.squash, tag := flow.tag, delete := flow.delete }

lemma exists_of_texts {xs : List Value} {i : Nat} {ss : List String} (h : texts i xs = .ok ss) :
    xs = ss.map str := by
  induction xs generalizing i ss with
  | nil =>
    obtain rfl := ok.inj h
    rfl
  | cons x xs ih =>
    cases x with
    | str s =>
      rw [texts] at h
      cases hrest : texts (i + 1) xs with
      | error e =>
        rw [hrest] at h
        cases h
      | ok rest =>
        rw [hrest] at h
        obtain rfl := ok.inj h
        rw [ih hrest, map_cons]
    | _ => cases h

lemma texts_map_str (ss : List String) (i : Nat) : texts i (ss.map str) = .ok ss := by
  induction ss generalizing i with
  | nil => rfl
  | cons s ss ih => rw [map_cons, texts, ih, Except.map]

lemma joinTexts_eq_ok_iff (sep : String) (v : Value) :
    (∃ s, joinTexts sep v = .ok s) ↔ ∃ ss, v.parts = .ok (List.map str ss) := by
  unfold joinTexts
  cases hparts : v.parts with
  | error e => simp [bind, Except.bind]
  | ok xs =>
    simp only [bind, Except.bind, Except.ok.injEq]
    constructor
    · rintro ⟨s, hs⟩
      cases htexts : texts 0 xs with
      | error e =>
        rw [htexts] at hs
        cases hs
      | ok ss => exact ⟨ss, exists_of_texts htexts⟩
    · rintro ⟨ss, rfl⟩
      exact ⟨_, by rw [texts_map_str]; rfl⟩

lemma targets_of_parts {flow : Flow} {targets : List String}
    (h : flow.goals.parts = .ok (targets.map str)) :
    flow.targets = .ok targets := by
  have hdisplay : (targets.map str).map display = targets := by
    rw [map_map]
    exact map_id targets
  unfold Flow.targets
  simp only [h, bind, Except.bind]
  exact congrArg ok hdisplay

lemma carries_finishAlong {flow : Flow} {targets : List String}
    (h : flow.goals.parts = .ok (targets.map str)) (type branch : String) :
    Records (finishAlong type branch flow) (Carries (flow.finish branch targets).plan) := by
  obtain ⟨joined, hjoined⟩ := (joinTexts_eq_ok_iff ", " flow.goals).mpr ⟨targets, h⟩
  unfold finishAlong
  refine carries_say_bind _
    (records_lift_bind_ok hjoined (carries_say_bind _ (carries_say_bind _ ?_)))
  exact records_lift_bind_ok (targets_of_parts h) (carries_carryOut _)

/-- What a branch is finished along: the flow of its type, and the texts that the flow leads to. -/
structure Along (branch : String) (c : Config) (type : String) (flow : Flow)
    (targets : List String) : Prop where
  type_eq : typeOf? branch c = .ok (some type)
  type_ne : type ≠ ""
  flow_eq : flowOf type c = .ok flow
  goals_eq : flow.goals.parts = .ok (targets.map str)

variable {branch type : String} {c : Config} {flow : Flow} {targets : List String}

lemma Along.carries (h : Along branch c type flow targets) :
    Records (finishBranch branch c) (Carries (flow.finish branch targets).plan) := by
  rw [finishBranch_eq h.type_eq h.type_ne]
  exact records_lift_bind_ok h.flow_eq (carries_finishAlong h.goals_eq type branch)

lemma quiet_or_along (branch : String) (c : Config) :
    Quiet (finishBranch branch c) ∨ ∃ type flow targets, Along branch c type flow targets := by
  have hrefuse : ∀ lines, Quiet (sayAll lines >>= fun _ => (exit 1 : Tool Unit)) :=
    fun lines => (quiet_sayAll lines).bind (fun _ => rfl) fun _ => quiet_exit 1
  have hfault : ∀ (e : Fault) {γ : Type} (u : γ → Tool Unit),
      Quiet ((liftM (.error e : Result γ) : Tool γ) >>= u) :=
    fun e _ u => records_lift_bind (fun _ _ => rfl) fun _ ha => by cases ha
  cases htype : typeOf? branch c with
  | error e =>
    refine .inl ?_
    rw [finishBranch, htype]
    exact hfault e _
  | ok type? =>
    by_cases hnone : type? = none ∨ type? = some ""
    · refine .inl ?_
      rw [finishBranch, htype]
      rcases hnone with rfl | rfl
      · exact hrefuse _
      · exact hrefuse _
    · rw [not_or] at hnone
      obtain ⟨type, rfl⟩ := Option.ne_none_iff_exists'.mp hnone.1
      have hne : type ≠ "" := fun hempty => hnone.2 (congrArg some hempty)
      rw [finishBranch_eq htype hne]
      cases hflow : flowOf type c with
      | error e => exact .inl (hfault e _)
      | ok flow =>
        cases hjoin : joinTexts ", " flow.goals with
        | error e =>
          refine .inl ((records_lift_bind (fun _ _ => rfl) fun found hfound => ?_))
          obtain rfl := ok.inj hfound
          unfold finishAlong
          refine (quiet_say _).bind (fun _ => rfl) fun _ => ?_
          rw [hjoin]
          exact hfault e _
        | ok joined =>
          obtain ⟨targets, htargets⟩ := (joinTexts_eq_ok_iff _ _).mp ⟨joined, hjoin⟩
          exact .inr ⟨type, flow, targets, htype, hne, hflow, htargets⟩

/-- The events of a finish where the configuration and the branch are known: questions, and then
those of finishing the branch. -/
lemma exists_events_of_load (hload : load.exec w = (.ok c, w₁))
    (hchosen : (chosen given).exec w₁ = (.ok branch, w₂)) :
    ∃ asked, (finish given).events w = asked ++ (finishBranch branch c).events w₂ ∧
      (∀ e ∈ asked, Asks e.1) ∧
      w₂.respond = w.respond ∧ ((finish given).exec w).1 = ((finishBranch branch c).exec w₂).1 := by
  obtain ⟨es₁, hadds₁, hasks₁⟩ := records_load w
  obtain ⟨es₂, hadds₂, hasks₂⟩ := records_chosen given w₁
  obtain ⟨es₃, hadds₃, -⟩ := records_finishBranch branch c w₂
  rw [hload] at hadds₁
  rw [hchosen] at hadds₂
  have hexec : (finish given).exec w = (finishBranch branch c).exec w₂ :=
    (exec_bind_ok hload _).trans (exec_bind_ok hchosen _)
  refine ⟨es₁ ++ es₂, ?_, fun e he => (mem_append.mp he).elim (hasks₁ e) (hasks₂ e),
    ?_, by rw [hexec]⟩
  · rw [hadds₃.events_eq]
    refine Adds.events_eq ?_
    rw [hexec]
    exact (hadds₁.trans hadds₂).trans hadds₃
  · exact hadds₂.respond.trans hadds₁.respond

lemma goesWell_of_obliging {w' : World} (hadds : Adds w w' es) (h : Obliging w) :
    ∀ e ∈ es, GoesWell e := by
  have hanswered : ∀ before calls, ∀ e ∈ answered w.respond before calls, GoesWell e := by
    intro before calls
    induction calls generalizing before with
    | nil => simp [answered]
    | cons call calls ih =>
      rw [answered, forall_mem_cons]
      exact ⟨h before call, ih _⟩
  obtain ⟨cs, -, rfl⟩ := hadds.calls
  exact hanswered _ _

/-- The calls are a beginning of the plan, and all of it if all goes well. -/
lemma Along.calls (h : Along branch c type flow targets) (w : World) :
    ((finishBranch branch c).events w).map Prod.fst <+: (flow.finish branch targets).plan ∧
      (Obliging w → ((finishBranch branch c).exec w).1 = .ok () ∧
        ((finishBranch branch c).events w).map Prod.fst = (flow.finish branch targets).plan) := by
  obtain ⟨es, hadds, hcarries⟩ := h.carries w
  rw [hadds.events_eq]
  refine ⟨hcarries.calls, fun hobliging => ?_⟩
  obtain ⟨a, ha⟩ := hcarries.ends (goesWell_of_obliging hadds hobliging)
  exact ⟨ha, hcarries.complete a ha⟩

/-- The calls of a finish where the configuration and the branch are known: questions first, and
then those of the plan. -/
theorem Along.exists_calls (h : Along branch c type flow targets)
    (hload : load.exec w = (.ok c, w₁)) (hchosen : (chosen given).exec w₁ = (.ok branch, w₂)) :
    ∃ asked done, ((finish given).events w).map Prod.fst = asked ++ done ∧
      (∀ call ∈ asked, Asks call) ∧
      done <+: (flow.finish branch targets).plan ∧
      (Obliging w → ((finish given).exec w).1 = .ok () ∧
        done = (flow.finish branch targets).plan) := by
  obtain ⟨asked, hevents, hasks, hrespond, hexec⟩ := exists_events_of_load hload hchosen
  obtain ⟨hcalls, hall⟩ := h.calls w₂
  refine ⟨asked.map Prod.fst, _, by rw [hevents, map_append], ?_, hcalls, fun hwell => ?_⟩
  · intro call hcall
    obtain ⟨e, he, rfl⟩ := mem_map.mp hcall
    exact hasks e he
  · have hwell' : Obliging w₂ := by
      unfold Obliging
      rw [hrespond]
      exact hwell
    obtain ⟨hok, hdone⟩ := hall hwell'
    exact ⟨hexec.trans hok, hdone⟩

lemma Along.pushes (h : Along branch c type flow targets)
    (hload : load.exec w = (.ok c, w₁)) (hchosen : (chosen given).exec w₁ = (.ok branch, w₂))
    (hwell : Obliging w) (htarget : target ∈ targets) :
    pushCall target ∈ ((finish given).events w).map Prod.fst := by
  obtain ⟨asked, done, hcalls, -, -, hall⟩ := h.exists_calls hload hchosen
  rw [hcalls, (hall hwell).2]
  exact mem_append_right _ (push_mem_plan htarget)

/-! ### Releases where a project has no configuration -/

lemma along_release {name : String} (h : "release/".toList <+: name.toList) :
    ∃ flow, Along name builtIn "release" flow ["main", "develop"] ∧ flow.tag = true := by
  have hprefixes : builtIn.prefixes = .ok
      (prefixMap (["feature", "bugfix", "hotfix", "release", "docs", "refactor"].map fun t =>
        (t, t ++ "/"))) := rfl
  have htype : typeOf? name builtIn = .ok (some "release") :=
    typeOf?_of_typeOfLead? hprefixes (by decide) h
  exact ⟨_, ⟨htype, by decide, rfl, rfl⟩, rfl⟩

lemma obliging_empty : Obliging {} := by
  intro before call
  exact ⟨rfl, fun _ => ⟨"", "", rfl, by simp⟩⟩

lemma exists_load_empty : ∃ w, load.exec {} = (.ok builtIn, w) := ⟨_, rfl⟩

end Workbench.Branch
