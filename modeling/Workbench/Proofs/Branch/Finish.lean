import Workbench.Branch.Lifecycle
import Workbench.Proofs.Text.Trim
import Workbench.Proofs.World.Calls

/-!
# Finishing a branch loses no work

Finishing a branch merges it into each of its targets and pushes them before it makes a tag or
deletes the branch. Any step may fail.
-/

namespace Workbench.Branch

open List Bool Tool Text

variable {args : List String} {es : List Event}

/-! ### What a part of a run does -/

/-- Every call is a permitted one, and if all goes well those of `need` succeeded in this order. -/
def Performs (need : List Argv) (may : Argv → Prop) (r : Result Unit) (es : List Event) : Prop :=
  (∀ e ∈ es, may e.1) ∧ (r = .ok () → need.Sublist (succeeded es))

variable {need need' : List Argv} {may may' : Argv → Prop} {t t' : Tool Unit}

lemma performs_bind (ht : Records t (Performs need may)) (ht' : Records t' (Performs need' may)) :
    Records (t >>= fun _ => t') (Performs (need ++ need') may) := by
  refine (ht.bind fun _ => ht').mono ?_
  rintro r es (⟨e, rfl, hmay, -⟩ | ⟨_, es₁, es₂, rfl, ⟨hmay₁, hneed₁⟩, hmay₂, hneed₂⟩)
  · exact ⟨hmay, fun h => by cases h⟩
  · refine ⟨fun e he => (mem_append.mp he).elim (hmay₁ e) (hmay₂ e), fun h => ?_⟩
    rw [succeeded_append]
    exact (hneed₁ rfl).append (hneed₂ h)

lemma performs_of_quiet (ht : Quiet t) : Records t (Performs [] may) := by
  refine ht.mono ?_
  rintro r es rfl
  exact ⟨by simp, fun _ => by simp⟩

lemma permits_bind (ht : Records t (Performs [] may)) (ht' : Records t' (Performs need may)) :
    Records (t >>= fun _ => t') (Performs need may) :=
  performs_bind ht ht'

lemma performs_quiet_bind (ht : Quiet t) (ht' : Records t' (Performs need may)) :
    Records (t >>= fun _ => t') (Performs need may) :=
  permits_bind (performs_of_quiet ht) ht'

/-! ### Calls of git -/

lemma records_git (args : List String) :
    Records (git args) fun r es => ∃ reply, es = [("git" :: args, reply)] ∧ ∀ s, r = .ok s →
      ∃ out err, reply = .finished 0 out err ∧ s = trim out := by
  have hfailed : ∀ (ended : Ended) (u : Tool Unit), Quiet u → Records (u >>= fun _ =>
      (throw (.failed ("git" :: args) ended.code ended.out ended.err) : Tool Unit) >>= fun _ =>
        pure (trim ended.out)) fun r es => (∃ e, r = .error e) ∧ es = [] := by
    intro ended u hu
    refine hu.bind (fun e => ⟨⟨e, rfl⟩, rfl⟩) fun _ => (records_throw_bind _ _).mono ?_
    rintro r es ⟨rfl, rfl⟩
    exact ⟨⟨_, rfl⟩, rfl⟩
  unfold git gitReporting
  refine ((records_run ("git" :: args) "None").bind
    (Q := fun ended r es => es = [] ∧ ∀ s, r = .ok s → ended.code = 0 ∧ s = trim ended.out)
      fun ended => ?_).mono ?_
  · by_cases hcode : ended.code = 0
    · have heq : (ended.code != 0) = false := by simpa using hcode
      simp only [heq, false_eq_true, if_false]
      refine (records_pure _).mono ?_
      rintro r es ⟨rfl, rfl⟩
      exact ⟨rfl, fun s hs => ⟨hcode, (Except.ok.inj hs).symm⟩⟩
    · have hne : (ended.code != 0) = true := by simpa using hcode
      simp only [hne, Bool.not_false, Bool.true_or, if_true]
      refine (hfailed ended _ (quiet_complain _)).mono ?_
      rintro r es ⟨⟨e, rfl⟩, rfl⟩
      exact ⟨rfl, fun s hs => by cases hs⟩
  · rintro r es (⟨e, rfl, reply, rfl, -⟩ | ⟨ended, es₁, es₂, rfl, ⟨reply, rfl, hreply⟩, rfl, hok⟩)
    · exact ⟨reply, rfl, fun s hs => by cases hs⟩
    · refine ⟨reply, rfl, fun s hs => ?_⟩
      obtain ⟨err, rfl⟩ := hreply ended rfl
      obtain ⟨hcode, rfl⟩ := hok s hs
      exact ⟨ended.out, err, by rw [hcode], rfl⟩

lemma performs_run (hmay : may ("git" :: args)) :
    Records (run args) (Performs ["git" :: args] may) := by
  unfold run
  refine ((records_git args).bind fun _ => records_pure ()).mono ?_
  rintro r es (⟨e, rfl, reply, rfl, -⟩ | ⟨s, es₁, es₂, rfl, ⟨reply, rfl, hreply⟩, rfl, rfl⟩)
  · exact ⟨by simpa using hmay, fun h => by cases h⟩
  · obtain ⟨out, err, rfl, -⟩ := hreply s rfl
    exact ⟨by simpa using hmay, fun _ => by simp [succeeded, Reply.Succeeds]⟩

lemma performs_run_bind (hmay : may ("git" :: args)) (ht : Records t (Performs need may)) :
    Records (run args >>= fun _ => t) (Performs (("git" :: args) :: need) may) :=
  performs_bind (performs_run hmay) ht

lemma permits_run (hmay : may ("git" :: args)) : Records (run args) (Performs [] may) :=
  (performs_run hmay).mono fun _ _ h => ⟨h.1, fun _ => nil_sublist _⟩

lemma performs_orElse (ht : Records t (Performs [] may)) (ht' : Records t' (Performs [] may)) :
    Records (orElse t t') (Performs [] may) := by
  refine (Records.guarded ht fun _ => ht').mono ?_
  rintro r es (⟨hmay, -⟩ | ⟨e, es₁, es₂, rfl, ⟨hmay₁, -⟩, hmay₂, -⟩)
  · exact ⟨hmay, fun _ => by simp⟩
  · exact ⟨fun e he => (mem_append.mp he).elim (hmay₁ e) (hmay₂ e), fun _ => by simp⟩

lemma performs_gitOrSay (hmay : may ("git" :: args)) (warning : String) :
    Records (gitOrSay args warning) (Performs [] may) :=
  performs_orElse (permits_run hmay) (performs_of_quiet (quiet_say warning))

/-! ### Merging -/

/-- What brings the work of a branch into a target. -/
def mergeSteps (squash : Bool) (branch target : String) : List Argv :=
  [["git", "checkout", target], ["git", "merge", if squash then "--squash" else "--no-ff", branch]]
  ++ (if squash then [["git", "commit", "-m", "Merge " ++ branch ++ " into " ++ target]] else [])
  ++ [["git", "push", "origin", target]]

/-- The branch is deleted, here or at the origin. -/
def Deletes (branch : String) (call : Argv) : Prop :=
  call = ["git", "branch", "-d", branch] ∨ call = ["git", "push", "origin", "--delete", branch]

/-- A command after which a branch is done with: a tag is made, or a branch is deleted. -/
def EndsWork (call : Argv) : Prop := ["git", "tag"] <+: call ∨ ∃ branch, Deletes branch call

/-- The question whether anything is not committed. -/
def statusCall : Argv := ["git", "status", "--porcelain"]

/-- A step before the work is ended. -/
def Merging (call : Argv) : Prop := ¬ EndsWork call ∧ call ≠ statusCall

lemma performs_mergeInto (f : Finish) (target : String) :
    Records (mergeInto f target) (Performs (mergeSteps f.squash f.branch target) Merging) := by
  have hsay : ∀ s, Quiet (say s) := quiet_say
  have hpush : Records (do
      say ("Pushing " ++ target ++ " to origin...")
      run ["push", "origin", target]
      say ("✅ Merged to " ++ target)) (Performs [["git", "push", "origin", target]] Merging) := by
    refine performs_quiet_bind (hsay _) ?_
    exact performs_run_bind (by simp [Merging, EndsWork, Deletes, statusCall])
      (performs_of_quiet (hsay _))
  unfold mergeInto
  refine performs_quiet_bind (hsay _) ?_
  refine performs_run_bind (by simp [Merging, EndsWork, Deletes, statusCall]) ?_
  refine permits_bind (performs_gitOrSay (by simp [Merging, EndsWork, Deletes, statusCall]) _) ?_
  refine performs_run_bind (by simp [Merging, EndsWork, Deletes, statusCall]) ?_
  cases f.squash with
  | false => exact hpush
  | true => exact performs_run_bind (by simp [Merging, EndsWork, Deletes, statusCall]) hpush

lemma performs_forM_mergeInto (f : Finish) (targets : List String) :
    Records (targets.forM (mergeInto f))
      (Performs (targets.flatMap (mergeSteps f.squash f.branch)) Merging) := by
  induction targets with
  | nil => exact performs_of_quiet (quiet_of_exec fun w => ⟨_, exec_pure () w⟩)
  | cons target targets ih =>
    rw [flatMap_cons]
    exact performs_bind (performs_mergeInto f target) ih

/-! ### After the merges -/

/-- No other branch is deleted. -/
def DeletesOnly (branch : String) (call : Argv) : Prop := ∀ b, Deletes b call → b = branch

/-- A step that deletes no other branch. -/
def Ending (branch : String) (call : Argv) : Prop := DeletesOnly branch call ∧ call ≠ statusCall

lemma ending_of_merging {call : Argv} (h : Merging call) (branch : String) : Ending branch call :=
  ⟨fun b hb => absurd (.inr ⟨b, hb⟩) h.1, h.2⟩

lemma permits_tagVersion (branch : String) :
    Records (tagVersion branch) (Performs [] (Ending branch)) := by
  unfold tagVersion
  cases versionIn? branch.toList with
  | none => exact performs_of_quiet (quiet_of_exec fun w => ⟨_, exec_pure () w⟩)
  | some digits =>
    refine performs_quiet_bind (quiet_say _) ?_
    refine permits_bind (permits_run (by simp [Ending, DeletesOnly, Deletes, statusCall])) ?_
    refine permits_bind (permits_run (by simp [Ending, DeletesOnly, Deletes, statusCall])) ?_
    exact performs_of_quiet (quiet_say _)

lemma permits_deleteBranch (branch : String) :
    Records (deleteBranch branch) (Performs [] (Ending branch)) := by
  unfold deleteBranch
  refine performs_quiet_bind (quiet_say _) ?_
  refine permits_bind (permits_run (by simp [Ending, DeletesOnly, Deletes, statusCall])) ?_
  refine permits_bind (performs_orElse ?_ (performs_of_quiet (quiet_say _)))
    (performs_of_quiet (quiet_say _))
  exact permits_bind (permits_run (by simp [Ending, DeletesOnly, Deletes, statusCall]))
    (performs_of_quiet (quiet_say _))

/-! ### A whole run -/

/-- No work on a branch is lost after the check for uncommitted changes: nothing else is deleted,
and before a tag is made or the branch is deleted, all that is needed has succeeded. -/
structure Safe (branch : String) (need : List Argv) (es : List Event) : Prop where
  deletes : ∀ e ∈ es, Ending branch e.1
  merged : ∀ before e after, es = before ++ e :: after → EndsWork e.1 →
    need.Sublist (succeeded before)

lemma safe_of_merging {branch : String} (h : ∀ e ∈ es, Merging e.1) : Safe branch need es where
  deletes e he := ending_of_merging (h e he) branch
  merged before e after hes hends := absurd hends (h e (by simp [hes])).1

lemma exists_of_endsWork {es' before after : List Event} {e : Event} (h : ∀ e ∈ es, ¬ EndsWork e.1)
    (hes : es ++ es' = before ++ e :: after) (hends : EndsWork e.1) :
    ∃ as, before = es ++ as ∧ es' = as ++ e :: after := by
  rcases append_eq_append_iff.mp hes with ⟨as, hbefore, hes'⟩ | ⟨as, hbefore, hes'⟩
  · exact ⟨as, hbefore, hes'⟩
  · cases as with
    | nil => exact ⟨[], by rw [hbefore]; simp, hes'.symm⟩
    | cons a as =>
      obtain ⟨rfl, -⟩ := List.cons.inj hes'
      exact absurd hends (h e (by simp [hbefore]))

lemma safe_append {branch : String} {es' : List Event} (h : ∀ e ∈ es, Merging e.1)
    (hneed : need.Sublist (succeeded es)) (h' : ∀ e ∈ es', Ending branch e.1) :
    Safe branch need (es ++ es') where
  deletes e he := (mem_append.mp he).elim (fun he => ending_of_merging (h e he) branch) (h' e)
  merged before e after hes hends := by
    obtain ⟨as, rfl, -⟩ := exists_of_endsWork (fun e he => (h e he).1) hes hends
    rw [succeeded_append]
    exact hneed.trans (sublist_append_left _ _)

lemma safe_merges (f : Finish) {t : Unit → Tool Unit}
    (ht : Records (t ()) (Performs [] (Ending f.branch))) :
    Records (f.targets.forM (mergeInto f) >>= t) fun _ es =>
      Safe f.branch (f.targets.flatMap (mergeSteps f.squash f.branch)) es := by
  refine ((performs_forM_mergeInto f f.targets).bind fun _ => ht).mono ?_
  rintro r es (⟨e, rfl, hmay, -⟩ | ⟨_, es₁, es₂, rfl, ⟨hmay, hneed⟩, hdeletes, -⟩)
  · exact safe_of_merging hmay
  · exact safe_append hmay (hneed rfl) hdeletes

/-- git answers that there is nothing to commit: it prints white space at most. -/
def Clean (reply : Reply) : Prop :=
  ∃ out err, reply = .finished 0 out err ∧ ∀ x ∈ out.toList, isBlank x = true

lemma clean_of_trim_eq {out : String} (h : trim out = "") (err : String) :
    Clean (.finished 0 out err) := by
  rw [trim, String.ofList_eq_empty_iff, trimWhile_eq_nil_iff] at h
  exact ⟨out, err, rfl, h⟩

/-- The events of a finish from the check for uncommitted changes on: unless there are none, nothing
follows. -/
def Follows (branch : String) (need : List Argv) (es : List Event) : Prop :=
  ∃ reply rest, es = (statusCall, reply) :: rest ∧ (rest ≠ [] → Clean reply) ∧ Safe branch need rest

lemma records_carryOut (f : Finish) :
    Records f.carryOut fun _ es =>
      Follows f.branch (f.targets.flatMap (mergeSteps f.squash f.branch)) es := by
  have hend : Records (sayAll ["", "✅ Branch " ++ f.branch ++ " completed!"])
      (Performs [] (Ending f.branch)) :=
    performs_of_quiet (quiet_sayAll _)
  have hdelete := permits_bind (permits_deleteBranch f.branch) hend
  have hnone : Safe f.branch (f.targets.flatMap (mergeSteps f.squash f.branch)) [] :=
    safe_of_merging (by simp)
  unfold Finish.carryOut
  refine ((records_git ["status", "--porcelain"]).bind
    (Q := fun status _ es => (status ≠ "" → es = []) ∧
    Safe f.branch (f.targets.flatMap (mergeSteps f.squash f.branch)) es) fun status => ?_).mono ?_
  · by_cases hstatus : status = ""
    · have hclean : (status != "") = false := by simpa using hstatus
      simp only [hclean, false_eq_true, if_false]
      refine (safe_merges f ?_).mono fun _ _ h => ⟨fun hne => absurd hstatus hne, h⟩
      cases f.tag <;> cases f.delete
      · exact hend
      · exact hdelete
      · exact permits_bind (permits_tagVersion f.branch) hend
      · exact permits_bind (permits_tagVersion f.branch) hdelete
    · have hchanged : (status != "") = true := by simpa using hstatus
      simp only [hchanged, if_true]
      refine (quiet_sayAll _).bind (fun e => ⟨fun _ => rfl, hnone⟩) fun _ => ?_
      refine (records_throw_bind _ _).mono ?_
      rintro r es ⟨rfl, rfl⟩
      exact ⟨fun _ => rfl, hnone⟩
  · rintro r es (⟨e, rfl, reply, rfl, -⟩ | ⟨s, es₁, es₂, rfl, ⟨reply, rfl, hreply⟩, hstatus, hsafe⟩)
    · exact ⟨reply, [], rfl, fun h => absurd rfl h, hnone⟩
    · obtain ⟨out, err, rfl, rfl⟩ := hreply s rfl
      exact ⟨_, es₂, rfl, fun h => clean_of_trim_eq (not_not.mp (mt hstatus h)) err, hsafe⟩

/-- The flow of a branch and the targets it leads to. -/
def Leads (branch : String) (c : Config) (flow : Flow) (targets : List String) : Prop :=
  (∃ type, typeOf? branch c = .ok (some type) ∧ flowOf type c = .ok flow) ∧
    flow.targets = .ok targets

lemma records_finishBranch (branch : String) (c : Config) :
    Records (finishBranch branch c) fun _ es => es = [] ∨ ∃ flow targets,
      Leads branch c flow targets ∧
      Follows branch (targets.flatMap (mergeSteps flow.squash branch)) es := by
  have hrefuse : ∀ lines, Records (sayAll lines >>= fun _ => (exit 1 : Tool Unit)) fun _ es =>
      es = [] :=
    fun lines => (quiet_sayAll lines).bind (fun _ => rfl) fun _ => quiet_exit 1
  unfold finishBranch
  refine records_lift_bind (fun _ _ => .inl rfl) fun type? htype => ?_
  split
  · exact (hrefuse _).mono fun _ _ h => .inl h
  · exact (hrefuse _).mono fun _ _ h => .inl h
  · rename_i type _
    refine records_lift_bind (fun _ _ => .inl rfl) fun flow hflow => ?_
    unfold finishAlong
    refine (quiet_say _).bind (fun _ => .inl rfl) fun _ => ?_
    refine records_lift_bind (fun _ _ => .inl rfl) fun goals _ => ?_
    refine (quiet_say _).bind (fun _ => .inl rfl) fun _ => ?_
    refine (quiet_say _).bind (fun _ => .inl rfl) fun _ => ?_
    refine records_lift_bind (fun _ _ => .inl rfl) fun targets htargets => ?_
    exact (records_carryOut _).mono fun _ _ h =>
      .inr ⟨flow, targets, ⟨⟨type, htype, hflow⟩, htargets⟩, h⟩

/-- A question to git. -/
def Asks (call : Argv) : Prop := ["git", "rev-parse"] <+: call

lemma records_load : Records load fun _ es => ∀ e ∈ es, Asks e.1 := by
  have hquiet : ∀ file, Quiet (loadFrom file builtIn) := fun file =>
    Quiet.bind (quiet_of_exec (exec_pathExists _)) (fun _ => rfl) fun found => by
      cases found
      · exact quiet_of_exec fun w => ⟨_, exec_pure _ w⟩
      · exact quiet_readJson _
  refine ((records_git _).bind fun top => hquiet (configFile top)).mono ?_
  rintro r es (⟨e, rfl, reply, rfl, -⟩ | ⟨top, es₁, es₂, rfl, ⟨reply, rfl, -⟩, rfl⟩)
  · simp [Asks]
  · simp [Asks]

lemma records_chosen (given : Option String) :
    Records (chosen given) fun _ es => ∀ e ∈ es, Asks e.1 := by
  cases given with
  | some branch =>
    refine (records_pure branch).mono ?_
    rintro r es ⟨-, rfl⟩
    simp
  | none =>
    refine (records_git _).mono ?_
    rintro r es ⟨reply, rfl, -⟩
    simp [Asks]

/-- The branch that is finished, its flow and its targets. -/
def Finishes (given : Option String) (w : World) (branch : String) (flow : Flow)
    (targets : List String) : Prop :=
  ∃ c w₁ w₂, load.exec w = (.ok c, w₁) ∧ (chosen given).exec w₁ = (.ok branch, w₂) ∧
    Leads branch c flow targets

lemma exists_events_finish (given : Option String) (w : World) :
    ∃ asked es, (finish given).events w = asked ++ es ∧ (∀ e ∈ asked, Asks e.1) ∧
      (es = [] ∨ ∃ branch flow targets, Finishes given w branch flow targets ∧
        Follows branch (targets.flatMap (mergeSteps flow.squash branch)) es) := by
  obtain ⟨es₁, hadds₁, hasks₁⟩ := records_load w
  rcases hload : load.exec w with ⟨e | c, w₁⟩
  · have hexec : (finish given).exec w = (.error e, w₁) := exec_bind_error hload _
    rw [hload] at hadds₁
    exact ⟨es₁, [], by rw [Adds.events_eq (by rwa [hexec]), append_nil], hasks₁, .inl rfl⟩
  obtain ⟨es₂, hadds₂, hasks₂⟩ := records_chosen given w₁
  rw [hload] at hadds₁
  have hasks : ∀ e ∈ es₁ ++ es₂, Asks e.1 :=
    fun e he => (mem_append.mp he).elim (hasks₁ e) (hasks₂ e)
  rcases hchosen : (chosen given).exec w₁ with ⟨e | branch, w₂⟩
  · have hexec : (finish given).exec w = (.error e, w₂) :=
      (exec_bind_ok hload _).trans (exec_bind_error hchosen _)
    rw [hchosen] at hadds₂
    refine ⟨es₁ ++ es₂, [], ?_, hasks, .inl rfl⟩
    rw [Adds.events_eq (by rw [hexec]; exact hadds₁.trans hadds₂), append_nil]
  · have hexec : (finish given).exec w = (finishBranch branch c).exec w₂ :=
      (exec_bind_ok hload _).trans (exec_bind_ok hchosen _)
    obtain ⟨es₃, hadds₃, hes₃⟩ := records_finishBranch branch c w₂
    rw [hchosen] at hadds₂
    refine ⟨es₁ ++ es₂, es₃, Adds.events_eq ?_, hasks, hes₃.imp_right ?_⟩
    · rw [hexec]
      exact (hadds₁.trans hadds₂).trans hadds₃
    · rintro ⟨flow, targets, hleads, hfollows⟩
      exact ⟨branch, flow, targets, ⟨c, w₁, w₂, hload, hchosen, hleads⟩, hfollows⟩

/-- A call that may change branches. -/
def Touches (call : Argv) : Prop :=
  ∃ verb ∈ ["checkout", "merge", "push", "tag", "branch"], ["git", verb] <+: call

lemma Asks.harmless {call : Argv} (h : Asks call) :
    ¬ Touches call ∧ ¬ EndsWork call ∧ call ≠ statusCall := by
  obtain ⟨args, rfl⟩ := h
  simp [Touches, EndsWork, Deletes, statusCall]

/-- However git behaves, finishing a branch loses no work.  If a tag is made or a branch is deleted,
then it is the branch that is finished, and before that each target of its flow was checked out,
merged into and pushed, all with success and in order.  If git prints anything but white space about
uncommitted changes, the repository is not touched. -/
theorem finish_loses_no_work (given : Option String) (w : World) :
    (∀ before e after, (finish given).events w = before ++ e :: after → EndsWork e.1 →
      ∃ branch flow targets, Finishes given w branch flow targets ∧ DeletesOnly branch e.1 ∧
        (targets.flatMap (mergeSteps flow.squash branch)).Sublist (succeeded before)) ∧
    ∀ code out err, (statusCall, .finished code out err) ∈ (finish given).events w →
      (∃ x ∈ out.toList, isBlank x = false) → ∀ e ∈ (finish given).events w, ¬ Touches e.1 := by
  obtain ⟨asked, es, hevents, hasked,
    rfl | ⟨branch, flow, targets, hfinishes, reply, rest, rfl, hclean, hsafe⟩⟩ :=
    exists_events_finish given w
  · rw [hevents, append_nil]
    refine ⟨fun before e after hes hends => ?_, fun _ _ _ hstatus _ => ?_⟩
    · exact absurd hends (hasked e (by simp [hes])).harmless.2.1
    · exact absurd rfl (hasked _ hstatus).harmless.2.2
  have hquestions : ∀ e ∈ asked ++ [(statusCall, reply)], ¬ EndsWork e.1 := by
    intro e he
    rcases mem_append.mp he with he | he
    · exact (hasked e he).harmless.2.1
    · obtain rfl := mem_singleton.mp he
      simp [EndsWork, Deletes, statusCall]
  rw [hevents, ← singleton_append, ← append_assoc]
  constructor
  · intro before e after hes hends
    obtain ⟨as, rfl, has⟩ := exists_of_endsWork hquestions hes hends
    refine ⟨branch, flow, targets, hfinishes, (hsafe.deletes e (by simp [has])).1, ?_⟩
    rw [succeeded_append]
    exact (hsafe.merged as e after has hends).trans (sublist_append_right _ _)
  · intro code out err hstatus ⟨x, hx, hblank⟩
    -- The only such call is the one before the merges, and nothing follows it.
    have hreply : reply = .finished code out err := by
      rcases mem_append.mp hstatus with hmem | hmem
      · rcases mem_append.mp hmem with hmem | hmem
        · exact absurd rfl (hasked _ hmem).harmless.2.2
        · exact (congrArg Prod.snd (mem_singleton.mp hmem)).symm
      · exact absurd rfl (hsafe.deletes _ hmem).2
    have hrest : rest = [] := by
      by_contra hne
      obtain ⟨out', err', heq, hall⟩ := hclean hne
      obtain ⟨-, rfl, -⟩ := Reply.finished.inj (hreply.symm.trans heq)
      simp [hall x hx] at hblank
    intro e he
    rw [hrest, append_nil] at he
    rcases mem_append.mp he with he | he
    · exact (hasked e he).harmless.1
    · obtain rfl := mem_singleton.mp he
      simp [Touches, statusCall]

/-- Where git always succeeds and prints nothing, a release ends with a tag. -/
theorem finish_loses_no_work_release :
    ∃ before after, (finish (some "release/1.0.0")).events {} =
        before ++
          (["git", "tag", "-a", "v1.0.0", "-m", "Release 1.0.0"], .finished 0 "" "") :: after ∧
      ∃ branch flow targets, Finishes (some "release/1.0.0") {} branch flow targets ∧
        DeletesOnly branch ["git", "tag", "-a", "v1.0.0", "-m", "Release 1.0.0"] ∧
        (targets.flatMap (mergeSteps flow.squash branch)).Sublist (succeeded before) := by
  have htag : (finish (some "release/1.0.0")).events {} =
      ((finish (some "release/1.0.0")).events {}).take 10
        ++ (["git", "tag", "-a", "v1.0.0", "-m", "Release 1.0.0"], .finished 0 "" "")
        :: ((finish (some "release/1.0.0")).events {}).drop 11 := by decide +kernel
  exact ⟨_, _, htag, (finish_loses_no_work _ _).1 _ _ _ htag (.inl (by decide))⟩

/-- Git prints an empty line for the status. -/
def emptyLine : World :=
  { respond := fun _ call => .finished 0 (if call = statusCall then "\n" else "") "" }

/-- An empty line about uncommitted changes does not keep the repository from being touched. -/
theorem finish_touches_after_empty_line :
    (statusCall, .finished 0 "\n" "") ∈ (finish (some "feature/x")).events emptyLine ∧
      ∃ e ∈ (finish (some "feature/x")).events emptyLine, Touches e.1 := by
  have hcheckout : (["git", "checkout", "develop"],
      .finished 0 "" "") ∈ (finish (some "feature/x")).events emptyLine := by
    decide +kernel
  exact ⟨by decide +kernel, _, hcheckout, "checkout", by simp, by decide⟩

end Workbench.Branch
