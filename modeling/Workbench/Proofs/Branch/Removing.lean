import Workbench.Branch.Worktree
import Workbench.Proofs.Branch.Git
import Workbench.Proofs.Branch.Listings

/-!
# Removing a worktree

A worktree is removed by its name, and its branch along with it if git lists the branch as merged.
Both are looked for as parts of a text: the name at the end of a path, the branch anywhere in the
listing.
-/

namespace Workbench

/-- A program came to an end and printed a text of a kind. -/
def Reply.Prints (r : Reply) (P : String → Prop) : Prop :=
  ∃ code out err, r = .finished code out err ∧ P (Text.trim out)

namespace Branch.Worktree

open List Tool Text

variable {r : Record} {how : Removal} {name branch place out err : String} {w : World}
    {es : List Event}

/-! ### Calls -/

/-- The call that deletes a branch. -/
def deleteCall (branch : String) : Argv := ["git", "branch", "-d", branch]

/-- The question for the merged branches. -/
def mergedCall (main : String) : Argv := ["git", "branch", "--merged", main]

/-- A call that removes a worktree. -/
def Removes (call : Argv) : Prop := ["git", "worktree", "remove"] <+: call

/-- A call that deletes a branch. -/
def Deletes (call : Argv) : Prop := ["git", "branch", "-d"] <+: call

/-! ### Questions -/

lemma quiet_ask (question : String) : Quiet (ask question) := by
  unfold ask
  refine records_modify_bind (fun _ => ⟨rfl, rfl⟩) fun w => ?_
  rw [exec_bind_ok (exec_get w)]
  by_cases hempty : w.input.toList.isEmpty = true
  · rw [if_pos hempty]
    exact ⟨[], Adds.refl w, rfl⟩
  · rw [if_neg hempty]
    exact ⟨[], ⟨rfl, [], (append_nil _).symm, rfl⟩, rfl⟩

lemma quiet_get : Quiet (get : Tool World) := quiet_of_exec fun w => ⟨_, exec_get w⟩

lemma quiet_pure {α : Type} (a : α) : Quiet (pure a) := quiet_of_exec fun w => ⟨_, exec_pure a w⟩

lemma quiet_confirmed (question : String) (lines : List String) :
    Quiet (confirmed question lines) := by
  refine Quiet.bind quiet_get (fun _ => rfl) fun w => ?_
  split_ifs
  · exact Quiet.bind (quiet_sayAll _) (fun _ => rfl) fun _ => quiet_pure _
  · refine Quiet.bind (quiet_ask _) (fun _ => rfl) fun answer => ?_
    split_ifs
    · exact quiet_pure _
    · exact Quiet.bind (quiet_say _) (fun _ => rfl) fun _ => quiet_pure _

lemma records_gitUnchecked (args : List String) :
    Records (gitUnchecked args) fun res es => ∃ reply, es = [("git" :: args, reply)] ∧
      ∀ text, res = .ok text ↔ reply.Prints (· = text) := by
  intro w
  have hadds : Adds w { w with calls := w.calls ++ ["git" :: args] }
      [("git" :: args, w.respond w.calls ("git" :: args))] :=
    ⟨rfl, ["git" :: args], rfl, rfl⟩
  unfold gitUnchecked
  by_cases hends : (w.respond w.calls ("git" :: args)).Ends
  · obtain ⟨code, out, err, hreply⟩ := hends
    rw [exec_bind_ok (exec_run_finished hreply "None"), exec_pure]
    refine ⟨_, hadds, _, rfl, fun text =>
      ⟨fun htext => ⟨code, out, err, hreply, Except.ok.inj htext⟩, ?_⟩⟩
    rintro ⟨code', out', err', hreply', rfl⟩
    obtain ⟨-, rfl, -⟩ := Reply.finished.inj (hreply.symm.trans hreply')
    rfl
  · obtain ⟨e, hexec⟩ := exec_run_unended hends "None"
    rw [exec_bind_error hexec]
    refine ⟨_, hadds, _, rfl, fun text => iff_of_false (fun htext => by cases htext) ?_⟩
    rintro ⟨code, out, err, hreply, -⟩
    exact hends ⟨code, out, err, hreply⟩

/-! ### How a removal goes -/

/-- The question whether a worktree is clean. -/
def statusCall (place : String) : Argv := ["git", "-C", place, "status", "--porcelain"]

/-- The call that removes a worktree. -/
def removalCall (place : String) (force : Bool) : Argv :=
  "git" :: (["worktree", "remove"] ++ (if force then ["--force"] else []) ++ [place])

/-- Nothing speaks against a removal: it is forced, or there are no changes that would be lost. -/
def Unhindered (how : Removal) (asked : List Event) : Prop :=
  how.force = true ∨ ∀ e ∈ asked, e.2.Prints (· = "")

lemma records_isDirty (place : String) :
    Records (isDirty place) fun res es => ∃ reply, es = [(statusCall place, reply)] ∧
      (reply.Prints (· = "") → res = .ok false) := by
  have hasks : isDirty place = gitUnchecked ["-C", place, "status", "--porcelain"] >>= fun text =>
      pure (text != "") := by
    simp [isDirty, gitUnchecked]
  rw [hasks]
  refine ((records_gitUnchecked _).bind fun text => records_pure _).mono ?_
  rintro res es (⟨e, rfl, reply, rfl, htext⟩ | ⟨text, es₁, es₂, rfl, ⟨reply, rfl, htext⟩, rfl, rfl⟩)
  · exact ⟨reply, rfl, fun hclean => by cases (htext "").mpr hclean⟩
  · refine ⟨reply, rfl, fun hclean => ?_⟩
    obtain rfl := Except.ok.inj ((htext "").mpr hclean)
    rfl

lemma records_mayLoseChanges (place : String) (how : Removal) :
    Records (mayLoseChanges place how) fun res es =>
      (∀ e ∈ es, e.1 = statusCall place) ∧ (Unhindered how es → res = .ok true) := by
  unfold mayLoseChanges
  by_cases hforce : how.force = true
  · rw [if_pos hforce]
    refine (records_pure true).mono ?_
    rintro res es ⟨rfl, rfl⟩
    exact ⟨by simp, fun _ => rfl⟩
  · rw [if_neg hforce]
    refine ((records_isDirty place).bind
      (Q := fun dirty res es => es = [] ∧ (dirty = false → res = .ok true))
      fun dirty => ?_).mono ?_
    · cases dirty with
      | false => exact (records_pure true).mono fun res es h => ⟨h.2, fun _ => h.1⟩
      | true =>
        refine records_sayAll_bind _
          (Records.mono ?_ fun res es h => ⟨h, fun hclean => by cases hclean⟩)
        split_ifs
        · exact quiet_pure true
        · exact quiet_confirmed _ _
    · rintro res es
        (⟨e, rfl, reply, rfl, hclean⟩ | ⟨dirty, es₁, es₂, rfl, ⟨reply, rfl, hclean⟩, rfl, hres⟩)
      all_goals refine ⟨by simp, fun hfree => ?_⟩
      · cases hclean ((hfree.resolve_left hforce) _ mem_cons_self)
      · exact hres (Except.ok.inj (hclean ((hfree.resolve_left hforce) _ mem_cons_self)))

lemma records_removeDir (place : String) (force : Bool) :
    Records (removeDir place force) fun _ es => es.map Prod.fst = [removalCall place force] := by
  refine ((records_git_quiet true _ fun _ => quiet_say _).guarded (Q := fun _ _ es => es = [])
    fun e => ?_).mono ?_
  · split_ifs
    · exact Quiet.bind (quiet_say _) (fun _ => rfl) fun _ => quiet_throw e
    · exact quiet_throw e
  · rintro res es (hcalls | ⟨e, es₁, es₂, rfl, hcalls, rfl⟩)
    · exact hcalls
    · rwa [append_nil]

/-- git lists merged branches, and then a branch is deleted or not: never one that the listing does
not mention, and always one that it mentions if nobody is asked. -/
def Offers (branch : String) (yes : Bool) (es : List Event) : Prop :=
  ∃ listing last, es = (mergedCall "main", listing) :: last ∧
    (∀ e ∈ last, e.1 = deleteCall branch ∧ listing.Prints (Text.contains · branch = true)) ∧
    (yes = true → listing.Prints (Text.contains · branch = true) → last ≠ [])

lemma records_offerDeletion (branch : String) (yes : Bool) :
    Records (offerDeletion branch yes) fun _ => Offers branch yes := by
  have hdrop : Records (dropBranch branch) fun _ es =>
      (∀ e ∈ es, e.1 = deleteCall branch) ∧ es ≠ [] := by
    refine (records_git_quiet true _ fun _ => quiet_say _).mono fun res es hcalls =>
      ⟨fun e he => ?_, ?_⟩
    · simpa [hcalls, deleteCall] using mem_map_of_mem (f := Prod.fst) he
    · rintro rfl
      cases hcalls
  refine ((records_gitUnchecked _).bind (Q := fun merged _ es =>
    (∀ e ∈ es, e.1 = deleteCall branch ∧ Text.contains merged branch = true) ∧
      (yes = true → Text.contains merged branch = true → es ≠ [])) fun merged => ?_).mono ?_
  · split_ifs with hmentions hyes
    · exact hdrop.mono fun res es h => ⟨fun e he => ⟨h.1 e he, hmentions⟩, fun _ _ => h.2⟩
    · refine Records.mono (P := fun _ es => ∀ e ∈ es, e.1 = deleteCall branch) ?_
        fun res es h => ⟨fun e he => ⟨h e he, hmentions⟩, fun h => absurd h hyes⟩
      refine Quiet.bind quiet_get (by simp) fun w => ?_
      split_ifs
      · refine Quiet.bind (quiet_ask _) (by simp) fun answer => ?_
        split_ifs
        · exact hdrop.mono fun res es h => h.1
        · exact (quiet_pure ()).mono fun res es h => by simp [h]
      · exact (quiet_pure ()).mono fun res es h => by simp [h]
    · exact (quiet_pure ()).mono fun res es h => ⟨by simp [h], fun _ h => absurd h hmentions⟩
  rintro res es
    (⟨e, rfl, listing, rfl, htext⟩ | ⟨text, es₁, es₂, rfl, ⟨listing, rfl, htext⟩, hlast, hyes⟩)
  · refine ⟨listing, [], rfl, by simp, fun _ => ?_⟩
    rintro ⟨code, out, err, hprints, -⟩
    cases (htext (trim out)).mpr ⟨code, out, err, hprints, rfl⟩
  · obtain ⟨code, out, err, rfl, rfl⟩ := (htext text).mp rfl
    refine ⟨_, es₂, rfl, fun e he => ⟨(hlast e he).1, code, out, err, rfl, (hlast e he).2⟩,
      fun hyes' => ?_⟩
    rintro ⟨code', out', err', hreply, hmentions⟩
    obtain ⟨-, rfl, -⟩ := Reply.finished.inj hreply
    exact hyes hyes' hmentions

/-- The ways a removal goes: it is refused, it ends with the call that removes, or it goes on with
the branch. -/
inductive Removing (r : Record) (how : Removal) : List Event → Prop where
  | refused {asked : List Event} : (∀ e ∈ asked, e.1 = statusCall r.place) →
    ¬ Unhindered how asked →
      Removing r how asked
  | ended {asked : List Event} {reply : Reply} : (∀ e ∈ asked, e.1 = statusCall r.place) →
      Removing r how (asked ++ [(removalCall r.place how.force, reply)])
  | offered {asked : List Event} {reply : Reply} {branch : String} {rest : List Event} :
      (∀ e ∈ asked, e.1 = statusCall r.place) → r.branch = some branch →
        Offers branch how.yes rest →
      Removing r how (asked ++ (removalCall r.place how.force, reply) :: rest)

lemma records_offer (r : Record) (how : Removal) :
    Records (if r.branch.getD "" != "" && !how.keepBranch then
        orElse (offerDeletion (r.branch.getD "") how.yes) (return ())
      else pure () : Tool Unit) fun _ es =>
        es = [] ∨ ∃ branch, r.branch = some branch ∧ Offers branch how.yes es := by
  split_ifs with hoffer
  · obtain ⟨branch, hbranch⟩ : ∃ branch, r.branch = some branch := by
      cases hnone : r.branch with
      | none => simp [hnone] at hoffer
      | some branch => exact ⟨branch, rfl⟩
    rw [hbranch, Option.getD_some]
    refine ((records_offerDeletion branch how.yes).guarded (Q := fun _ _ es => es = []) fun _ =>
      quiet_pure ()).mono ?_
    rintro res es (hoffers | ⟨e, es₁, es₂, rfl, hoffers, rfl⟩)
    · exact .inr ⟨branch, rfl, hoffers⟩
    · exact .inr ⟨branch, rfl, by rwa [append_nil]⟩
  · exact (quiet_pure ()).mono fun res es h => .inl h

lemma records_removal (r : Record) (how : Removal) : Records (do
    if ← mayLoseChanges r.place how then
      removeDir r.place how.force
      if r.branch.getD "" != "" && !how.keepBranch then
        orElse (offerDeletion (r.branch.getD "") how.yes) (return ()) :
        Tool Unit) fun _ => Removing r how := by
  refine ((records_mayLoseChanges r.place how).bind (Q := fun sure _ es => if sure then
    ∃ reply rest, es = (removalCall r.place how.force, reply) :: rest ∧
      (rest = [] ∨ ∃ branch, r.branch = some branch ∧ Offers branch how.yes rest)
        else es = []) fun sure => ?_).mono ?_
  · cases sure with
    | false => exact quiet_pure ()
    | true =>
      refine ((records_removeDir r.place how.force).bind fun _ => records_offer r how).mono ?_
      rintro res es (⟨e, rfl, hcalls⟩ | ⟨_, es₁, rest, rfl, hcalls, hrest⟩)
      · obtain ⟨⟨call, reply⟩, rfl, rfl⟩ := map_eq_singleton_iff.mp hcalls
        exact ⟨reply, [], rfl, .inl rfl⟩
      · obtain ⟨⟨call, reply⟩, rfl, rfl⟩ := map_eq_singleton_iff.mp hcalls
        exact ⟨reply, rest, rfl, hrest⟩
  · rintro res es (⟨e, rfl, hasked, hsure⟩ | ⟨sure, asked, es, rfl, ⟨hasked, hsure⟩, hes⟩)
    · exact .refused hasked fun hfree => by cases hsure hfree
    · cases sure with
      | false =>
        obtain rfl : es = [] := hes
        rw [append_nil]
        exact .refused hasked fun hfree => by cases hsure hfree
      | true =>
        obtain ⟨reply, rest, rfl, rfl | ⟨branch, hbranch, hoffers⟩⟩ := hes
        · exact .ended hasked
        · exact .offered hasked hbranch hoffers

/-- What is neither a question about changes nor the removal comes with the branch. -/
lemma Removing.exists_offers (h : Removing r how es) {e : Event} (he : e ∈ es)
    (hstatus : e.1 ≠ statusCall r.place) (hremoval : e.1 ≠ removalCall r.place how.force) :
    ∃ before branch rest, es = before ++ rest ∧
      (∀ e ∈ before, e.1 = statusCall r.place ∨ e.1 = removalCall r.place how.force) ∧
      r.branch = some branch ∧ Offers branch how.yes rest := by
  cases h with
  | refused hasked _ => exact absurd (hasked e he) hstatus
  | ended hasked =>
    rcases mem_append.mp he with he | he
    · exact absurd (hasked e he) hstatus
    · exact absurd (congrArg Prod.fst (mem_singleton.mp he)) hremoval
  | @offered asked reply branch rest hasked hbranch hoffers =>
    refine ⟨asked ++ [(removalCall r.place how.force, reply)], branch, rest, by simp, ?_,
      hbranch, hoffers⟩
    exact forall_mem_append.mpr ⟨fun e he => .inl (hasked e he), by simp⟩

lemma adds_listCall (hlist : w.respond w.calls listCall = .finished 0 out err) :
    Adds w { w with calls := w.calls ++ [listCall] } [(listCall, .finished 0 out err)] :=
  ⟨rfl, [listCall], rfl, by rw [answered, hlist]; rfl⟩

lemma exists_remove (how : Removal) (hlist : w.respond w.calls listCall = .finished 0 out err)
    (hfind : (ofListing (trim out)).find? (·.isNamed name) = some r) :
    ∃ es, (remove name how).events w = (listCall, .finished 0 out err) :: es ∧
      Removing r how es := by
  have hrest : ∃ u : Tool Unit,
      (remove name how).exec w = u.exec { w with calls := w.calls ++ [listCall] } ∧
      Records u fun _ es => Removing r how es := by
    unfold remove
    rw [exec_bind_ok (exec_all hlist)]
    simp only [hfind]
    refine ⟨_, rfl, records_say_bind _ ?_⟩
    split
    · exact records_say_bind _ (records_removal r how)
    · exact records_removal r how
  obtain ⟨u, hexec, hrecords⟩ := hrest
  obtain ⟨es, hevents, hremoving, -⟩ := (adds_listCall hlist).exists_rest hexec hrecords
  exact ⟨es, hevents, hremoving⟩

lemma events_remove_none (hlist : w.respond w.calls listCall = .finished 0 out err)
    (hfind : (ofListing (trim out)).find? (·.isNamed name) = none) :
    (remove name how).events w = [(listCall, .finished 0 out err)] := by
  have hrest : ∃ u : Tool Unit,
      (remove name how).exec w = u.exec { w with calls := w.calls ++ [listCall] } ∧ Quiet u := by
    unfold remove
    rw [exec_bind_ok (exec_all hlist)]
    simp only [hfind]
    exact ⟨_, rfl, (quiet_sayAll _).bind (fun _ => rfl) fun _ => quiet_exit 1⟩
  obtain ⟨u, hexec, hquiet⟩ := hrest
  obtain ⟨es, hevents, rfl, -⟩ := (adds_listCall hlist).exists_rest hexec hquiet
  exact hevents

/-! ### Which worktree is removed -/

/-- A worktree has a name: it is its path, or the last name on the path. -/
def Record.isCalled (r : Record) (name : String) : Bool :=
  r.place == name || (Path.ofString r.place).name == name

lemma isNamed_of_isCalled (h : r.isCalled name = true) : r.isNamed name = true := by
  rw [Record.isCalled, Bool.or_eq_true, beq_iff_eq] at h
  rw [Record.isNamed, Bool.or_eq_true]
  refine h.imp_left fun hplace => ?_
  rw [hplace, endsWith_iff]

lemma forall_find?_iff {α : Type} {p q : α → Bool} (hpq : ∀ x, p x = true → q x = true)
    (xs : List α) :
    (∀ x ∈ xs.find? q, p x = true) ↔ ∀ x ∈ xs.takeWhile (!p ·), q x = false := by
  induction xs with
  | nil => simp
  | cons x xs ih =>
    cases hp : p x with
    | true => simp [hp, hpq x hp]
    | false =>
      rw [takeWhile_cons_of_pos (by simp [hp]), forall_mem_cons, ← ih]
      cases hq : q x <;> simp [hp, hq]

lemma Removing.removals (h : Removing r how es) :
    (∀ e ∈ es, Removes e.1 → e.1 = removalCall r.place how.force) ∧
    (how.force = true ∨ (∀ e ∈ es, e.1 = statusCall r.place → e.2.Prints (· = "")) →
      ∃ e ∈ es, e.1 = removalCall r.place how.force) := by
  refine ⟨fun e he hremoves => ?_, fun hfree => ?_⟩
  · by_contra hother
    have hstatus : e.1 ≠ statusCall r.place := by
      intro hcall
      simp [hcall, Removes, statusCall] at hremoves
    obtain ⟨before, branch, rest, rfl, hbefore, -, listing, last, rfl, hlast, -⟩ :=
      h.exists_offers he hstatus hother
    rcases mem_append.mp he with he | he
    · exact (hbefore e he).elim hstatus hother
    · rcases mem_cons.mp he with rfl | he
      · simp [Removes, mergedCall] at hremoves
      · simp [(hlast e he).1, Removes, deleteCall] at hremoves
  · cases h with
    | refused hasked hhindered =>
      exact absurd (hfree.imp_right fun hclean e he => hclean e he (hasked e he)) hhindered
    | ended => exact ⟨_, mem_append_right _ mem_cons_self, rfl⟩
    | offered => exact ⟨_, mem_append_right _ mem_cons_self, rfl⟩

/-- A name stands for the first worktree that has it or whose path ends with it, be it in the middle
of a directory's name, and that one is removed.  It is one of that name exactly if no path listed
before ends with the name too. -/
theorem remove_takes_first_ending (name : String) (how : Removal)
    (hlist : w.respond w.calls listCall = .finished 0 out err) :
    ∃ records es, records = ofListing (trim out) ∧ es = (remove name how).events w ∧
      (∀ e ∈ es, Removes e.1 → ∃ r ∈ records.find? (·.isNamed name),
        e.1 = removalCall r.place how.force) ∧
      (∀ r ∈ records.find? (·.isNamed name),
        how.force = true ∨ (∀ e ∈ es, e.1 = statusCall r.place → e.2.Prints (· = "")) →
          ∃ e ∈ es, e.1 = removalCall r.place how.force) ∧
      ((∃ r ∈ records, r.isCalled name = true) → (records.find? (·.isNamed name)).isSome) ∧
      ((∀ r ∈ records.find? (·.isNamed name), r.isCalled name = true) ↔
        ∀ r ∈ records.takeWhile (!·.isCalled name), endsWith r.place name = false) := by
  refine ⟨_, _, rfl, rfl, fun e he hremoves => ?_, fun r hr hfree => ?_, ?_, ?_⟩
  · cases hfind : (ofListing (trim out)).find? (·.isNamed name) with
    | none =>
      rw [events_remove_none hlist hfind, mem_singleton] at he
      simp [he, Removes, listCall] at hremoves
    | some r =>
      obtain ⟨es, hevents, hremoving⟩ := exists_remove how hlist hfind
      rw [hevents] at he
      rcases mem_cons.mp he with rfl | he
      · simp [Removes, listCall] at hremoves
      · exact ⟨r, rfl, hremoving.removals.1 e he hremoves⟩
  · obtain ⟨es, hevents, hremoving⟩ := exists_remove how hlist hr
    rw [hevents] at hfree ⊢
    obtain ⟨e, he, hcall⟩ :=
      hremoving.removals.2 (hfree.imp_right fun hclean e he => hclean e (mem_cons_of_mem _ he))
    exact ⟨e, mem_cons_of_mem _ he, hcall⟩
  · rintro ⟨r, hr, hcalled⟩
    exact find?_isSome.mpr ⟨r, hr, isNamed_of_isCalled hcalled⟩
  · rw [forall_find?_iff fun r => isNamed_of_isCalled]
    refine forall₂_congr fun r hr => ?_
    have hother := mem_takeWhile_imp hr
    simp only [Record.isCalled, Bool.not_or, Bool.and_eq_true, Bool.not_eq_true'] at hother
    rw [Record.isNamed, hother.2, Bool.or_false]

/-- A worktree with a branch, as git lists it. -/
def listed (path commit branch : String) : Stanza :=
  ⟨path, .on commit branch, ["HEAD " ++ commit, "branch refs/heads/" ++ branch], [""]⟩

def oldLogin : Stanza := listed "/ROOT/wt/old-login" "def456abc123789" "feature/log"

def alikeTrees : List Stanza :=
  [listed "/ROOT" "abc123def456789" "main", oldLogin,
   listed "/ROOT/wt/login" "0123456789abcde" "feature/login"]

def alikeBranches : List (Mark × String) := [(.elsewhere, "feature/login"), (.here, "main")]

/-- A repository in which the name of a worktree and the name of a branch are parts of longer
ones. -/
def alikeWorld : World where
  respond := fun _ call =>
    if call = listCall then .finished 0 (porcelain alikeTrees) ""
    else if call = mergedCall "main" then .finished 0 (branchListing alikeBranches) ""
    else .finished 0 "" ""

lemma respond_alikeWorld :
    alikeWorld.respond alikeWorld.calls listCall = .finished 0 (porcelain alikeTrees) "" := rfl

lemma find?_alikeTrees :
    (ofListing (trim (porcelain alikeTrees))).find? (·.isNamed "login") = some oldLogin.record := by
  have hprinted : ∀ t ∈ alikeTrees, t.WellPrinted := by
    intro t ht
    simp only [alikeTrees, mem_cons, not_mem_nil, or_false] at ht
    rcases ht with rfl | rfl | rfl
    all_goals exact ⟨by decide, by decide, by decide, by decide⟩
  rw [ofListing_porcelain fun t ht => (hprinted t ht).sound]
  decide

/-- A worktree named `login` stands, but the one before it ends alike and is removed. -/
theorem remove_takes_first_ending_alike :
    (∃ t ∈ alikeTrees, t.path = "/ROOT/wt/login") ∧
    ∃ e ∈ (remove "login" ⟨true, false, true⟩).events alikeWorld,
      e.1 = removalCall "/ROOT/wt/old-login" true := by
  obtain ⟨records, es, hrecords, hes, -, hremoved, -⟩ :=
    remove_takes_first_ending "login" ⟨true, false, true⟩ respond_alikeWorld
  rw [← hes]
  exact ⟨by decide, hremoved oldLogin.record (by rw [hrecords]; exact find?_alikeTrees) (.inl rfl)⟩

/-! ### Which branch is deleted -/

section

variable {p u v : Chars} {x : Char}

lemma isInfix_intercalate_iff (hne : p ≠ []) (hx : x ∉ p) (ws : List Chars) :
    p <:+: [x].intercalate ws ↔ ∃ w ∈ ws, p <:+: w := by
  induction ws with
  | nil => simp [hne]
  | cons w ws ih =>
    cases ws with
    | nil => simp
    | cons v ws =>
      rw [intercalate_cons_cons, append_assoc, singleton_append, isInfix_append_cons_iff hx, ih,
        exists_mem_cons_iff (l := v :: ws)]

lemma isInfix_dropWhile_iff {q : Char → Bool} (hne : p ≠ []) (hq : ∀ c ∈ p, q c = false) :
    p <:+: u.dropWhile q ↔ p <:+: u := by
  refine ⟨fun h => h.trans (dropWhile_suffix q).isInfix, fun h => ?_⟩
  induction u with
  | nil => exact absurd (infix_nil.mp h) hne
  | cons c u ih =>
    by_cases hc : q c = true
    · rw [dropWhile_cons_of_pos hc]
      refine ih ((infix_cons_iff.mp h).resolve_left fun hfront => ?_)
      obtain ⟨d, p, rfl⟩ := exists_cons_of_ne_nil hne
      obtain ⟨rfl, -⟩ := cons_prefix_cons.mp hfront
      rw [hq d mem_cons_self] at hc
      cases hc
    · rwa [dropWhile_cons_of_neg hc]

lemma isInfix_trimWhile_iff {q : Char → Bool} (hne : p ≠ []) (hq : ∀ c ∈ p, q c = false) :
    p <:+: trimWhile q u ↔ p <:+: u := by
  rw [trimWhile, dropEndWhile, ← reverse_infix, reverse_reverse,
    isInfix_dropWhile_iff (by simpa using hne) (by simpa using hq), reverse_infix,
    isInfix_dropWhile_iff hne hq]

end

/-- The line of a listing names a branch of which another name is a part.  The mark of a branch that
is checked out elsewhere is a name too. -/
def Resembles (branch : String) (m : Mark × String) : Prop :=
  branch.toList <:+: m.2.toList ∨ branch = "+" ∧ m.1 = .elsewhere

instance (branch : String) (m : Mark × String) : Decidable (Resembles branch m) :=
  inferInstanceAs (Decidable (_ ∨ _))

lemma isInfix_branchLine_iff {m : Mark × String} (hb : IsName branch) :
    branch.toList <:+: (branchLine m).toList ↔ Resembles branch m := by
  obtain ⟨mark, name⟩ := m
  have hmark : ∀ c : Char, branch.toList <:+: [c] ↔ branch = .ofList [c] := by
    intro c
    have hne : branch.toList ≠ [] := by simpa using hb.ne_empty
    constructor
    · intro h
      rw [← String.ofList_toList (s := branch)]
      exact congrArg _ (((infix_singleton_iff _ _).mp h).resolve_left hne)
    · rintro rfl
      simp
  have hspace : ' ' ∉ branch.toList := fun hmem => absurd (hb.chars _ hmem).1 (by decide)
  have hline : ∀ c, branch.toList <:+: c :: ' ' :: name.toList ↔
      branch = .ofList [c] ∨ branch.toList <:+: name.toList := by
    intro c
    rw [← hmark c]
    exact isInfix_append_cons_iff (u := [c]) hspace
  rw [branchLine, String.toList_append, Resembles]
  cases mark with
  | here =>
    have hstar : branch ≠ .ofList ['*'] := by
      rintro rfl
      exact (hb.chars '*' (by simp)).2 rfl
    simpa [Mark.text, hstar] using hline '*'
  | elsewhere => simpa [Mark.text, or_comm] using hline '+'
  | nowhere =>
    have hblank : branch ≠ .ofList [' '] := by
      rintro rfl
      exact hspace (by simp)
    simpa [Mark.text, hblank] using hline ' '

lemma contains_branchListing_iff {merged : List (Mark × String)}
    (hmerged : ∀ m ∈ merged, IsName m.2) (hb : IsName branch) :
    Text.contains (trim (branchListing merged)) branch = true ↔
      ∃ m ∈ merged, Resembles branch m := by
  have hne : branch.toList ≠ [] := by simpa using hb.ne_empty
  have hbreak : '\n' ∉ branch.toList := fun hmem => absurd (hb.chars _ hmem).1 (by decide)
  rw [contains_iff]
  cases merged with
  | nil =>
    have hempty : trim (branchListing []) = "" := rfl
    simp [hempty, hb.ne_empty]
  | cons m merged =>
    have hlines : ∀ l ∈ (m :: merged).map branchLine, IsLine l := by
      intro l hl
      obtain ⟨d, hd, rfl⟩ := mem_map.mp hl
      exact isLine_branchLine (hmerged d hd)
    have hprinted : trim (branchListing (m :: merged)) =
        trim (join "\n" ((m :: merged).map branchLine)) :=
      trim_printLines (by simp)
    rw [hprinted, trim, String.toList_ofList, isInfix_trimWhile_iff hne fun c hc =>
      (hb.chars c hc).1, toList_join]
    refine (isInfix_intercalate_iff hne hbreak _).trans ?_
    simp only [mem_map, exists_exists_and_eq_and, isInfix_branchLine_iff hb]

lemma Removing.exists_listing (h : Removing r how es) {e : Event} (he : e ∈ es)
    (hdeletes : Deletes e.1) :
    ∃ branch listing, r.branch = some branch ∧ (mergedCall "main", listing) ∈ es := by
  obtain ⟨before, branch, rest, rfl, -, hbranch, listing, last, rfl, -⟩ := h.exists_offers he
    (fun hcall => by simp [hcall, Deletes, statusCall] at hdeletes)
    (fun hcall => by simp [hcall, Deletes, removalCall] at hdeletes)
  exact ⟨branch, listing, hbranch, by simp⟩

lemma Removing.deletions {listing : Reply} (h : Removing r how es)
    (hbranch : r.branch = some branch) (hlisting : (mergedCall "main", listing) ∈ es) :
    (∀ e ∈ es, Deletes e.1 → e.1 = deleteCall branch ∧
      listing.Prints (Text.contains · branch = true)) ∧
    (how.yes = true → listing.Prints (Text.contains · branch = true) →
      ∃ e ∈ es, e.1 = deleteCall branch) := by
  obtain ⟨before, branch', rest, rfl, hbefore, hbranch', listing', last, rfl, hlast, hyes⟩ :=
    h.exists_offers hlisting (by simp [mergedCall, statusCall]) (by simp [mergedCall, removalCall])
  obtain rfl := Option.some.inj (hbranch.symm.trans hbranch')
  have hother : ∀ e ∈ before, ¬ Deletes e.1 ∧ e.1 ≠ mergedCall "main" := by
    intro e he
    rcases hbefore e he with hcall | hcall
    all_goals simp [hcall, Deletes, statusCall, removalCall, mergedCall]
  -- git lists the branches once, so the listing is the one that was looked at.
  obtain rfl : listing = listing' := by
    rcases mem_append.mp hlisting with hmem | hmem
    · exact absurd rfl (hother _ hmem).2
    · rcases mem_cons.mp hmem with heq | hmem
      · exact congrArg Prod.snd heq
      · exact absurd (hlast _ hmem).1 (by simp [mergedCall, deleteCall])
  refine ⟨fun e he hdeletes => ?_, fun hsure hmentions => ?_⟩
  · rcases mem_append.mp he with he | he
    · exact absurd hdeletes (hother e he).1
    · rcases mem_cons.mp he with rfl | he
      · simp [Deletes, mergedCall] at hdeletes
      · exact hlast e he
  · obtain ⟨e, more, rfl⟩ := exists_cons_of_ne_nil (hyes hsure hmentions)
    exact ⟨e, by simp, (hlast e mem_cons_self).1⟩

/-- A branch is deleted with its worktree if what git lists as merged contains its name anywhere,
and never otherwise: it need not be merged if its name is a part of the name of a merged one. -/
theorem remove_deletes_resembling (hlist : w.respond w.calls listCall = .finished 0 out err)
    (hfind : (ofListing (trim out)).find? (·.isNamed name) = some r) (how : Removal) :
    ∃ es, es = (remove name how).events w ∧
      (∀ e ∈ es, Deletes e.1 → ∃ branch listing, r.branch = some branch ∧ e.1 = deleteCall branch ∧
        (mergedCall "main", listing) ∈ es ∧ listing.Prints (Text.contains · branch = true)) ∧
      ∀ branch merged code err', r.branch = some branch → IsName branch →
        (∀ m ∈ merged, IsName m.2) →
        (mergedCall "main", .finished code (branchListing merged) err') ∈ es →
        ((∃ e ∈ es, e.1 = deleteCall branch) → ∃ m ∈ merged, Resembles branch m) ∧
        (how.yes = true → (∃ m ∈ merged, Resembles branch m) →
          ∃ e ∈ es, e.1 = deleteCall branch) := by
  obtain ⟨es, hevents, hremoving⟩ := exists_remove how hlist hfind
  have hfirst : ¬ Deletes listCall ∧ listCall ≠ mergedCall "main" := by
    simp [Deletes, listCall, mergedCall]
  refine ⟨_, rfl, ?_⟩
  rw [hevents]
  refine ⟨fun e he hdeletes => ?_, fun branch merged code err' hbranch hname hmerged hlisting => ?_⟩
  · rcases mem_cons.mp he with rfl | he
    · exact absurd hdeletes hfirst.1
    · obtain ⟨branch, listing, hbranch, hlisting⟩ := hremoving.exists_listing he hdeletes
      obtain ⟨hcall, hmentions⟩ := (hremoving.deletions hbranch hlisting).1 e he hdeletes
      exact ⟨branch, listing, hbranch, hcall, mem_cons_of_mem _ hlisting, hmentions⟩
  · have hlisting : (mergedCall "main", .finished code (branchListing merged) err') ∈ es :=
      (mem_cons.mp hlisting).resolve_left fun heq => hfirst.2 (congrArg Prod.fst heq).symm
    obtain ⟨honly, hsure⟩ := hremoving.deletions hbranch hlisting
    refine ⟨fun hdeleted => ?_, fun hyes hresembles => ?_⟩
    · obtain ⟨e, he, hcall⟩ := hdeleted
      have hdeletes : Deletes e.1 := hcall ▸ ⟨[branch], rfl⟩
      have he : e ∈ es :=
        (mem_cons.mp he).resolve_left fun heq => hfirst.1 (by rwa [heq] at hdeletes)
      obtain ⟨code', out', err'', hreply, hmentions⟩ := (honly e he hdeletes).2
      obtain ⟨-, rfl, -⟩ := Reply.finished.inj hreply
      exact (contains_branchListing_iff hmerged hname).mp hmentions
    · obtain ⟨e, he, hcall⟩ :=
        hsure hyes ⟨code, _, err', rfl, (contains_branchListing_iff hmerged hname).mpr hresembles⟩
      exact ⟨e, mem_cons_of_mem _ he, hcall⟩

lemma merged_mem_alike :
    (mergedCall "main", .finished 0 (branchListing alikeBranches) "") ∈
      (remove "login" ⟨true, false, true⟩).events alikeWorld := by
  have hcalls : ((remove "login" ⟨true, false, true⟩).exec alikeWorld).2.calls =
      [listCall, removalCall "/ROOT/wt/old-login" true, mergedCall "main",
       deleteCall "feature/log"] := by
    unfold remove
    rw [exec_bind_ok (exec_all respond_alikeWorld)]
    simp only [find?_alikeTrees]
    rfl
  rw [Tool.events, hcalls]
  exact .tail _ (.tail _ (.head _))

/-- No branch has the name that is asked for, but one resembling it is deleted. -/
theorem remove_deletes_resembling_alike :
    "feature/log" ∉ alikeBranches.map Prod.snd ∧
    ∃ e ∈ (remove "login" ⟨true, false, true⟩).events alikeWorld,
      e.1 = deleteCall "feature/log" := by
  obtain ⟨es, hes, -, hdeleted⟩ :=
    remove_deletes_resembling respond_alikeWorld find?_alikeTrees ⟨true, false, true⟩
  rw [← hes]
  refine ⟨by decide, (hdeleted "feature/log" alikeBranches 0 "" rfl (by decide) (by decide) ?_).2
    rfl (by decide)⟩
  rw [hes]
  exact merged_mem_alike

end Branch.Worktree

end Workbench
