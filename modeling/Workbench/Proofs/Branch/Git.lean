import Workbench.Branch.Config
import Workbench.Proofs.World.Calls

/-!
# Commands of git

A step that runs git makes one call.
-/

namespace Workbench

open Tool

namespace Tool

lemma Adds.exists_rest {α : Type} {t u : Tool α} {w w' : World} {es : List Event}
    {Q : Result α → List Event → Prop} (h : Adds w w' es) (hexec : t.exec w = u.exec w')
    (hu : Records u Q) :
    ∃ es', t.events w = es ++ es' ∧ Q (t.exec w).1 es' ∧ ∀ e ∈ es', ∃ before,
      e.2 = w.respond before e.1 := by
  obtain ⟨es', hadds, hQ⟩ := hu w'
  rw [← hexec] at hadds hQ
  have hall := h.trans hadds
  exact ⟨es', hall.events_eq, hQ, fun e he => hall.exists_answer (List.mem_append_right _ he)⟩

variable {β : Type} {u : PUnit → Tool β} {Q : Result β → List Event → Prop}

lemma records_modify_bind {g : World → World}
    (h : ∀ w, (g w).respond = w.respond ∧ (g w).calls = w.calls) (hu : Records (u ⟨⟩) Q) :
    Records ((modify g : Tool PUnit) >>= u) Q := by
  intro w
  rw [exec_bind_ok (exec_modify g w)]
  obtain ⟨es, hadds, hQ⟩ := hu (g w)
  obtain ⟨hrespond, hcalls⟩ := h w
  refine ⟨es, ⟨hadds.respond.trans hrespond, ?_⟩, hQ⟩
  rw [← hrespond, ← hcalls]
  exact hadds.calls

lemma records_say_bind (line : String) (hu : Records (u ()) Q) : Records (say line >>= u) Q :=
  records_modify_bind (fun _ => ⟨rfl, rfl⟩) hu

lemma records_sayAll_bind (lines : List String) (hu : Records (u ()) Q) :
    Records (sayAll lines >>= u) Q :=
  records_modify_bind (fun _ => ⟨rfl, rfl⟩) hu

end Tool

namespace Branch

open Tool (Records)

variable {args : List String} {w : World} {out : String}

/-- The question for the current branch. -/
def headCall : Argv := ["git", "rev-parse", "--abbrev-ref", "HEAD"]

lemma exec_gitReporting_ok (terse : Bool) {err : String}
    (h : w.respond w.calls ("git" :: args) = .finished 0 out err) :
    (gitReporting terse args).exec w =
      (.ok (Text.trim out), { w with calls := w.calls ++ ["git" :: args] }) := by
  unfold gitReporting
  rw [exec_bind_ok (exec_run_finished h "None")]
  rfl

lemma exec_gitReporting_failed (terse : Bool) {code : Int} {err : String}
    (h : w.respond w.calls ("git" :: args) = .finished code out err) (hcode : code ≠ 0) :
    ∃ e w', (gitReporting terse args).exec w = (.error e, w') ∧ e.isFailed = true ∧
      w'.respond = w.respond ∧ w'.calls = w.calls ++ ["git" :: args] := by
  have hne : (code != 0) = true := by simpa using hcode
  unfold gitReporting
  rw [exec_bind_ok (exec_run_finished h "None")]
  simp only [hne, if_true]
  split_ifs with hloud
  · exact ⟨_, _, rfl, rfl, rfl, rfl⟩
  · exact ⟨_, _, rfl, rfl, rfl, rfl⟩

lemma exec_run_unended {argv : Argv} (h : ¬ (w.respond w.calls argv).Ends) (limit : String) :
    ∃ e, (Tool.run argv limit).exec w = (.error e, { w with calls := w.calls ++ [argv] }) := by
  rw [Tool.run, exec_bind_ok (exec_call _ w)]
  cases hreply : w.respond w.calls argv with
  | finished code out err => exact absurd ⟨code, out, err, hreply⟩ h
  | missing => exact ⟨_, rfl⟩
  | timeout => exact ⟨_, rfl⟩

lemma exec_gitReporting_unended (terse : Bool) (h : ¬ (w.respond w.calls ("git" :: args)).Ends) :
    ∃ e, (gitReporting terse args).exec w =
      (.error e, { w with calls := w.calls ++ ["git" :: args] }) := by
  obtain ⟨e, he⟩ := exec_run_unended h "None"
  exact ⟨e, exec_bind_error he _⟩

lemma records_gitReporting (terse : Bool) (args : List String) :
    Records (gitReporting terse args) fun r es => ∃ reply, es = [("git" :: args, reply)] ∧
      (∀ out err, reply = .finished 0 out err → r = .ok (Text.trim out)) ∧
      (∀ code out err, reply = .finished code out err → code ≠ 0 →
        ∃ e, r = .error e ∧ e.isFailed = true) := by
  intro w
  have hadds : ∀ w' : World, w'.respond = w.respond → w'.calls = w.calls ++ ["git" :: args] →
      Adds w w' [("git" :: args, w.respond w.calls ("git" :: args))] :=
    fun w' hrespond hcalls => ⟨hrespond, ["git" :: args], hcalls, rfl⟩
  by_cases hends : (w.respond w.calls ("git" :: args)).Ends
  · obtain ⟨code, out, err, hreply⟩ := hends
    by_cases hcode : code = 0
    · subst hcode
      rw [exec_gitReporting_ok terse hreply]
      refine ⟨_, hadds _ rfl rfl, _, rfl, fun out' err' h => ?_, fun code' out' err' h hne => ?_⟩
      · obtain ⟨-, rfl, -⟩ := Reply.finished.inj (hreply.symm.trans h)
        rfl
      · exact absurd (Reply.finished.inj (hreply.symm.trans h)).1.symm hne
    · obtain ⟨e, w', hexec, hfailed, hrespond, hcalls⟩ :=
        exec_gitReporting_failed terse hreply hcode
      rw [hexec]
      refine ⟨_, hadds w' hrespond hcalls, _, rfl, fun out' err' h => ?_, fun _ _ _ _ _ =>
        ⟨e, rfl, hfailed⟩⟩
      exact absurd (Reply.finished.inj (hreply.symm.trans h)).1 hcode
  · obtain ⟨e, hexec⟩ := exec_gitReporting_unended terse hends
    rw [hexec]
    exact ⟨_, hadds _ rfl rfl, _, rfl, fun out err h => absurd ⟨0, out, err, h⟩ hends,
      fun code out err h _ => absurd ⟨code, out, err, h⟩ hends⟩

lemma records_git_quiet {α : Type} (terse : Bool) (args : List String) {f : String → Tool α}
    (hf : ∀ out, Quiet (f out)) :
    Records (gitReporting terse args >>= f) fun _ es => es.map Prod.fst = ["git" :: args] := by
  refine ((records_gitReporting terse args).bind hf).mono ?_
  rintro r es (⟨e, -, reply, rfl, -⟩ | ⟨out, es₁, es₂, rfl, ⟨reply, rfl, -⟩, rfl⟩)
  · rfl
  · rfl

end Branch

end Workbench
