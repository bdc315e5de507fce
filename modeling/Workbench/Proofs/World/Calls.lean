import Workbench.Proofs.World.Exec
import Workbench.World.Shell

/-!
# Calls of other programs

What a tool calls, and how each call ends.  A world answers a call by what was called before, so the
events of a run are determined by the calls that it records.
-/

namespace Workbench

open Text

/-- A call and the reply to it. -/
abbrev Event := Argv × Reply

/-- The call was carried out. -/
def Reply.Succeeds : Reply → Prop
  | .finished code _ _ => code = 0
  | .missing => False
  | .timeout => False

instance (r : Reply) : Decidable r.Succeeds :=
  match r with
  | .finished code _ _ => inferInstanceAs (Decidable (code = 0))
  | .missing => inferInstanceAs (Decidable False)
  | .timeout => inferInstanceAs (Decidable False)

/-- The call came to an end. -/
def Reply.Ends (r : Reply) : Prop := ∃ code out err, r = .finished code out err

/-- The calls that were carried out. -/
def succeeded (es : List Event) : List Argv := (es.filter fun e => e.2.Succeeds).map Prod.fst

@[simp]
lemma succeeded_append (es es' : List Event) :
    succeeded (es ++ es') = succeeded es ++ succeeded es' := by
  simp [succeeded]

/-- Calls with the replies to them. -/
def answered (respond : Responder) : (before calls : List Argv) → List Event
  | _, [] => []
  | before, call :: calls =>
    (call, respond before call) :: answered respond (before ++ [call]) calls

@[simp]
lemma answered_append (respond : Responder) (before cs cs' : List Argv) :
    answered respond before (cs ++ cs') = answered respond before cs ++
      answered respond (before ++ cs) cs' := by
  induction cs generalizing before with
  | nil => simp [answered]
  | cons c cs ih => simp [answered, ih]

lemma exists_of_mem_answered {respond : Responder} {before calls : List Argv} {e : Event}
    (h : e ∈ answered respond before calls) : ∃ before, e.2 = respond before e.1 := by
  induction calls generalizing before with
  | nil => cases h
  | cons call calls ih =>
    rcases List.mem_cons.mp h with rfl | hmem
    · exact ⟨before, rfl⟩
    · exact ih hmem

namespace Tool

variable {α β : Type}
variable {w : World} {t : Tool α} {P : Result α → List Event → Prop} {f : α → Tool β} {argv : Argv}
  {out err : String}

/-- The calls of a tool with the replies. -/
def events (t : Tool α) (w : World) : List Event :=
  answered w.respond w.calls ((t.exec w).2.calls.drop w.calls.length)

/-! ### Runs -/

/-- A run adds calls to those that were made, and the other programs go on as they are. -/
structure Adds (w w' : World) (es : List Event) : Prop where
  respond : w'.respond = w.respond
  calls : ∃ cs, w'.calls = w.calls ++ cs ∧ es = answered w.respond w.calls cs

lemma Adds.refl (w : World) : Adds w w [] := ⟨rfl, [], by simp, rfl⟩

lemma Adds.trans {w' w'' : World} {es es' : List Event} (h : Adds w w' es) (h' : Adds w' w'' es') :
    Adds w w'' (es ++ es') := by
  obtain ⟨cs, hcs, rfl⟩ := h.calls
  obtain ⟨cs', hcs', rfl⟩ := h'.calls
  refine ⟨h'.respond.trans h.respond, cs ++ cs', by rw [hcs', hcs, List.append_assoc], ?_⟩
  rw [answered_append, h.respond, hcs]

lemma Adds.exists_answer {w' : World} {es : List Event} (h : Adds w w' es) {e : Event}
    (he : e ∈ es) :
    ∃ before, e.2 = w.respond before e.1 := by
  obtain ⟨cs, -, rfl⟩ := h.calls
  exact exists_of_mem_answered he

/-- What a tool answers and calls, from any world. -/
def Records (t : Tool α) (P : Result α → List Event → Prop) : Prop :=
  ∀ w, ∃ es, Adds w (t.exec w).2 es ∧ P (t.exec w).1 es

lemma Adds.events_eq {es : List Event} (h : Adds w (t.exec w).2 es) : t.events w = es := by
  obtain ⟨cs, hcs, rfl⟩ := h.calls
  rw [events, hcs, List.drop_left]

lemma Records.mono {Q : Result α → List Event → Prop} (h : Records t P)
    (hPQ : ∀ r es, P r es → Q r es) : Records t Q := by
  intro w
  obtain ⟨es, hadds, hP⟩ := h w
  exact ⟨es, hadds, hPQ _ _ hP⟩

lemma records_pure (a : α) : Records (pure a) fun r es => r = .ok a ∧ es = [] :=
  fun w => ⟨[], Adds.refl w, rfl, rfl⟩

/-- The events of a step are followed by those of what it hands its answer to. -/
theorem Records.bind {Q : α → Result β → List Event → Prop} (ht : Records t P)
    (hf : ∀ a, Records (f a) (Q a)) :
    Records (t >>= f) fun r es =>
      (∃ e, r = .error e ∧ P (.error e) es) ∨
        ∃ a es₁ es₂, es = es₁ ++ es₂ ∧ P (.ok a) es₁ ∧ Q a r es₂ := by
  intro w
  obtain ⟨es₁, hadds₁, hP⟩ := ht w
  rw [exec_bind]
  rcases hr : t.exec w with ⟨e | a, w'⟩
  · rw [hr] at hadds₁ hP
    exact ⟨es₁, hadds₁, .inl ⟨e, rfl, hP⟩⟩
  · rw [hr] at hadds₁ hP
    obtain ⟨es₂, hadds₂, hQ⟩ := hf a w'
    exact ⟨es₁ ++ es₂, hadds₁.trans hadds₂, .inr ⟨a, es₁, es₂, rfl, hP, hQ⟩⟩

/-- A tool whose faults of a kind are handled ends by itself, with no fault of this kind, or goes on
with the handler. -/
theorem Records.guarded_cases {handles : Fault → Bool} {handler : Fault → Tool α}
    {Q : Fault → Result α → List Event → Prop} (ht : Records t P)
    (hh : ∀ e, Records (handler e) (Q e)) :
    Records (guarded t handles handler) fun r es =>
      (P r es ∧ ∀ e, r = .error e → handles e = false) ∨
        ∃ e es₁ es₂, es = es₁ ++ es₂ ∧ P (.error e) es₁ ∧ Q e r es₂ := by
  intro w
  obtain ⟨es₁, hadds₁, hP⟩ := ht w
  rw [exec_guarded]
  rcases hr : t.exec w with ⟨e | a, w'⟩
  · rw [hr] at hadds₁ hP
    dsimp only
    split_ifs with hhandles
    · obtain ⟨es₂, hadds₂, hQ⟩ := hh e w'
      exact ⟨es₁ ++ es₂, hadds₁.trans hadds₂, .inr ⟨e, es₁, es₂, rfl, hP, hQ⟩⟩
    · refine ⟨es₁, hadds₁, .inl ⟨hP, fun e' he' => ?_⟩⟩
      obtain rfl := Except.error.inj he'
      simpa using hhandles
  · rw [hr] at hadds₁ hP
    exact ⟨es₁, hadds₁, .inl ⟨hP, fun e he => by cases he⟩⟩

/-- A tool whose faults of a kind are handled goes on with the handler after such a fault. -/
theorem Records.guarded {handles : Fault → Bool} {handler : Fault → Tool α}
    {Q : Fault → Result α → List Event → Prop} (ht : Records t P)
    (hh : ∀ e, Records (handler e) (Q e)) :
    Records (guarded t handles handler) fun r es =>
      P r es ∨ ∃ e es₁ es₂, es = es₁ ++ es₂ ∧ P (.error e) es₁ ∧ Q e r es₂ :=
  (ht.guarded_cases hh).mono fun _ _ h => h.imp_left And.left

/-! ### Steps without calls -/

/-- The tool calls nothing. -/
def Quiet (t : Tool α) : Prop := Records t fun _ es => es = []

lemma quiet_of_exec (h : ∀ w, ∃ r, t.exec w = (r, w)) : Quiet t := by
  intro w
  obtain ⟨r, hr⟩ := h w
  rw [hr]
  exact ⟨[], Adds.refl w, rfl⟩

lemma quiet_modify {f : World → World}
    (h : ∀ w, (f w).respond = w.respond ∧ (f w).calls = w.calls) :
    Quiet (modify f : Tool PUnit) := by
  intro w
  rw [exec_modify]
  exact ⟨[], ⟨(h w).1, [], by rw [(h w).2, List.append_nil], rfl⟩, rfl⟩

lemma quiet_say (s : String) : Quiet (say s) := quiet_modify fun _ => ⟨rfl, rfl⟩

lemma quiet_sayAll (ss : List String) : Quiet (sayAll ss) := quiet_modify fun _ => ⟨rfl, rfl⟩

lemma exists_exec_sayAll (lines : List String) (w : World) :
    ∃ out, (sayAll lines).exec w = (.ok (), { w with out }) := ⟨_, rfl⟩

lemma quiet_complain (s : String) : Quiet (complain s) := quiet_modify fun _ => ⟨rfl, rfl⟩

lemma quiet_throw (e : Fault) : Quiet (throw e : Tool α) :=
  quiet_of_exec fun w => ⟨_, exec_throw e w⟩

lemma quiet_exit (code : Int) : Quiet (exit code : Tool α) := quiet_throw _

lemma quiet_readJson (raw : String) : Quiet (readJson raw) := by
  refine quiet_of_exec fun w => ?_
  rcases exec_readText raw w with ⟨e, he⟩ | ⟨s, c, hs, -⟩
  · exact ⟨_, exec_bind_error he _⟩
  · exact ⟨_, (exec_bind_ok hs _).trans (exec_lift _ w)⟩

lemma records_throw_bind (e : Fault) (f : α → Tool β) :
    Records ((throw e : Tool α) >>= f) fun r es => r = .error e ∧ es = [] := by
  intro w
  rw [exec_bind_error (exec_throw e w)]
  exact ⟨[], Adds.refl w, rfl, rfl⟩

/-- What is recorded behind a quiet part is all. -/
lemma Quiet.bind {Q : Result β → List Event → Prop} (ht : Quiet t)
    (hfail : ∀ e, Q (.error e) []) (hf : ∀ a, Records (f a) Q) : Records (t >>= f) Q := by
  refine (Records.bind ht hf).mono ?_
  rintro r es (⟨e, rfl, rfl⟩ | ⟨a, es₁, es₂, rfl, rfl, hQ⟩)
  · exact hfail e
  · exact hQ

lemma records_lift_bind {x : Result α} {Q : Result β → List Event → Prop}
    (hfail : ∀ e, x = .error e → Q (.error e) []) (hf : ∀ a, x = .ok a → Records (f a) Q) :
    Records ((liftM x : Tool α) >>= f) Q := by
  intro w
  cases x with
  | error e =>
    rw [exec_bind_error (exec_lift _ w)]
    exact ⟨[], Adds.refl w, hfail e rfl⟩
  | ok a =>
    rw [exec_bind_ok (exec_lift _ w)]
    exact hf a rfl w

/-! ### Calls -/

/-- A call is answered and remembered. -/
lemma exec_call (argv : Argv) (w : World) :
    (call argv).exec w = (.ok (w.respond w.calls argv), { w with calls := w.calls ++ [argv] }) :=
  rfl

lemma exec_run_calls (argv : Argv) (limit : String) (w : World) :
    ∃ r, (run argv limit).exec w = (r, { w with calls := w.calls ++ [argv] }) := by
  rw [run, exec_bind_ok (exec_call argv w)]
  cases w.respond w.calls argv <;> exact ⟨_, rfl⟩

lemma exec_run_finished {code : Int} (h : w.respond w.calls argv = .finished code out err)
    (limit : String) :
    (run argv limit).exec w = (.ok ⟨code, out, err⟩, { w with calls := w.calls ++ [argv] }) := by
  rw [run, exec_bind_ok (exec_call argv w), h]
  rfl

lemma exec_outputOr (h : w.respond w.calls argv = .finished 0 out err)
    (failed : Ended → Tool String) : (outputOr argv failed).exec w =
      (.ok (trim out), { w with calls := w.calls ++ [argv] }) := by
  rw [outputOr, exec_bind_ok (exec_run_finished h "None"), if_pos (by rfl), exec_pure]

lemma records_run (argv : Argv) (limit : String) :
    Records (run argv limit) fun r es => ∃ reply, es = [(argv, reply)] ∧ ∀ ended, r = .ok ended →
      ∃ err, reply = .finished ended.code ended.out err := by
  intro w
  have hadds : Adds w { w with calls := w.calls ++ [argv] } [(argv, w.respond w.calls argv)] :=
    ⟨rfl, [argv], rfl, rfl⟩
  rw [run, exec_bind_ok (exec_call argv w)]
  cases hreply : w.respond w.calls argv with
  | finished code out err =>
    refine ⟨_, hadds, _, by rw [hreply], ?_⟩
    rintro ended hended
    obtain rfl := Except.ok.inj hended
    exact ⟨err, rfl⟩
  | missing => exact ⟨_, hadds, _, by rw [hreply], fun ended hended => by cases hended⟩
  | timeout => exact ⟨_, hadds, _, by rw [hreply], fun ended hended => by cases hended⟩

end Tool

end Workbench
