import Mathlib.Data.List.Nodup
import Workbench.Codebase.Imports
import Workbench.Proofs.World.Exec
import Workbench.Proofs.World.Names

/-!
# What a trace of imports shows

A trace follows imports depth first to a limited depth, and never follows a file twice.
`trace_expands_reachable_iff` says which files it shows, and `trace_reads_each_file_once` what it
reads.
-/

open List

namespace Workbench.Codebase

open Tool Text

variable {w : World} {k n : Nat} {p q : Path} {target text : String} {V V' : List Path}

/-! ### The files that a file imports -/

/-- A script of the web that can be read, whose relative imports all lead to something. -/
def Followable (w : World) (p : Path) : Prop :=
  [".ts", ".tsx", ".js", ".jsx"].contains p.suffix = true ∧
    ∃ text, (textOf? p).exec w = (.ok (some text), w) ∧
      ∀ target ∈ webImports text, startsWith target "." = true →
        ∃ q, (placeOfImport p target).exec w = (.ok (some q), w) ∧
          (pathExists q.toString).exec w = (.ok true, w)

/-- A file imports another one. -/
def Imports (w : World) (p q : Path) : Prop :=
  ∃ text target, (textOf? p).exec w = (.ok (some text), w) ∧ target ∈ webImports text ∧
    (placeOfImport p target).exec w = (.ok (some q), w)

/-- A chain of so many imports leads from one file to another. -/
inductive Chain (w : World) : Nat → Path → Path → Prop
  | refl (p : Path) : Chain w 0 p p
  | step {k : Nat} {p q r : Path} : Imports w p q → Chain w k q r → Chain w (k + 1) p r

lemma Chain.snoc {r : Path} (h : Chain w k p q) (hr : Imports w q r) : Chain w (k + 1) p r := by
  induction h with
  | refl p => exact .step hr (.refl r)
  | step hfirst _ ih => exact .step hfirst (ih hr)

lemma Chain.exists_last {r : Path} (h : Chain w (k + 1) p r) :
    ∃ q, Chain w k p q ∧ Imports w q r := by
  induction k generalizing p with
  | zero =>
    cases h with
    | step hfirst hrest =>
      cases hrest with
      | refl => exact ⟨p, .refl p, hfirst⟩
  | succ k ih =>
    cases h with
    | step hfirst hrest =>
      obtain ⟨q, hq, hlast⟩ := ih hrest
      exact ⟨q, .step hfirst hq, hlast⟩

lemma exec_findM?_pathExists (w : World) (ps : List Path) :
    ∃ r, (ps.findM? fun p => pathExists p.toString).exec w = (r, w) ∧ ∀ q,
      r = .ok (some q) → q ∈ ps := by
  induction ps with
  | nil => exact ⟨.ok none, rfl, by simp⟩
  | cons p ps ih =>
    obtain ⟨r, hr⟩ := exec_pathExists p.toString w
    rw [findM?]
    rcases r with e | _ | _
    · exact ⟨.error e, exec_bind_error hr _, by simp⟩
    · obtain ⟨r', hr', hmem⟩ := ih
      refine ⟨r', (exec_bind_ok hr _).trans hr', fun q hq => ?_⟩
      exact mem_cons_of_mem p (hmem q hq)
    · refine ⟨.ok (some p), exec_bind_ok hr _, fun q hq => ?_⟩
      obtain rfl : p = q := by simpa using hq
      exact mem_cons_self

/-- The place that is asked for, before any extension. -/
def aimed (w : World) (file : Path) (target : String) : Path :=
  Path.resolve (w.files.pathTo w.cwd) (file.parent / target)

lemma exec_placeOfImport_relative (h : startsWith target "." = true) :
    (placeOfImport p target).exec w =
      ((candidates (aimed w p target)).findM? (fun p => pathExists p.toString) >>=
        fun found => pure (some (found.getD (aimed w p target)))).exec w := by
  have hresolve : (resolve (p.parent / target)).exec w = (.ok (aimed w p target), w) := rfl
  rw [placeOfImport, h]
  exact exec_bind_ok hresolve _

lemma mem_candidates_of_placeOfImport (h : (placeOfImport p target).exec w = (.ok (some q), w)) :
    startsWith target "." = true ∧
      ∃ cwd, q ∈ Path.resolve cwd (p.parent / target) :: candidates
        (Path.resolve cwd (p.parent / target)) := by
  cases hrelative : startsWith target "." with
  | false =>
    rw [placeOfImport, hrelative] at h
    cases h
  | true =>
    refine ⟨rfl, w.files.pathTo w.cwd, ?_⟩
    rw [exec_placeOfImport_relative hrelative] at h
    obtain ⟨r, hr, hmem⟩ := exec_findM?_pathExists w (candidates (aimed w p target))
    rcases r with e | _ | found
    · cases (exec_bind_error hr _).symm.trans h
    · have hbare := (exec_bind_ok hr _).symm.trans h
      simp only [exec_pure, Option.getD_none, Prod.mk.injEq, Except.ok.injEq, Option.some.injEq,
        and_true] at hbare
      exact hbare ▸ mem_cons_self
    · have hfound := (exec_bind_ok hr _).symm.trans h
      simp only [exec_pure, Option.getD_some, Prod.mk.injEq, Except.ok.injEq, Option.some.injEq,
        and_true] at hfound
      exact mem_cons_of_mem _ (hfound ▸ hmem found rfl)

lemma isName_append_extension {n e : String} (hn : '/' ∉ n.toList) (he : e ∈ impliedExtensions)
    (hne : e ≠ "") :
    Files.IsName (n ++ e) := by
  have hlong : ∀ e ∈ impliedExtensions, e ≠ "" → 2 < e.length ∧ '/' ∉ e.toList := by decide
  obtain ⟨hlength, hslash⟩ := hlong e he hne
  have hne' : ∀ s : String, s.length ≤ 2 → n ++ e ≠ s := by
    rintro s hs rfl
    rw [String.length_append] at hs
    omega
  refine ⟨hne' _ (by decide), hne' _ (by decide), hne' _ (by decide), ?_⟩
  simp [hn, hslash]

lemma canonical_of_mem_candidates {place : Path} (hplace : place.Canonical)
    (hq : q ∈ candidates place) :
    q.Canonical := by
  obtain ⟨e, he, hq⟩ := mem_flatMap.mp hq
  simp only [mem_cons, not_mem_nil, or_false] at hq
  rcases hq with rfl | rfl
  · by_cases hparts : place.parts = []
    · -- the root has no name, so only an extension is one
      have hname : place.name = "" := by simp [Path.name, hparts]
      by_cases hempty : e = ""
      · rw [hname, hempty]
        refine ⟨hplace.absolute, fun n hn => ?_⟩
        have hnone : (place.parent / ("" ++ "")).parts = [] := by
          show (place.parent.append (Path.ofString "")).parts = []
          rw [Path.append, if_neg (by decide), Path.parent, hparts]
          rfl
        rw [hnone] at hn
        cases hn
      · rw [hname]
        exact hplace.parent.child (isName_append_extension (by decide) he hempty)
    · have hlast : place.name ∈ place.parts := by
        rw [Path.name, getLast?_eq_some_getLast hparts]
        exact getLast_mem hparts
      have hname := hplace.names _ hlast
      refine hplace.parent.child ?_
      by_cases hempty : e = ""
      · rw [hempty, String.append_empty]
        exact hname
      · exact isName_append_extension hname.noSlash he hempty
  · have hindex : ∀ e ∈ impliedExtensions, Files.IsName ("index" ++ e) := by decide
    exact hplace.child (hindex e he)

lemma canonical_of_placeOfImport (h : (placeOfImport p target).exec w = (.ok (some q), w))
    (hp : p.Canonical) :
    q.Canonical := by
  obtain ⟨hrelative, cwd, hmem⟩ := mem_candidates_of_placeOfImport h
  have hhead : (Path.ofString target).absolute = false := by
    rw [startsWith, isFront] at hrelative
    cases htarget : target.toList with
    | nil => simp [Path.ofString, htarget]
    | cons c s =>
      rw [htarget, show ".".toList = ['.'] from rfl, dropFront?] at hrelative
      split_ifs at hrelative with hc
      · simp [Path.ofString, htarget, ← hc]
      · cases hrelative
  have hresolved := hp.parent.resolve cwd hhead
  rcases mem_cons.mp hmem with rfl | hcandidate
  · exact hresolved
  · exact canonical_of_mem_candidates hresolved hcandidate

lemma Imports.canonical (h : Imports w p q) (hp : p.Canonical) : q.Canonical := by
  obtain ⟨text, target, -, -, hplace⟩ := h
  exact canonical_of_placeOfImport hplace hp

lemma Chain.canonical (h : Chain w k p q) (hp : p.Canonical) : q.Canonical := by
  induction h with
  | refl p => exact hp
  | step hfirst _ ih => exact ih (hfirst.canonical hp)

/-! ### Steps of a trace -/

/-- The files that a trace shows at a level. -/
def Trace.level : Nat → Trace → List String
  | _, .cut => []
  | 0, .file name _ _ => [name]
  | k + 1, .file _ imports _ => imports.flatMap fun i => i.2.level k

lemma Trace.level_cut (k : Nat) : Trace.cut.level k = [] := by
  cases k <;> rfl

/-- A trace on its way, with the files it has visited. -/
abbrev Tracing := StateT (List Path) Tool

lemma run_bind_ok {α β : Type} {t : Tracing α} {w' : World} {a : α}
    (h : (t.run V).exec w = (.ok (a, V'), w')) (f : α → Tracing β) :
    ((t >>= f).run V).exec w = ((f a).run V').exec w' :=
  exec_bind_ok h _

lemma run_lift_ok {α : Type} {t : Tool α} {w' : World} {a : α} (h : t.exec w = (.ok a, w'))
    (V : List Path) :
    ((liftM t : Tracing α).run V).exec w = (.ok (a, V), w') :=
  exec_bind_ok h _

lemma run_traceFrom_visited (h : n = 0 ∨ p ∈ V) :
    ((traceFrom .files n p).run V).exec w = (.ok (.cut, V), w) := by
  cases n with
  | zero => rfl
  | succ n =>
    have hmem : V.contains p = true := by simpa using h
    have hget : ((get : Tracing (List Path)).run V).exec w = (.ok (V, V), w) := rfl
    rw [traceFrom, run_bind_ok hget, if_pos hmem]
    rfl

lemma run_traceFrom_new (hp : p ∉ V) (htext : (Sight.files.read p).exec w = (.ok (some text), w))
    (hweb : [".ts", ".tsx", ".js", ".jsx"].contains p.suffix = true)
    {steps : List ((String × Trace) ⊕ String)}
    (hsteps : (((webImports text).mapM (follow .files (traceFrom .files n) p)).run
      (p :: V)).exec w = (.ok (steps, V'), w)) :
    ((traceFrom .files (n + 1) p).run V).exec w = (.ok (.file p.toString
      (steps.filterMap Sum.getLeft?) (steps.filterMap Sum.getRight?), V'), w) := by
  have hmem : ¬ V.contains p = true := by simpa using hp
  have hget : ((get : Tracing (List Path)).run V).exec w = (.ok (V, V), w) := rfl
  have hmodify : ((modify (p :: ·) : Tracing PUnit).run V).exec w = (.ok (⟨⟩, p :: V), w) := rfl
  have himports : importsOf? p.suffix text = some (webImports text) := by
    rw [importsOf?, if_pos hweb]
  rw [traceFrom, run_bind_ok hget, if_neg hmem, run_bind_ok hmodify,
    run_bind_ok (run_lift_ok htext _), expand, Option.bind_some, himports]
  exact run_bind_ok hsteps _

lemma run_follow_external (V : List Path) (h : startsWith target "." = false) :
    ((follow .files (traceFrom .files n) p target).run V).exec w = (.ok (.inr target, V), w) := by
  have hplace : (Sight.files.place p target).exec w = (.ok none, w) := by
    show (placeOfImport p target).exec w = _
    rw [placeOfImport, h]
    rfl
  rw [follow, run_bind_ok (run_lift_ok hplace V)]
  rfl

lemma run_follow_relative {t : Trace}
    (hplace : (Sight.files.place p target).exec w = (.ok (some q), w))
    (hexists : (Sight.files.there q).exec w = (.ok true, w))
    (htrace : ((traceFrom .files n q).run V).exec w = (.ok (t, V'), w)) :
    ((follow .files (traceFrom .files n) p target).run V).exec w =
      (.ok (.inl (q.toString, t), V'), w) := by
  rw [follow, run_bind_ok (run_lift_ok hplace V)]
  dsimp only
  rw [run_bind_ok (run_lift_ok hexists V), if_pos rfl]
  exact run_bind_ok htrace _

/-! ### What a trace visits and shows -/

/-- The files at a level below some imports. -/
def levelOf (imports : List (String × Trace)) (k : Nat) : List String :=
  imports.flatMap fun i => i.2.level k

/-- Traces to depth `n`, at whose level `k` the files are to which `leads k` leads, take the files
visited from `V` to `V'`: they show just the new files, and they visit all that is imported above
their last level. -/
structure Shows (w : World) (n : Nat) (leads : Nat → Path → Prop) (level : Nat → List String)
    (V V' : List Path) :
    Prop where
  grows : V ⊆ V'
  complete : ∀ q ∈ V', q ∉ V → ∃ k, q.toString ∈ level k
  sound : ∀ k name, name ∈ level k → k < n ∧ ∃ q ∈ V', leads k q ∧ q.toString = name
  closed : ∀ k q, q.Canonical → q.toString ∈ level k → k + 1 < n → ∀ r, Imports w q r → r ∈ V'

/-- Without imports nothing is shown. -/
lemma Shows.nil (w : World) (n : Nat) (leads : Nat → Path → Prop) (V : List Path) :
    Shows w n leads (fun _ => []) V V where
  grows := Subset.refl V
  complete q hq hnew := absurd hq hnew
  sound k name h := by cases h
  closed k q _ h := by cases h

/-- Where a trace is cut nothing is shown. -/
lemma Shows.cut (w : World) (n : Nat) (leads : Nat → Path → Prop) (V : List Path) :
    Shows w n leads (fun k => Trace.cut.level k) V V := by
  simpa only [Trace.level_cut] using Shows.nil w n leads V

lemma Shows.append {leads : Nat → Path → Prop} {level level' : Nat → List String}
    {V₁ V₂ V₃ : List Path} (h : Shows w n leads level V₁ V₂) (h' : Shows w n leads level' V₂ V₃) :
    Shows w n leads (fun k => level k ++ level' k) V₁ V₃ where
  grows := Subset.trans h.grows h'.grows
  complete q hq hnew := by
    by_cases hmiddle : q ∈ V₂
    · obtain ⟨k, hk⟩ := h.complete q hmiddle hnew
      exact ⟨k, mem_append_left _ hk⟩
    · obtain ⟨k, hk⟩ := h'.complete q hq hmiddle
      exact ⟨k, mem_append_right _ hk⟩
  sound k name hname := by
    rcases mem_append.mp hname with hname | hname
    · obtain ⟨hk, q, hq, hrest⟩ := h.sound k name hname
      exact ⟨hk, q, h'.grows hq, hrest⟩
    · exact h'.sound k name hname
  closed k q hcanonical hname hk r hr := by
    rcases mem_append.mp hname with hname | hname
    · exact h'.grows (h.closed k q hcanonical hname hk r hr)
    · exact h'.closed k q hcanonical hname hk r hr

lemma Shows.mono {leads leads' : Nat → Path → Prop} {level : Nat → List String}
    (h : Shows w n leads level V V') (hleads : ∀ k q, leads k q → leads' k q) :
    Shows w n leads' level V V' where
  grows := h.grows
  complete := h.complete
  sound k name hname := by
    obtain ⟨hk, q, hq, hlead, hrest⟩ := h.sound k name hname
    exact ⟨hk, q, hq, hleads k q hlead, hrest⟩
  closed := h.closed

/-- A file is shown above what its imports show. -/
lemma Shows.file (hp : p.Canonical) {imports : List (String × Trace)} {external : List String}
    (h : Shows w n (fun k => Chain w (k + 1) p) (levelOf imports) (p :: V) V')
    (hvisits : 0 < n → ∀ q, Imports w p q → q ∈ V') :
    Shows w (n + 1) (fun k => Chain w k p)
      (fun k => (Trace.file p.toString imports external).level k) V V' where
  grows := Subset.trans (subset_cons_self p V) h.grows
  complete q hq hnew := by
    by_cases hself : q = p
    · exact ⟨0, by simp [Trace.level, hself]⟩
    · obtain ⟨k, hk⟩ := h.complete q hq (by simp [hself, hnew])
      exact ⟨k + 1, hk⟩
  sound k name hname := by
    cases k with
    | zero =>
      obtain rfl : name = p.toString := by simpa [Trace.level] using hname
      exact ⟨Nat.succ_pos n, p, h.grows mem_cons_self, .refl p, rfl⟩
    | succ k =>
      obtain ⟨hk, q, hq, hlead, hrest⟩ := h.sound k name hname
      exact ⟨Nat.succ_lt_succ hk, q, hq, hlead, hrest⟩
  closed k q hcanonical hname hk r hr := by
    cases k with
    | zero =>
      have hname : q.toString = p.toString := by simpa [Trace.level] using hname
      obtain rfl := hcanonical.eq_of_toString_eq hp hname
      exact hvisits (by omega) r hr
    | succ k => exact h.closed k q hcanonical hname (by omega) r hr

/-- A trace from a file shows what it should. -/
def Traces (w : World) (n : Nat) (p : Path) : Prop :=
  ∀ V, ∃ t V', ((traceFrom .files n p).run V).exec w = (.ok (t, V'), w) ∧
    Shows w n (fun k => Chain w k p) (fun k => t.level k) V V' ∧ (0 < n → p ∈ V')

lemma exists_follow (htext : (textOf? p).exec w = (.ok (some text), w))
    (hleads : ∀ target ∈ webImports text, startsWith target "." = true →
      ∃ q, (placeOfImport p target).exec w = (.ok (some q), w) ∧
        (pathExists q.toString).exec w = (.ok true, w))
    (htraces : ∀ q, Imports w p q → Traces w n q) {targets : List String}
    (htargets : targets ⊆ webImports text) (V : List Path) :
    ∃ steps V', ((targets.mapM (follow .files (traceFrom .files n) p)).run V).exec w =
      (.ok (steps, V'), w) ∧
      Shows w n (fun k => Chain w (k + 1) p) (levelOf (steps.filterMap Sum.getLeft?)) V V' ∧
      (0 < n → ∀ target ∈ targets, ∀ q, (placeOfImport p target).exec w = (.ok (some q), w) →
        q ∈ V') := by
  induction targets generalizing V with
  | nil => exact ⟨[], V, rfl, Shows.nil w n _ V, by simp⟩
  | cons target targets ih =>
    have hmem : target ∈ webImports text := htargets mem_cons_self
    have hrest := ih fun x hx => htargets (mem_cons_of_mem _ hx)
    rw [mapM_cons]
    cases hrelative : startsWith target "." with
    | false =>
      obtain ⟨steps, V', hsteps, hshows, hvisits⟩ := hrest V
      refine ⟨.inr target :: steps, V', ?_, hshows, fun hn target' htarget' q hq => ?_⟩
      · rw [run_bind_ok (run_follow_external V hrelative), run_bind_ok hsteps]
        rfl
      · rcases mem_cons.mp htarget' with rfl | htarget'
        · rw [(mem_candidates_of_placeOfImport hq).1] at hrelative
          cases hrelative
        · exact hvisits hn target' htarget' q hq
    | true =>
      obtain ⟨q, hplace, hexists⟩ := hleads target hmem hrelative
      have himports : Imports w p q := ⟨text, target, htext, hmem, hplace⟩
      obtain ⟨t, V₁, htrace, hshow, hvisit⟩ := htraces q himports V
      obtain ⟨steps, V', hsteps, hshows, hvisits⟩ := hrest V₁
      refine ⟨.inl (q.toString, t) :: steps, V', ?_, ?_, fun hn target' htarget' q' hq' => ?_⟩
      · rw [run_bind_ok (run_follow_relative hplace hexists htrace), run_bind_ok hsteps]
        rfl
      · exact (hshow.mono fun k r hr => .step himports hr).append hshows
      · rcases mem_cons.mp htarget' with rfl | htarget'
        · obtain rfl : q = q' := by simpa using hplace.symm.trans hq'
          exact hshows.grows (hvisit hn)
        · exact hvisits hn target' htarget' q' hq'

/-- Where everything along the imports can be followed, the trace shows what it should. -/
theorem traces_of_followable (n : Nat) (hp : p.Canonical)
    (hall : ∀ k q, Chain w k p q → Followable w q) : Traces w n p := by
  induction n generalizing p with
  | zero => exact fun V => ⟨.cut, V, rfl, Shows.cut w 0 _ V, by simp⟩
  | succ n ih =>
    intro V
    by_cases hvisited : p ∈ V
    · exact ⟨.cut, V, run_traceFrom_visited (Or.inr hvisited), Shows.cut w (n + 1) _ V,
        fun _ => hvisited⟩
    · obtain ⟨hweb, text, htext, hleads⟩ := hall 0 p (.refl p)
      have htraces : ∀ q, Imports w p q → Traces w n q := fun q hq =>
        ih (hq.canonical hp) fun k r hr => hall (k + 1) r (.step hq hr)
      obtain ⟨steps, V', hsteps, hshows, hvisits⟩ :=
        exists_follow htext hleads htraces (Subset.refl _) (p :: V)
      refine ⟨_, V', run_traceFrom_new hvisited htext hweb hsteps, hshows.file hp fun hn q hq => ?_,
        fun _ => hshows.grows mem_cons_self⟩
      obtain ⟨text', target, htext', htarget, hplace⟩ := hq
      obtain rfl : text = text' := by simpa using htext.symm.trans htext'
      exact hvisits hn target htarget q hplace

/-! ### Files that are not shown -/

/-- The trace shows a file with its imports. -/
def Trace.Expands (t : Trace) (name : String) : Prop := ∃ k, name ∈ t.level k

/-- A trace to depth `d` shows only files that a chain of fewer than `d` imports leads to.  It shows
just these files exactly if each file at its last level to which a shorter chain leads as well has
all its imports shown. -/
theorem trace_expands_reachable_iff {w : World} {root : Path} (hroot : root.Canonical)
    (hall : ∀ k p, Chain w k root p → Followable w p) {d : Nat} (hd : 1 ≤ d) :
    ∃ t, (trace root d).exec w = (.ok t, w) ∧
      (∀ k name, name ∈ t.level k → k < d ∧ ∃ p, Chain w k root p ∧ p.toString = name) ∧
      ((∀ name, t.Expands name ↔ ∃ k < d, ∃ p, Chain w k root p ∧ p.toString = name) ↔
        ∀ p, p.toString ∈ t.level (d - 1) → (∃ k < d - 1, Chain w k root p) →
          ∀ q, Imports w p q → t.Expands q.toString) := by
  obtain ⟨t, V, htrace, hshows, hvisit⟩ := traces_of_followable d hroot hall []
  have hexec : (trace root d).exec w = (.ok t, w) := exec_bind_ok htrace _
  have hsound : ∀ k name, name ∈ t.level k → k < d ∧ ∃ p, Chain w k root p ∧ p.toString = name := by
    intro k name hname
    obtain ⟨hk, p, -, hchain⟩ := hshows.sound k name hname
    exact ⟨hk, p, hchain⟩
  have hexpands : ∀ p ∈ V, t.Expands p.toString := fun p hp => hshows.complete p hp (by simp)
  refine ⟨t, hexec, hsound, fun hexact p _ hshort q hq => ?_, fun hlate name => ⟨?_, ?_⟩⟩
  · obtain ⟨k, hk, hchain⟩ := hshort
    exact (hexact q.toString).mpr ⟨k + 1, by omega, q, hchain.snoc hq, rfl⟩
  · rintro ⟨k, hname⟩
    exact ⟨k, hsound k name hname⟩
  · -- along a chain: what is shown above the last level has its imports visited, what is shown at
    -- it is met late
    rintro ⟨k, hk, p, hchain, rfl⟩
    induction k generalizing p with
    | zero =>
      cases hchain
      exact hexpands root (hvisit (by omega))
    | succ k ih =>
      obtain ⟨q, hq, hlast⟩ := hchain.exists_last
      obtain ⟨level, hlevel⟩ := ih (by omega) q hq
      obtain ⟨hlt, -⟩ := hsound level _ hlevel
      by_cases hend : level + 1 < d
      · exact hexpands p (hshows.closed level q (hq.canonical hroot) hlevel hend p hlast)
      · obtain rfl : level = d - 1 := by omega
        exact hlate q hlevel ⟨k, by omega, hq⟩ p hlast

/-- A script whose imports all lead somewhere. -/
structure Listed (w : World) (p : Path) (text : String) (places : List (String × Path)) : Prop where
  web : [".ts", ".tsx", ".js", ".jsx"].contains p.suffix = true
  reads : (textOf? p).exec w = (.ok (some text), w)
  targets : webImports text = places.map Prod.fst
  leads : ∀ i ∈ places, (placeOfImport p i.1).exec w = (.ok (some i.2), w) ∧
    (pathExists i.2.toString).exec w = (.ok true, w)

lemma Listed.followable {places : List (String × Path)} (h : Listed w p text places) :
    Followable w p := by
  refine ⟨h.web, text, h.reads, fun target htarget _ => ?_⟩
  rw [h.targets] at htarget
  obtain ⟨i, hi, rfl⟩ := mem_map.mp htarget
  exact ⟨i.2, h.leads i hi⟩

lemma Listed.mem_of_imports {places : List (String × Path)}
    (h : Listed w p text places) (hq : Imports w p q) : q ∈ places.map Prod.snd := by
  obtain ⟨text', target, htext, htarget, hplace⟩ := hq
  obtain rfl : text = text' := by simpa using h.reads.symm.trans htext
  rw [h.targets] at htarget
  obtain ⟨i, hi, rfl⟩ := mem_map.mp htarget
  obtain rfl : i.2 = q := by simpa using (h.leads i hi).1.symm.trans hplace
  exact mem_map_of_mem hi

lemma Chain.mem_of_closed {S : List Path} (hS : ∀ p ∈ S, ∀ q, Imports w p q → q ∈ S)
    (h : Chain w k p q) (hp : p ∈ S) : q ∈ S := by
  induction h with
  | refl p => exact hp
  | step hfirst _ ih => exact ih (hS _ hp _ hfirst)

/-- Two scripts that import the same script, one of them importing the other first. -/
def sharedWorld : World :=
  { files :=
      { entries :=
          [(["p"], .dir), (["p", "root.ts"], .file (.text "require('./a') require('./b')") false),
           (["p", "a.ts"], .file (.text "require('./b')") false),
           (["p", "b.ts"], .file (.text "require('./c')") false),
           (["p", "c.ts"], .file (.text "") false)] } }

def script (name : String) : Path := ⟨true, ["p", name]⟩

lemma followable_sharedWorld (h : Chain sharedWorld k (script "root.ts") p) :
    Followable sharedWorld p := by
  have hroot : Listed sharedWorld (script "root.ts") "require('./a') require('./b')"
      [("./a", script "a.ts"), ("./b", script "b.ts")] :=
    ⟨by decide, rfl, by decide +kernel,
      by simp only [forall_mem_cons]; exact ⟨⟨rfl, rfl⟩, ⟨rfl, rfl⟩, by simp⟩⟩
  have ha : Listed sharedWorld (script "a.ts") "require('./b')" [("./b", script "b.ts")] :=
    ⟨by decide, rfl, by decide +kernel, by simp only [forall_mem_cons]; exact ⟨⟨rfl, rfl⟩, by simp⟩⟩
  have hb : Listed sharedWorld (script "b.ts") "require('./c')" [("./c", script "c.ts")] :=
    ⟨by decide, rfl, by decide +kernel, by simp only [forall_mem_cons]; exact ⟨⟨rfl, rfl⟩, by simp⟩⟩
  have hc : Listed sharedWorld (script "c.ts") "" [] := ⟨by decide, rfl, by decide +kernel, by simp⟩
  have hclosed : ∀ p ∈ [script "root.ts", script "a.ts", script "b.ts", script "c.ts"], ∀ q,
      Imports sharedWorld p q →
      q ∈ [script "root.ts", script "a.ts", script "b.ts", script "c.ts"] := by
    simp only [forall_mem_cons]
    refine ⟨fun q hq => ?_, fun q hq => ?_, fun q hq => ?_, fun q hq => ?_, by simp⟩
    · have hmem := hroot.mem_of_imports hq
      simp only [map_cons, map_nil, mem_cons, not_mem_nil, or_false] at hmem ⊢
      tauto
    · have hmem := ha.mem_of_imports hq
      simp only [map_cons, map_nil, mem_cons, not_mem_nil, or_false] at hmem ⊢
      tauto
    · have hmem := hb.mem_of_imports hq
      simp only [map_cons, map_nil, mem_cons, not_mem_nil, or_false] at hmem ⊢
      tauto
    · cases hc.mem_of_imports hq
  have hmem := h.mem_of_closed hclosed mem_cons_self
  simp only [mem_cons, not_mem_nil, or_false] at hmem
  rcases hmem with rfl | rfl | rfl | rfl
  · exact hroot.followable
  · exact ha.followable
  · exact hb.followable
  · exact hc.followable

/-- A file that is met late on one way and early on another is not expanded. -/
theorem shared_import_not_expanded :
    (∀ k p, Chain sharedWorld k (script "root.ts") p → Followable sharedWorld p) ∧
      ∃ t, (trace (script "root.ts") (3 : Nat)).exec sharedWorld = (.ok t, sharedWorld) ∧
        ¬ ∀ name, t.Expands name ↔
          ∃ k < 3, ∃ p, Chain sharedWorld k (script "root.ts") p ∧ p.toString = name := by
  have hall : ∀ k p, Chain sharedWorld k (script "root.ts") p → Followable sharedWorld p :=
    fun _ _ => followable_sharedWorld
  obtain ⟨t, hexec, hsound, hiff⟩ :=
    trace_expands_reachable_iff ⟨rfl, by decide⟩ hall (show 1 ≤ 3 by decide)
  refine ⟨hall, t, hexec, fun hexact => ?_⟩
  have hlevels : t.level 0 = ["/p/root.ts"] ∧ t.level 1 = ["/p/a.ts"] ∧
      t.level 2 = ["/p/b.ts"] := by
    have hrun : ∀ r ∈ ((trace (script "root.ts") (3 : Nat)).exec sharedWorld).1.toOption,
        r.level 0 = ["/p/root.ts"] ∧ r.level 1 = ["/p/a.ts"] ∧ r.level 2 = ["/p/b.ts"] := by
      decide +kernel
    rw [hexec] at hrun
    exact hrun t rfl
  have hb : Imports sharedWorld (script "root.ts") (script "b.ts") :=
    ⟨"require('./a') require('./b')", "./b", rfl, by decide +kernel, rfl⟩
  have hc : Imports sharedWorld (script "b.ts") (script "c.ts") :=
    ⟨"require('./c')", "./c", rfl, by decide +kernel, rfl⟩
  have hlast : (script "b.ts").toString ∈ t.level 2 := by
    rw [hlevels.2.2]
    decide
  obtain ⟨k, hk⟩ :=
    hiff.mp hexact (script "b.ts") hlast ⟨1, by decide, .step hb (.refl _)⟩ (script "c.ts") hc
  obtain ⟨hlt, -⟩ := hsound k _ hk
  have hname : (script "c.ts").toString = "/p/c.ts" := by decide
  rw [hname] at hk
  obtain rfl | rfl | rfl : k = 0 ∨ k = 1 ∨ k = 2 := by omega
  · simp [hlevels.1] at hk
  · simp [hlevels.2.1] at hk
  · simp [hlevels.2.2] at hk

/-! ### The files that are read -/

variable {α β : Type}

/-- A tool that notes the files it reads, in their order.  The notes are kept when it fails. -/
abbrev Noting := ExceptT Fault (StateM (World × List Path))

namespace Noting

/-- A run from a world and what was noted so far. -/
def exec (x : Noting α) (w : World) (reads : List Path) : Result α × World × List Path :=
  x.run (w, reads)

/-- A tool that reads nothing of note. -/
def silently (t : Tool α) : Noting α := ExceptT.mk fun s => ((t.exec s.1).1, (t.exec s.1).2, s.2)

/-- Note a path. -/
def note (p : Path) : Noting Unit := ExceptT.mk fun s => (.ok (), s.1, s.2 ++ [p])

end Noting

/-- The sight of a tool, with a note of each file before it is read. -/
def Sight.noted (s : Sight Tool) : Sight Noting where
  read p := do
    Noting.note p
    Noting.silently (s.read p)
  place p target := Noting.silently (s.place p target)
  there p := Noting.silently (s.there p)

open Noting

variable {reads : List Path} {x : StateT (List Path) Noting α} {t : Tracing α}
    {P : α → List Path → Prop}

lemma Noting.exec_bind (x : Noting α) (f : α → Noting β) (w : World) (reads : List Path) :
    (x >>= f).exec w reads = match x.exec w reads with
      | (.ok a, w', reads') => (f a).exec w' reads'
      | (.error e, w', reads') => (.error e, w', reads') := by
  have hrun : (x >>= f).exec w reads = ExceptT.bindCont f (x.exec w reads).1 (x.exec w reads).2 :=
    rfl
  rw [hrun]
  rcases x.exec w reads with ⟨e | a, w', reads'⟩ <;> rfl

/-- From the files `V` that were visited a run comes to `V'`, and it reads the files `new`. -/
structure Advances (V V' new : List Path) : Prop where
  grows : V ⊆ V'
  distinct : new.Nodup
  fresh : ∀ q ∈ new, q ∉ V
  canonical : ∀ q ∈ new, q.Canonical
  visited : new ⊆ V'

lemma Advances.refl (V : List Path) : Advances V V [] where
  grows := Subset.refl V
  distinct := nodup_nil
  fresh := by simp
  canonical := by simp
  visited := nil_subset V

lemma Advances.trans {V₁ V₂ V₃ new new' : List Path} (h : Advances V₁ V₂ new)
    (h' : Advances V₂ V₃ new') :
    Advances V₁ V₃ (new ++ new') where
  grows := Subset.trans h.grows h'.grows
  distinct := by
    refine nodup_append.mpr ⟨h.distinct, h'.distinct, fun q hq q' hq' heq => ?_⟩
    exact h'.fresh q' hq' (heq ▸ h.visited hq)
  fresh q hq := by
    rcases mem_append.mp hq with hq | hq
    · exact h.fresh q hq
    · exact fun hV => h'.fresh q hq (h.grows hV)
  canonical q hq := by
    rcases mem_append.mp hq with hq | hq
    · exact h.canonical q hq
    · exact h'.canonical q hq
  visited := append_subset.mpr ⟨Subset.trans h.visited h'.grows, h'.visited⟩

lemma Advances.unread {new : List Path} (h : Advances (p :: V) V' new) : Advances V V' new where
  grows := Subset.trans (subset_cons_self p V) h.grows
  distinct := h.distinct
  fresh q hq hV := h.fresh q hq (mem_cons_of_mem p hV)
  canonical := h.canonical
  visited := h.visited

/-- A file that is read was not visited before. -/
lemma Advances.read {new : List Path} (h : Advances (p :: V) V' new) (hp : p ∉ V)
    (hcanonical : p.Canonical) :
    Advances V V' (p :: new) where
  grows := h.unread.grows
  distinct := nodup_cons.mpr ⟨fun hmem => h.fresh p hmem mem_cons_self, h.distinct⟩
  fresh := forall_mem_cons.mpr ⟨hp, h.unread.fresh⟩
  canonical := forall_mem_cons.mpr ⟨hcanonical, h.canonical⟩
  visited := cons_subset.mpr ⟨h.grows mem_cons_self, h.visited⟩

/-- The two tracers do the same, the first one with notes.  No file is read that was visited before,
and none is read twice, also if the run fails.  If it succeeds, its answer and the files that were
read are as told. -/
def Explores (w : World) (x : StateT (List Path) Noting α) (t : Tracing α)
    (P : α → List Path → Prop) : Prop :=
  ∀ V reads, ∃ (r : Result α) (V' new : List Path),
    (x.run V).exec w reads = (r.map (·, V'), w, reads ++ new) ∧
    (t.run V).exec w = (r.map (·, V'), w) ∧ Advances V V' new ∧ ∀ a, r = .ok a → P a new

lemma explores_pure {a : α} (h : P a []) : Explores w (pure a) (pure a) P := by
  intro V reads
  refine ⟨.ok a, V, [], ?_, rfl, .refl V, ?_⟩
  · rw [append_nil]
    rfl
  · rintro b ⟨⟩
    exact h

/-- Two parts of an exploration make up one. -/
lemma Explores.bind {Q : β → List Path → Prop} {f : α → StateT (List Path) Noting β}
    {g : α → Tracing β} (h : Explores w x t P)
    (hf : ∀ a new, P a new → Explores w (f a) (g a) fun b new' => Q b (new ++ new')) :
    Explores w (x >>= f) (t >>= g) Q := by
  intro V reads
  obtain ⟨r, V₁, new, hx, ht, hadvances, hP⟩ := h V reads
  rw [StateT.run_bind, StateT.run_bind, Noting.exec_bind, Tool.exec_bind, hx, ht]
  cases r with
  | error e => exact ⟨.error e, V₁, new, rfl, rfl, hadvances, by simp⟩
  | ok a =>
    obtain ⟨r, V₂, new', hx', ht', hadvances', hQ⟩ := hf a new (hP a rfl) V₁ (reads ++ new)
    refine ⟨r, V₂, new ++ new', ?_, ht', hadvances.trans hadvances', hQ⟩
    rw [← append_assoc]
    exact hx'

lemma explores_lift {t : Tool α} (ht : ∃ r, t.exec w = (r, w))
    (hP : ∀ a, t.exec w = (.ok a, w) → P a []) :
    Explores w (liftM (silently t)) (liftM t) P := by
  intro V reads
  obtain ⟨r, hr⟩ := ht
  have hx : ((liftM (silently t) : StateT (List Path) Noting α).run V).exec w reads =
      (r.map (·, V), w, reads) := by
    have hsilent : (silently t).exec w reads = (r, w, reads) := by
      show ((t.exec w).1, (t.exec w).2, reads) = _
      rw [hr]
    show (silently t >>= fun a => pure (a, V)).exec w reads = _
    rw [Noting.exec_bind, hsilent]
    cases r <;> rfl
  have ht : ((liftM t : Tracing α).run V).exec w = (r.map (·, V), w) := by
    show (t >>= fun a => pure (a, V)).exec w = _
    rw [Tool.exec_bind, hr]
    cases r <;> rfl
  refine ⟨r, V, [], by rw [append_nil, hx], ht, .refl V, ?_⟩
  rintro a rfl
  exact hP a hr

/-! ### What a trace expands -/

mutual

/-- The files of a trace. -/
def Trace.names : Trace → List String
  | .cut => []
  | .file name imports _ => name :: namesIn imports
termination_by structural x => x

def namesIn : List (String × Trace) → List String
  | [] => []
  | (_, t) :: rest => t.names ++ namesIn rest
termination_by structural x => x

end

mutual

/-- How many levels a trace has. -/
def Trace.height : Trace → Nat
  | .cut => 0
  | .file _ imports _ => heightIn imports + 1
termination_by structural x => x

def heightIn : List (String × Trace) → Nat
  | [] => 0
  | (_, t) :: rest => max t.height (heightIn rest)
termination_by structural x => x

end

/-- What is expanded was read, in the same order. -/
structure Expanded (n : Nat) (names : List String) (height : Nat) (new : List Path) : Prop where
  shown : ∃ ps, ps <+ new ∧ names = ps.map Path.toString
  height_le : height ≤ n

lemma Expanded.nil (n : Nat) (new : List Path) : Expanded n [] 0 new :=
  ⟨⟨[], nil_sublist new, rfl⟩, Nat.zero_le n⟩

lemma Expanded.append {names names' : List String} {h h' : Nat} {new new' : List Path}
    (hx : Expanded n names h new) (hx' : Expanded n names' h' new') :
    Expanded n (names ++ names') (max h h') (new ++ new') := by
  obtain ⟨⟨ps, hps, rfl⟩, hh⟩ := hx
  obtain ⟨⟨ps', hps', rfl⟩, hh'⟩ := hx'
  exact ⟨⟨ps ++ ps', hps.append hps', by simp⟩, Nat.max_le.mpr ⟨hh, hh'⟩⟩

lemma Expanded.cons {names : List String} {h : Nat} {new : List Path}
    (hx : Expanded n names h new) (p : Path) :
    Expanded (n + 1) (p.toString :: names) (h + 1) (p :: new) := by
  obtain ⟨⟨ps, hps, rfl⟩, hh⟩ := hx
  exact ⟨⟨p :: ps, hps.cons_cons p, rfl⟩, Nat.succ_le_succ hh⟩

/-! ### One file -/

lemma exec_placeOfImport (w : World) (p : Path) (target : String) :
    ∃ r, (placeOfImport p target).exec w = (r, w) := by
  cases hrelative : startsWith target "." with
  | false =>
    rw [placeOfImport, hrelative]
    exact ⟨.ok none, rfl⟩
  | true =>
    obtain ⟨r, hr, -⟩ := exec_findM?_pathExists w (candidates (aimed w p target))
    refine ⟨r.map fun found => some (found.getD (aimed w p target)), ?_⟩
    rw [exec_placeOfImport_relative hrelative, Tool.exec_bind, hr]
    cases r <;> rfl

lemma exec_textOf? (w : World) (p : Path) : ∃ r, (textOf? p).exec w = (r, w) := by
  obtain ⟨there, hthere⟩ := exec_pathExists p.toString w
  have hread : ∃ r, (some <$> readText p.toString).exec w = (r, w) := by
    rw [exec_map, exec_readText_eq]
    exact ⟨_, rfl⟩
  obtain ⟨r, hr⟩ := hread
  rw [textOf?, Tool.exec_bind, hthere]
  rcases there with e | _ | _
  · exact ⟨.error e, rfl⟩
  · exact ⟨.ok none, rfl⟩
  · show ∃ r, (guarded (some <$> readText p.toString) (fun e => !e.isExit) fun _ =>
      return none).exec w = (r, w)
    rw [exec_guarded, hr]
    rcases r with e | a
    · dsimp only
      split_ifs <;> exact ⟨_, rfl⟩
    · exact ⟨_, rfl⟩

lemma run_traceFrom_succ {m : Type → Type} [Monad m] [LawfulMonad m] (s : Sight m)
    (n : Nat) (p : Path) (V : List Path) :
    (traceFrom s (n + 1) p).run V = if V.contains p then pure (.cut, V)
      else s.read p >>= fun text => (expand s (traceFrom s n) p text).run (p :: V) := by
  rw [traceFrom]
  simp only [StateT.run_bind, StateT.run_get, pure_bind]
  split_ifs
  · rfl
  · simp [StateT.run_bind]

/-- Every trace of a file to depth `n` is explored. -/
def TracesNoted (w : World) (n : Nat) (p : Path) : Prop :=
  Explores w (traceFrom (.noted .files) n p) (traceFrom .files n p) fun t new =>
    Expanded n t.names t.height new

lemma explores_follow (hp : p.Canonical) (htraces : ∀ q, q.Canonical → TracesNoted w n q)
    (target : String) :
    Explores w (follow (.noted .files) (traceFrom (.noted .files) n) p target)
      (follow .files (traceFrom .files n) p target)
      fun step new =>
        Expanded n (namesIn step.getLeft?.toList) (heightIn step.getLeft?.toList) new := by
  refine (explores_lift (t := Sight.files.place p target) (exec_placeOfImport w p target)
    (P := fun found new => new = [] ∧ ∀ q, found = some q → q.Canonical) ?_).bind ?_
  · rintro found hfound
    refine ⟨rfl, ?_⟩
    rintro q rfl
    exact canonical_of_placeOfImport hfound hp
  · rintro found _ ⟨rfl, hcanonical⟩
    cases found with
    | none => exact explores_pure (.nil n _)
    | some q =>
      refine (explores_lift (t := Sight.files.there q) (exec_pathExists q.toString w)
        (P := fun _ new => new = [])
        fun _ _ => rfl).bind ?_
      rintro there _ rfl
      cases there with
      | false => exact explores_pure (.nil n _)
      | true =>
        refine (htraces q (hcanonical q rfl)).bind fun t new ht => explores_pure ?_
        simpa [namesIn, heightIn] using ht

lemma namesIn_append (xs ys : List (String × Trace)) :
    namesIn (xs ++ ys) = namesIn xs ++ namesIn ys := by
  induction xs with
  | nil => rfl
  | cons x xs ih => simp [namesIn, ih]

lemma heightIn_append (xs ys : List (String × Trace)) :
    heightIn (xs ++ ys) = max (heightIn xs) (heightIn ys) := by
  induction xs with
  | nil => simp [heightIn]
  | cons x xs ih => simp [heightIn, ih, Nat.max_assoc]

lemma explores_follows (hp : p.Canonical) (htraces : ∀ q, q.Canonical → TracesNoted w n q)
    (targets : List String) :
    Explores w (targets.mapM (follow (.noted .files) (traceFrom (.noted .files) n) p))
      (targets.mapM (follow .files (traceFrom .files n) p)) fun steps new =>
        Expanded n (namesIn (steps.filterMap Sum.getLeft?))
          (heightIn (steps.filterMap Sum.getLeft?)) new := by
  induction targets with
  | nil => exact explores_pure (.nil n _)
  | cons target targets ih =>
    rw [mapM_cons, mapM_cons]
    refine (explores_follow hp htraces target).bind fun step new hstep =>
      ih.bind fun steps new' hsteps => explores_pure ?_
    have hparts : (step :: steps).filterMap Sum.getLeft? = step.getLeft?.toList ++
        steps.filterMap Sum.getLeft? := by
      cases step <;> rfl
    rw [hparts, namesIn_append, heightIn_append, append_nil]
    exact hstep.append hsteps

lemma explores_expand (hp : p.Canonical) (htraces : ∀ q, q.Canonical → TracesNoted w n q)
    (text : Option String) :
    Explores w (expand (.noted .files) (traceFrom (.noted .files) n) p text)
      (expand .files (traceFrom .files n) p text)
      fun t new => Expanded (n + 1) t.names t.height (p :: new) := by
  rw [expand, expand]
  cases text.bind (importsOf? p.suffix) with
  | none => exact explores_pure (.nil (n + 1) _)
  | some targets =>
    refine (explores_follows hp htraces targets).bind fun steps new hsteps => explores_pure ?_
    rw [append_nil]
    exact hsteps.cons p

/-- A trace that notes what it reads gives the same answer and notes no path twice. -/
theorem tracesNoted (n : Nat) (hp : p.Canonical) : TracesNoted w n p := by
  induction n generalizing p with
  | zero => exact explores_pure (.nil 0 _)
  | succ n ih =>
    intro V reads
    rw [run_traceFrom_succ, run_traceFrom_succ]
    split_ifs with hvisited
    · refine ⟨.ok .cut, V, [], by rw [append_nil]; rfl, rfl, .refl V, ?_⟩
      rintro t ⟨⟩
      exact .nil (n + 1) _
    have hnew : p ∉ V := by simpa using hvisited
    obtain ⟨r, hread⟩ := exec_textOf? w p
    have hnoted : ((Sight.noted .files).read p).exec w reads = (r, w, reads ++ [p]) := by
      show (((textOf? p).exec w).1, ((textOf? p).exec w).2, reads ++ [p]) = _
      rw [hread]
    replace hread : (Sight.files.read p).exec w = (r, w) := hread
    rw [Tool.exec_bind, Noting.exec_bind, hread, hnoted]
    rcases r with e | text
    · -- nothing was expanded, and just this file was read
      exact ⟨.error e, p :: V, [p], rfl, rfl, (Advances.refl _).read hnew hp, by simp⟩
    · obtain ⟨r, V', new, hx, ht, hadvances, hP⟩ :=
        explores_expand hp (fun q hq => ih hq) text (p :: V) (reads ++ [p])
      refine ⟨r, V', p :: new, ?_, ht, hadvances.read hnew hp, hP⟩
      rw [← singleton_append (l := new), ← append_assoc]
      exact hx

/-- A trace ends, and it changes nothing.  With a note of each file before it is read, the same
trace notes no file twice, also if it fails.  The files that it expands are distinct ones, all of
them read, and stand in one another at most as deep as asked for. -/
theorem trace_reads_each_file_once (w : World) {root : Path} (hroot : root.Canonical)
    (depth : Int) :
    ∃ r reads, (trace root depth).exec w = (r, w) ∧
      (traceBy (.noted .files) root depth).exec w [] = (r, w, reads) ∧ reads.Nodup ∧
      ∀ t, r = .ok t → t.names.Nodup ∧ t.names ⊆ reads.map Path.toString ∧
        (t.height : Int) ≤ max depth 0 := by
  obtain ⟨r, V', new, hx, ht, hadvances, hP⟩ := tracesNoted (w := w) depth.toNat hroot [] []
  refine ⟨r, new, ?_, ?_, hadvances.distinct, fun t hr => ?_⟩
  · rw [trace, traceBy, Tool.exec_bind, ht]
    cases r <;> rfl
  · rw [traceBy, Noting.exec_bind, hx]
    cases r <;> rfl
  · obtain ⟨⟨ps, hps, hnames⟩, hheight⟩ := hP t hr
    rw [hnames]
    refine ⟨?_, map_subset _ hps.subset, by omega⟩
    refine Nodup.map_on (fun q hq q' hq' heq => ?_) (hadvances.distinct.sublist hps)
    exact (hadvances.canonical q (hps.subset hq)).eq_of_toString_eq
      (hadvances.canonical q' (hps.subset hq')) heq

/-- Scripts that import themselves, one another, a directory and a file that is missing. -/
def cyclicWorld : World :=
  { files :=
      { entries :=
          [(["p"], .dir), (["p", "a.ts"], .file (.text "require('./a') require('./b')") false),
           (["p", "b.ts"], .file (.text "require('./a') require('./d') require('./x')") false),
           (["p", "d.ts"], .dir)] } }

/-- Two files that import each other are read once each. -/
theorem trace_of_cycle : ∃ t, (trace (script "a.ts") 500).exec cyclicWorld = (.ok t, cyclicWorld) ∧
    (traceBy (.noted .files) (script "a.ts") 500).exec cyclicWorld [] =
      (.ok t, cyclicWorld, [script "a.ts", script "b.ts", script "d.ts"]) ∧
    t.names = ["/p/a.ts", "/p/b.ts"] ∧ t.names.Nodup := by
  obtain ⟨r, reads, hexec, hnoted, -, hP⟩ :=
    trace_reads_each_file_once cyclicWorld
      (show (script "a.ts").Canonical from ⟨rfl, by decide⟩) 500
  have hrun : (fun x : Result Trace × World × List Path => (x.1.toOption.map Trace.names, x.2.2))
      ((traceBy (.noted .files) (script "a.ts") 500).exec cyclicWorld []) =
        (some ["/p/a.ts", "/p/b.ts"], [script "a.ts", script "b.ts", script "d.ts"]) := by
          decide +kernel
  rw [hnoted] at hrun
  obtain ⟨hnames, hreads⟩ := Prod.mk.inj hrun
  rcases r with e | t
  · cases hnames
  · obtain rfl : reads = _ := hreads
    exact ⟨t, hexec, hnoted, Option.some.inj hnames, (hP t rfl).1⟩

end Workbench.Codebase
