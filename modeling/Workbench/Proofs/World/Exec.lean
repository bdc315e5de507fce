import Mathlib.Data.List.Forall2
import Workbench.Proofs.World.Tree
import Workbench.World.Memory

/-!
# Running tools

What a tool answers and which world it leaves, for the operations that read, write and remove files.
-/

namespace Workbench

lemma exists_of_bind_ok {α β : Type} {x : Result α} {f : α → Result β} {b : β}
    (h : x >>= f = .ok b) :
    ∃ a, x = .ok a ∧ f a = .ok b := by
  cases x with
  | error e => cases h
  | ok a => exact ⟨a, rfl, h⟩

lemma mapM_eq_ok_iff {α β ε : Type} {f : α → Except ε β} {xs : List α} {ys : List β} :
    xs.mapM f = .ok ys ↔ List.Forall₂ (fun x y => f x = .ok y) xs ys := by
  induction xs generalizing ys with
  | nil => cases ys <;> simp [pure, Except.pure]
  | cons x xs ih =>
    rw [List.mapM_cons]
    cases hx : f x with
    | error e => cases ys <;> simp [bind, Except.bind, hx]
    | ok y =>
      cases hxs : xs.mapM f with
      | error e => cases ys <;> simp [bind, Except.bind, hx, ← ih, hxs]
      | ok zs => cases ys <;> simp [bind, Except.bind, pure, Except.pure, hx, ← ih, hxs]

lemma exists_mapM_ok_iff {α β ε : Type} {f : α → Except ε β} {xs : List α} :
    (∃ ys, xs.mapM f = .ok ys) ↔ ∀ x ∈ xs, ∃ y, f x = .ok y := by
  simp only [mapM_eq_ok_iff]
  induction xs with
  | nil => simp
  | cons x xs ih =>
    simp only [List.forall₂_cons_left_iff, List.forall_mem_cons, ← ih]
    constructor
    · rintro ⟨_, y, ys, hy, hys, -⟩
      exact ⟨⟨y, hy⟩, ys, hys⟩
    · rintro ⟨⟨y, hy⟩, ys, hys⟩
      exact ⟨y :: ys, y, ys, hy, hys, rfl⟩

lemma mem_mapM_ok_iff {α β ε : Type} {f : α → Except ε β} {xs : List α} {ys : List β}
    (h : xs.mapM f = .ok ys) {y : β} :
    y ∈ ys ↔ ∃ x ∈ xs, f x = .ok y := by
  have hall := mapM_eq_ok_iff.mp h
  clear h
  induction hall with
  | nil => simp
  | cons hx _ ih => simp [hx, ih, eq_comm (a := y)]

lemma filterM_eq_ok_iff {α ε : Type} {f : α → Except ε Bool} {xs ys : List α} :
    xs.filterM f = .ok ys ↔
      (∀ x ∈ xs, ∃ b, f x = .ok b) ∧ ys = xs.filter fun x => (f x).toOption.getD false := by
  have hloop : ∀ acc zs, xs.filterAuxM f acc = .ok zs ↔ (∀ x ∈ xs, ∃ b, f x = .ok b) ∧
      zs = (xs.filter fun x => (f x).toOption.getD false).reverse ++ acc := by
    induction xs with
    | nil => simp [List.filterAuxM, pure, Except.pure, eq_comm]
    | cons x xs ih =>
      intro acc zs
      rw [List.filterAuxM]
      cases hx : f x with
      | error e => simp [bind, Except.bind, hx]
      | ok b => cases b <;> simp [bind, Except.bind, hx, ih, Except.toOption]
  rw [List.filterM]
  cases haux : xs.filterAuxM f [] with
  | error e =>
    simp only [bind, Except.bind, reduceCtorEq, false_iff]
    rintro ⟨hall, -⟩
    cases haux.symm.trans ((hloop [] _).mpr ⟨hall, rfl⟩)
  | ok zs =>
    obtain ⟨hall, rfl⟩ := (hloop [] zs).mp haux
    simp only [bind, Except.bind, pure, Except.pure, List.append_nil, List.reverse_reverse,
      Except.ok.injEq]
    exact ⟨fun h => ⟨hall, h.symm⟩, fun h => h.2.symm⟩

end Workbench

namespace Workbench.Tool

variable {α β : Type}
variable {t : Tool α} {w w' : World}

/-! ### Steps -/

@[simp]
lemma exec_pure (a : α) (w : World) : (pure a : Tool α).exec w = (.ok a, w) := rfl

@[simp]
lemma exec_throw (e : Fault) (w : World) : (throw e : Tool α).exec w = (.error e, w) := rfl

@[simp]
lemma exec_get (w : World) : (get : Tool World).exec w = (.ok w, w) := rfl

@[simp]
lemma exec_modify (f : World → World) (w : World) :
    (modify f : Tool PUnit).exec w = (.ok ⟨⟩, f w) := rfl

lemma exec_say (s : String) (w : World) :
    (say s).exec w = (.ok (), { w with out := w.out ++ (s ++ "\n") }) := rfl

lemma exec_now (w : World) : now.exec w = (.ok w.now, w) := rfl

@[simp]
lemma exec_lift (x : Result α) (w : World) : (liftM x : Tool α).exec w = (x, w) := by
  cases x <;> rfl

lemma exec_lift_ok {x : Result α} {a : α} (h : x = .ok a) (w : World) :
    (liftM x : Tool α).exec w = (.ok a, w) := by
  rw [exec_lift, h]

lemma exec_lift_error {x : Result α} {e : Fault} (h : x = .error e) (w : World) :
    (liftM x : Tool α).exec w = (.error e, w) := by
  rw [exec_lift, h]

/-- A run goes on with what the first part answers. -/
lemma exec_bind_ok {a : α} (h : t.exec w = (.ok a, w')) (f : α → Tool β) :
    (t >>= f).exec w = (f a).exec w' := by
  have hrun : (t >>= f).exec w = (ExceptT.bindCont f (t.exec w).1) (t.exec w).2 := rfl
  rw [hrun, h]
  rfl

/-- A run stops where its first part fails. -/
lemma exec_bind_error {e : Fault} (h : t.exec w = (.error e, w')) (f : α → Tool β) :
    (t >>= f).exec w = (.error e, w') := by
  have hrun : (t >>= f).exec w = (ExceptT.bindCont f (t.exec w).1) (t.exec w).2 := rfl
  rw [hrun, h]
  rfl

lemma exec_bind (t : Tool α) (f : α → Tool β) (w : World) : (t >>= f).exec w = match t.exec w with
      | (.ok a, w') => (f a).exec w'
      | (.error e, w') => (.error e, w') := by
  rcases h : t.exec w with ⟨e | a, w'⟩
  · exact exec_bind_error h f
  · exact exec_bind_ok h f

lemma exec_map (f : α → β) (t : Tool α) (w : World) :
    (f <$> t).exec w = ((t.exec w).1.map f, (t.exec w).2) := by
  rw [← bind_pure_comp, exec_bind]
  rcases t.exec w with ⟨e | a, w'⟩ <;> rfl

lemma exec_tryCatch (t : Tool α) (handler : Fault → Tool α) (w : World) :
    (tryCatch t handler).exec w = match t.exec w with
      | (.ok a, w') => (.ok a, w')
      | (.error e, w') => (handler e).exec w' := by
  have hrun : (tryCatch t handler).exec w = (ExceptT.tryCatch t handler) w := rfl
  rw [hrun, ExceptT.tryCatch, ExceptT.mk, bind, Monad.toBind, StateT.instMonad]
  dsimp only [StateT.bind]
  rcases h : t.exec w with ⟨e | a, w'⟩
  · rw [show t w = (.error e, w') from h]
    rfl
  · rw [show t w = (.ok a, w') from h]
    rfl

/-- A handler takes over where its faults occur. -/
lemma exec_guarded (t : Tool α) (handles : Fault → Bool) (handler : Fault → Tool α) (w : World) :
    (guarded t handles handler).exec w = match t.exec w with
      | (.ok a, w') => (.ok a, w')
      | (.error e, w') => if handles e then (handler e).exec w' else (.error e, w') := by
  rw [guarded, exec_tryCatch]
  rcases t.exec w with ⟨e | a, w'⟩
  · dsimp only
    split_ifs <;> rfl
  · rfl

lemma exec_guarded_ok {a : α} (h : t.exec w = (.ok a, w')) (handles : Fault → Bool)
    (handler : Fault → Tool α) : (guarded t handles handler).exec w = (.ok a, w') := by
  rw [exec_guarded, h]

lemma exec_eq_of_toOption {a : α} (h : (t.exec w).1.toOption = some a) :
    t.exec w = (.ok a, (t.exec w).2) := by
  rcases hexec : t.exec w with ⟨e | b, w'⟩ <;> rw [hexec] at h
  · cases h
  · rw [Option.some.inj h]

lemma exists_of_any {test : α → Bool} (h : (t.exec w).1.toOption.any test = true) :
    ∃ a w', t.exec w = (.ok a, w') ∧ test a = true := by
  rcases hexec : t.exec w with ⟨e | a, w'⟩ <;> rw [hexec] at h
  · cases h
  · exact ⟨a, w', rfl, h⟩

end Workbench.Tool

/-! ### Paths in a world -/

namespace Workbench.World

/-- The place that a path aims at. -/
def place (w : World) (raw : String) : Place := w.files.aim w.cwd raw

/-- The file that a path aims at. -/
def file? (w : World) (raw : String) : Option Content := w.files.file? (w.place raw)

/-- A path that can be followed to its place. -/
structure Reaches (w : World) (raw : String) : Prop where
  plain : Char.ofNat 0 ∉ raw.toList
  leads : w.files.locate w.cwd raw = .ok (w.place raw)

lemma place_files {w : World} {t : Files} (h : t.links = w.files.links) (raw : String) :
    ({ w with files := t } : World).place raw = w.place raw :=
  Files.aim_congr h w.cwd raw

/-- New directories do not get in the way of a path. -/
lemma Reaches.grows {w : World} {raw : String} (h : w.Reaches raw) {t : Files}
    (hg : w.files.Grows t) :
    ({ w with files := t } : World).Reaches raw where
  plain := h.plain
  leads := by
    rw [place_files hg.links]
    exact hg.locate h.leads

/-- Directories may have been added, nothing else. -/
def Gains (w w' : World) : Prop :=
  ∃ t, w' = { w with files := t } ∧ w.files.Grows t ∧ ∀ q, t.file? q = w.files.file? q

lemma Gains.refl (w : World) : w.Gains w := ⟨w.files, rfl, .refl _, fun _ => rfl⟩

lemma Gains.trans {w w' w'' : World} (h : w.Gains w') (h' : w'.Gains w'') : w.Gains w'' := by
  obtain ⟨t, rfl, hgrows, hfiles⟩ := h
  obtain ⟨t', rfl, hgrows', hfiles'⟩ := h'
  exact ⟨t', rfl, hgrows.trans hgrows', fun q => (hfiles' q).trans (hfiles q)⟩

end Workbench.World

namespace Workbench.Tool

variable {α : Type} {raw : String} {w : World} {c : Content}

/-! ### Reading -/

lemma exec_onFile (raw : String) (f : Files → Place → Except FileError α) (w : World) :
    (∃ e, (onFile raw f).exec w = (.error e, w)) ∨
      ∃ a, (onFile raw f).exec w = (.ok a, w) ∧ Char.ofNat 0 ∉ raw.toList ∧
        f w.files w.cwd = .ok a := by
  rw [onFile, exec_bind_ok (exec_get w)]
  by_cases hraw : Char.ofNat 0 ∈ raw.toList
  · exact Or.inl ⟨.invalid "embedded null byte", by simp [hraw]⟩
  · cases hf : f w.files w.cwd with
    | error e => exact Or.inl ⟨.file e raw, by simp [hraw]⟩
    | ok a => exact Or.inr ⟨a, by simp [hraw], hraw, rfl⟩

lemma exec_onFile_ok {f : Files → Place → Except FileError α} {a : α}
    (hraw : Char.ofNat 0 ∉ raw.toList) (hf : f w.files w.cwd = .ok a) :
    (onFile raw f).exec w = (.ok a, w) := by
  rw [onFile, exec_bind_ok (exec_get w)]
  simp [hraw, hf]

lemma exec_readText_eq (raw : String) (w : World) : (readText raw).exec w =
      ((if Char.ofNat 0 ∈ raw.toList then .error (.invalid "embedded null byte")
        else match w.files.read w.cwd raw with
          | .ok c => decodeText c
          | .error e => .error (.file e raw)), w) := by
  rw [readText]
  by_cases hnull : Char.ofNat 0 ∈ raw.toList
  · have hfails : (onFile raw fun t cwd => t.read cwd raw).exec w =
        (.error (.invalid "embedded null byte"), w) := by
      rw [onFile, exec_bind_ok (exec_get w)]
      simp [hnull]
    rw [if_pos hnull, exec_bind_error hfails]
  rw [if_neg hnull]
  cases hread : w.files.read w.cwd raw with
  | ok c => rw [exec_bind_ok (exec_onFile_ok hnull hread), exec_lift]
  | error e =>
    have hfails : (onFile raw fun t cwd => t.read cwd raw).exec w = (.error (.file e raw), w) := by
      rw [onFile, exec_bind_ok (exec_get w)]
      simp [hnull, hread]
    rw [exec_bind_error hfails]

/-- A file is read if it is there and can be decoded, and nothing changes. -/
theorem exec_readText (raw : String) (w : World) : (∃ e, (readText raw).exec w = (.error e, w)) ∨
      ∃ s c, (readText raw).exec w = (.ok s, w) ∧ w.Reaches raw ∧ w.file? raw = some c ∧
        decodeText c = .ok s := by
  rw [readText]
  rcases exec_onFile raw (fun t cwd => t.read cwd raw) w with ⟨e, he⟩ | ⟨c, hc, hraw, hread⟩
  · exact Or.inl ⟨e, exec_bind_error he _⟩
  · rw [exec_bind_ok hc, exec_lift]
    obtain ⟨hleads, hcontent⟩ := Files.read_eq_ok_iff.mp hread
    cases hs : decodeText c with
    | error e => exact Or.inl ⟨e, rfl⟩
    | ok s => exact Or.inr ⟨s, c, rfl, ⟨hraw, hleads⟩, hcontent, hs⟩

/-- A file that is there is read. -/
theorem exec_readText_ok {s : String} (hraw : w.Reaches raw)
    (hc : w.file? raw = some c) (hs : decodeText c = .ok s) :
    (readText raw).exec w = (.ok s, w) := by
  have hread : w.files.read w.cwd raw = .ok c := Files.read_eq_ok_iff.mpr ⟨hraw.leads, hc⟩
  rw [readText, exec_bind_ok (exec_onFile_ok hraw.plain hread), exec_lift, hs]

lemma exec_nodeAt (raw : String) (w : World) :
    (nodeAt raw).exec w = ((if Char.ofNat 0 ∈ raw.toList then .ok none
        else match w.files.stat w.cwd raw with
          | .ok n => .ok (some n)
          | .error .nameTooLong => .error (.file .nameTooLong raw)
          | .error _ => .ok none), w) := by
  rw [nodeAt, exec_bind_ok (exec_get w)]
  by_cases hraw : Char.ofNat 0 ∈ raw.toList
  · simp [hraw]
  · rcases w.files.stat w.cwd raw with e | n
    · cases e <;> simp [hraw]
    · simp [hraw]

lemma exec_pathExists (raw : String) (w : World) : ∃ r, (pathExists raw).exec w = (r, w) := by
  obtain ⟨r, hr⟩ : ∃ r, (nodeAt raw).exec w = (r, w) := ⟨_, exec_nodeAt raw w⟩
  rw [pathExists, exec_bind, hr]
  cases r <;> exact ⟨_, rfl⟩

lemma exec_pathExists_of_file? (hraw : w.Reaches raw)
    (hc : w.file? raw = some c) : (pathExists raw).exec w = (.ok true, w) := by
  obtain ⟨x, hnode⟩ := Files.node?_of_file? hc
  have hstat : w.files.stat w.cwd raw = .ok (.file c x) :=
    Files.stat_eq_ok_iff.mpr ⟨hraw.leads, hnode⟩
  have hat : (nodeAt raw).exec w = (.ok (some (.file c x)), w) := by
    rw [exec_nodeAt, if_neg hraw.plain, hstat]
  rw [pathExists, exec_bind_ok hat]
  rfl

lemma exec_pathExists_of_none (hraw : w.Reaches raw)
    (hnone : w.files.node? (w.place raw) = none) : (pathExists raw).exec w = (.ok false, w) := by
  have hstat : w.files.stat w.cwd raw = .error .missing := by
    simp [Files.stat, hraw.leads, hnone, bind, Except.bind]
  have hat : (nodeAt raw).exec w = (.ok none, w) := by
    rw [exec_nodeAt, if_neg hraw.plain, hstat]
  rw [pathExists, exec_bind_ok hat]
  rfl

/-! ### Writing -/

/-- Writing fails without a trace or sets one file. -/
theorem exec_writeText (raw s : String) (w : World) :
    (∃ e, (writeText raw s).exec w = (.error e, w)) ∨
      ∃ t, (writeText raw s).exec w = (.ok (), { w with files := t }) ∧ w.Reaches raw ∧
        w.files.Sets t (w.place raw) (some (.text s)) := by
  rw [writeText]
  rcases exec_onFile raw (fun t cwd => t.write cwd raw (.text s)) w with
    ⟨e, he⟩ | ⟨t, ht, hraw, hwrite⟩
  · exact Or.inl ⟨e, exec_bind_error he _⟩
  · obtain ⟨hleads, hsets⟩ := Files.sets_of_write hwrite
    exact Or.inr ⟨t, by rw [exec_bind_ok ht, exec_modify], ⟨hraw, hleads⟩, hsets⟩

/-- Writing succeeds where the path leads to a file, or to nothing in a directory. -/
theorem exec_writeText_ok (hraw : w.Reaches raw)
    (hfree : w.files.node? (w.place raw) ≠ some .dir)
    (hparent : w.files.node? (w.place raw).dropLast = some .dir) (s : String) :
    ∃ t, (writeText raw s).exec w = (.ok (), { w with files := t }) ∧
      w.files.Sets t (w.place raw) (some (.text s)) := by
  obtain ⟨t, ht⟩ := Files.exists_write hraw.leads hfree hparent (.text s)
  refine ⟨t, ?_, (Files.sets_of_write ht).2⟩
  rw [writeText, exec_bind_ok (exec_onFile_ok hraw.plain ht), exec_modify]

/-- A file that is there can be written. -/
theorem exec_writeText_of_file? (hraw : w.Reaches raw) (hc : w.file? raw = some c) (s : String) :
    ∃ t, (writeText raw s).exec w = (.ok (), { w with files := t }) ∧
      w.files.Sets t (w.place raw) (some (.text s)) := by
  obtain ⟨x, hnode⟩ := Files.node?_of_file? hc
  have hwrite : w.files.write w.cwd raw (.text s) =
      .ok (w.files.put (w.place raw) (.file (.text s) x)) := by
    simp [Files.write, hraw.leads, hnode, bind, Except.bind]
  refine ⟨_, ?_, (Files.sets_of_write hwrite).2⟩
  rw [writeText, exec_bind_ok (exec_onFile_ok hraw.plain hwrite), exec_modify]

/-! ### Making directories -/

/-- The tool adds directories at most. -/
def MakesDirs {α : Type} (t : Tool α) : Prop := ∀ w : World, w.Gains (t.exec w).2

lemma makesDirs_pure (a : α) : MakesDirs (pure a : Tool α) := fun w => .refl w

lemma makesDirs_throw (e : Fault) : MakesDirs (throw e : Tool α) := fun w => .refl w

lemma makesDirs_bind {β : Type} {t : Tool α} {f : α → Tool β} (ht : MakesDirs t)
    (hf : ∀ a, MakesDirs (f a)) :
    MakesDirs (t >>= f) := by
  intro w
  have hfirst := ht w
  rw [exec_bind]
  rcases h : t.exec w with ⟨e | a, w'⟩
  · rwa [h] at hfirst
  · rw [h] at hfirst
    exact hfirst.trans (hf a w')

lemma makesDirs_unless (b : Bool) (e : Fault) :
    MakesDirs (if b then pure () else throw e : Tool Unit) := by
  cases b
  · exact makesDirs_throw e
  · exact makesDirs_pure ()

lemma makesDirs_isDir (raw : String) : MakesDirs (isDir raw) := by
  refine makesDirs_bind (fun w => ?_) fun n => makesDirs_pure _
  rw [exec_nodeAt]
  exact .refl w

lemma gains_mkdir {t : Files} (h : w.files.mkdir w.cwd raw = .ok t) :
    w.Gains { w with files := t } :=
  ⟨t, rfl, (Files.grows_of_mkdir h).1, (Files.grows_of_mkdir h).2⟩

lemma makesDirs_makeDir (raw : String) (quiet : Bool) : MakesDirs (makeDir raw quiet) := by
  intro w
  rw [makeDir, exec_bind_ok (exec_get w)]
  cases h : w.files.mkdir w.cwd raw with
  | ok t => exact gains_mkdir h
  | error e => exact makesDirs_bind (makesDirs_isDir raw) (fun b => makesDirs_unless _ _) w

lemma makesDirs_makeDirs (fuel : Nat) (p : Path) : MakesDirs (makeDirs fuel p) := by
  induction fuel generalizing p with
  | zero => exact makesDirs_makeDir _ _
  | succ fuel ih =>
    intro w
    rw [makeDirs, exec_bind_ok (exec_get w)]
    cases h : w.files.mkdir w.cwd p.toString with
    | ok t => exact gains_mkdir h
    | error e =>
      have hother : w.Gains ((do
          let b ← isDir p.toString
          if b then pure () else throw (.file e p.toString) : Tool Unit).exec w).2 :=
        makesDirs_bind (makesDirs_isDir _) (fun b => makesDirs_unless b _) w
      cases e with
      | missing => exact makesDirs_bind (ih p.parent) (fun _ => makesDirs_makeDir _ _) w
      | _ => exact hother

/-- Making a path makes directories only. -/
theorem makesDirs_makePath (p : Path) : MakesDirs (makePath p) := makesDirs_makeDirs _ p

lemma mkdir_and_isDir_of_dir (hplain : Char.ofNat 0 ∉ raw.toList)
    (hdir : w.files.stat w.cwd raw = .ok .dir) :
    w.files.mkdir w.cwd raw = .error .exists ∧ (isDir raw).exec w = (.ok true, w) := by
  obtain ⟨hlocate, hnode⟩ := Files.stat_eq_ok_iff.mp hdir
  have hat : (nodeAt raw).exec w = (.ok (some .dir), w) := by
    rw [exec_nodeAt, if_neg hplain, hdir]
  refine ⟨?_, by rw [isDir, exec_bind_ok hat, exec_pure]⟩
  simp [Files.mkdir, hlocate, hnode, bind, Except.bind]

/-- A directory that is there is not made again. -/
theorem exec_makeDir_of_dir (hplain : Char.ofNat 0 ∉ raw.toList)
    (hdir : w.files.stat w.cwd raw = .ok .dir) : (makeDir raw true).exec w = (.ok (), w) := by
  obtain ⟨hmkdir, his⟩ := mkdir_and_isDir_of_dir hplain hdir
  rw [makeDir, exec_bind_ok (exec_get w), hmkdir]
  exact exec_bind_ok his _

/-! ### Documents -/

lemma exec_renderJson (l : Json.Layout) (v : Value) (w : World) : (renderJson l v).exec w =
      ((match Json.render (jsonLayout w l) v with
        | .ok s => .ok s
        | .error e => .error (writeFault e)), w) := by
  rw [renderJson, exec_bind_ok (exec_get w)]
  cases Json.render (jsonLayout w l) v <;> rfl

lemma exec_dumpJson {v : Value} {s : String} (h : Json.render (jsonLayout w .indented) v = .ok s)
    (raw : String) :
    (dumpJson raw v).exec w = (writeText raw s).exec w := by
  rw [dumpJson, exec_bind_ok (exec_get w)]
  dsimp only
  rw [h]

/-! ### A world that remembers nothing -/

lemma exec_onMemory (hw : w.memory = none) (f : Memory → Memory) :
    (onMemory f).exec w = (.ok (), w) := by
  have hself : { w with memory := w.memory.map f } = w := by
    obtain ⟨_, _, _, _, _, _, _, _, _, _, _, _, _, memory, _, _, _, _⟩ := w
    obtain rfl : memory = none := hw
    rfl
  rw [onMemory, exec_modify, hself]

lemma exec_recallText (hw : w.memory = none) (raw : String) :
    (recallText raw).exec w = (readText raw).exec w := by
  rw [recallText, exec_bind_ok (exec_get w), hw]
  rcases exec_readText raw w with ⟨e, he⟩ | ⟨s, c, hs, -⟩
  · rw [he]
    exact exec_bind_error he _
  · rw [hs]
    refine (exec_bind_ok hs _).trans ?_
    rw [exec_bind_ok (exec_onMemory hw _), exec_pure]

lemma exec_recallDocument (hw : w.memory = none) (parse : String → Result Value) (text : String) :
    (recallDocument parse text).exec w = (.ok (parse text), w) := by
  rw [recallDocument, exec_bind_ok (exec_get w), hw, Option.bind_none]
  cases parse text with
  | ok v => exact (exec_bind_ok (exec_onMemory hw _) _).trans (exec_pure _ _)
  | error e => exact exec_pure _ _

lemma exec_keepText (hw : w.memory = none) (raw s : String) :
    (keepText raw s).exec w = (writeText raw s).exec w := by
  rw [keepText]
  rcases exec_writeText raw s w with ⟨e, he⟩ | ⟨t, ht, -⟩
  · rw [he]
    exact exec_bind_error he _
  · rw [ht, exec_bind_ok ht]
    exact exec_onMemory (w := { w with files := t }) hw _

end Workbench.Tool
