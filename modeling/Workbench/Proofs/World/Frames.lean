import Workbench.Proofs.World.Exec

/-!
# What a tool leaves as it was

A tool that only looks around may print, and changes no file.  One that writes leaves every file as
it was but those at the places it writes to; directories may be added, and none is lost.
-/

open List

namespace Workbench

/-- From `w` to `w'` no file has changed but those at some places, no directory is gone, and the
tools still find the same memory and the same places. -/
structure World.Frames (side : Place → Prop) (w w' : World) : Prop where
  cwd : w'.cwd = w.cwd
  base : w'.base = w.base
  memory : w'.memory = w.memory
  layout : w'.oneLineJson = w.oneLineJson
  grows : w.files.Grows w'.files
  others : ∀ q, ¬ side q → w'.files.file? q = w.files.file? q

namespace World.Frames

variable {side side' : Place → Prop} {w w' w'' : World}
variable {raw : String}

lemma trans (h : w.Frames side w') (h' : w'.Frames side w'') : w.Frames side w'' :=
  ⟨h'.cwd.trans h.cwd, h'.base.trans h.base, h'.memory.trans h.memory, h'.layout.trans h.layout,
    h.grows.trans h'.grows, fun q hq => (h'.others q hq).trans (h.others q hq)⟩

lemma mono (h : w.Frames side w') (hside : ∀ q, side q → side' q) : w.Frames side' w' :=
  { h with others := fun q hq => h.others q fun hs => hq (hside q hs) }

lemma place (h : w.Frames side w') (raw : String) : w'.place raw = w.place raw := by
  rw [World.place, World.place, h.cwd, Files.aim_congr h.grows.links]

lemma of_gains (h : w.Gains w') : w.Frames side w' := by
  obtain ⟨t, rfl, hgrows, hsame⟩ := h
  exact ⟨rfl, rfl, rfl, rfl, hgrows, fun q _ => hsame q⟩

/-- A write that succeeds changes one file, which then holds the text. -/
theorem of_writeText {s : String} (h : (Tool.writeText raw s).exec w = (.ok (), w')) :
    w.Frames (· = w.place raw) w' ∧ w.Reaches raw ∧ w'.file? raw = some (.text s) := by
  rcases Tool.exec_writeText raw s w with ⟨e, he⟩ | ⟨t, ht, hreaches, hsets⟩
  · cases he.symm.trans h
  obtain rfl := (Prod.mk.inj (ht.symm.trans h)).2
  have hframes : w.Frames (· = w.place raw) { w with files := t } :=
    ⟨rfl, rfl, rfl, rfl, hsets.grows, fun q hq => hsets.file? hq⟩
  refine ⟨hframes, hreaches, ?_⟩
  show t.file? (World.place { w with files := t } raw) = _
  rw [hframes.place, hsets.here]

end World.Frames

/-- Nothing but the output has changed. -/
def World.Still (w w' : World) : Prop := ∃ out err, w' = { w with out := out, err := err }

lemma World.Still.refl (w : World) : w.Still w := ⟨w.out, w.err, rfl⟩

lemma World.Still.memory {w w' : World} (h : w.Still w') : w'.memory = w.memory := by
  obtain ⟨out, err, rfl⟩ := h
  rfl

lemma World.Still.frames {w w' : World} (h : w.Still w') {side : Place → Prop} :
    w.Frames side w' := by
  obtain ⟨out, err, rfl⟩ := h
  exact ⟨rfl, rfl, rfl, rfl, .refl _, fun _ _ => rfl⟩

namespace Tool

variable {α β : Type}
variable {t : Tool α} {r : Result α} {f : α → Tool β}

/-! ### Tools that only read -/

/-- A tool that changes nothing, and whose answer depends on the files and the working directory
only. -/
def Sees (t : Tool α) : Prop :=
  ∀ w : World, ∃ r, ∀ w' : World, w'.files = w.files → w'.cwd = w.cwd → t.exec w' = (r, w')

lemma sees_pure (a : α) : Sees (pure a : Tool α) := fun _ => ⟨.ok a, fun _ _ _ => rfl⟩

lemma sees_lift (x : Result α) : Sees (liftM x : Tool α) :=
  fun _ => ⟨x, fun w' _ _ => exec_lift x w'⟩

lemma sees_bind (ht : Sees t) (hf : ∀ a, Sees (f a)) : Sees (t >>= f) := by
  intro w
  obtain ⟨e | a, hr⟩ := ht w
  · exact ⟨.error e, fun w' h h' => exec_bind_error (hr w' h h') f⟩
  · obtain ⟨r, hr'⟩ := hf a w
    exact ⟨r, fun w' h h' => (exec_bind_ok (hr w' h h') f).trans (hr' w' h h')⟩

lemma sees_guarded {handles : Fault → Bool} {handler : Fault → Tool α} (ht : Sees t)
    (hh : ∀ e, Sees (handler e)) : Sees (guarded t handles handler) := by
  intro w
  obtain ⟨e | a, hr⟩ := ht w
  · obtain ⟨r, hr'⟩ := hh e w
    refine ⟨if handles e then r else .error e, fun w' h h' => ?_⟩
    rw [exec_guarded, hr w' h h']
    dsimp only
    split_ifs
    · exact hr' w' h h'
    · rfl
  · exact ⟨.ok a, fun w' h h' => exec_guarded_ok (hr w' h h') _ _⟩

lemma sees_mapM (hf : ∀ a, Sees (f a)) (xs : List α) : Sees (xs.mapM f) := by
  induction xs with
  | nil => exact sees_pure _
  | cons x xs ih =>
    rw [mapM_cons]
    exact sees_bind (hf x) fun y => sees_bind ih fun ys => sees_pure _

lemma sees_nodeAt (raw : String) : Sees (nodeAt raw) := by
  refine fun w => ⟨((nodeAt raw).exec w).1, fun w' h h' => ?_⟩
  rw [exec_nodeAt, exec_nodeAt, h, h']

lemma sees_pathExists (raw : String) : Sees (pathExists raw) :=
  sees_bind (sees_nodeAt raw) fun _ => sees_pure _

lemma sees_isDir (raw : String) : Sees (isDir raw) :=
  sees_bind (sees_nodeAt raw) fun _ => sees_pure _

lemma sees_onFile (raw : String) (f : Files → Place → Except FileError α) :
    Sees (onFile raw f) := by
  refine fun w => ⟨((onFile raw f).exec w).1, fun w' h h' => ?_⟩
  rw [onFile, exec_bind_ok (exec_get _), exec_bind_ok (exec_get _), h, h']
  split_ifs
  · rfl
  · cases f w.files w.cwd <;> rfl

lemma sees_readText (raw : String) : Sees (readText raw) :=
  sees_bind (sees_onFile raw _) fun _ => sees_lift _

lemma sees_readJson (raw : String) : Sees (readJson raw) :=
  sees_bind (sees_readText raw) fun _ => sees_lift _

lemma sees_glob (p : Path) (segments : List String) : Sees (glob p segments) := by
  refine fun w => ⟨((glob p segments).exec w).1, fun w' h h' => ?_⟩
  rw [glob, exec_bind_ok (exec_get _), exec_bind_ok (exec_get _), h, h']
  cases w.files.locate w.cwd p.toString <;> rfl

/-! ### Tools that read and print -/

/-- The tool gives an answer and prints at most, whatever was printed before. -/
def Tells (t : Tool α) (w : World) (r : Result α) : Prop :=
  ∀ w₁, w.Still w₁ → ∃ w₂, t.exec w₁ = (r, w₂) ∧ w.Still w₂

section Tells

variable {t : Tool α} {f : α → Tool β} {w w' : World}
variable {r : Result α}

lemma Tells.exec (h : t.Tells w r) : ∃ w', t.exec w = (r, w') ∧ w.Still w' := h w (.refl w)

lemma Tells.eq {r' : Result α} (h : t.Tells w r) (hexec : t.exec w = (r', w')) :
    r' = r ∧ w.Still w' := by
  obtain ⟨w₁, hw₁, hstill⟩ := h.exec
  obtain ⟨rfl, rfl⟩ := Prod.mk.inj (hw₁.symm.trans hexec)
  exact ⟨rfl, hstill⟩

/-- What two parts tell is told by the whole. -/
lemma Tells.bind {x : Result α} {y : α → Result β} (ht : t.Tells w x)
    (hf : ∀ a, x = .ok a → (f a).Tells w (y a)) : (t >>= f).Tells w (x >>= y) := by
  intro w₁ hw₁
  obtain ⟨w₂, hx, hw₂⟩ := ht w₁ hw₁
  cases x with
  | error e => exact ⟨w₂, exec_bind_error hx f, hw₂⟩
  | ok a =>
    rw [exec_bind_ok hx]
    exact hf a rfl w₂ hw₂

lemma Tells.bind_ok {a : α} {r : Result β} (ht : t.Tells w (.ok a)) (hf : (f a).Tells w r) :
    (t >>= f).Tells w r :=
  ht.bind (y := fun _ => r) fun _ h => Except.ok.inj h ▸ hf

lemma Tells.bind_error {e : Fault} (ht : t.Tells w (.error e)) : (t >>= f).Tells w (.error e) :=
  ht.bind (y := fun _ => .error e) fun _ h => by cases h

lemma Tells.guarded {x : Result α} {y : Fault → Result α} (ht : t.Tells w x)
    {handles : Fault → Bool} {handler : Fault → Tool α} (hh : ∀ e, (handler e).Tells w (y e)) :
    (guarded t handles handler).Tells w
      (x.tryCatch fun e => if handles e then y e else .error e) := by
  intro w₁ hw₁
  obtain ⟨w₂, hx, hw₂⟩ := ht w₁ hw₁
  rw [exec_guarded, hx]
  cases x with
  | ok a => exact ⟨w₂, rfl, hw₂⟩
  | error e =>
    simp only [Except.tryCatch]
    split_ifs
    · exact hh e w₂ hw₂
    · exact ⟨w₂, rfl, hw₂⟩

lemma tells_mapM {f : α → Tool β} {y : α → Result β} {xs : List α}
    (h : ∀ x ∈ xs, (f x).Tells w (y x)) :
    (xs.mapM f).Tells w (xs.mapM y) := by
  induction xs with
  | nil => exact fun w₁ hw₁ => ⟨w₁, rfl, hw₁⟩
  | cons x xs ih =>
    obtain ⟨hx, hxs⟩ := forall_mem_cons.mp h
    rw [mapM_cons, mapM_cons]
    exact hx.bind fun _ _ => (ih hxs).bind fun _ _ w₁ hw₁ => ⟨w₁, rfl, hw₁⟩

/-- A tool that only sees tells what it answers. -/
lemma Sees.tells (ht : Sees t) (h : t.exec w = (r, w')) : t.Tells w r := by
  rintro _ ⟨out, err, rfl⟩
  obtain ⟨r', hr⟩ := ht w
  obtain ⟨rfl, -⟩ := Prod.mk.inj ((hr w rfl rfl).symm.trans h)
  exact ⟨_, hr _ rfl rfl, out, err, rfl⟩

end Tells

/-- The tool looks at the world and changes nothing. -/
def Looks (t : Tool α) : Prop := ∀ w : World, w.memory = none → ∃ r, t.Tells w r

lemma Looks.tells (ht : Looks t) {w w' : World} (hw : w.memory = none)
    (h : t.exec w = (r, w')) : t.Tells w r ∧ w.Still w' := by
  obtain ⟨r', hr⟩ := ht w hw
  obtain ⟨rfl, hstill⟩ := hr.eq h
  exact ⟨hr, hstill⟩

lemma Looks.frames (ht : Looks t) {w w' : World} (hw : w.memory = none)
    (h : t.exec w = (r, w')) : w.Frames (fun _ => False) w' := (ht.tells hw h).2.frames

lemma Sees.looks (ht : Sees t) : Looks t := fun w _ => by
  obtain ⟨r, hr⟩ := ht w
  exact ⟨r, ht.tells (hr w rfl rfl)⟩

lemma looks_pure (a : α) : Looks (pure a : Tool α) := (sees_pure a).looks

lemma looks_throw (e : Fault) : Looks (throw e : Tool α) := (sees_lift (.error e)).looks

lemma looks_lift (x : Result α) : Looks (liftM x : Tool α) := (sees_lift x).looks

lemma tells_pure (a : α) (w : World) : (pure a : Tool α).Tells w (.ok a) := (sees_pure a).tells rfl

lemma tells_lift (x : Result α) (w : World) : (liftM x : Tool α).Tells w x :=
  (sees_lift x).tells (exec_lift x w)

lemma tells_say (s : String) (w : World) : (say s).Tells w (.ok ()) := by
  rintro _ ⟨out, err, rfl⟩
  exact ⟨_, rfl, _, _, rfl⟩

lemma tells_complain (s : String) (w : World) : (complain s).Tells w (.ok ()) := by
  rintro _ ⟨out, err, rfl⟩
  exact ⟨_, rfl, _, _, rfl⟩

lemma looks_say (s : String) : Looks (say s) := fun w _ => ⟨_, tells_say s w⟩

lemma looks_complain (s : String) : Looks (complain s) := fun w _ => ⟨_, tells_complain s w⟩

lemma looks_beside (relative : String) : Looks (beside relative) :=
  fun w _ => ⟨.ok (w.base / relative), by rintro _ ⟨out, err, rfl⟩; exact ⟨_, rfl, out, err, rfl⟩⟩

lemma looks_bind (ht : Looks t) (hf : ∀ a, Looks (f a)) : Looks (t >>= f) := by
  intro w hw
  obtain ⟨x, hx⟩ := ht w hw
  choose y hy using fun a => hf a w hw
  exact ⟨x >>= y, hx.bind fun a _ => hy a⟩

lemma looks_guarded {handles : Fault → Bool} {handler : Fault → Tool α} (ht : Looks t)
    (hh : ∀ e, Looks (handler e)) : Looks (guarded t handles handler) := by
  intro w hw
  obtain ⟨x, hx⟩ := ht w hw
  choose y hy using fun e => hh e w hw
  exact ⟨_, hx.guarded hy⟩

lemma looks_mapM (hf : ∀ a, Looks (f a)) (xs : List α) : Looks (xs.mapM f) := by
  intro w hw
  choose y hy using fun a => hf a w hw
  exact ⟨xs.mapM y, tells_mapM fun x _ => hy x⟩

lemma looks_filterM {f : α → Tool Bool} (hf : ∀ a, Looks (f a)) (xs : List α) :
    Looks (xs.filterM f) := by
  have hloop : ∀ acc, Looks (xs.filterAuxM f acc) := by
    induction xs with
    | nil => exact fun acc => looks_pure _
    | cons x xs ih => exact fun acc => looks_bind (hf x) fun b => ih _
  exact looks_bind (hloop []) fun ys => looks_pure _

lemma looks_recallText (raw : String) : Looks (recallText raw) := by
  intro w hw
  obtain ⟨r, hr⟩ := (sees_readText raw).looks w hw
  refine ⟨r, fun w₁ hw₁ => ?_⟩
  rw [exec_recallText (hw₁.memory.trans hw)]
  exact hr w₁ hw₁

lemma looks_recallDocument (parse : String → Result Value) (text : String) :
    Looks (recallDocument parse text) := by
  exact fun w hw =>
    ⟨.ok (parse text), fun w₁ hw₁ => ⟨w₁, exec_recallDocument (hw₁.memory.trans hw) _ _, hw₁⟩⟩

end Tool

end Workbench
