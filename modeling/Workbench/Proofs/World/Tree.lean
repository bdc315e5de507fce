import Mathlib.Tactic.Common
import Workbench.World.Files

/-!
# File trees under change

What the operations on files do to a tree.
-/

namespace Workbench.Files

open List Bool

variable {p cwd : Place} {t t' : Files} {names : List String} {raw : String} {c : Content}

/-! ### Putting and taking away -/

lemma lookup_replace {n : Node} {es : List (Place × Node)}
    (h : es.any (·.1 == p) = true) (q : Place) :
    (es.map fun e => if e.1 == p then (p, n) else e).lookup q = if q = p then some n
      else es.lookup q := by
  induction es with
  | nil => simp at h
  | cons e es ih =>
    obtain ⟨r, m⟩ := e
    by_cases hr : r = p
    · subst hr
      by_cases hq : q = r
      · simp [hq]
      · have hne : (q == r) = false := by simpa using hq
        simp only [map_cons, beq_self_eq_true, if_true, lookup_cons, hne, if_neg hq]
        by_cases hany : es.any (·.1 == r) = true
        · rw [ih hany, if_neg hq]
        · congr 1
          refine (map_congr_left fun e he => ?_).trans es.map_id
          have hone : e.1 ≠ r := fun heq => hany (any_eq_true.mpr ⟨e, he, by simpa using heq⟩)
          simp [hone]
    · have hany : es.any (·.1 == p) = true := by simpa [hr] using h
      have hrp : (r == p) = false := by simpa using hr
      simp only [map_cons, hrp, false_eq_true, if_false, lookup_cons, ih hany]
      by_cases hq : q = r
      · simp [hq, hr]
      · have hne : (q == r) = false := by simpa using hq
        simp [hne]

lemma node?_put (hp : p ≠ []) (n : Node) (q : Place) :
    (t.put p n).node? q = if q = p then some n else t.node? q := by
  by_cases hq : q = []
  · subst hq
    simp [node?, Ne.symm hp]
  · have hempty : q.isEmpty = false := by simpa using hq
    simp only [node?, put, hempty, false_eq_true, if_false]
    split_ifs with hany hqp hqp
    · rw [lookup_replace hany, if_pos hqp]
    · rw [lookup_replace hany, if_neg hqp]
    · subst hqp
      have hnone : t.entries.lookup q = none := by
        rw [lookup_eq_none_iff]
        intro e he
        simpa using fun heq : q = e.1 => hany (any_eq_true.mpr ⟨e, he, by simpa using heq.symm⟩)
      simp [lookup_append, hnone]
    · have hne : (q == p) = false := by simpa using hqp
      simp [lookup_append, lookup_cons, hne]

@[simp]
lemma links_put (t : Files) (p : Place) (n : Node) : (t.put p n).links = t.links := by
  rw [put]
  split_ifs <;> rfl

/-! ### Where a path leads -/

/-- Where names lead from a place. -/
def aimFrom (here : Place) : List String → Place
  | [] => here
  | p :: ps =>
    if p == "" || p == "." then aimFrom here ps
    else if p == ".." then aimFrom here.dropLast ps
    else aimFrom (here ++ [p]) ps

/-- Where the names of an absolute path lead. -/
def aimFromRoot (links : List (String × Place)) (names : List String) : Place :=
  match names.dropWhile (· == "") with
  | [] => []
  | p :: ps => match links.lookup p with
    | some place => aimFrom place ps
    | none => aimFrom [] (p :: ps)

/-- Where a path leads, whether or not anything is there. -/
def aim (t : Files) (cwd : Place) (raw : String) : Place :=
  let names := (Text.splitWhere (· == '/') raw.toList).map String.ofList
  if raw.toList.head? == some '/' then aimFromRoot t.links names else aimFrom cwd names

lemma walk_eq_aimFrom {here : Place} (h : t.walk here names = .ok p) : p = aimFrom here names := by
  fun_induction walk t here names with
  | case1 here => exact (Except.ok.inj h).symm
  | case2 => cases h
  | case3 _ _ _ _ hp _ ih => rw [aimFrom, if_pos hp, ih h]
  | case4 => cases h
  | case5 => cases h
  | case6 _ _ _ _ hp hup _ ih => rw [aimFrom, if_neg hp, if_pos hup, ih h]
  | case7 => cases h
  | case8 => cases h
  | case9 _ _ _ hp hup next => rw [aimFrom, if_neg hp, if_neg hup, ← Except.ok.inj h, aimFrom]
  | case10 _ _ _ hp hup next _ _ _ ih => rw [aimFrom, if_neg hp, if_neg hup, ih h]
  | case11 => cases h
  | case12 => cases h

lemma walkFromRoot_eq_aimFromRoot (h : t.walkFromRoot names = .ok p) :
    p = aimFromRoot t.links names := by
  rw [walkFromRoot] at h
  rw [aimFromRoot]
  cases hnames : names.dropWhile (· == "") with
  | nil =>
    rw [hnames] at h
    exact (Except.ok.inj h).symm
  | cons q qs =>
    rw [hnames] at h
    dsimp only at h ⊢
    cases hlink : t.links.lookup q with
    | none =>
      rw [hlink] at h
      exact walk_eq_aimFrom h
    | some place =>
      rw [hlink] at h
      exact walk_eq_aimFrom h

/-- A path that is located leads to where it aims. -/
theorem locate_eq_aim (h : t.locate cwd raw = .ok p) : p = t.aim cwd raw := by
  rw [locate] at h
  rw [aim]
  split_ifs at h ⊢
  · exact walkFromRoot_eq_aimFromRoot h
  · exact walk_eq_aimFrom h

lemma aim_congr (h : t'.links = t.links) (cwd : Place) (raw : String) :
    t'.aim cwd raw = t.aim cwd raw := by
  rw [aim, aim, h]

/-! ### Trees that keep their directories -/

/-- `t'` has the links and the directories of `t`, and maybe more directories. -/
structure Grows (t t' : Files) : Prop where
  links : t'.links = t.links
  dirs : ∀ p, t.node? p = some .dir → t'.node? p = some .dir

lemma Grows.refl (t : Files) : t.Grows t := ⟨rfl, fun _ h => h⟩

lemma Grows.trans {t'' : Files} (h : t.Grows t') (h' : t'.Grows t'') : t.Grows t'' :=
  ⟨h'.links.trans h.links, fun p hp => h'.dirs p (h.dirs p hp)⟩

lemma Grows.walk (hg : t.Grows t') {here : Place}
    (h : ∀ e, t.walk here names = .error e → e = .nameTooLong) :
    t'.walk here names = t.walk here names := by
  fun_induction Files.walk t here names with
  | case1 here => rfl
  | case2 _ _ _ hlong => rw [Files.walk, if_pos hlong]
  | case3 _ _ _ hlong hp hdir ih => rw [Files.walk, if_neg hlong, if_pos hp, hg.dirs _ hdir, ih h]
  | case4 => cases h _ rfl
  | case5 => cases h _ rfl
  | case6 _ _ _ hlong hp hup hdir ih =>
    rw [Files.walk, if_neg hlong, if_neg hp, if_pos hup, hg.dirs _ hdir, ih h]
  | case7 => cases h _ rfl
  | case8 => cases h _ rfl
  | case9 _ _ hlong hp hup next => rw [Files.walk, if_neg hlong, if_neg hp, if_neg hup]
  | case10 _ _ hlong hp hup next _ _ hdir ih =>
    rw [Files.walk, if_neg hlong, if_neg hp, if_neg hup]
    dsimp only
    rw [hg.dirs next hdir]
    exact ih h
  | case11 => cases h _ rfl
  | case12 => cases h _ rfl

/-- In a tree that has grown a path leads to where it led. -/
theorem Grows.locate_eq (hg : t.Grows t')
    (h : ∀ e, t.locate cwd raw = .error e → e = .nameTooLong) :
    t'.locate cwd raw = t.locate cwd raw := by
  rw [Files.locate] at h
  rw [Files.locate, Files.locate]
  split_ifs at h ⊢
  · rfl
  · rfl
  · rw [walkFromRoot] at h
    rw [walkFromRoot, walkFromRoot, hg.links]
    split at h
    · rfl
    · split at h <;> exact hg.walk h
  · exact hg.walk h

lemma Grows.locate (hg : t.Grows t') (h : t.locate cwd raw = .ok p) :
    t'.locate cwd raw = .ok p := by
  rw [hg.locate_eq (by simp [h]), h]

/-! ### Operations on files -/

/-- The content of the file at a place. -/
def file? (t : Files) (p : Place) : Option Content :=
  match t.node? p with
  | some (.file c _) => some c
  | _ => none

lemma file?_of_node? {x : Bool} (h : t.node? p = some (.file c x)) : t.file? p = some c := by
  rw [file?, h]

lemma node?_of_file? (h : t.file? p = some c) : ∃ x, t.node? p = some (.file c x) := by
  rw [file?] at h
  split at h
  · obtain rfl := Option.some.inj h
    exact ⟨_, ‹_›⟩
  · cases h

lemma file?_congr (h : t'.node? p = t.node? p) : t'.file? p = t.file? p := by
  rw [file?, file?, h]

/-- `t'` is `t` but for the file at `p`, whose content is `c`, or which is missing. -/
structure Sets (t t' : Files) (p : Place) (c : Option Content) : Prop where
  links : t'.links = t.links
  free : t.node? p ≠ some .dir
  still_free : t'.node? p ≠ some .dir
  here : t'.file? p = c
  elsewhere : ∀ q, q ≠ p → t'.node? q = t.node? q

lemma Sets.grows {c : Option Content} (h : t.Sets t' p c) : t.Grows t' where
  links := h.links
  dirs q hq := by
    rw [h.elsewhere q, hq]
    rintro rfl
    exact h.free hq

lemma Sets.file? {c : Option Content} (h : t.Sets t' p c) {q : Place} (hq : q ≠ p) :
    t'.file? q = t.file? q :=
  file?_congr (h.elsewhere q hq)

lemma sets_put (hp : t.node? p ≠ some .dir) (c : Content) (x : Bool) :
    t.Sets (t.put p (.file c x)) p (some c) := by
  have hroot : p ≠ [] := by
    rintro rfl
    exact hp rfl
  have hnode : (t.put p (.file c x)).node? p = some (.file c x) := by
    rw [node?_put hroot, if_pos rfl]
  refine ⟨links_put t p _, hp, by simp [hnode], file?_of_node? hnode, fun q hq => ?_⟩
  rw [node?_put hroot, if_neg hq]

lemma stat_eq_ok_iff {n : Node} :
    t.stat cwd raw = .ok n ↔ t.locate cwd raw = .ok (t.aim cwd raw) ∧
      t.node? (t.aim cwd raw) = some n := by
  rw [stat]
  cases hlocate : t.locate cwd raw with
  | error e => simp [bind, Except.bind]
  | ok p =>
    obtain rfl := locate_eq_aim hlocate
    rcases hnode : t.node? (t.aim cwd raw) with _ | m <;> simp [bind, Except.bind, hnode]

/-- What is read is the file at the place the path aims at. -/
theorem read_eq_ok_iff :
    t.read cwd raw = .ok c ↔ t.locate cwd raw = .ok (t.aim cwd raw) ∧
      t.file? (t.aim cwd raw) = some c := by
  rw [read]
  constructor
  · intro h
    rcases hstat : t.stat cwd raw with e | ⟨c', x⟩ | _
    · simp [hstat, bind, Except.bind] at h
    · obtain rfl : c' = c := by simpa [hstat, bind, Except.bind] using h
      obtain ⟨hlocate, hnode⟩ := stat_eq_ok_iff.mp hstat
      exact ⟨hlocate, file?_of_node? hnode⟩
    · simp [hstat, bind, Except.bind] at h
  · rintro ⟨hlocate, hcontent⟩
    obtain ⟨x, hnode⟩ := node?_of_file? hcontent
    rw [stat_eq_ok_iff.mpr ⟨hlocate, hnode⟩]
    rfl

/-- A write sets the file at the place the path aims at. -/
theorem sets_of_write (h : t.write cwd raw c = .ok t') :
    t.locate cwd raw = .ok (t.aim cwd raw) ∧ t.Sets t' (t.aim cwd raw) (some c) := by
  rw [write] at h
  cases hlocate : t.locate cwd raw with
  | error e => simp [hlocate, bind, Except.bind] at h
  | ok p =>
    obtain rfl := locate_eq_aim hlocate
    rw [hlocate] at h
    refine ⟨rfl, ?_⟩
    rcases hnode : t.node? (t.aim cwd raw) with _ | ⟨c', x⟩ | _
    · have hfree : t.node? (t.aim cwd raw) ≠ some .dir := by simp [hnode]
      rcases hparent : t.node? (t.aim cwd raw).dropLast with _ | ⟨c', x⟩ | _
      · simp [bind, Except.bind, hnode, hparent] at h
      · simp [bind, Except.bind, hnode, hparent] at h
      · obtain rfl : t.put (t.aim cwd raw) (.file c false) = t' := by
          simpa [bind, Except.bind, hnode, hparent] using h
        exact sets_put hfree c false
    · obtain rfl : t.put (t.aim cwd raw) (.file c x) = t' := by
        simpa [bind, Except.bind, hnode] using h
      exact sets_put (by simp [hnode]) c x
    · simp [bind, Except.bind, hnode] at h

/-- Writing succeeds if the path leads to a file, or to nothing in a directory. -/
theorem exists_write (hlocate : t.locate cwd raw = .ok (t.aim cwd raw))
    (hfree : t.node? (t.aim cwd raw) ≠ some .dir)
    (hparent : t.node? (t.aim cwd raw).dropLast = some .dir) (c : Content) :
    ∃ t', t.write cwd raw c = .ok t' := by
  rw [write, hlocate]
  rcases hnode : t.node? (t.aim cwd raw) with _ | ⟨c', x⟩ | _
  · exact ⟨t.put (t.aim cwd raw) (.file c false), by simp [bind, Except.bind, hnode, hparent]⟩
  · exact ⟨t.put (t.aim cwd raw) (.file c x), by simp [bind, Except.bind, hnode]⟩
  · exact absurd hnode hfree

/-- A directory is added, and no file changes. -/
theorem grows_of_mkdir (h : t.mkdir cwd raw = .ok t') :
    t.Grows t' ∧ ∀ q, t'.file? q = t.file? q := by
  rw [mkdir] at h
  cases hlocate : t.locate cwd raw with
  | error e => simp [hlocate, bind, Except.bind] at h
  | ok p =>
    rw [hlocate] at h
    have hnode : t.node? p = none := by
      rcases hnode : t.node? p with _ | n
      · rfl
      · simp [bind, Except.bind, hnode] at h
    have hroot : p ≠ [] := by
      rintro rfl
      cases hnode
    obtain rfl : t.put p .dir = t' := by
      rcases hparent : t.node? p.dropLast with _ | ⟨c', x⟩ | _
        <;> simp [bind, Except.bind, hnode, hparent] at h
      exact h
    refine ⟨⟨links_put t p _, fun q hq => ?_⟩, fun q => ?_⟩
    · rw [node?_put hroot, hq]
      split_ifs <;> rfl
    · rw [file?, file?, node?_put hroot]
      split_ifs with hq
      · rw [hq, hnode]
      · rfl

end Workbench.Files
