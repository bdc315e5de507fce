import Mathlib.Tactic.Common
import Workbench.Pattern.Matcher

/-!
# What patterns match

Where a greedy repetition of a class may end, and what a pattern of words, classes and optional
groups asks of the text that it is tried on.
-/

namespace Workbench.Pattern

open List

section

-- `Node.run` has many cases: its equations are made here, once, and not by the first proofs that
-- need them at one time
attribute [local simp] Node.run

end

variable {s : CharSet} {k : Cont} {m : Captures} {c : Cursor} {r : Cursor × Captures} {lo : Nat}
    {hi : Option Nat}
variable {a b : Node}

/-! ### Where a run of a class may end -/

/-- The cursor behind what was matched. -/
def Cursor.past (c : Cursor) (u t : Chars) : Cursor := ⟨u.reverse ++ c.before, t, c.pos + u.length⟩

/-- A text begins with a run of a class that is not longer than allowed. -/
structure CharSet.Runs (s : CharSet) (hi : Option Nat) (u : Chars) : Prop where
  all : ∀ x ∈ u, s.accepts x = true
  most : ∀ n ∈ hi, u.length ≤ n

lemma Cursor.past_nil {t : Chars} (h : c.after = t) : c.past [] t = c := h ▸ rfl

lemma Cursor.past_cons (c : Cursor) (x : Char) (u t after : Chars) :
    c.past (x :: u) t = Cursor.past ⟨x :: c.before, after, c.pos + 1⟩ u t := by
  simp [Cursor.past, Nat.add_assoc, Nat.add_comm 1]

lemma CharSet.runs_nil (s : CharSet) (hi : Option Nat) : s.Runs hi [] := ⟨by simp, by simp⟩

lemma CharSet.runs_cons_iff {x : Char} {u : Chars} :
    s.Runs hi (x :: u) ↔ (hi != some 0 && s.accepts x) = true ∧ s.Runs (hi.map (· - 1)) u := by
  constructor
  · rintro ⟨hall, hmost⟩
    refine ⟨?_, (forall_mem_cons.mp hall).2, ?_⟩
    · have hmore : hi ≠ some 0 := fun h => Nat.not_succ_le_zero _ (hmost 0 h)
      simpa [hmore] using hall x mem_cons_self
    · cases hi with
      | none => simp
      | some n =>
        have hlength := hmost n rfl
        rintro _ ⟨⟩
        exact Nat.le_sub_one_of_lt hlength
  · rintro ⟨hstep, hall, hmost⟩
    obtain ⟨hmore, hx⟩ : hi ≠ some 0 ∧ s.accepts x = true := by simpa using hstep
    refine ⟨forall_mem_cons.mpr ⟨hx, hall⟩, ?_⟩
    rintro n rfl
    have hlength := hmost (n - 1) rfl
    have hpos : n ≠ 0 := fun h => hmore (by rw [h])
    rw [length_cons]
    omega

lemma mem_runCursors_iff {after : Chars} {acc : List Cursor} {d : Cursor} (hc : c.after = after) :
    d ∈ runCursors s after hi c acc ↔ d ∈ acc ∨
      ∃ u t, after = u ++ t ∧ s.Runs hi u ∧ d = c.past u t := by
  induction after generalizing hi c acc with
  | nil =>
    rw [runCursors, mem_cons, or_comm]
    refine or_congr_right ⟨fun h => ⟨[], [], rfl, s.runs_nil hi, h.trans (c.past_nil hc).symm⟩, ?_⟩
    rintro ⟨u, t, hparts, -, rfl⟩
    obtain ⟨rfl, rfl⟩ := append_eq_nil_iff.mp hparts.symm
    exact c.past_nil hc
  | cons x after ih =>
    have hhere : d = c → ∃ u t, x :: after = u ++ t ∧ s.Runs hi u ∧ d = c.past u t := fun h =>
      ⟨[], _, rfl, s.runs_nil hi, h.trans (c.past_nil hc).symm⟩
    rw [runCursors]
    split_ifs with hstep
    · rw [ih rfl, mem_cons, or_comm (a := d = c), or_assoc]
      refine or_congr_right ⟨?_, ?_⟩
      · rintro (h | ⟨u, t, rfl, hu, rfl⟩)
        · exact hhere h
        · exact ⟨x :: u, t, rfl, CharSet.runs_cons_iff.mpr ⟨hstep, hu⟩, (c.past_cons x u t _).symm⟩
      · rintro ⟨_ | ⟨y, u⟩, t, hparts, hu, rfl⟩
        · exact .inl (c.past_nil (hc.trans hparts))
        · obtain ⟨rfl, rfl⟩ := cons.inj hparts
          exact .inr ⟨u, t, rfl, (CharSet.runs_cons_iff.mp hu).2, c.past_cons x u t _⟩
    · rw [mem_cons, or_comm]
      refine or_congr_right ⟨hhere, ?_⟩
      rintro ⟨_ | ⟨y, u⟩, t, hparts, hu, rfl⟩
      · exact c.past_nil (hc.trans hparts)
      · obtain ⟨rfl, rfl⟩ := cons.inj hparts
        exact absurd (CharSet.runs_cons_iff.mp hu).1 hstep

lemma exists_of_firstOf {cs : List Cursor} (h : firstOf k m cs = some r) :
    ∃ d ∈ cs, k d m = some r := by
  induction cs with
  | nil => cases h
  | cons d cs ih =>
    rw [firstOf] at h
    cases hd : k d m with
    | some r' => exact ⟨d, mem_cons_self, by rw [← h, hd]⟩
    | none =>
      rw [hd] at h
      obtain ⟨e, he, hr⟩ := ih h
      exact ⟨e, mem_cons_of_mem _ he, hr⟩

lemma isSome_firstOf_iff {cs : List Cursor} :
    (firstOf k m cs).isSome = true ↔ ∃ d ∈ cs, (k d m).isSome = true := by
  constructor
  · intro h
    obtain ⟨r, hr⟩ := Option.isSome_iff_exists.mp h
    obtain ⟨d, hd, hk⟩ := exists_of_firstOf hr
    exact ⟨d, hd, Option.isSome_iff_exists.mpr ⟨r, hk⟩⟩
  · rintro ⟨d, hd, hk⟩
    induction cs with
    | nil => cases hd
    | cons e cs ih =>
      rw [firstOf]
      cases he : k e m with
      | some r => rfl
      | none =>
        rcases mem_cons.mp hd with rfl | hd
        · rw [he] at hk
          cases hk
        · exact ih hd

/-- The places where a repetition of a class may end, the nearest last. -/
def ends (s : CharSet) (lo : Nat) (hi : Option Nat) (c : Cursor) : List Cursor :=
  (runCursors s c.after hi c []).filter (fun d => c.pos + lo ≤ d.pos)

lemma mem_ends_iff {d : Cursor} :
    d ∈ ends s lo hi c ↔ ∃ u t,
      c.after = u ++ t ∧ s.Runs hi u ∧ lo ≤ u.length ∧ d = c.past u t := by
  rw [ends, mem_filter, mem_runCursors_iff rfl, decide_eq_true_eq]
  constructor
  · rintro ⟨h | ⟨u, t, hparts, hu, rfl⟩, hlength⟩
    · cases h
    · exact ⟨u, t, hparts, hu, Nat.le_of_add_le_add_left hlength, rfl⟩
  · rintro ⟨u, t, hparts, hu, hlength, rfl⟩
    exact ⟨.inr ⟨u, t, hparts, hu, rfl⟩, Nat.add_le_add_left hlength _⟩

lemma exists_of_run_rep (h : (Node.rep lo hi .greedy (.set s)).run k c m = some r) :
    ∃ u t, c.after = u ++ t ∧ s.Runs hi u ∧ lo ≤ u.length ∧ k (c.past u t) m = some r := by
  obtain ⟨d, hd, hk⟩ := exists_of_firstOf h
  obtain ⟨u, t, hparts, hu, hlength, rfl⟩ := mem_ends_iff.mp hd
  exact ⟨u, t, hparts, hu, hlength, hk⟩

lemma exists_of_run_set (h : (Node.set s).run k c m = some r) :
    ∃ x t, c.after = x :: t ∧ s.accepts x = true ∧ k (c.past [x] t) m = some r := by
  rw [Node.run] at h
  cases hc : c.after with
  | nil => simp [hc] at h
  | cons x t =>
    by_cases hx : s.accepts x = true
    · exact ⟨x, t, rfl, hx, by simpa [hc, hx, Cursor.next, Cursor.past] using h⟩
    · simp [hc, hx] at h

/-- A group holds what its pattern takes. -/
lemma exists_of_run_group {n : Nat} {Q : Chars → Prop}
    (ha : ∀ k, a.run k c m = some r → ∃ u t, c.after = u ++ t ∧ Q u ∧ k (c.past u t) m = some r)
    (h : (Node.group n a).run k c m = some r) :
    ∃ u t, c.after = u ++ t ∧ Q u ∧
      k (c.past u t) ((n, ⟨c.pos, c.pos + u.length, u⟩) :: m) = some r := by
  obtain ⟨u, t, hc, hu, hk⟩ := ha _ h
  have htext : c.after.take ((c.past u t).pos - c.pos) = u := by simp [Cursor.past, hc]
  rw [htext] at hk
  exact ⟨u, t, hc, hu, hk⟩

/-! ### Repetitions -/

lemma run_rep (lo : Nat) (hi : Option Nat) {mode : Mode} (hmode : mode ≠ .possessive) (a : Node) :
    (∃ s, ∃ order : List Cursor → List Cursor, a = .set s ∧ (order = id ∨ order = reverse) ∧
      ∀ k c m, (Node.rep lo hi mode a).run k c m = firstOf k m (order (ends s lo hi c))) ∨
    ∀ k c m, (Node.rep lo hi mode a).run k c m =
      rounds a.run lo hi (mode == .lazy) k (lo + c.after.length + 2) 0 none c m := by
  cases mode with
  | greedy =>
    cases a with
    | set s => exact .inl ⟨s, id, rfl, .inl rfl, fun _ _ _ => rfl⟩
    | _ => exact .inr fun _ _ _ => rfl
  | lazy =>
    cases a with
    | set s => exact .inl ⟨s, reverse, rfl, .inr rfl, fun _ _ _ => rfl⟩
    | _ => exact .inr fun _ _ _ => rfl
  | possessive => exact absurd rfl hmode

/-- A round that is not needed. -/
def moreRounds (body : Cont → Cont) (lo : Nat) (hi : Option Nat) (lazy : Bool) (k : Cont)
    (fuel count : Nat) (last : Option Nat) : Cont := fun c m =>
  if hi.all (count < ·) && last != some c.pos then
    body (rounds body lo hi lazy k fuel (count + 1) (some c.pos)) c m
  else none

lemma rounds_succ (body : Cont → Cont) (lo : Nat) (hi : Option Nat) (lazy : Bool) (k : Cont)
    (fuel count : Nat) (last : Option Nat) (c : Cursor) (m : Captures) :
    rounds body lo hi lazy k (fuel + 1) count last c m =
      if count < lo then body (rounds body lo hi lazy k fuel (count + 1) last) c m
      else if lazy then (k c m).or (moreRounds body lo hi lazy k fuel count last c m)
      else (moreRounds body lo hi lazy k fuel count last c m).or (k c m) := rfl

/-- An option is tried before it is left out. -/
lemma rounds_option (body : Cont → Cont) (k : Cont) (fuel : Nat) (c : Cursor) (m : Captures) :
    rounds body 0 (some 1) false k (fuel + 2) 0 none c m = (body k c m).or (k c m) := by
  have hend : rounds body 0 (some 1) false k (fuel + 1) 1 (some c.pos) = k := by
    funext d m
    rw [rounds_succ]
    simp [moreRounds]
  rw [rounds_succ body 0 (some 1) false k (fuel + 1)]
  simp [moreRounds, hend]

lemma run_option (ha : ∀ s, a ≠ .set s) (k : Cont) (c : Cursor) (m : Captures) :
    (Node.rep 0 (some 1) .greedy a).run k c m = (a.run k c m).or (k c m) := by
  rcases run_rep 0 (some 1) (show Mode.greedy ≠ .possessive by decide) a with ⟨s, -, rfl, -⟩ | hrun
  · exact absurd rfl (ha s)
  · rw [hrun]
    exact rounds_option a.run k _ c m

/-! ### What a pattern asks of the text -/

/-- A pattern matches where what follows the place meets `F L`, for a rest of the pattern that
matches where it meets `L`. -/
def Node.Reads (a : Node) (F : (Chars → Prop) → Chars → Prop) : Prop :=
  ∀ (k : Cont) (L : Chars → Prop), (∀ c m, (k c m).isSome = true ↔ L c.after) →
    ∀ c m, (a.run k c m).isSome = true ↔ F L c.after

variable {F G : (Chars → Prop) → Chars → Prop}

lemma Node.Reads.congr (ha : a.Reads F) (h : ∀ L t, F L t ↔ G L t) : a.Reads G := fun k L hk c m =>
  (ha k L hk c m).trans (h L c.after)

/-- A sequence reads one part behind the other. -/
lemma reads_seq (ha : a.Reads F) (hb : b.Reads G) :
    (Node.seq a b).Reads fun L => F (G L) := fun k L hk =>
  ha (b.run k) (G L) (hb k L hk)

lemma reads_alt (ha : a.Reads F) (hb : b.Reads G) :
    (Node.alt a b).Reads fun L t => F L t ∨ G L t := by
  intro k L hk c m
  rw [Node.run, Option.isSome_or, Bool.or_eq_true, ha k L hk, hb k L hk]

lemma reads_group (n : Nat) (ha : a.Reads F) : (Node.group n a).Reads F := fun _ L hk =>
  fun c => ha _ L (fun d _ => hk d _) c

lemma reads_set (s : CharSet) :
    (Node.set s).Reads fun L t => ∃ x t', t = x :: t' ∧ s.accepts x = true ∧ L t' := by
  intro k L hk c m
  cases hc : c.after with
  | nil => simp [Node.run, hc]
  | cons x t =>
    have hnext : c.next.after = t := by simp only [Cursor.next, hc]
    by_cases hx : s.accepts x = true
    all_goals simp [Node.run, hc, hx, hk, hnext]

lemma reads_rep (lo : Nat) (hi : Option Nat) (s : CharSet) :
    (Node.rep lo hi .greedy (.set s)).Reads fun L t =>
    ∃ u t', t = u ++ t' ∧ s.Runs hi u ∧ lo ≤ u.length ∧ L t' := by
  intro k L hk c m
  refine isSome_firstOf_iff.trans ⟨?_, ?_⟩
  · rintro ⟨d, hd, hsome⟩
    obtain ⟨u, t, hparts, hu, hlength, rfl⟩ := mem_ends_iff.mp hd
    exact ⟨u, t, hparts, hu, hlength, (hk _ m).mp hsome⟩
  · rintro ⟨u, t, hparts, hu, hlength, hL⟩
    exact ⟨c.past u t, mem_ends_iff.mpr ⟨u, t, hparts, hu, hlength, rfl⟩, (hk _ m).mpr hL⟩

lemma reads_option (hset : ∀ s, a ≠ .set s) (ha : a.Reads F) :
    (Node.rep 0 (some 1) .greedy a).Reads fun L t => F L t ∨ L t := by
  intro k L hk c m
  rw [run_option hset, Option.isSome_or, Bool.or_eq_true, ha k L hk, hk]

lemma reads_optional (n : Nat) (ha : a.Reads F) :
    (Node.rep 0 (some 1) .greedy (.group n a)).Reads fun L t => F L t ∨ L t :=
  reads_option (by simp) (reads_group n ha)

lemma reads_stopOrNewline :
    (Node.anchor .stopOrNewline).Reads fun L t => (t = [] ∨ t = ['\n']) ∧ L t := by
  intro k L hk c m
  have hholds : Anchor.stopOrNewline.holds c = true ↔ c.after = [] ∨ c.after = ['\n'] := by
    simp [Anchor.holds]
  by_cases h : c.after = [] ∨ c.after = ['\n']
  all_goals simp [Node.run, hholds, h, hk]

/-- A pattern that is tied to the start of the text. -/
lemma starts_iff_of_reads (ha : a.Reads F) (text : String) :
    (Node.seq (.anchor .start) a).starts text = true ↔ F (fun _ => True) text.toList := by
  have hend :=
    ha (fun d m => if false && d.pos == 0 then none else some (d, m)) (fun _ => True) (by simp)
    (Cursor.ofText text.toList) []
  rw [← show (Cursor.ofText text.toList).after = text.toList from rfl, ← hend]
  simp only [Node.starts, Node.matchStart, Node.matchAt, Option.isSome_map, Node.run]
  rfl

/-! ### Words -/

/-- The set of one character. -/
def charSet (x : Char) : CharSet := { items := [.range x.toNat x.toNat] }

/-- The pattern of a word. -/
def literal : Chars → Node
  | [] => .empty
  | [x] => .set (charSet x)
  | x :: w => .seq (.set (charSet x)) (literal w)

/-- One of several patterns. -/
def choice : List Node → Node
  | [] => .empty
  | [a] => a
  | a :: as => .alt a (choice as)

lemma accepts_charSet_iff {x y : Char} : (charSet x).accepts y = true ↔ y = x := by
  have hcode : x.toNat ≤ y.toNat ∧ y.toNat ≤ x.toNat ↔ y = x := by
    rw [← Char.toNat_inj]
    omega
  simp [charSet, CharSet.accepts, SetItem.accepts, hcode]

lemma reads_charSet (x : Char) :
    (Node.set (charSet x)).Reads fun L t => ∃ t', t = x :: t' ∧ L t' := by
  simpa [accepts_charSet_iff] using reads_set (charSet x)

lemma reads_literal {w : Chars} (hne : w ≠ []) :
    (literal w).Reads fun L t => ∃ t', t = w ++ t' ∧ L t' := by
  fun_induction literal w with
  | case1 => exact absurd rfl hne
  | case2 x => exact reads_charSet x
  | case3 x w hw ih =>
    have hseq := reads_seq (reads_charSet x) (ih hw)
    simpa [exists_and_left, and_assoc] using hseq

lemma exists_of_run_charSet {x : Char} (h : (Node.set (charSet x)).run k c m = some r) :
    ∃ t, c.after = x :: t ∧ k (c.past [x] t) m = some r := by
  obtain ⟨y, t, hparts, hy, hk⟩ := exists_of_run_set h
  obtain rfl := accepts_charSet_iff.mp hy
  exact ⟨t, hparts, hk⟩

lemma reads_choice {α : Type} {xs : List α} (hne : xs ≠ []) {f : α → Node}
    {F : α → (Chars → Prop) → Chars → Prop} (hxs : ∀ x ∈ xs, (f x).Reads (F x)) :
    (choice (xs.map f)).Reads fun L t => ∃ x ∈ xs, F x L t := by
  induction xs with
  | nil => exact absurd rfl hne
  | cons x xs ih =>
    obtain ⟨hx, hxs⟩ := forall_mem_cons.mp hxs
    cases xs with
    | nil => simpa [choice] using hx
    | cons y ys => simpa [choice] using reads_alt hx (ih (by simp) hxs)

/-! ### Searching -/

/-- A pattern that matches just where what follows meets a condition is found if some rest of the
text meets it. -/
lemma isSome_searchFrom_iff {P : Chars → Prop}
    (h : ∀ c, (a.matchAt false c).isSome = true ↔ P c.after) {t : Chars} (hc : c.after = t) :
    (a.searchFrom false t c).isSome = true ↔ ∃ u, u <:+ t ∧ P u := by
  induction t generalizing c with
  | nil => rw [Node.searchFrom, h, hc]; simp
  | cons x t ih =>
    have hnext : c.next.after = t := by simp [Cursor.next, hc]
    have hhere := h c
    rw [hc] at hhere
    simp only [Node.searchFrom, suffix_cons_iff, or_and_right, exists_or,
      exists_eq_left, ← hhere, ← ih hnext]
    cases a.matchAt false c <;> simp

lemma occurs_iff {P : Chars → Prop} (h : ∀ c, (a.matchAt false c).isSome = true ↔ P c.after)
    (text : String) :
    a.occurs text = true ↔ ∃ u, u <:+ text.toList ∧ P u := by
  rw [Node.occurs, Node.search, Option.isSome_map]
  exact isSome_searchFrom_iff h rfl

lemma matchAt_isSome_iff (ha : a.Reads F) (c : Cursor) :
    (a.matchAt false c).isSome = true ↔ F (fun _ => True) c.after := by
  rw [Node.matchAt, Option.isSome_map]
  exact ha _ _ (by simp) c []

lemma all_ne_nil_iff (a : Node) (text : String) : a.all text ≠ [] ↔ a.occurs text = true := by
  have hafter : (Cursor.ofText text.toList).after = text.toList := rfl
  rw [Node.all, Node.matchesFrom, Node.occurs, Node.search, hafter, Option.isSome_map]
  cases a.searchFrom false text.toList (Cursor.ofText text.toList) <;> simp

lemma matchesFrom_next {x : Char} {t : Chars} (hc : c.after = x :: t) (h : a.matchAt false c = none)
    (fuel : Nat) :
    a.matchesFrom fuel false c = a.matchesFrom fuel false c.next := by
  cases fuel with
  | zero => rfl
  | succ fuel =>
    have hnext : c.next.after = t := by simp [Cursor.next, hc]
    rw [Node.matchesFrom, Node.matchesFrom, hc, Node.searchFrom, h, hnext]

lemma matchesFrom_match {mt : Match} {d : Cursor} (h : a.matchAt false c = some (mt, d))
    (fuel : Nat) :
    a.matchesFrom (fuel + 1) false c = mt :: a.matchesFrom fuel (mt.start == mt.stop) d := by
  rw [Node.matchesFrom]
  cases hc : c.after with
  | nil => rw [Node.searchFrom, h]
  | cons x t => rw [Node.searchFrom, h]

/-! ### Texts of one class -/

lemma exists_runCursors {s : CharSet} {after : Chars} (h : ∀ x ∈ after, s.accepts x = true)
    (before : Chars) (pos : Nat) (acc : List Cursor) :
    ∃ cs, runCursors s after none ⟨before, after, pos⟩ acc =
      ⟨after.reverse ++ before, [], pos + after.length⟩ :: cs := by
  induction after generalizing before pos acc with
  | nil => exact ⟨acc, rfl⟩
  | cons x after ih =>
    obtain ⟨hx, hafter⟩ := forall_mem_cons.mp h
    obtain ⟨cs, hcs⟩ := ih hafter (x :: before) (pos + 1) (⟨before, x :: after, pos⟩ :: acc)
    refine ⟨cs, ?_⟩
    rw [runCursors, hx, Bool.and_true, if_pos (by rfl), Option.map_none, hcs, List.reverse_cons,
      List.append_assoc, singleton_append, length_cons, Nat.add_right_comm, Nat.add_assoc]

/-- A text of one class from end to end. -/
def wholeOf (s : CharSet) : Node :=
  .seq (.anchor .start) (.seq (.rep 1 none .greedy (.set s)) (.anchor .stopOrNewline))

/-- A pattern of one class from end to end matches each nonempty text of the class. -/
theorem starts_wholeOf {s : CharSet} {text : String} (hne : text ≠ "")
    (h : ∀ x ∈ text.toList, s.accepts x = true) :
    (wholeOf s).starts text = true := by
  obtain ⟨cs, hcs⟩ := exists_runCursors h [] 0 []
  have hlength : 0 < text.toList.length := length_pos_iff.mpr (by simpa using hne)
  have hkeep : decide (0 + 1 ≤ 0 + text.toList.length) = true := by
    rw [decide_eq_true_eq]
    omega
  simp only [Node.starts, Node.matchStart, Node.matchAt, wholeOf, Node.run, Cursor.ofText,
    Anchor.holds, isEmpty_nil, if_true, hcs, List.filter_cons, hkeep, firstOf, Bool.true_or,
    Bool.false_and, Bool.false_eq_true, if_false,
    Option.map_some, Option.isSome_some]

lemma Cursor.past_past (c : Cursor) (u t v t' : Chars) :
    (c.past u t).past v t' = c.past (u ++ v) t' := by
  simp [Cursor.past, Nat.add_assoc]

end Workbench.Pattern
