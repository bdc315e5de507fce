import Mathlib.Data.List.DropRight
import Mathlib.Data.List.Infix
import Workbench.Text.Basic

/-!
# Cutting and trimming texts

A text is cut at the first place where the separator stands, and the rest is cut in the same way.
-/

namespace Workbench.Text

open List String Nat

variable {p s t u sep rest : Chars} {x c : Char} {n : Nat}
variable {a b : String} {w : Chars}

/-! ### Fronts and occurrences -/

lemma isFront_iff : isFront p s = true ↔ p <+: s := by
  fun_induction dropFront? p s with
  | case1 s => simp [isFront, dropFront?]
  | case2 a p => simp [isFront, dropFront?]
  | case3 a p s ih =>
    rw [cons_prefix_cons, eq_self_iff_true, true_and, ← ih]
    simp [isFront, dropFront?]
  | case4 a p b s hab =>
    rw [cons_prefix_cons]
    simp [isFront, dropFront?, hab]

lemma dropFront?_append (p s : Chars) : dropFront? p (p ++ s) = some s := by
  induction p with
  | nil => rfl
  | cons a p ih =>
    rw [cons_append, dropFront?, if_pos rfl]
    exact ih

lemma dropFront?_eq_none (h : ¬ p <+: s) : dropFront? p s = none := by
  rw [← Option.not_isSome_iff_eq_none]
  intro hsome
  exact h (isFront_iff.mp hsome)

lemma eq_append_of_dropFront? (h : dropFront? p s = some t) : s = p ++ t := by
  have hfront : isFront p s = true := by rw [isFront, h]; rfl
  obtain ⟨rest, rfl⟩ := isFront_iff.mp hfront
  rw [dropFront?_append] at h
  rw [Option.some.inj h]

lemma occursIn_iff : occursIn p s = true ↔ p <:+: s := by
  induction s with
  | nil => simp [occursIn]
  | cons c s ih => rw [occursIn, Bool.or_eq_true, isFront_iff, ih, infix_cons_iff]

lemma startsWith_iff : startsWith a b = true ↔ b.toList <+: a.toList := isFront_iff

lemma endsWith_iff : endsWith a b = true ↔ b.toList <:+ a.toList := by
  rw [endsWith, isFront_iff, reverse_prefix]

lemma contains_iff : contains a b = true ↔ b.toList <:+: a.toList := occursIn_iff

lemma isPrefix_of_isPrefix_append_cons (hx : x ∉ p) (h : p <+: u ++ x :: s) : p <+: u := by
  induction p generalizing u with
  | nil => exact nil_prefix
  | cons c p ih =>
    cases u with
    | nil => exact absurd (cons_prefix_cons.mp h).1 (ne_of_not_mem_cons hx).symm
    | cons d u =>
      obtain ⟨rfl, hrest⟩ := cons_prefix_cons.mp h
      exact cons_prefix_cons.mpr ⟨rfl, ih (not_mem_of_not_mem_cons hx) hrest⟩

lemma isInfix_append_cons_iff (hx : x ∉ p) : p <:+: u ++ x :: s ↔ p <:+: u ∨ p <:+: s := by
  constructor
  · intro h
    induction u with
    | nil =>
      rcases infix_cons_iff.mp h with h | h
      · exact .inl (isPrefix_of_isPrefix_append_cons (u := []) hx h).isInfix
      · exact .inr h
    | cons c u ih =>
      rcases infix_cons_iff.mp h with h | h
      · exact .inl (isPrefix_of_isPrefix_append_cons (u := c :: u) hx h).isInfix
      · exact (ih h).imp_left infix_cons
  · rintro (h | h)
    · exact h.trans (prefix_append u _).isInfix
    · exact h.trans ((suffix_cons x s).trans (suffix_append u _)).isInfix

/-! ### Where a separator stands -/

/-- The separator begins nowhere in the first text. -/
def NotWithin (sep u s : Chars) : Prop := ∀ t, t ≠ [] → t <:+ u → ¬ sep <+: t ++ s

lemma notWithin_nil (sep s : Chars) : NotWithin sep [] s := by
  intro t ht hsuffix
  exact absurd (suffix_nil.mp hsuffix) ht

lemma notWithin_cons : NotWithin sep (c :: u) s ↔ ¬ sep <+: c :: (u ++ s) ∧ NotWithin sep u s := by
  constructor
  · intro h
    refine ⟨h (c :: u) (by simp) suffix_rfl, fun t ht hsuffix => ?_⟩
    exact h t ht (hsuffix.trans (suffix_cons c u))
  · rintro ⟨hfirst, hrest⟩ t ht hsuffix
    rcases suffix_cons_iff.mp hsuffix with rfl | hsuffix
    · exact hfirst
    · exact hrest t ht hsuffix

lemma notWithin_append :
    NotWithin sep (t ++ u) s ↔ NotWithin sep t (u ++ s) ∧ NotWithin sep u s := by
  induction t with
  | nil => simp [notWithin_nil]
  | cons c t ih => simp only [List.cons_append, notWithin_cons, ih, List.append_assoc, and_assoc]

/-- The first character of the separator is missing. -/
lemma notWithin_of_notMem (hx : x ∉ u) (sep s : Chars) : NotWithin (x :: sep) u s := by
  induction u with
  | nil => exact notWithin_nil _ _
  | cons c u ih =>
    rw [mem_cons, not_or] at hx
    refine notWithin_cons.mpr ⟨fun h => hx.1 ?_, ih hx.2⟩
    exact (cons_prefix_cons.mp h).1

/-! ### Cutting -/

lemma exists_first (h : sep <:+: s) :
    ∃ u v, s = u ++ (sep ++ v) ∧ ∀ t, NotWithin sep u (sep ++ (v ++ t)) := by
  induction s with
  | nil =>
    obtain rfl := infix_nil.mp h
    exact ⟨[], [], rfl, fun t => notWithin_nil _ _⟩
  | cons c s ih =>
    by_cases hfront : sep <+: c :: s
    · obtain ⟨v, hv⟩ := hfront
      exact ⟨[], v, hv.symm, fun t => notWithin_nil _ _⟩
    · obtain ⟨u, v, rfl, hu⟩ := ih ((infix_cons_iff.mp h).resolve_left hfront)
      refine ⟨c :: u, v, rfl, fun t => notWithin_cons.mpr ⟨fun hsep => hfront ?_, hu t⟩⟩
      refine prefix_of_prefix_length_le hsep ⟨t, by simp⟩ ?_
      simp only [List.length_cons, List.length_append]
      omega

lemma splitLoop_skip (sep : Chars) (n : Nat) (piece u s : Chars) :
    splitLoop sep n u.length piece (u ++ s) = splitLoop sep n 0 piece s := by
  induction u with
  | nil => rfl
  | cons c u ih => rw [cons_append, length_cons, splitLoop, ih]

lemma splitLoop_within (h : NotWithin sep u s) (n : Nat) (piece : Chars) :
    splitLoop sep n 0 piece (u ++ s) = splitLoop sep n 0 (u.reverse ++ piece) s := by
  induction u generalizing piece with
  | nil => rfl
  | cons c u ih =>
    obtain ⟨hfirst, hrest⟩ := notWithin_cons.mp h
    rw [List.reverse_cons, List.append_assoc, List.singleton_append, ← ih hrest (c :: piece)]
    cases n with
    | zero => rfl
    | succ n => rw [cons_append, splitLoop, if_neg (by rwa [isFront_iff])]

lemma splitLoop_zero (sep piece s : Chars) : splitLoop sep 0 0 piece s = [piece.reverse ++ s] := by
  induction s generalizing piece with
  | nil => simp [splitLoop]
  | cons c s ih => rw [splitLoop, ih]; simp

lemma splitLoop_cut (hsep : sep ≠ []) (n : Nat) (piece s : Chars) :
    splitLoop sep (n + 1) 0 piece (sep ++ s) = piece.reverse :: splitLoop sep n 0 [] s := by
  cases sep with
  | nil => exact absurd rfl hsep
  | cons a sep =>
    have hfront : isFront (a :: sep) (a :: (sep ++ s)) = true := isFront_iff.mpr ⟨s, rfl⟩
    rw [cons_append, splitLoop, if_pos hfront, length_cons, Nat.add_sub_cancel, splitLoop_skip]

lemma splitLoop_limit {m n : Nat} (hm : s.length < m) (hn : s.length < n) (k : Nat)
    (piece : Chars) :
    splitLoop sep m k piece s = splitLoop sep n k piece s := by
  induction s generalizing m n k piece with
  | nil => simp only [splitLoop]
  | cons c s ih =>
    obtain ⟨m, rfl⟩ := Nat.exists_eq_succ_of_ne_zero (Nat.ne_zero_of_lt hm)
    obtain ⟨n, rfl⟩ := Nat.exists_eq_succ_of_ne_zero (Nat.ne_zero_of_lt hn)
    have hm' : s.length < m := Nat.lt_of_succ_lt_succ hm
    have hn' : s.length < n := Nat.lt_of_succ_lt_succ hn
    have hsame : ∀ k piece, splitLoop sep (m + 1) k piece s = splitLoop sep (n + 1) k piece s :=
      ih (lt_succ_of_lt hm') (lt_succ_of_lt hn')
    cases k with
    | zero => rw [succ_eq_add_one, succ_eq_add_one, splitLoop, splitLoop, ih hm' hn', hsame]
    | succ k => rw [splitLoop, splitLoop, hsame]

/-- The first piece ends where the separator first stands. -/
theorem splitChars_cut (hsep : sep ≠ []) (h : NotWithin sep u (sep ++ s)) (n : Nat) :
    splitChars sep (n + 1) (u ++ (sep ++ s)) = u :: splitChars sep n s := by
  have hempty : sep.isEmpty = false := by simpa using hsep
  simp only [splitChars, hempty, Bool.false_eq_true, if_false]
  rw [splitLoop_within h, splitLoop_cut hsep]
  simp

/-- Without the separator a text is one piece. -/
theorem splitChars_of_notWithin (h : NotWithin sep s []) (n : Nat) : splitChars sep n s = [s] := by
  rw [splitChars]
  split_ifs with hempty
  · rfl
  · have hloop := splitLoop_within h n []
    rw [append_nil, append_nil] at hloop
    rw [hloop, splitLoop, reverse_reverse]

@[simp]
lemma splitChars_zero (sep s : Chars) : splitChars sep 0 s = [s] := by
  rw [splitChars]
  split_ifs
  · rfl
  · simp [splitLoop_zero]

lemma splitLoop_ne_nil (sep : Chars) (n k : Nat) (piece s : Chars) :
    splitLoop sep n k piece s ≠ [] := by
  fun_induction splitLoop sep n k piece s <;> simp_all

lemma splitChars_ne_nil (sep : Chars) (n : Nat) (s : Chars) : splitChars sep n s ≠ [] := by
  rw [splitChars]
  split_ifs
  · simp
  · exact splitLoop_ne_nil _ _ _ _ _

/-! ### All pieces -/

/-- All pieces of a text. -/
def pieces (sep s : Chars) : List Chars := splitChars sep (s.length + 1) s

lemma split_eq (a b : String) : split a b = (pieces b.toList a.toList).map .ofList := by
  rw [split, pieces, length_toList]

/-- The first of all pieces ends where the separator first stands. -/
theorem pieces_cut (hsep : sep ≠ []) (h : NotWithin sep u (sep ++ s)) :
    pieces sep (u ++ (sep ++ s)) = u :: pieces sep s := by
  have hempty : sep.isEmpty = false := by simpa using hsep
  rw [pieces, splitChars_cut hsep h, pieces]
  simp only [splitChars, hempty, Bool.false_eq_true, if_false]
  have hpos : 0 < sep.length := length_pos_of_ne_nil hsep
  rw [splitLoop_limit (by simp only [List.length_append]; omega) (Nat.lt_succ_self s.length)]

/-- Without the separator there is one piece. -/
theorem pieces_of_notWithin (h : NotWithin sep s []) : pieces sep s = [s] :=
  splitChars_of_notWithin h _

lemma exists_pieces_append (h : NotWithin sep u s) :
    ∃ t ts, pieces sep (u ++ s) = (u ++ t) :: ts := by
  have hcollect : ∀ (n : Nat) (piece s : Chars), ∃ t ts,
      splitLoop sep n 0 piece s = (piece.reverse ++ t) :: ts := by
    intro n piece s
    induction s generalizing n piece with
    | nil => exact ⟨[], [], by simp [splitLoop]⟩
    | cons d s ih =>
      cases n with
      | zero => exact ⟨d :: s, [], splitLoop_zero sep piece (d :: s)⟩
      | succ n =>
        rw [splitLoop]
        split_ifs
        · exact ⟨[], _, by rw [append_nil]⟩
        · obtain ⟨t, ts, hts⟩ := ih (n + 1) (d :: piece)
          exact ⟨d :: t, ts, by rw [hts]; simp⟩
  rw [pieces, splitChars]
  split_ifs
  · exact ⟨s, [], rfl⟩
  · rw [splitLoop_within h, append_nil]
    simpa using hcollect ((u ++ s).length + 1) u.reverse s

variable {ws : List Chars}

/-- Pieces without the separator are found again when they are put together. -/
theorem pieces_intercalate (hne : ws ≠ []) (hws : ∀ w ∈ ws, x ∉ w) :
    pieces [x] ([x].intercalate ws) = ws := by
  induction ws with
  | nil => exact absurd rfl hne
  | cons w ws ih =>
    obtain ⟨hw, hws⟩ := forall_mem_cons.mp hws
    cases ws with
    | nil =>
      rw [List.intercalate_singleton]
      exact pieces_of_notWithin (notWithin_of_notMem hw [] [])
    | cons v ws =>
      rw [List.intercalate_cons_cons, List.append_assoc,
        pieces_cut (by simp) (notWithin_of_notMem hw [] _), ih (by simp) hws]

lemma exists_intercalate (x : Char) (s : Chars) :
    ∃ ws, ws ≠ [] ∧ (∀ w ∈ ws, x ∉ w) ∧ [x].intercalate ws = s := by
  induction s with
  | nil => exact ⟨[[]], by simp, by simp, rfl⟩
  | cons c s ih =>
    obtain ⟨ws, hne, hws, rfl⟩ := ih
    obtain ⟨w, ws, rfl⟩ := exists_cons_of_ne_nil hne
    by_cases hc : c = x
    · refine ⟨[] :: w :: ws, by simp, by simpa using hws, ?_⟩
      rw [List.intercalate_cons_cons, hc]
      rfl
    · obtain ⟨hw, hws⟩ := forall_mem_cons.mp hws
      refine ⟨(c :: w) :: ws, by simp, forall_mem_cons.mpr ⟨by simp [Ne.symm hc, hw], hws⟩, ?_⟩
      cases ws with
      | nil => simp
      | cons v ws => simp [List.intercalate_cons_cons]

/-- The pieces between the occurrences of a character make up the text. -/
theorem intercalate_pieces (x : Char) (s : Chars) : [x].intercalate (pieces [x] s) = s := by
  obtain ⟨ws, hne, hws, rfl⟩ := exists_intercalate x s
  rw [pieces_intercalate hne hws]

lemma notMem_of_mem_pieces (h : w ∈ pieces [x] s) : x ∉ w := by
  obtain ⟨ws, hne, hws, rfl⟩ := exists_intercalate x s
  rw [pieces_intercalate hne hws] at h
  exact hws w h

lemma infix_intercalate (hw : w ∈ ws) (sep : Chars) : w <:+: sep.intercalate ws := by
  induction ws with
  | nil => cases hw
  | cons v ws ih =>
    cases ws with
    | nil =>
      obtain rfl := mem_singleton.mp hw
      rw [List.intercalate_singleton]
    | cons u ws =>
      rw [List.intercalate_cons_cons, List.append_assoc]
      rcases mem_cons.mp hw with rfl | hw
      · exact (prefix_append _ _).isInfix
      · exact (ih hw).trans (((suffix_append sep _).trans (suffix_append v _)).isInfix)

lemma infix_of_mem_pieces (h : w ∈ pieces [x] s) : w <:+: s := by
  have hpart := infix_intercalate h [x]
  rwa [intercalate_pieces] at hpart

lemma toList_join (sep : String) (ls : List String) :
    (join sep ls).toList = sep.toList.intercalate (ls.map toList) := by
  induction ls with
  | nil => rfl
  | cons l ls ih =>
    cases ls with
    | nil => simp [join]
    | cons m ls =>
      rw [join.eq_3 sep l (m :: ls) (by simp), toList_append, toList_append, ih, map_cons, map_cons,
        List.map_cons, List.intercalate_cons_cons]

variable {sep' : String} {ls : List String}

/-- Texts without a character are got back when they are joined with it. -/
theorem split_join (hsep : sep'.toList = [x]) (hne : ls ≠ []) (hls : ∀ l ∈ ls, x ∉ l.toList) :
    split (join sep' ls) sep' = ls := by
  have hpieces : pieces [x] ([x].intercalate (ls.map toList)) = ls.map toList := by
    refine pieces_intercalate (by simpa using hne) fun w hw => ?_
    obtain ⟨l, hl, rfl⟩ := mem_map.mp hw
    exact hls l hl
  rw [split_eq, toList_join, hsep, hpieces, List.map_map]
  simp

/-- A text is got back from its pieces. -/
theorem join_split (hsep : sep'.toList = [x]) (s : String) : join sep' (split s sep') = s := by
  refine String.toList_injective ?_
  rw [toList_join, split_eq, hsep, List.map_map]
  simpa [Function.comp_def] using intercalate_pieces x s.toList

lemma split_join_lines (hne : ls ≠ []) (hls : ∀ l ∈ ls, '\n' ∉ l.toList) :
    split (join "\n" ls) "\n" = ls :=
  split_join rfl hne hls

/-! ### Finding -/

lemma findFrom_within (h : NotWithin p u s) (i : Nat) :
    findFrom p i (u ++ s) = findFrom p (i + u.length) s := by
  induction u generalizing i with
  | nil => rfl
  | cons c u ih =>
    obtain ⟨hfirst, hrest⟩ := notWithin_cons.mp h
    have hfront : isFront p (c :: (u ++ s)) = false := by
      rw [← Bool.not_eq_true, isFront_iff]
      exact hfirst
    rw [cons_append, findFrom, hfront, if_neg (by simp), ih hrest, length_cons]
    congr 1
    omega

lemma findFrom_first (hne : p ≠ []) (h : NotWithin p u (p ++ s)) (i : Nat) :
    findFrom p i (u ++ (p ++ s)) = some (i + u.length) := by
  have hfront : isFront p (p ++ s) = true := isFront_iff.mpr ⟨s, rfl⟩
  rw [findFrom_within h]
  obtain ⟨c, r, rfl⟩ := exists_cons_of_ne_nil hne
  rw [cons_append] at hfront ⊢
  rw [findFrom, if_pos hfront]

/-- A part is found behind a text that it does not begin in. -/
theorem find?_append {lead part tail : String} (hne : part ≠ "")
    (h : NotWithin part.toList lead.toList (part ++ tail).toList) :
    find? (lead ++ (part ++ tail)) part = some lead.length := by
  rw [toList_append] at h
  rw [find?, toList_append, toList_append, findFrom_first (by simpa using hne) h, Nat.zero_add,
    length_toList]

lemma find?_eq_none (hne : b ≠ "") (h : ¬ b.toList <:+: a.toList) : find? a b = none := by
  have hempty : b.toList.isEmpty = false := by simpa using hne
  have hloop : ∀ (s : Chars) (i : Nat), ¬ b.toList <:+: s → findFrom b.toList i s = none := by
    intro s
    induction s with
    | nil => simp [findFrom, hempty]
    | cons c s ih =>
      intro i h
      rw [infix_cons_iff, not_or] at h
      rw [findFrom, if_neg (by rw [isFront_iff]; exact h.1), ih _ h.2]
  exact hloop _ _ h

lemma take_append (a b : String) : take (a ++ b) a.length = a := by
  rw [take, toList_append, ← length_toList, take_left, ofList_toList]

lemma drop_append (a b : String) : drop (a ++ b) a.length = b := by
  rw [drop, toList_append, ← length_toList, drop_left, ofList_toList]

/-! ### Replacing -/

lemma replaceLoop_skip (old new u s : Chars) :
    replaceLoop old new u.length (u ++ s) = replaceLoop old new 0 s := by
  induction u with
  | nil => rfl
  | cons c u ih => rw [cons_append, length_cons, replaceLoop, ih]

lemma replaceLoop_of_not_occurs {old : Chars} (h : ¬ old <:+: s) (new : Chars) :
    replaceLoop old new 0 s = s := by
  induction s with
  | nil => rfl
  | cons c s ih =>
    have hfront : isFront old (c :: s) = false := by
      rw [← Bool.not_eq_true, isFront_iff]
      exact fun hfront => h hfront.isInfix
    rw [replaceLoop, hfront, if_neg (by simp), ih fun hrest => h (infix_cons hrest)]

/-- A part that stands in front only is taken away. -/
theorem replace_front {old rest : String} (hne : old ≠ "") (h : ¬ old.toList <:+: rest.toList) :
    replace (old ++ rest) old "" = rest := by
  obtain ⟨c, u, hold⟩ := exists_cons_of_ne_nil (l := old.toList) (by simpa using hne)
  have hfront : isFront (c :: u) (c :: (u ++ rest.toList)) = true :=
    isFront_iff.mpr ⟨rest.toList, rfl⟩
  have hloop : replaceChars old.toList [] (old ++ rest).toList = rest.toList := by
    rw [hold] at h
    rw [replaceChars, toList_append, hold, if_neg (by simp), cons_append, replaceLoop,
      if_pos hfront, nil_append, length_cons, Nat.add_sub_cancel, replaceLoop_skip,
      replaceLoop_of_not_occurs h]
  rw [replace]
  exact (congrArg ofList hloop).trans ofList_toList

end Workbench.Text
