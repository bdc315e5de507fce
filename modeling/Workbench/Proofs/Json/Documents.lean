import Mathlib.Algebra.Ring.Nat
import Workbench.Proofs.Json.Numbers
import Workbench.Proofs.Json.Printable
import Workbench.Proofs.Value.Entries

/-!
# Documents that are read, changed and written

What is read of a JSON text is made of texts, numbers and words, in lists and in maps with distinct
keys, none of them too long and none of them too deep (`writable_of_parse`).  A document without a
number that is too long can be written (`exists_write`).
-/

/-! ### When a document can be written -/

namespace Workbench.Json

/-- Documents whose whole numbers have at most `k` digits. -/
inductive Short (k : Nat) : Value → Prop where
  | null : Short k .null
  | bool (b : Bool) : Short k b
  | int {n : Int} : (Nat.toDigits 10 n.natAbs).length ≤ k → Short k n
  | float (x : Float) : Short k (.float x)
  | str (s : String) : Short k s
  | list {xs : List Value} : (∀ x ∈ xs, Short k x) → Short k (.list xs)
  | object {es : List (String × Value)} : (∀ e ∈ es, Short k e.2) → Short k (.object es)

lemma exists_writeItems {l : Layout} {level : Nat} {xs : List Value}
    (h : ∀ x ∈ xs, ∃ text, write l level x = .ok text) :
    ∃ parts, writeItems l level xs = .ok parts := by
  induction xs with
  | nil => exact ⟨[], rfl⟩
  | cons x xs ih =>
    obtain ⟨text, htext⟩ := h x (by simp)
    obtain ⟨parts, hparts⟩ := ih fun y hy => h y (by simp [hy])
    exact ⟨text :: parts, by simp [writeItems, htext, hparts, bind, Except.bind, pure, Except.pure]⟩

lemma exists_writeEntries {l : Layout} {level : Nat} {es : List (String × Value)}
    (h : ∀ e ∈ es, ∃ text, write l level e.2 = .ok text) :
    ∃ parts, writeEntries l level (Value.keyed es) = .ok parts := by
  induction es with
  | nil => exact ⟨[], rfl⟩
  | cons e es ih =>
    obtain ⟨text, htext⟩ := h e (by simp)
    obtain ⟨parts, hparts⟩ := ih fun e' he' => h e' (by simp [he'])
    exact ⟨(quote e.1 ++ l.colon ++ text) :: parts, by
      simp [writeEntries, writeEntry, Layout.key, htext, hparts, bind, Except.bind,
        pure, Except.pure]⟩

/-- A value whose numbers are short enough is written. -/
theorem exists_write {l : Layout} {k : Nat} (hl : l.digits = some k) {v : Value} (hv : Short k v)
    (level : Nat) :
    ∃ text, write l level v = .ok text := by
  induction hv generalizing level with
  | null => exact ⟨_, rfl⟩
  | bool b => exact ⟨_, rfl⟩
  | @int n hn =>
    refine ⟨toString n, ?_⟩
    rw [write, writeAtom, Layout.whole, hl]
    · exact if_neg (Nat.not_lt.mpr hn)
    all_goals simp
  | float x => exact ⟨_, rfl⟩
  | str s => exact ⟨_, rfl⟩
  | list _ ih =>
    obtain ⟨parts, hparts⟩ := exists_writeItems fun x hx => ih x hx (level + 1)
    exact ⟨l.enclose level "[" "]" parts, by rw [write, hparts]; rfl⟩
  | object _ ih =>
    obtain ⟨parts, hparts⟩ := exists_writeEntries fun e he => ih e he (level + 1)
    exact ⟨l.enclose level "\x7b" "\x7d" parts, by rw [Value.object_eq, write, hparts]; rfl⟩

end Workbench.Json

/-! ### Documents that are read -/

open Except

namespace Workbench.Json

open List Value Text Decimal

variable {es : List (String × Value)} {v : Value} {text : String} {d : Nat}

lemma Short.of_object {k : Nat} (h : Short k (.object es)) : ∀ e ∈ es, Short k e.2 := by
  generalize hv : Value.object es = v at h
  cases h with
  | @object es' hvalues =>
    obtain rfl : es = es' := object_injective hv
    exact hvalues
  | _ => cases hv

section Maps

variable {f : Float → Float} {ms : List (Value × Value)} {x : Value} {k : String}

lemma Readable.put (h : Readable f (d + 1) (.map ms)) (hx : Readable f d x) (k : String) :
    Readable f (d + 1) (.map (put k x ms)) := by
  generalize hmap : Value.map ms = m at h
  cases h with
  | @object _ fs hkeys hvalues =>
    obtain rfl := Value.map.inj (hmap.trans (object_eq fs))
    rw [put_keyed, ← object_eq]
    refine .object (nodup_assign x hkeys) fun e he => ?_
    rcases mem_assign he with rfl | he
    · exact hx
    · exact hvalues e he
  | _ => cases hmap

end Maps

/-! ### What is read -/

/-- Documents that can be written and are then read as they were, up to the floats, where `d` levels
are left. -/
structure Writable (d : Nat) (v : Value) : Prop where
  readable : Readable reread d v
  short : Short digitLimit v

lemma writable_null : Writable d .null := ⟨.null, .null⟩

lemma writable_bool (b : Bool) : Writable d b := ⟨.bool b, .bool b⟩

lemma writable_int {n : Int} (h : (Nat.toDigits 10 n.natAbs).length ≤ digitLimit) : Writable d n :=
  ⟨.int n, .int h⟩

lemma writable_float (x : Float) : Writable d (.float x) := ⟨.float (readsAs_reread x d), .float x⟩

lemma writable_str (s : String) : Writable d s := ⟨.str s, .str s⟩

/-- A list of such values is one level deeper. -/
lemma Writable.list {xs : List Value} (h : ∀ x ∈ xs, Writable d x) : Writable (d + 1) (.list xs) :=
  ⟨.list fun x hx => (h x hx).readable, .list fun x hx => (h x hx).short⟩

/-- So is an object with distinct keys. -/
lemma Writable.object (hkeys : (es.map Prod.fst).Nodup) (h : ∀ e ∈ es, Writable d e.2) :
    Writable (d + 1) (.object es) :=
  ⟨.object hkeys fun e he => (h e he).readable, .object fun e he => (h e he).short⟩

lemma natOf_lt {ds : Chars} (h : ∀ d ∈ ds, isAsciiDigit d = true) : natOf ds < 10 ^ ds.length := by
  induction ds using List.reverseRecOn with
  | nil => decide
  | append_singleton ds d ih =>
    have hfront := ih fun c hc => h c (by simp [hc])
    have hd : d.toNat - 48 ≤ 9 := by
      have hdigit := h d (by simp)
      simp only [isAsciiDigit, Bool.and_eq_true, decide_eq_true_eq, Char.le_def] at hdigit
      have htop : d.toNat ≤ 57 := hdigit.2
      omega
    rw [natOf, foldl_append, ← natOf, length_append, foldl_cons, foldl_nil, pow_add]
    simp only [length_singleton, pow_one]
    omega

lemma isAsciiDigit_of_mem_wholePart {s : Chars} {d : Char} (h : d ∈ wholePart s) :
    isAsciiDigit d = true := by
  unfold wholePart at h
  split at h
  · rw [mem_singleton.mp h]
    decide
  · exact mem_takeWhile_imp h

lemma writable_of_readAtom {r r' : Rest} (h : readAtom r = .ok (v, r')) : Writable d v := by
  rw [readAtom] at h
  split at h
  · rename_i w u hfind
    obtain ⟨rfl, -⟩ := Prod.mk.inj (ok.inj h)
    have hmem := mem_of_find?_eq_some hfind
    simp only [wordValues, mem_cons, Prod.mk.injEq, not_mem_nil, or_false] at hmem
    rcases hmem with ⟨-, rfl⟩ | ⟨-, rfl⟩ | ⟨-, rfl⟩ | ⟨-, rfl⟩ | ⟨-, rfl⟩ | ⟨-, rfl⟩
    · exact writable_null
    · exact writable_bool _
    · exact writable_bool _
    all_goals exact writable_float _
  · unfold readNumber at h
    extract_lets neg s whole s₁ frac exp n value fds eds e e' at h
    have hdigits : whole ≠ [] → (Nat.toDigits 10 (natOf whole)).length ≤ whole.length := fun hne =>
      (Nat.length_toDigits_le_iff (by decide) (length_pos_iff.mpr hne)).mpr
        (natOf_lt fun d => isAsciiDigit_of_mem_wholePart)
    split_ifs at h with hempty hwhole hlong hneg
    all_goals
      rw [List.isEmpty_iff] at hempty
      obtain ⟨rfl, -⟩ := Prod.mk.inj (ok.inj h)
    · refine writable_int ?_
      rw [Int.natAbs_neg]
      exact (hdigits hempty).trans (Nat.not_lt.mp hlong)
    · exact writable_int ((hdigits hempty).trans (Nat.not_lt.mp hlong))
    · exact writable_float _

lemma writable_of_read (fuel d : Nat) :
    (∀ r r' v, readValue fuel d r = .ok (v, r') → Writable d v) ∧
    (∀ acc r r' v, (∀ x ∈ acc, Writable d x) → readItems fuel d acc r = .ok (v, r') →
      Writable (d + 1) v) ∧
    (∀ es r r' v, (es.map Prod.fst).Nodup → (∀ e ∈ es, Writable d e.2) →
      readMembers fuel d (keyed es) r = .ok (v, r') → Writable (d + 1) v) := by
  induction fuel generalizing d with
  | zero => exact ⟨by simp [readValue], by simp [readItems], by simp [readMembers]⟩
  | succ fuel ih =>
    refine ⟨?_, ?_, ?_⟩
    · intro r r' v h
      rw [readValue.eq_def] at h
      dsimp only at h
      split at h
      · -- a text
        rename_i s _
        cases htext : readText r.pos 0 [] s (r.pos + 1) with
        | error e => rw [htext] at h; cases h
        | ok t =>
          rw [htext] at h
          obtain ⟨rfl, -⟩ := Prod.mk.inj (ok.inj h)
          exact writable_str _
      · -- a map
        cases d with
        | zero => cases h
        | succ d =>
          dsimp only at h
          split at h
          · obtain ⟨rfl, -⟩ := Prod.mk.inj (ok.inj h)
            exact @Writable.object [] d nodup_nil (by simp)
          · exact (ih d).2.2 [] _ _ _ nodup_nil (by simp) h
      · -- a list
        cases d with
        | zero => cases h
        | succ d =>
          dsimp only at h
          split at h
          · obtain ⟨rfl, -⟩ := Prod.mk.inj (ok.inj h)
            exact .list (by simp)
          · exact (ih d).2.1 [] _ _ _ (by simp) h
      · exact writable_of_readAtom h
    · intro acc r r' v hacc h
      rw [readItems] at h
      split at h
      · cases h
      · rename_i x r₁ hx
        have hall : ∀ y ∈ x :: acc, Writable d y := forall_mem_cons.mpr ⟨(ih d).1 _ _ _ hx, hacc⟩
        dsimp only at h
        split at h
        · obtain ⟨rfl, -⟩ := Prod.mk.inj (ok.inj h)
          exact .list fun y hy => hall y (mem_reverse.mp hy)
        · exact (ih d).2.1 _ _ _ _ hall h
        · cases h
    · intro es r r' v hkeys hes h
      rw [readMembers] at h
      split at h
      · split at h
        · cases h
        · rename_i k r₁ hk
          dsimp only at h
          split at h
          · split at h
            · cases h
            · rename_i x r₂ hx
              have hall : ∀ e ∈ assign k x es, Writable d e.2 := by
                intro e he
                rcases mem_assign he with rfl | he
                · exact (ih d).1 _ _ _ hx
                · exact hes e he
              have hnodup := nodup_assign (k := k) x hkeys
              rw [put_keyed] at h
              split at h
              · obtain ⟨rfl, -⟩ := Prod.mk.inj (ok.inj h)
                exact .object hnodup hall
              · exact (ih d).2.2 _ _ _ _ hnodup hall h
              · cases h
          · cases h
      · cases h

/-- What is read can be written. -/
theorem writable_of_parse (h : parse text = .ok v) : Writable nestingLimit v := by
  rw [parse] at h
  dsimp only at h
  split_ifs at h
  split at h
  · cases h
  · rename_i u r hread
    split_ifs at h
    obtain rfl := ok.inj h
    exact (writable_of_read _ _).1 _ _ _ hread

/-! ### What can be written again -/

lemma Writable.of_list {xs : List Value} (h : Writable (d + 1) (.list xs)) :
    ∀ x ∈ xs, Writable d x := by
  obtain ⟨hreadable, hshort⟩ := h
  cases hreadable with
  | list hreadable =>
    cases hshort with
    | list hshort => exact fun x hx => ⟨hreadable x hx, hshort x hx⟩

/-- An entry may be set. -/
lemma Writable.put {ms : List (Value × Value)} {x : Value} (h : Writable (d + 1) (.map ms))
    (hx : Writable d x) (k : String) : Writable (d + 1) (.map (put k x ms)) := by
  refine ⟨h.readable.put hx.readable k, ?_⟩
  generalize hmap : Value.map ms = m at h
  cases h.readable with
  | @object _ fs hkeys hvalues =>
    obtain rfl := Value.map.inj (hmap.trans (object_eq fs))
    rw [put_keyed, ← object_eq]
    refine .object fun e he => ?_
    rcases mem_assign he with rfl | he
    · exact hx.short
    · exact h.short.of_object e he
  | _ => cases hmap

lemma Writable.fieldOr {x default : Value} {k : String} (h : Writable (d + 1) v)
    (hdefault : Writable d default) (hx : v.fieldOr k default = .ok x) : Writable d x := by
  obtain ⟨hreadable, hshort⟩ := h
  cases hreadable with
  | @object _ es hkeys hvalues =>
    rw [fieldOr_object] at hx
    obtain rfl := ok.inj hx
    cases hy : es.lookup k with
    | none => exact hdefault
    | some y =>
      have hmem : (k, y) ∈ es := by
        obtain ⟨before, after, rfl, -⟩ := lookup_eq_some_iff.mp hy
        simp
      exact ⟨hvalues _ hmem, hshort.of_object _ hmem⟩
  | _ => cases hx

lemma Writable.exists_render (h : Writable nestingLimit v) (w : World) :
    ∃ text, render (Tool.jsonLayout w .indented) v = .ok text ∧
      (Content.text text).Reads (v.mapFloats reread) := by
  obtain ⟨text, htext⟩ := exists_write (l := Tool.jsonLayout w .indented) rfl h.short 0
  exact ⟨text, htext, Content.reads_render_mapFloats (sane_jsonLayout w) h.readable htext⟩

lemma readValue_blank {r : Rest} (h : ∀ c ∈ r.chars, isBlank c = true) (fuel d : Nat)
    (v : Value × Rest) :
    readValue fuel d r ≠ .ok v := by
  cases fuel with
  | zero => simp [readValue]
  | succ fuel =>
    obtain ⟨chars, pos⟩ := r
    cases chars with
    | nil => exact fun hv => by cases hv
    | cons c s =>
      have hc : isBlank c = true := h c (by simp)
      have hne : ∀ d : Char, isBlank d = false → ¬ d = c := by
        rintro d hd rfl
        exact absurd hc (by simp [hd])
      have hdigit : isAsciiDigit c = false := by
        by_contra hdigit
        simp only [isAsciiDigit, Char.le_def, Bool.not_eq_false, Bool.and_eq_true,
          decide_eq_true_eq] at hdigit
        have hlow : 48 ≤ c.toNat := hdigit.1
        have hhigh : c.toNat ≤ 57 := hdigit.2
        simp [isBlank, blankCodes] at hc
        omega
      have hatom : readAtom ⟨c :: s, pos⟩ = readNumber ⟨c :: s, pos⟩ := by
        simp [readAtom, wordValues, isFront, dropFront?, hne 'n' rfl, hne 't' rfl,
          hne 'f' rfl, hne 'N' rfl, hne 'I' rfl, hne '-' rfl]
      have hwhole : wholePart (c :: s) = [] := by
        unfold wholePart
        split
        · next heq => exact absurd (List.cons.inj heq).1.symm (hne '0' rfl)
        · simp [hdigit]
      rw [readValue_atom (Ne.symm (hne '"' rfl)) (Ne.symm (hne '\x7b' rfl)) (Ne.symm (hne '[' rfl)),
        hatom]
      simp [readNumber, Ne.symm (hne '-' rfl), hwhole]

lemma trim_ne_of_parse (h : parse text = .ok v) : Text.trim text ≠ "" := by
  intro hblank
  have hall : ∀ c ∈ text.toList, isBlank c = true :=
    trimWhile_eq_nil_iff.mp (by simpa [trim] using hblank)
  rw [parse] at h
  dsimp only at h
  split_ifs at h
  split at h
  · cases h
  · rename_i u r hread
    exact readValue_blank (fun c hc => hall c (mem_of_mem_drop hc)) _ _ _ hread

end Workbench.Json
