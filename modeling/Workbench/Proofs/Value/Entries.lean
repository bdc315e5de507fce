import Mathlib.Data.List.Nodup
import Workbench.Value.Access

/-!
# Values made of texts

Looking up and putting entries of a map whose keys are texts, and the distinct members of a list of
texts.
-/

/-! ### Each member once -/

namespace Workbench

open List

variable {α : Type} [BEq α] [LawfulBEq α]

lemma nodup_eraseDups (xs : List α) : xs.eraseDups.Nodup := by
  induction hlen : xs.length using Nat.strongRecOn generalizing xs with
  | _ n ih =>
    cases xs with
    | nil => simp
    | cons x xs =>
      have hshort := length_filter_le (fun y => !y == x) xs
      rw [eraseDups_cons, nodup_cons, mem_eraseDups]
      exact ⟨by simp, ih _ (by rw [← hlen, length_cons]; omega) _ rfl⟩

lemma foldl_eq_eraseDups (xs : List α) :
    xs.foldl (fun acc x => if acc.contains x then acc else acc ++ [x]) [] = xs.eraseDups := by
  have hloop : ∀ found : List α,
      xs.foldl (fun acc x => if acc.contains x then acc else acc ++ [x]) found =
      List.eraseDupsBy.loop (· == ·) xs found.reverse := by
    induction xs with
    | nil => simp [List.eraseDupsBy.loop]
    | cons x xs ih =>
      intro found
      have hany : found.reverse.any (x == ·) = found.contains x := by
        rw [any_reverse, contains_eq_any_beq]
      rw [foldl_cons, List.eraseDupsBy.loop, hany]
      cases found.contains x with
      | true => simpa using ih found
      | false => simpa using ih (found ++ [x])
  exact hloop []

end Workbench

/-! ### Entries of a map -/

namespace Workbench.Value

open Text

variable {k : String} {v : Value} {es : List (String × Value)}

lemma same_str_iff {v : Value} {s : String} : v.same s = true ↔ v = .str s := by
  cases v <;> simp [same, sameAtom, whole?]

@[simp]
lemma same_str (s t : String) : same s t = (s == t) := by
  simp [same, sameAtom]

lemma str_same_of_ne {u : Value} {s : String} (h : u ≠ .str s) : same (.str s) u = false := by
  cases u with
  | str t =>
    rw [same_str, beq_eq_false_iff_ne]
    exact fun heq => h (heq ▸ rfl)
  | _ => simp [same, sameAtom, whole?]

/-- Entries with texts for keys. -/
def keyed (es : List (String × Value)) : List (Value × Value) := es.map fun e => (.str e.1, e.2)

lemma object_eq (es : List (String × Value)) : object es = .map (keyed es) := rfl

lemma object_injective : Function.Injective object := by
  intro es es' h
  refine (List.map_inj_right fun e e' he => ?_).mp (Value.map.inj h)
  simpa [Prod.ext_iff] using he

@[simp]
lemma keyed_nil : keyed [] = [] := rfl

@[simp]
lemma keyed_cons (e : String × Value) (es : List (String × Value)) :
    keyed (e :: es) = (.str e.1, e.2) :: keyed es := rfl

/-- Puts a value under a text key, in the place of the entry with that key or at the end. -/
def assign (k : String) (v : Value) : List (String × Value) → List (String × Value)
  | [] => [(k, v)]
  | e :: es => if e.1 = k then (e.1, v) :: es else e :: assign k v es

@[simp]
lemma lookup_keyed (k : String) (es : List (String × Value)) :
    lookup k (keyed es) = es.lookup k := by
  induction es with
  | nil => rfl
  | cons e es ih =>
    obtain ⟨k', v⟩ := e
    simp only [keyed_cons, lookup, same_str, beq_iff_eq, List.lookup_cons, ih]
    by_cases h : k' = k
    · simp [h]
    · have hne : (k == k') = false := by simpa using fun hk => h hk.symm
      simp [h, hne]

@[simp]
lemma put_keyed (k : String) (v : Value) (es : List (String × Value)) :
    put k v (keyed es) = keyed (assign k v es) := by
  induction es with
  | nil => rfl
  | cons e es ih =>
    simp only [keyed_cons, put, same_str, beq_iff_eq, assign, ih]
    split_ifs <;> rfl

lemma lookup_put_of_ne {u : Value} (hu : u ≠ .str k) (v : Value) (es : List (Value × Value)) :
    lookup u (put k v es) = lookup u es := by
  induction es with
  | nil => simp [put, lookup, str_same_of_ne hu]
  | cons e es ih =>
    obtain ⟨k', v'⟩ := e
    rw [put]
    split_ifs with hsame
    · obtain rfl := same_str_iff.mp hsame
      simp [lookup, str_same_of_ne hu]
    · rw [lookup, lookup, ih]

lemma lookup_put (k k' : String) (v : Value) (es : List (Value × Value)) :
    lookup k' (put k v es) = if k' = k then some v else lookup k' es := by
  by_cases hne : k' = k
  · subst hne
    induction es with
    | nil => simp [put, lookup]
    | cons e es ih => cases hkey : e.1.same k' <;> simp_all [put, lookup]
  · rw [if_neg hne, lookup_put_of_ne (by simpa using hne)]

lemma assign_of_notMem (h : k ∉ es.map Prod.fst) : assign k v es = es ++ [(k, v)] := by
  induction es with
  | nil => rfl
  | cons e es ih =>
    simp only [List.map_cons, List.mem_cons, not_or] at h
    rw [assign, if_neg (Ne.symm h.1), ih h.2, List.cons_append]

lemma keys_assign_of_mem (h : k ∈ es.map Prod.fst) :
    (assign k v es).map Prod.fst = es.map Prod.fst := by
  induction es with
  | nil => simp at h
  | cons e es ih =>
    rw [assign]
    split_ifs with hk
    · rfl
    · have hmem : k ∈ es.map Prod.fst := (List.mem_cons.mp h).resolve_left (Ne.symm hk)
      rw [List.map_cons, List.map_cons, ih hmem]

lemma nodup_assign (v : Value) (h : (es.map Prod.fst).Nodup) :
    ((assign k v es).map Prod.fst).Nodup := by
  by_cases hk : k ∈ es.map Prod.fst
  · rwa [keys_assign_of_mem hk]
  · rw [assign_of_notMem hk, List.map_append]
    exact List.nodup_append.mpr
      ⟨h, by simp, by rintro a ha b hb rfl; simp at hb; exact hk (hb ▸ ha)⟩

lemma mem_assign {e : String × Value} (h : e ∈ assign k v es) : e = (k, v) ∨ e ∈ es := by
  induction es with
  | nil => exact Or.inl (List.mem_singleton.mp h)
  | cons e' es ih =>
    rw [assign] at h
    split_ifs at h with hk
    · rcases List.mem_cons.mp h with rfl | h
      · exact Or.inl (by rw [hk])
      · exact Or.inr (List.mem_cons_of_mem _ h)
    · rcases List.mem_cons.mp h with rfl | h
      · exact Or.inr (by simp)
      · exact (ih h).imp id (List.mem_cons_of_mem _)

lemma field_object (h : es.lookup k = some v) : (object es).field k = .ok v := by
  simp [object_eq, field, h]

lemma fieldOr_object (k : String) (es : List (String × Value)) (default : Value) :
    (object es).fieldOr k default = .ok ((es.lookup k).getD default) := by
  simp [object_eq, fieldOr]

lemma fieldOr_of_field {x : Value} (h : v.field k = .ok x) (default : Value) :
    v.fieldOr k default = .ok x := by
  cases v with
  | map es =>
    rw [field] at h
    cases hx : lookup k es with
    | none => rw [hx] at h; cases h
    | some y => rw [hx] at h; rw [fieldOr, hx, Option.getD_some, Except.ok.inj h]
  | _ => cases h

lemma has_object (k : String) (es : List (String × Value)) :
    (object es).has k = .ok (es.lookup k).isSome := by
  simp [object_eq, has, isKey]

/-! ### Distinct texts -/

lemma foldl_distinct (xs found : List String) :
    (xs.map Value.str).foldl (fun acc x => if acc.any (·.same x) then acc else acc ++ [x])
      (found.map Value.str) =
      (xs.foldl (fun acc x => if acc.contains x then acc else acc ++ [x]) found).map Value.str := by
  induction xs generalizing found with
  | nil => rfl
  | cons x xs ih =>
    have hany : (found.map Value.str).any (·.same x) = found.contains x := by
      rw [List.any_map, List.contains_eq_any_beq]
      congr 1
      funext y
      rw [Function.comp_apply, same_str, Bool.beq_comm]
    simp only [List.map_cons, List.foldl_cons, hany]
    split_ifs
    · exact ih found
    · rw [← ih, List.map_append, List.map_singleton]

lemma mergeSort_display (xs : List String) :
    (xs.map Value.str).mergeSort (fun a b => le a.display b.display) = (sort xs).map Value.str :=
  (List.map_mergeSort fun a _ b _ => by rw [display, display]).symm

lemma strings_injective : Function.Injective strings := by
  intro xs ys h
  exact (List.map_injective_iff.mpr fun _ _ => str.inj) (list.inj h)

/-! ### Paths of keys -/

section Paths

open List

variable {c x y : Value} {ms : List (Value × Value)} {ks q : List String}

/-- What a document holds at a path of keys. -/
def follow? : Value → List String → Option Value
  | c, [] => some c
  | c, k :: ks => (c.get? k).bind fun x => follow? x ks

/-- A document is changed at a path only.  There are objects on the way to it, also where there was
nothing. -/
structure Updated (c c' : Value) (path : List String) (x : Value) : Prop where
  here : follow? c' path = some x
  above : ∀ q, q <+: path → q ≠ path → ∃ es, follow? c' q = some (.map es)
  elsewhere : ∀ q, ¬ q <+: path → ¬ path <+: q → follow? c' q = follow? c q

lemma follow?_empty (h : q ≠ []) : follow? (.map []) q = none := by
  obtain ⟨k, ks, rfl⟩ := exists_cons_of_ne_nil h
  rfl

lemma follow?_cons_of_lookup (h : lookup k ms = some x) (ks : List String) :
    follow? (.map ms) (k :: ks) = follow? x ks := by
  rw [follow?, get?, h, Option.bind_some]

lemma follow?_cons_of_none (h : lookup k ms = none) (ks : List String) :
    follow? (.map ms) (k :: ks) = none := by
  rw [follow?, get?, h, Option.bind_none]

/-- What lies behind a key, or an empty object. -/
def behind (k : String) (ms : List (Value × Value)) : Value := (lookup k ms).getD (.map [])

/-- A change below a key is one at the longer path. -/
lemma Updated.cons (h : Updated (behind k ms) y ks x) :
    Updated (.map ms) (.map (put k y ms)) (k :: ks) x := by
  have hhere : ∀ q, follow? (.map (put k y ms)) (k :: q) = follow? y q :=
    follow?_cons_of_lookup (by rw [lookup_put, if_pos rfl])
  refine ⟨by rw [hhere, h.here], fun q hq hne => ?_, fun q hq hpath => ?_⟩
  · cases q with
    | nil => exact ⟨_, rfl⟩
    | cons a q =>
      obtain ⟨rfl, htail⟩ := cons_prefix_cons.mp hq
      rw [hhere]
      exact h.above q htail fun heq => hne (by rw [heq])
  · cases q with
    | nil => exact absurd nil_prefix hq
    | cons a q =>
      by_cases ha : a = k
      · subst ha
        have hbelow : ¬ q <+: ks := fun hpre => hq (cons_prefix_cons.mpr ⟨rfl, hpre⟩)
        rw [hhere, h.elsewhere q hbelow fun hpre =>
          hpath (cons_prefix_cons.mpr ⟨rfl, hpre⟩), behind]
        cases hlookup : lookup a ms with
        | none =>
          have hne : q ≠ [] := fun hnil => hbelow (hnil ▸ nil_prefix)
          rw [Option.getD_none, follow?_empty hne, follow?_cons_of_none hlookup]
        | some y => rw [Option.getD_some, follow?_cons_of_lookup hlookup]
      · rw [follow?, follow?, get?, get?, lookup_put, if_neg ha]

end Paths

end Workbench.Value

namespace Workbench.Text

lemma dedup_eq (xs : List String) : dedup xs = xs.eraseDups := foldl_eq_eraseDups xs

lemma dedup_append (xs ys : List String) :
    dedup (xs ++ ys) = ys.foldl (fun acc x => if acc.contains x then acc else acc ++ [x])
      (dedup xs) := List.foldl_append

lemma mem_dedup {xs : List String} {x : String} : x ∈ dedup xs ↔ x ∈ xs := by
  rw [dedup_eq, List.mem_eraseDups]

lemma nodup_dedup (xs : List String) : (dedup xs).Nodup := by
  rw [dedup_eq]
  exact nodup_eraseDups xs

end Workbench.Text
