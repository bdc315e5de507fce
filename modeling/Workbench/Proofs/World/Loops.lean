import Mathlib.Data.List.Sort
import Workbench.Proofs.World.Exec

/-!
# Working off a list

A tool that is run for each element of a list and leaves the world as it is gives what its results
give as a list.
-/

open List

namespace Workbench

/-! ### Order of texts -/

namespace Text

lemma le_iff {a b : String} : le a b = true ↔ List.le a.toList b.toList := by
  rw [le, lt, Bool.not_eq_true', decide_eq_false_iff_not]

end Text

/-! ### Tools that work off a list -/

namespace Tool

variable {α β : Type} {w w' : World}
variable {xs : List α}

/-- A run that succeeds does so part by part. -/
lemma exists_of_exec_bind {t : Tool α} {f : α → Tool β} {b : β}
    (h : (t >>= f).exec w = (.ok b, w')) :
    ∃ a w₁, t.exec w = (.ok a, w₁) ∧ (f a).exec w₁ = (.ok b, w') := by
  rcases ht : t.exec w with ⟨e | a, w₁⟩
  · rw [exec_bind_error ht] at h
    cases h
  · exact ⟨a, w₁, rfl, by rwa [exec_bind_ok ht] at h⟩

lemma exec_mapM {f : α → Tool β} {ys : List β}
    (h : Forall₂ (fun x y => (f x).exec w = (.ok y, w)) xs ys) :
    (xs.mapM f).exec w = (.ok ys, w) := by
  induction h with
  | nil => rfl
  | cons hx _ ih => rw [mapM_cons, exec_bind_ok hx, exec_bind_ok ih, exec_pure]

lemma exec_filterM {f : α → Tool Bool} {g : α → Bool}
    (h : ∀ x ∈ xs, (f x).exec w = (.ok (g x), w)) :
    (xs.filterM f).exec w = (.ok (xs.filter g), w) := by
  have hloop : ∀ acc, (xs.filterAuxM f acc).exec w = (.ok ((xs.filter g).reverse ++ acc), w) := by
    induction xs with
    | nil => exact fun acc => rfl
    | cons x xs ih =>
      intro acc
      obtain ⟨hx, hxs⟩ := forall_mem_cons.mp h
      rw [filterAuxM, exec_bind_ok hx, ih hxs, filter_cons]
      cases g x <;> simp
  rw [filterM, exec_bind_ok (hloop [])]
  simp

lemma exec_filterM_false (xs : List α) (w : World) :
    (xs.filterM fun _ => (pure false : Tool Bool)).exec w = (.ok [], w) := by
  have hfalse : ∀ x ∈ xs, (pure false : Tool Bool).exec w = (.ok ((fun _ => false) x), w) :=
    fun _ _ => rfl
  rw [exec_filterM hfalse, filter_false]

lemma exec_forIn_find (test : α → Bool)
    {body : α → Option α × Unit → Tool (ForInStep (Option α × Unit))}
    (h : ∀ x ∈ xs, ∀ s, (body x s).exec w =
    (.ok (if test x then .done (some x, ()) else .yield (none, ())), w)) :
    (forIn xs (none, ()) body).exec w = (.ok (xs.find? test, ()), w) := by
  induction xs with
  | nil => rfl
  | cons x xs ih =>
    obtain ⟨hx, hxs⟩ := forall_mem_cons.mp h
    rw [forIn_cons, exec_bind_ok (hx _), find?_cons]
    cases test x with
    | true => rfl
    | false => exact ih hxs

end Tool

end Workbench
