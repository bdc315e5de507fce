import Workbench.Component.Hooks
import Workbench.Proofs.World.Frames

/-!
# What a check sees

A check goes through a document part by part.  It looks at the tree of files and changes nothing, so
what it answers is determined by the document and the tree.
-/

namespace Workbench.Component

open List Tool Value

variable {α β : Type} {v x : Value} {k : String} {w : World}

/-! ### Answers -/

/-- What a tool answers. -/
def answer (t : Tool α) (w : World) : Result α := (t.exec w).1

variable {t : Tool α} {f : α → Tool β}

lemma answer_lift (r : Result α) : answer (liftM r) w = r := by rw [answer, exec_lift]

/-- What a tool that only sees answers, part by part. -/
lemma answer_bind (ht : Sees t) : answer (t >>= f) w = answer t w >>= fun a => answer (f a) w := by
  obtain ⟨r, hr⟩ := ht w
  have hexec := hr w rfl rfl
  rw [answer, answer, hexec]
  cases r with
  | error e => rw [exec_bind_error hexec]; rfl
  | ok a => rw [exec_bind_ok hexec]; rfl

lemma answer_lift_bind (r : Result α) :
    answer (liftM r >>= f) w = r >>= fun a => answer (f a) w := by
  rw [answer_bind (sees_lift r), answer_lift]

lemma answer_mapM (hf : ∀ a, Sees (f a)) (xs : List α) :
    answer (xs.mapM f) w = xs.mapM fun a => answer (f a) w := by
  induction xs with
  | nil => rfl
  | cons x xs ih =>
    rw [mapM_cons, mapM_cons, answer_bind (hf x)]
    congr 1
    funext y
    rw [answer_bind (sees_mapM hf xs), ih]
    rfl

/-! ### Fields -/

lemma answer_given {d : α} {f : Value → Tool α} :
    answer (do if !(← v.hasText k) then return d else f (← v.field k) : Tool α) w =
      (do if !(← v.hasText k) then return d else answer (f (← v.field k)) w : Result α) := by
  rw [answer_lift_bind]
  congr 1
  funext b
  cases b
  · rfl
  · exact answer_lift_bind _

lemma sees_given {d : α} {f : Value → Tool α} (hf : ∀ x, Sees (f x)) :
    Sees (do if !(← v.hasText k) then return d else f (← v.field k) : Tool α) := by
  refine sees_bind (sees_lift _) fun b => ?_
  cases b
  · exact sees_pure _
  · exact sees_bind (sees_lift _) hf

/-! ### Hooks -/

namespace Hooks

lemma sees_ofScript (raw : String) : Sees (ofScript raw) := by
  refine sees_bind (sees_nodeAt raw) fun n => ?_
  split <;> exact sees_pure _

lemma sees_ofCommand (intro command : String) : Sees (ofCommand intro command) := by
  simp only [ofCommand]
  split_ifs
  · split
    · split_ifs
      · exact sees_bind (sees_ofScript _) fun _ => sees_pure _
      · exact sees_pure _
    · exact sees_pure _
  · exact sees_pure _

lemma sees_ofAction (intro : String) (action : Value) : Sees (ofAction intro action) := by
  rw [ofAction]
  refine sees_given fun kind => ?_
  split
  · exact sees_given fun c => sees_bind (sees_lift _) fun s => sees_ofCommand _ _
  · exact sees_given fun c => sees_bind (sees_lift _) fun s => sees_pure _
  · exact sees_pure _

lemma sees_ofActions (intro : String) (entry : Value) : Sees (ofActions intro entry) := by
  rw [ofActions]
  refine sees_given fun h => ?_
  split
  · exact sees_bind (sees_mapM (fun _ => sees_ofAction _ _) _) fun _ => sees_pure _
  · exact sees_pure _

lemma sees_ofEntry (event : String) (number : Nat) (entry : Value) :
    Sees (ofEntry event number entry) :=
  sees_bind (sees_lift _) fun _ => sees_bind (sees_ofActions _ _) fun _ => sees_pure _

lemma sees_ofEvent (event : String) (entries : Value) : Sees (ofEvent event entries) := by
  unfold ofEvent
  split_ifs
  · exact sees_pure _
  · split
    · exact sees_bind (sees_mapM (fun _ => sees_ofEntry _ _ _) _) fun _ => sees_pure _
    · exact sees_pure _

lemma sees_review (config : Value) : Sees (review config) := by
  rw [review]
  refine sees_given fun h => ?_
  split
  · exact sees_bind (sees_mapM (fun _ => sees_ofEvent _ _) _) fun _ => sees_pure _
  · exact sees_pure _

end Hooks

end Workbench.Component
