import Mathlib.Tactic.Common
import Workbench.Options.Basic

/-!
# Words of a command line

A word without a dash at its front is an operand whatever the form is, so it is taken as it stands,
by the switch before it or by the operand that is open.
-/

namespace Workbench.Options

/-- A word that is no switch. -/
def IsPlain (w : String) : Prop := Text.startsWith w "-" = false

instance (w : String) : Decidable (IsPlain w) := inferInstanceAs (Decidable (_ = _))

variable {w : String}

lemma IsPlain.ne_dashes (h : IsPlain w) : w ≠ "--" := by
  rintro rfl
  cases h

lemma marks_operand (f : Form) (h : IsPlain w) (ws : List String) :
    f.marks (w :: ws) = (f.marks ws).map ((.operand, w) :: ·) := by
  have hdashes : (w == "--") = false := beq_eq_false_iff_ne.mpr h.ne_dashes
  have hmark : f.mark w = .ok .operand := by
    unfold Form.mark
    rw [show Text.startsWith w "-" = false from h]
    rfl
  rw [Form.marks, hdashes, hmark]
  cases f.marks ws <;> rfl

lemma marks_switch {f : Form} {s : Switch} (h : f.switch? w = some s)
    (hdash : Text.startsWith w "-" = true) (hne : w ≠ "--") (ws : List String) :
    f.marks (w :: ws) = (f.marks ws).map ((.switch { switch := some s, name := w }, w) :: ·) := by
  have hdashes : (w == "--") = false := beq_eq_false_iff_ne.mpr hne
  have hmark : f.mark w = .ok (.switch { switch := some s, name := w }) := by
    unfold Form.mark
    rw [hdash, h]
    rfl
  rw [Form.marks, hdashes, hmark]
  cases f.marks ws <;> rfl

lemma applyOperand_plain (st : State) (dest : String) (h : IsPlain w) :
    applyOperand st { dest } [w] = .ok (st.bind dest w) := by
  have herase : [w].erase "--" = [w] := List.erase_of_not_mem (by simpa using h.ne_dashes.symm)
  unfold applyOperand
  simp only [herase]
  rfl

lemma loop_operand (f : Form) (fuel : Nat) (st : State) (dest : String) (h : IsPlain w)
    (u : Use) (v : String) (ms : List (Mark × String)) :
    f.loop (fuel + 1) st [{ dest }] ((.operand, w) :: (.switch u, v) :: ms) =
      f.loop fuel (st.bind dest w) [] ((.switch u, v) :: ms) := by
  have htake : f.loop (fuel + 1) st [{ dest }] ((.operand, w) :: (.switch u, v) :: ms) =
      (applyOperand st { dest } [w] >>= fun st =>
        applyOperands st [] [] ((.switch u, v) :: ms)) >>= fun st =>
        f.loop fuel st [] ((.switch u, v) :: ms) := by
    rfl
  rw [htake, applyOperand_plain st dest h]
  rfl

end Workbench.Options
