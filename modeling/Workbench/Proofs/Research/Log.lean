import Mathlib.Data.List.Basic
import Workbench.Proofs.World.Exec
import Workbench.Proofs.World.Frames
import Workbench.Proofs.World.Loops
import Workbench.Proofs.World.Names
import Workbench.Research.Entry
import Workbench.Research.Learning
import Workbench.Yaml.Document

/-!
# The log in the file tree

A log is a directory with directories of months in it.  To write the index is to list the log and to
write two files beside the months: the index and the table of tags.
-/

open List

namespace Workbench.Research.Learning

open Files Text Workbench.Path Entry World

/-! ### Places -/

/-- Where the log is kept. -/
def directory (w : World) : Path := w.base / ".learning-log"

/-- The place of the log in the tree of files. -/
def site (w : World) : Place := w.place (directory w).toString

lemma exec_logDir (w : World) : logDir.exec w = (.ok (directory w), w) := rfl

variable {w w' : World} {m n : String}

lemma place_below {d : String} (hd : IsName d) (hm : IsName m) (b : Path) (w : World) :
    w.place (b / d / m).toString = w.place (b / d).toString ++ [m] := by
  have hparts : (b / d).parts ≠ [] := by simp [child_eq hd]
  rw [place, toString_child hm hparts, aim_append ⟨d, mem_namesOf_child hd b, hd.ne_empty⟩ hm]
  rfl

lemma place_child (hm : IsName m) (w : World) :
    w.place (directory w / m).toString = site w ++ [m] :=
  place_below (by decide) hm w.base w

end Workbench.Research.Learning

namespace Workbench.Research.Learning

open Except Text Workbench.Path Json Yaml Tool Files Entry

variable {w w' : World} {l : Json.Layout} {s : String}

lemma render_of_exec {v : Value} (h : (renderJson l v).exec w = (.ok s, w')) :
    w' = w ∧ render (jsonLayout w l) v = .ok s := by
  rw [exec_renderJson] at h
  obtain ⟨hrender, rfl⟩ := Prod.mk.inj h
  cases hresult : render (jsonLayout w l) v with
  | error e =>
    rw [hresult] at hrender
    cases hrender
  | ok s' =>
    rw [hresult] at hrender
    rw [ok.inj hrender]
    exact ⟨rfl, rfl⟩

end Workbench.Research.Learning

namespace Workbench.Research

open Tool Text Files Learning

/-! ### The log of learnings -/

namespace Learning

variable {w w' : World}

lemma looks_load (what : String) (file : Path) : Looks (Entry.load what file) := by
  refine looks_bind ((sees_pathExists _).looks) fun b => ?_
  cases b
  on_goal 1 => refine looks_bind (looks_throw _) fun _ => ?_
  all_goals
    refine looks_bind (looks_recallText _) fun text => ?_
    split
    · exact looks_pure _
    · refine looks_bind (looks_recallDocument _ _) fun r => ?_
      split
      · exact looks_pure _
      · split_ifs
        · exact looks_bind (looks_say _) fun _ => looks_pure _
        · exact looks_throw _

lemma looks_list : Looks (list none none) := by
  have hloadAll : ∀ files, Looks (loadAll "Learning" (fun _ => pure true) files) := by
    intro files
    refine looks_bind (looks_mapM (fun file => looks_guarded ?_ fun f => ?_) _) fun _ =>
      looks_pure _
    · exact looks_bind (looks_load _ _) fun e => looks_pure _
    · exact looks_bind (looks_complain _) fun _ => looks_pure _
  have hmonths : Looks monthDirs :=
    looks_bind (looks_beside _) fun dir =>
      looks_bind ((sees_glob _ _).looks) fun ps => looks_filterM (fun p => (sees_isDir _).looks) _
  refine looks_bind hmonths fun dirs => looks_bind (looks_mapM (fun dir => ?_) _) fun found => ?_
  · exact looks_bind ((sees_glob _ _).looks) fun files => hloadAll files
  · exact looks_bind (looks_lift _) fun es => looks_pure _

lemma frames_keepBeside {w₁ w₂ : World} {n s : String} (hw : w.memory = none) (hn : IsName n)
    (hframes : w.Frames (fun q => ∃ n, q = site w ++ [n]) w₁)
    (hkeep : (keepText (directory w / n).toString s).exec w₁ = (.ok (), w₂)) :
    w.Frames (fun q => ∃ n, q = site w ++ [n]) w₂ := by
  rw [exec_keepText (hframes.memory.trans hw)] at hkeep
  refine hframes.trans ((World.Frames.of_writeText hkeep).1.mono ?_)
  rintro q rfl
  exact ⟨n, by rw [hframes.place, place_child hn]⟩

/-- An update of the index ends with the table of the tags of the entries that it lists. -/
lemma exists_of_updateIndex (hw : w.memory = none) (h : updateIndex.exec w = (.ok (), w')) :
    ∃ es w₁ table w₂ s, (list none none).exec w = (.ok es, w₁) ∧ tagTable es = .ok table ∧
      w.Frames (fun q => ∃ n, q = site w ++ [n]) w₂ ∧
      Json.render (jsonLayout w₂ .indented) (tableValue table) = .ok s ∧
      (keepText (directory w / "tags.json").toString s).exec w₂ = (.ok (), w') := by
  rw [updateIndex] at h
  obtain ⟨es, w₁, hlist, h⟩ := exists_of_exec_bind h
  obtain ⟨rs, w₂, hrecords, h⟩ := exists_of_exec_bind h
  have hlooks := looks_list.frames hw hlist
  have hread := hlooks.trans
    ((looks_mapM (fun e => looks_lift (indexRecord e)) es).frames (hlooks.memory.trans hw) hrecords)
  rw [exec_bind_ok (exec_logDir w₂), show directory w₂ =
    directory w by rw [directory, directory, hread.base]] at h
  obtain ⟨_, w₃, hmake, h⟩ := exists_of_exec_bind h
  have hgains := makesDirs_makePath (directory w) w₂
  rw [hmake] at hgains
  have hmade : w.Frames (fun q => ∃ n, q = site w ++ [n]) w₃ :=
    (hread.mono (by simp)).trans (.of_gains hgains)
  replace h := (exec_bind_ok (exec_now w₃) _).symm.trans h
  obtain ⟨s, w₄, hrender, h⟩ := exists_of_exec_bind h
  obtain rfl : w₃ = w₄ := (render_of_exec hrender).1.symm
  obtain ⟨_, w₄, hindex, h⟩ := exists_of_exec_bind h
  obtain ⟨table, w₅, hlift, h⟩ := exists_of_exec_bind h
  obtain ⟨htable, rfl⟩ := Prod.mk.inj ((exec_lift _ w₄).symm.trans hlift)
  obtain ⟨s', w₅, hrender', hkeep⟩ := exists_of_exec_bind h
  obtain ⟨rfl, hrender'⟩ := render_of_exec hrender'
  exact ⟨es, w₁, table, w₅, s', hlist, htable, frames_keepBeside hw (by decide) hmade hindex,
    hrender', hkeep⟩

end Learning

end Workbench.Research
