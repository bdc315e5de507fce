import Workbench.Proofs.Issue.Sync
import Workbench.Proofs.World.Frames

/-!
# Environments of the work on issues

What is printed, the environment that was saved, and folders that hold an environment and issues.
-/

open List

namespace Workbench

namespace Tool

lemma sees_jsonOrNull (raw : String) : Sees (jsonOrNull raw) := by
  refine sees_bind (sees_pathExists raw) fun found => ?_
  cases found
  · exact sees_pure _
  · exact sees_guarded (sees_readJson raw) fun _ => sees_pure _

end Tool

namespace Issue

open Value Tool Json Workspace

variable {ns : List Int} {v : Value} {w : World} {content : Content}

/-! ### What is printed -/

/-- The world after lines are printed. -/
def prints (w : World) (lines : List String) : World :=
  { w with out := w.out ++ String.join (lines.map (· ++ "\n")) }

lemma prints_nil (w : World) : prints w [] = w := by
  rw [prints, map_nil, String.join_nil, String.append_empty]

lemma prints_prints (w : World) (xs ys : List String) :
    prints (prints w xs) ys = prints w (xs ++ ys) := by
  simp only [prints, map_append, String.join_append, String.append_assoc]

lemma exec_say_prints (s : String) (w : World) : (say s).exec w = (.ok (), prints w [s]) := by
  have hline : String.join ([s].map (· ++ "\n")) = s ++ "\n" := by simp [String.join_cons]
  rw [prints, hline, exec_say]

lemma exec_sayAll (lines : List String) (w : World) :
    (sayAll lines).exec w = (.ok (), prints w lines) := rfl

/-! ### The saved environment -/

lemma exec_savedEnvironment (hraw : w.Reaches environmentFile.toString)
    (hc : w.file? environmentFile.toString = some content) (hv : content.Reads v) :
    savedEnvironment.exec w = (.ok v, w) := by
  obtain ⟨text, htext, hv⟩ := hv
  have hread : (readJson environmentFile.toString).exec w = (.ok v, w) := by
    rw [readJson, exec_bind_ok (exec_readText_ok hraw hc htext), exec_lift, hv]
  rw [savedEnvironment, jsonOrNull, exec_bind_ok (exec_pathExists_of_file? hraw hc)]
  exact exec_guarded_ok hread _ _

/-- A number of the list has more digits than can be written. -/
def Long (ns : List Int) : Prop := ∃ n ∈ ns, Decimal.digitLimit < (Nat.toDigits 10 n.natAbs).length

instance : DecidablePred Long := fun ns =>
  inferInstanceAs (Decidable (∃ n ∈ ns, Decimal.digitLimit < (Nat.toDigits 10 n.natAbs).length))

lemma writable_numbers {d : Nat} (h : ¬ Long ns) : Writable (d + 1) (.list (ns.map int)) := by
  refine .list fun x hx => ?_
  obtain ⟨n, hn, rfl⟩ := mem_map.mp hx
  exact writable_int (not_lt.mp fun hlong => h ⟨n, hn, hlong⟩)

/-! ### Folders -/

/-- A folder with these texts of the issues, if there is one, and of the environment, and no git. -/
def folder (issues : Option String) (environment : String) : World where
  files :=
    { entries := [([".claude"], .dir), ([".claude", "github-workflows"], .dir),
        ([".claude", "github-workflows", "env.json"], .file (.text environment) false)] ++
        issues.toList.map fun s =>
          ([".claude", "github-workflows", "active-issues.json"], .file (.text s) false) }
  respond := fun _ _ => .missing

lemma furnished_folder (s : Option String) (t : String) : Furnished (folder s t) := by
  refine ⟨⟨rfl, fun n hn => (Option.some.inj hn).symm, fun h => ?_⟩, rfl⟩
  cases s <;> cases h

lemma exec_savedEnvironment_folder {t : String} (hv : (Content.text t).Reads v)
    (s : Option String) :
    savedEnvironment.exec (folder s t) = (.ok v, folder s t) :=
  exec_savedEnvironment ⟨by decide, rfl⟩ rfl hv

end Issue

end Workbench
