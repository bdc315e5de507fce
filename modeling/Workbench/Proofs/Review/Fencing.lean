import Workbench.Proofs.Markdown.Fences
import Workbench.Proofs.Text.Trim
import Workbench.Proofs.Value.Entries
import Workbench.Review.Quality
import Workbench.Source.Parser

/-!
# The code that a review looks through

The quality review scores code in a fence as a program only if the fence says so
(`unlabelled_score_eq_iff`).
-/

namespace Workbench.Review

open List Text Markdown Source Pattern

variable {text code : String}

/-! ### Scores -/

/-- A function that costs no points. -/
structure FlawlessFunction (name : String) (f : Tree) : Prop where
  documented : isDocumented f = true ∨ linesAfterFirst f ≤ 3
  result : declaresResult f = true ∨ name ∈ resultFree
  parameters : parameterCount f ["args", "kwonlyargs"] ≤ 7
  handlers : bareHandlers f = []

/-- A program that costs no points. -/
structure Flawless (t : Tree) : Prop where
  functions : ∀ p ∈ Review.functions t, FlawlessFunction p.1 p.2
  imports : wildcardImports t = []

lemma functionDeductions_eq_nil_iff {name : String} {f : Tree} :
    functionDeductions name f = [] ↔ FlawlessFunction name f := by
  have hlines : ¬ (!isDocumented f && decide (3 < linesAfterFirst f)) = true ↔
      isDocumented f = true ∨ linesAfterFirst f ≤ 3 := by
    cases isDocumented f <;> simp
  have hresult : ¬ (!declaresResult f && !resultFree.contains name) = true ↔
      declaresResult f = true ∨ name ∈ resultFree := by
    cases declaresResult f <;> simp
  have hempty : ∀ (b : Prop) [Decidable b] (d : Deduction), (if b then [d] else []) = [] ↔ ¬ b := by
    intro b _ d
    split_ifs with h <;> simp [h]
  unfold functionDeductions
  simp only [append_eq_nil_iff, map_eq_nil_iff, hempty, hlines, hresult, Nat.not_lt]
  exact ⟨fun ⟨⟨⟨h₁, h₂⟩, h₃⟩, h₄⟩ => ⟨h₁, h₂, h₃, h₄⟩, fun h =>
    ⟨⟨⟨h.documented, h.result⟩, h.parameters⟩, h.handlers⟩⟩

lemma programDeductions_eq_nil_iff {t : Tree} : programDeductions t = [] ↔ Flawless t := by
  simp only [programDeductions, append_eq_nil_iff, map_eq_nil_iff, flatMap_eq_nil_iff,
    functionDeductions_eq_nil_iff]
  exact ⟨fun h => ⟨h.1, h.2⟩, fun h => ⟨h.functions, h.imports⟩⟩

lemma points_pos {t : Tree} {d : Deduction} (h : d ∈ programDeductions t) : 0 < d.points := by
  simp only [programDeductions, functionDeductions, mem_append, mem_flatMap, mem_map,
    mem_ite_nil_right, mem_singleton] at h
  rcases h with ⟨p, -, ((⟨-, rfl⟩ | ⟨-, rfl⟩) | ⟨-, rfl⟩) | ⟨_, -, rfl⟩⟩ | ⟨_, -, rfl⟩
  all_goals simp [reported]

/-- A code loses nothing exactly if nothing is held against it. -/
lemma scoreAfter_eq_iff {ds : List Deduction} (h : ∀ d ∈ ds, 0 < d.points) :
    scoreAfter ds = 100 ↔ ds = [] := by
  have hsum : ∀ es : List Deduction, (∀ d ∈ es, 0 < d.points) →
      0 ≤ (es.map Deduction.points).foldr (· + ·) 0 := by
    intro es hes
    induction es with
    | nil => simp
    | cons d es ih =>
      have hrest := ih fun e he => hes e (mem_cons_of_mem _ he)
      have hfirst := hes d mem_cons_self
      simp only [map_cons, foldr_cons]
      omega
  cases ds with
  | nil => simp only [scoreAfter, map_nil, foldr_nil, iff_true]; decide
  | cons d ds =>
    have hrest := hsum ds fun e he => h e (mem_cons_of_mem _ he)
    have hfirst := h d mem_cons_self
    simp only [scoreAfter, map_cons, foldr_cons, reduceCtorEq, iff_false]
    omega

lemma pythonQuality_score_iff {code : String} :
    (pythonQuality code).score = 100 ↔ ∃ t, Source.parse code = .ok t ∧ Flawless t := by
  unfold pythonQuality
  cases hparse : Source.parse code with
  | error r => simp
  | ok tree =>
    have hscore := scoreAfter_eq_iff fun d (hd : d ∈ programDeductions tree) => points_pos hd
    simp [hscore, programDeductions_eq_nil_iff]

/-- The score of a text. -/
def overallScore (text : String) : Result Value := (qualityReport text).field "overall_score"

lemma overallScore_of_snippets {text : String} {s : Snippet} (h : snippets text = [s]) :
    overallScore text = .ok (.int (snippetQuality s).score) := by
  have hmean : meanScore [snippetQuality s] = (snippetQuality s).score := by
    simp [meanScore]
  have hreviewed : reviewed text = [s] := by
    rw [reviewed, h]
  rw [overallScore, qualityReport, hreviewed]
  simp only [map_singleton, hmean]
  exact Value.field_object rfl

/-- Without a label the code in a fence scores in full, and with one it scores what it deserves.
The two agree just if the code is a program with nothing held against it. -/
theorem unlabelled_score_eq_iff (code : String) (hcode : '\x60' ∉ code.toList) :
    overallScore (fenced "" code) = .ok (.int 100) ∧
      overallScore (fenced "python" code) = .ok (.int (pythonQuality (trim code)).score) ∧
      (overallScore (fenced "" code) = overallScore (fenced "python" code) ↔
        ∃ t, Source.parse (trim code) = .ok t ∧ Flawless t) := by
  have hplain : overallScore (fenced "" code) = .ok (.int 100) :=
    overallScore_of_snippets (snippets_fenced (by simp) hcode)
  have hlanguage : languageOf "python".toList = "python" := by decide
  have hfamily : ["python", "py", "python3", ""].contains "python" = true := by decide
  have hquality : snippetQuality ⟨"python", trim code⟩ = pythonQuality (trim code) := by
    rw [snippetQuality]
    exact if_pos hfamily
  have hlabel : overallScore (fenced "python" code) =
      .ok (.int (pythonQuality (trim code)).score) := by
    rw [overallScore_of_snippets (snippets_fenced (forall_mem_of_all (by decide)) hcode),
      hlanguage, hquality]
  refine ⟨hplain, hlabel, ?_⟩
  rw [hplain, hlabel, ← pythonQuality_score_iff, Except.ok.injEq, Value.int.injEq, eq_comm]

/-- A null character is no program, so a fence around it scores nothing once it is labelled. -/
theorem unlabelled_null_scores_full : overallScore "```\n\x00\n```" = .ok (.int 100) ∧
    overallScore "```python\n\x00\n```" = .ok (.int 0) ∧
    ¬ ∃ t, Source.parse "\x00" = .ok t ∧ Flawless t := by
  have hplain : fenced "" "\x00" = "```\n\x00\n```" := by decide
  have hlabel : fenced "python" "\x00" = "```python\n\x00\n```" := by decide
  have htrim : trim "\x00" = "\x00" := by decide
  have hquality : (pythonQuality "\x00").score = 0 := by rfl
  obtain ⟨hunlabelled, hlabelled, hiff⟩ := unlabelled_score_eq_iff "\x00" (by decide)
  rw [hplain] at hunlabelled hiff
  rw [hlabel, htrim, hquality] at hlabelled
  rw [hlabel, htrim, hunlabelled, hlabelled] at hiff
  exact ⟨hunlabelled, hlabelled, hiff.not.mp (by simp)⟩

end Workbench.Review
