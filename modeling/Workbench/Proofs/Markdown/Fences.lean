import Mathlib.Algebra.Ring.Nat
import Workbench.Proofs.Text.Split
import Workbench.Proofs.Text.Trim
import Workbench.Review.Analysis

/-!
# Reading fenced blocks back

A document of fenced blocks with text between them, none of which holds a backtick of its own, is
read back block by block, also where one fence follows another directly.
-/

open List Nat

namespace Workbench.Markdown

open Text

/-- A fenced block and the text before it. -/
structure Fenced where
  before : String
  label : String
  code : String

namespace Fenced

/-- A block and what stands before it. -/
def text (b : Fenced) : String := b.before ++ "```" ++ b.label ++ "\n" ++ b.code ++ "```"

/-- Nothing of a block looks like a fence. -/
structure Sound (b : Fenced) : Prop where
  before : '\x60' ∉ b.before.toList
  label : ∀ c ∈ b.label.toList, isWord c = true
  code : '\x60' ∉ b.code.toList

/-- The snippet that a block should be read as. -/
def snippet (b : Fenced) : Snippet :=
  ⟨if b.label = "" then "unknown" else lower b.label, trim b.code⟩

end Fenced

/-- Blocks and what stands behind the last. -/
def document (bs : List Fenced) (last : String) : String := String.join (bs.map Fenced.text) ++ last

variable {p s code label rest : Chars} {fuel pos : Nat}

lemma dropFront?_fence_cons {c : Char} (hc : c ≠ '\x60') (s : Chars) :
    dropFront? fence (c :: s) = none := by
  simp [fence, dropFront?, hc.symm]

lemma closeFence_code (hcode : '\x60' ∉ code) (acc : Chars) :
    closeFence acc (code ++ (fence ++ rest)) = some (acc.reverse ++ code, rest) := by
  induction code generalizing acc with
  | nil => simp [closeFence, fence, dropFront?]
  | cons c code ih =>
    obtain ⟨hc, hcode⟩ := not_or.mp (mem_cons.not.mp hcode)
    rw [cons_append, closeFence, dropFront?_fence_cons (Ne.symm hc)]
    simpa using ih hcode (c :: acc)

lemma openBlock?_block (hlabel : ∀ c ∈ label, isWord c = true) (hcode : '\x60' ∉ code) :
    openBlock? (fence ++ (label ++ '\n' :: (code ++ (fence ++ rest)))) =
      some (label, code, rest) := by
  have hend : ∀ c ∈ ('\n' :: (code ++ (fence ++ rest))).head?, isWord c = false := by
    rintro c ⟨⟩
    decide
  rw [openBlock?, dropFront?_append, Option.bind_eq_bind, Option.bind_some,
    takeWhile_run hlabel hend, dropWhile_run hlabel hend]
  simp [closeFence_code hcode]

lemma exists_blocksFrom_block (fuel pos : Nat) (rest : Chars)
    (hlabel : ∀ c ∈ label, isWord c = true) (hcode : '\x60' ∉ code) :
    ∃ stop, blocksFrom (fuel + 1) pos (fence ++ (label ++ '\n' :: (code ++ (fence ++ rest)))) =
      ⟨pos, stop, label, code⟩ :: blocksFrom fuel stop rest := by
  have hopen : openBlock? (fence ++ (label ++ '\n' :: (code ++ (fence ++ rest)))) = _ :=
    openBlock?_block hlabel hcode
  rw [fence, cons_append] at hopen ⊢
  rw [blocksFrom, hopen]
  exact ⟨_, rfl⟩

lemma exists_blocksFrom_skip (pos : Nat) (hp : NotWithin fence p s)
    (hfuel : (p ++ s).length < fuel) :
    ∃ fuel' pos', s.length < fuel' ∧ blocksFrom fuel pos (p ++ s) = blocksFrom fuel' pos' s := by
  induction p generalizing fuel pos with
  | nil => exact ⟨fuel, pos, hfuel, rfl⟩
  | cons c p ih =>
    obtain ⟨hfirst, hrest⟩ := notWithin_cons.mp hp
    obtain ⟨fuel, rfl⟩ := exists_eq_succ_of_ne_zero (ne_of_gt (zero_lt_of_lt hfuel))
    obtain ⟨fuel', pos', hfuel', heq⟩ := ih (pos + 1) hrest (by simpa using hfuel)
    refine ⟨fuel', pos', hfuel', ?_⟩
    rw [cons_append, blocksFrom, openBlock?, dropFront?_eq_none hfirst]
    exact heq

/-- Reading goes on right behind the fence that closes a block, so the blocks are found by induction
on their number. -/
lemma snippets_blocksFrom (bs : List Fenced) (h : ∀ b ∈ bs, b.Sound) {last : String}
    (hlast : '\x60' ∉ last.toList) (hfuel : (document bs last).toList.length < fuel) :
    (blocksFrom fuel pos (document bs last).toList).map Block.snippet = bs.map Fenced.snippet := by
  induction bs generalizing fuel pos with
  | nil =>
    obtain ⟨fuel', pos', -, heq⟩ :=
      exists_blocksFrom_skip (s := []) pos (notWithin_of_notMem hlast _ _)
      (by simpa [document] using hfuel)
    have hnone : blocksFrom fuel' pos' [] = [] := by cases fuel' <;> rfl
    simpa [document, hnone] using heq
  | cons b bs ih =>
    obtain ⟨hb, hbs⟩ := forall_mem_cons.mp h
    have hparts : (document (b :: bs) last).toList = b.before.toList
        ++ (fence ++ (b.label.toList ++
          '\n' :: (b.code.toList ++ (fence ++ (document bs last).toList)))) := by
      simp [document, Fenced.text, fence]
    rw [hparts] at hfuel ⊢
    obtain ⟨fuel', pos', hfuel', heq⟩ :=
      exists_blocksFrom_skip pos (notWithin_of_notMem hb.before _ _) hfuel
    obtain ⟨fuel', rfl⟩ := exists_eq_succ_of_ne_zero (ne_of_gt (zero_lt_of_lt hfuel'))
    obtain ⟨stop, hblock⟩ := exists_blocksFrom_block fuel' pos' (document bs last).toList
      hb.label hb.code
    have hsnippet : Block.snippet ⟨pos', stop, b.label.toList, b.code.toList⟩ = b.snippet := by
      simp [Block.snippet, Fenced.snippet, languageOf]
    have hshort : (document bs last).toList.length < fuel' := by
      simp only [length_append, length_cons] at hfuel'
      omega
    rw [heq, hblock, map_cons, map_cons, hsnippet, ih hbs hshort]

/-! ### One block -/

/-- Code in a fence with a label. -/
def fenced (label code : String) : String := "```" ++ label ++ "\n" ++ code ++ "\n```"

lemma toList_fenced (label code : String) :
    (fenced label code).toList = fence ++
      (label.toList ++ '\n' :: ((code ++ "\n").toList ++ (fence ++ []))) := by
  simp [fenced, fence]

lemma exists_blocks_fenced {label code : String} (hlabel : ∀ c ∈ label.toList, isWord c = true)
    (hcode : '\x60' ∉ code.toList) :
    ∃ stop, blocks (fenced label code) = [⟨0, stop, label.toList, (code ++ "\n").toList⟩] := by
  have hline : '\x60' ∉ (code ++ "\n").toList := by simpa using hcode
  obtain ⟨stop, hblock⟩ := exists_blocksFrom_block (fenced label code).length 0 [] hlabel hline
  refine ⟨stop, ?_⟩
  rw [blocks, toList_fenced, hblock]
  cases (fenced label code).length <;> rfl

lemma snippets_fenced {label code : String} (hlabel : ∀ c ∈ label.toList, isWord c = true)
    (hcode : '\x60' ∉ code.toList) :
    snippets (fenced label code) = [⟨languageOf label.toList, trim code⟩] := by
  obtain ⟨stop, hblocks⟩ := exists_blocks_fenced hlabel hcode
  have htrim : trim (code ++ "\n") = trim code :=
    trim_append_blank (forall_mem_of_all (by decide)) code
  rw [snippets, hblocks, map_singleton, Block.snippet, String.ofList_toList, htrim]

end Workbench.Markdown

namespace Workbench.Review

open Markdown Text

/-- Each block adds one to the blocks of its family, and its lines to the lines. -/
lemma counts_foldl (rs : List (Snippet × BlockResult)) (c c' : Counts)
    (h : rs.foldl (fun c r => c.add r.1 r.2) c = c') :
    c'.blocks = c.blocks + rs.length ∧
      c'.python + c'.javascript + c'.other = c.python + c.javascript + c.other + rs.length ∧
      c'.lines = c.lines + (rs.map fun r => lineCount r.1.code).sum := by
  induction rs generalizing c with
  | nil => simp [← h]
  | cons r rs ih =>
    obtain ⟨hblocks, hfamilies, hlines⟩ := ih (c.add r.1 r.2) h
    have hone : (c.add r.1 r.2).python + (c.add r.1 r.2).javascript + (c.add r.1 r.2).other =
        c.python + c.javascript + c.other + 1 := by
      simp only [Counts.add]
      cases familyOf r.1.language <;> simp <;> omega
    have hblock : (c.add r.1 r.2).blocks = c.blocks + 1 := rfl
    have hline : (c.add r.1 r.2).lines = c.lines + lineCount r.1.code := rfl
    rw [length_cons, map_cons, sum_cons]
    omega

/-- The snippets of a document are its fenced blocks, in their order.  As many are counted, each
under one language, with the lines of the trimmed codes. -/
theorem document_read_back (bs : List Fenced) (hbs : ∀ b ∈ bs, b.Sound) (last : String)
    (hlast : '\x60' ∉ last.toList) :
    snippets (document bs last) = bs.map Fenced.snippet ∧
      ∀ counts, (analyze (document bs last)).counts = counts → counts.blocks = bs.length ∧
        counts.python + counts.javascript + counts.other = bs.length ∧
        counts.lines = (bs.map fun b => lineCount (trim b.code)).sum := by
  have hread : snippets (document bs last) = bs.map Fenced.snippet := by
    rw [snippets, blocks]
    exact snippets_blocksFrom bs hbs hlast (lt_succ_of_le String.length_toList.le)
  refine ⟨hread, fun counts hcounts => ?_⟩
  have hsums := counts_foldl ((snippets (document bs last)).map fun s => (s, analyzeSnippet s))
    {} counts hcounts
  rw [hread] at hsums
  simpa [Fenced.snippet, Function.comp_def] using hsums

/-- The second block follows the fence of the first one directly and has no label. -/
theorem document_read_back_adjacent :
    document [⟨"See: ", "Py", " x\n\ny \n"⟩, ⟨"", "", ""⟩] "." =
      "See: ```Py\n x\n\ny \n``````\n```." ∧
      snippets "See: ```Py\n x\n\ny \n``````\n```." = [⟨"py", "x\n\ny"⟩, ⟨"unknown", ""⟩] ∧
      (analyze "See: ```Py\n x\n\ny \n``````\n```.").counts.blocks = 2 ∧
      (analyze "See: ```Py\n x\n\ny \n``````\n```.").counts.lines = 4 := by
  have hsound : ∀ b ∈ [(⟨"See: ", "Py", " x\n\ny \n"⟩ : Fenced), ⟨"", "", ""⟩], b.Sound := by
    simp only [forall_mem_cons]
    exact ⟨⟨by decide, forall_mem_of_all (by decide), by decide⟩,
      ⟨by decide, forall_mem_of_all (by decide), by decide⟩, by simp⟩
  obtain ⟨hread, hcounts⟩ := document_read_back _ hsound "." (by decide)
  have hcounts := hcounts _ rfl
  exact ⟨by decide, hread.trans (by decide), hcounts.1, hcounts.2.2.trans (by decide)⟩

end Workbench.Review
