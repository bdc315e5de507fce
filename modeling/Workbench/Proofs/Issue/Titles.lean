import Mathlib.Data.List.Forall2
import Workbench.Issue.Title
import Workbench.Proofs.Text.Trim

/-!
# Titles without a prefix

A title that begins with the name of a type is refused, and a title without it is suggested.  The
beginning decides which word goes, but the word is then cut out wherever it stands, in whatever
case, also inside a longer word.  So the suggestion is the title without its prefix only if the word
does not come again.
-/

open List

namespace Workbench.Issue.Title

open Text

variable {word word' head head' gap rest left s : Chars} {a b c : Char} {t p : String}

/-! ### Words in any case -/

/-- A character that stands for another one when case is ignored. -/
def SameLetter (a c : Char) : Prop := a.toNat ∈ Pattern.caseVariants c

/-- A text is a word, in whatever case. -/
def Spells (word s : Chars) : Prop := Forall₂ SameLetter word s

/-- The text begins with the word, in any case. -/
def Begins (word s : Chars) : Prop := ∃ head, Spells word head ∧ head <+: s

/-- The word stands somewhere in the text. -/
def Occurs (word s : Chars) : Prop := ∃ head, Spells word head ∧ head <:+: s

lemma Spells.ne_nil (h : Spells word head) (hne : word ≠ []) : head ≠ [] := by
  rintro rfl
  exact hne (forall₂_nil_right_iff.mp h)

lemma dropWord?_eq_some_iff :
    dropWord? word s = some rest ↔ ∃ head, Spells word head ∧ s = head ++ rest := by
  induction word generalizing s with
  | nil => simp [dropWord?, Spells]
  | cons a word ih =>
    cases s with
    | nil => simp [dropWord?, Spells, forall₂_cons_left_iff]
    | cons c s =>
      have hletter : (Pattern.caseVariants c).contains a.toNat = true ↔ SameLetter a c :=
        contains_iff_mem
      rw [dropWord?]
      split_ifs with hc
      · rw [ih]
        constructor
        · rintro ⟨head, hhead, rfl⟩
          exact ⟨c :: head, .cons (hletter.mp hc) hhead, rfl⟩
        · rintro ⟨head, hhead, hs⟩
          obtain ⟨d, tail, -, htail, rfl⟩ := forall₂_cons_left_iff.mp hhead
          exact ⟨tail, htail, (cons.inj hs).2⟩
      · refine iff_of_false (by simp) ?_
        rintro ⟨head, hhead, hs⟩
        obtain ⟨d, tail, hd, -, rfl⟩ := forall₂_cons_left_iff.mp hhead
        obtain rfl : c = d := (cons.inj hs).1
        exact hc (hletter.mpr hd)

lemma isSome_dropWord?_iff : (dropWord? word s).isSome = true ↔ Begins word s := by
  rw [Option.isSome_iff_exists]
  simp only [dropWord?_eq_some_iff]
  constructor
  · rintro ⟨rest, head, hhead, rfl⟩
    exact ⟨head, hhead, prefix_append head rest⟩
  · rintro ⟨head, hhead, rest, rfl⟩
    exact ⟨rest, head, hhead, rfl⟩

lemma Begins.occurs (h : Begins word s) (u : Chars) : Occurs word (u ++ s) := by
  obtain ⟨head, hhead, hs⟩ := h
  exact ⟨head, hhead, hs.isInfix.trans (suffix_append u s).isInfix⟩

/-! ### Which word a title begins with -/

/-- A character of seven bits that is no small letter. -/
def Capital (a : Char) : Prop := a.toNat < 128 ∧ upperOne a = a

instance : DecidablePred Capital := fun _ => inferInstanceAs (Decidable (_ ∧ _))

/-- The letters that stand for each other. -/
def variantsOf (twins : List Nat) : List Nat :=
  twins.flatMap fun t =>
    [t, (upperOne (Char.ofNat t)).toNat] ++ (Pattern.caseExtras.lookup t).getD []

lemma capital_eq_of_mem_twins :
    ∀ twins ∈ Pattern.caseTwins, ∀ m ∈ variantsOf twins, ∀ n ∈ variantsOf twins,
      Capital (Char.ofNat m) → Capital (Char.ofNat n) → m = n := by
  decide +kernel

lemma le_of_mem_caseExtras : ∀ e ∈ Pattern.caseExtras, ∀ n ∈ e.2, 128 ≤ n := by decide

lemma Capital.eq_upperOne (ha : Capital a) {l : Nat} (h : a.toNat ∈ variantsOf [l]) :
    a = upperOne (Char.ofNat l) := by
  simp only [variantsOf, flatMap_cons, flatMap_nil, append_nil, mem_append, mem_cons, not_mem_nil,
    or_false] at h
  rcases h with (h | h) | h
  · rw [← h, Char.ofNat_toNat, ha.2]
  · rw [← Char.ofNat_toNat a, h, Char.ofNat_toNat]
  · cases hlookup : Pattern.caseExtras.lookup l with
    | none => simp [hlookup] at h
    | some ns =>
      rw [hlookup] at h
      obtain ⟨before, after, hextras, -⟩ := lookup_eq_some_iff.mp hlookup
      have hle := le_of_mem_caseExtras (l, ns) (by simp [hextras]) _ h
      exact absurd ha.1 (by omega)

/-- A character stands for one capital letter at most. -/
lemma SameLetter.eq (hac : SameLetter a c) (hbc : SameLetter b c) (ha : Capital a)
    (hb : Capital b) : a = b := by
  have hvariants : Pattern.caseVariants c =
      variantsOf ((Pattern.caseTwins.find? (·.contains (lowerOne c).toNat)).getD
        [(lowerOne c).toNat]) := rfl
  rw [SameLetter, hvariants] at hac hbc
  cases hfind : Pattern.caseTwins.find? (·.contains (lowerOne c).toNat) with
  | none =>
    rw [hfind] at hac hbc
    rw [ha.eq_upperOne hac, hb.eq_upperOne hbc]
  | some twins =>
    rw [hfind] at hac hbc
    have hcode := capital_eq_of_mem_twins twins (mem_of_find?_eq_some hfind) _ hac _ hbc
      (by rwa [Char.ofNat_toNat]) (by rwa [Char.ofNat_toNat])
    rw [← Char.ofNat_toNat a, hcode, Char.ofNat_toNat]

lemma prefix_of_begins (hword : ∀ a ∈ word, Capital a) (hword' : ∀ a ∈ word', Capital a)
    (hle : word.length ≤ word'.length) (h : Begins word s) (h' : Begins word' s) :
    word <+: word' := by
  obtain ⟨head, hhead, hs⟩ := h
  obtain ⟨head', hhead', hs'⟩ := h'
  induction hhead generalizing word' head' s with
  | nil => exact nil_prefix
  | @cons a c word head ha _ ih =>
    cases hhead' with
    | nil => simp at hle
    | @cons b d word' head' hb hhead' =>
      obtain ⟨u, rfl⟩ := hs
      obtain ⟨rfl, htail⟩ := cons_prefix_cons.mp hs'
      obtain rfl : a = b := ha.eq hb (hword a mem_cons_self) (hword' b mem_cons_self)
      exact cons_prefix_cons.mpr ⟨rfl, ih (fun x hx => hword x (mem_cons_of_mem _ hx))
        (fun x hx => hword' x (mem_cons_of_mem _ hx)) (by simpa using hle)
          (prefix_append head u) head' hhead' htail⟩

lemma capital_of_mem_typePrefixes (hp : p ∈ typePrefixes) : ∀ a ∈ p.toList, Capital a := by
  have hall : ∀ p ∈ typePrefixes, (p.toList.all fun a => Capital a) = true := by decide +kernel
  exact forall_mem_of_all (hall p hp)

lemma eq_of_prefix_typePrefixes :
    ∀ p ∈ typePrefixes, ∀ q ∈ typePrefixes, p.toList <+: q.toList → p = q := by
  decide +kernel

/-- The word that is found is the only one that the title begins with. -/
theorem typePrefix?_eq (hp : p ∈ typePrefixes) (h : Begins p.toList t.toList) :
    typePrefix? t = some p := by
  cases hfind : typePrefix? t with
  | none => exact absurd (isSome_dropWord?_iff.mpr h) (by simpa using find?_eq_none.mp hfind p hp)
  | some q =>
    have hq : q ∈ typePrefixes := mem_of_find?_eq_some hfind
    have hbegins : Begins q.toList t.toList :=
      isSome_dropWord?_iff.mp (by simpa using find?_some hfind)
    have hcapital := capital_of_mem_typePrefixes hp
    have hcapital' := capital_of_mem_typePrefixes hq
    rcases Nat.le_total q.toList.length p.toList.length with hle | hle
    · rw [eq_of_prefix_typePrefixes q hq p hp (prefix_of_begins hcapital' hcapital hle hbegins h)]
    · rw [eq_of_prefix_typePrefixes p hp q hq (prefix_of_begins hcapital hcapital' hle h hbegins)]

/-! ### Cutting a word out -/

/-- What is left of a text when a word and the blanks after it are cut out wherever it stands, from
the left to the right. -/
inductive Cut (word : Chars) : Chars → Chars → Prop where
  | nil : Cut word [] []
  | word {head gap rest left : Chars} (hhead : Spells word head)
    (hgap : ∀ c ∈ gap, isBlank c = true)
      (hrest : ∀ c ∈ rest.head?, isBlank c = false) (hcut : Cut word rest left) :
        Cut word (head ++ (gap ++ rest)) left
  | keep {c : Char} {s left : Chars} (hnot : ¬ Begins word (c :: s)) (hcut : Cut word s left) :
    Cut word (c :: s) (c :: left)

lemma removeWord_skip (word u s : Chars) :
    removeWord word u.length (u ++ s) = removeWord word 0 s := by
  induction u with
  | nil => rfl
  | cons c u ih => rw [length_cons, cons_append, removeWord, ih]

lemma removeWord_word (hne : word ≠ []) (hhead : Spells word head)
    (hgap : ∀ c ∈ gap, isBlank c = true) (hrest : ∀ c ∈ rest.head?, isBlank c = false) :
    removeWord word 0 (head ++ (gap ++ rest)) = removeWord word 0 rest := by
  have hdrop : dropWord? word (head ++ (gap ++ rest)) = some (gap ++ rest) :=
    dropWord?_eq_some_iff.mpr ⟨head, hhead, rfl⟩
  obtain ⟨c, tail, rfl⟩ := exists_cons_of_ne_nil (hhead.ne_nil hne)
  have hskip : (tail ++ (gap ++ rest)).length - rest.length = (tail ++ gap).length := by
    simp only [length_append]
    omega
  rw [cons_append, removeWord, ← cons_append, hdrop]
  dsimp only
  rw [dropWhile_run hgap hrest, hskip, ← append_assoc, removeWord_skip]

lemma removeWord_keep (h : ¬ Begins word (c :: s)) :
    removeWord word 0 (c :: s) = c :: removeWord word 0 s := by
  have hdrop : dropWord? word (c :: s) = none :=
    Option.not_isSome_iff_eq_none.mp (mt isSome_dropWord?_iff.mp h)
  rw [removeWord, hdrop]

/-- The blanks after a word end where the next part begins. -/
lemma exists_gap (s : Chars) :
    ∃ gap rest, s = gap ++ rest ∧ (∀ c ∈ gap, isBlank c = true) ∧ ∀ c ∈ rest.head?,
      isBlank c = false := by
  refine ⟨s.takeWhile isBlank, s.dropWhile isBlank, takeWhile_append_dropWhile.symm, fun c hc =>
    mem_takeWhile_imp hc, ?_⟩
  intro c hc
  have hnot := head?_dropWhile_not isBlank s
  rw [Option.mem_def.mp hc] at hnot
  simpa using hnot

/-- Removing a word cuts each of its occurrences, from the left. -/
theorem cut_removeWord (hne : word ≠ []) (s : Chars) : Cut word s (removeWord word 0 s) := by
  -- by induction on the length, since a word takes more than one character with it
  induction hn : s.length using Nat.strong_induction_on generalizing s with
  | _ n ih =>
    cases s with
    | nil => exact .nil
    | cons c s =>
      by_cases hbegins : Begins word (c :: s)
      · obtain ⟨head, hhead, u, hu⟩ := hbegins
        obtain ⟨gap, rest, rfl, hgap, hrest⟩ := exists_gap u
        have hshort : rest.length < n := by
          have hpos := length_pos_iff.mpr (hhead.ne_nil hne)
          rw [← hn, ← hu, length_append, length_append]
          omega
        rw [← hu, removeWord_word hne hhead hgap hrest]
        exact .word hhead hgap hrest (ih _ hshort rest rfl)
      · rw [removeWord_keep hbegins]
        exact .keep hbegins (ih _ (by simp [← hn]) s rfl)

namespace Cut

lemma length_le (h : Cut word s left) : left.length ≤ s.length := by
  induction h with
  | nil => exact Nat.le_refl 0
  | word _ _ _ _ ih =>
    rw [length_append, length_append]
    omega
  | keep _ _ ih => simpa using ih

lemma eq_of_not_occurs (h : Cut word s left) (hnot : ¬ Occurs word s) : left = s := by
  induction h with
  | nil => rfl
  | @word head gap rest left hhead =>
    exact absurd ⟨head, hhead, (prefix_append head _).isInfix⟩ hnot
  | keep _ _ ih =>
    rw [ih]
    rintro ⟨head, hhead, hs⟩
    exact hnot ⟨head, hhead, hs.trans (suffix_cons _ _).isInfix⟩

lemma length_lt_of_occurs (h : Cut word s left) (hne : word ≠ []) (hoccurs : Occurs word s) :
    left.length < s.length := by
  induction h with
  | nil =>
    obtain ⟨head, hhead, hs⟩ := hoccurs
    exact absurd (infix_nil.mp hs) (hhead.ne_nil hne)
  | word hhead _ _ hcut _ =>
    have hpos := length_pos_iff.mpr (hhead.ne_nil hne)
    have hle := hcut.length_le
    rw [length_append, length_append]
    omega
  | keep hnot _ ih =>
    obtain ⟨head, hhead, hs⟩ := hoccurs
    rcases infix_cons_iff.mp hs with hs | hs
    · exact absurd ⟨head, hhead, hs⟩ hnot
    · simpa using ih ⟨head, hhead, hs⟩

end Cut

/-! ### Suggestions -/

/-- A title as it is suggested. -/
def suggestion (s : String) : String := s!"Suggested: \"{s}\""

/-- A title is suggested for a text. -/
def Suggests (text s : String) : Prop := suggestion s ∈ (judge text).suggestions

lemma toList_suggestion (s : String) :
    (suggestion s).toList = "Suggested: \"".toList ++ (s.toList ++ ['"']) := by
  simp [suggestion, toString]

lemma suggestion_injective : Function.Injective suggestion := by
  intro a b h
  have hparts := congrArg String.toList h
  rw [toList_suggestion, toList_suggestion] at hparts
  exact String.toList_injective (append_cancel_right (append_cancel_left hparts))

lemma suggestion_ne {other s : String} (h : other.toList.head? ≠ some 'S') :
    suggestion s ≠ other := by
  rintro rfl
  exact h (by rw [toList_suggestion]; rfl)

lemma suggestion_notMem_length (t s : String) : suggestion s ∉ (lengthJudgement t).suggestions := by
  unfold lengthJudgement
  dsimp only
  split_ifs
  · simpa using suggestion_ne (by decide +kernel)
  · simpa using suggestion_ne (by decide +kernel)
  · simp
  · simp

lemma suggestion_notMem_advice (t s : String) (faulty : Bool) :
    suggestion s ∉ (adviceJudgement t faulty).suggestions := by
  dsimp only [adviceJudgement]
  split_ifs
  · simp
  · simpa using suggestion_ne (by decide +kernel)

/-- What is suggested is the title without its prefix, unless that is empty. -/
theorem suggests_iff (ht : trim t = t) (hp : typePrefix? t = some p) (s : String) :
    Suggests t s ↔ s = without p t ∧ s ≠ "" := by
  have hne : (t == "") = false := by
    rw [beq_eq_false_iff_ne]
    rintro rfl
    have hnone : typePrefix? "" = none := by decide +kernel
    cases hnone.symm.trans hp
  have hjudged : suggestion s ∈ (judge t).suggestions ↔
      suggestion s ∈ (prefixJudgement t).suggestions := by
    simp only [judge, ht, hne, Bool.false_eq_true, if_false, Judgement.join, mem_append,
      suggestion_notMem_length, suggestion_notMem_advice, or_false]
    simp [wordingJudgement]
  rw [Suggests, hjudged, prefixJudgement, hp]
  dsimp only
  split_ifs with hempty
  · rw [beq_iff_eq] at hempty
    simp [hempty]
  · rw [beq_iff_eq] at hempty
    have hsame : suggestion s = suggestion (without p t) ↔ s = without p t :=
      suggestion_injective.eq_iff
    refine mem_singleton.trans (hsame.trans ?_)
    exact ⟨fun h => ⟨h, h ▸ hempty⟩, And.left⟩

/-- A title with a word at its beginning, and what comes after the word and the blanks behind it. -/
def Follows (p t : String) (rest : Chars) : Prop :=
  ∃ head gap, t.toList = head ++ (gap ++ rest) ∧ Spells p.toList head ∧
    (∀ c ∈ gap, isBlank c = true) ∧
    ∀ c ∈ rest.head?, isBlank c = false

lemma follows_dropWhile (h : dropWord? p.toList t.toList = some s) :
    Follows p t (s.dropWhile isBlank) := by
  obtain ⟨head, hhead, ht⟩ := dropWord?_eq_some_iff.mp h
  obtain ⟨gap, rest, rfl, hgap, hrest⟩ := exists_gap s
  rw [dropWhile_run hgap hrest]
  exact ⟨head, gap, ht, hhead, hgap, hrest⟩

lemma Follows.begins (h : Follows p t rest) : Begins p.toList t.toList := by
  obtain ⟨head, gap, ht, hhead, -⟩ := h
  exact ⟨head, hhead, ht ▸ prefix_append head _⟩

lemma Follows.without_eq (h : Follows p t rest) (hne : p.toList ≠ []) :
    without p t = trim (.ofList (removeWord p.toList 0 rest)) := by
  obtain ⟨head, gap, ht, hhead, hgap, hrest⟩ := h
  rw [without, ht, removeWord_word hne hhead hgap hrest]

lemma Follows.trim_rest (h : Follows p t rest) (ht : trim t = t) :
    trim (.ofList rest) = .ofList rest := by
  obtain ⟨head, gap, hparts, -, -, hrest⟩ := h
  rw [trim, String.toList_ofList, trimWhile_eq_self hrest]
  intro x hx
  have hlast : x ∈ (trimWhile isBlank t.toList).getLast? := by
    have hself : trimWhile isBlank t.toList = t.toList := by
      rw [← String.toList_ofList (l := trimWhile isBlank t.toList)]
      exact congrArg String.toList ht
    rw [hself, hparts, getLast?_append, getLast?_append, Option.mem_def.mp hx]
    rfl
  exact getLast?_dropEndWhile hlast

lemma length_trim_le (s : Chars) : (trim (.ofList s)).toList.length ≤ s.length := by
  rw [trim, String.toList_ofList, String.toList_ofList, trimWhile]
  exact dropEndWhile_isPrefix.length_le.trans (dropWhile_sublist isBlank).length_le

/-- The title that is suggested is what is left after the prefix when its word is cut out there too.
So it is the title without the prefix just if the word does not come again, or if nothing but blanks
would be left and nothing is suggested. -/
theorem suggestion_is_rest_iff (ht : trim t = t) (hp : p ∈ typePrefixes) (h : Follows p t rest) :
    ∃ left, Cut p.toList rest left ∧ (∀ s, Suggests t s ↔ s = trim (.ofList left) ∧ s ≠ "") ∧
      ((∀ s, Suggests t s → s = .ofList rest) ↔ ¬ Occurs p.toList rest ∨
        ∀ c ∈ left, isBlank c = true) := by
  have hne : p.toList ≠ [] := (by decide +kernel : ∀ p ∈ typePrefixes, p.toList ≠ []) p hp
  have hcut := cut_removeWord hne rest
  have hsuggests := suggests_iff ht (typePrefix?_eq hp h.begins)
  rw [h.without_eq hne] at hsuggests
  refine ⟨_, hcut, hsuggests, ?_⟩
  generalize removeWord p.toList 0 rest = left at hcut hsuggests
  have hblank : trim (.ofList left) = "" ↔ ∀ c ∈ left, isBlank c = true := by
    rw [trim_eq_empty_iff, String.toList_ofList]
  constructor
  · intro hrest
    by_cases hempty : trim (.ofList left) = ""
    · exact .inr (hblank.mp hempty)
    · refine .inl fun hoccurs => ?_
      have hsame := hrest _ ((hsuggests _).mpr ⟨rfl, hempty⟩)
      have hle := length_trim_le left
      rw [hsame, String.toList_ofList] at hle
      exact absurd (hcut.length_lt_of_occurs hne hoccurs) (by omega)
  · rintro (hnot | hleft) s hs
    · obtain ⟨rfl, -⟩ := (hsuggests s).mp hs
      rw [hcut.eq_of_not_occurs hnot, h.trim_rest ht]
    · obtain ⟨rfl, hsome⟩ := (hsuggests s).mp hs
      exact absurd (hblank.mpr hleft) hsome

/-- The word comes again inside another one. -/
theorem debug_is_cut :
    Follows "BUG:" "BUG: fix debug: output" "fix debug: output".toList ∧
      Suggests "BUG: fix debug: output" "fix deoutput" ∧
      ¬ ∀ s, Suggests "BUG: fix debug: output" s → s = .ofList "fix debug: output".toList := by
  have ht : trim "BUG: fix debug: output" = "BUG: fix debug: output" := by decide +kernel
  have hdrop : dropWord? "BUG:".toList "BUG: fix debug: output".toList =
      some " fix debug: output".toList := by decide +kernel
  have hcut : without "BUG:" "BUG: fix debug: output" = "fix deoutput" := by decide +kernel
  have hsuggested : Suggests "BUG: fix debug: output" "fix deoutput" :=
    (suggests_iff ht (by decide +kernel) _).mpr ⟨hcut.symm, by decide⟩
  have hagain : Occurs "BUG:".toList "fix debug: output".toList :=
    (isSome_dropWord?_iff.mp
      (by decide +kernel : (dropWord? "BUG:".toList "bug: output".toList).isSome = true)).occurs
      "fix de".toList
  refine ⟨follows_dropWhile hdrop, hsuggested, fun hall => ?_⟩
  obtain ⟨left, -, hsuggests, hiff⟩ :=
    suggestion_is_rest_iff ht (by decide) (follows_dropWhile hdrop)
  rcases hiff.mp hall with hnot | hblank
  · exact hnot hagain
  · obtain ⟨hleft, hne⟩ := (hsuggests _).mp hsuggested
    exact hne (hleft.trans (trim_eq_empty_iff.mpr (by rwa [String.toList_ofList])))

end Workbench.Issue.Title
