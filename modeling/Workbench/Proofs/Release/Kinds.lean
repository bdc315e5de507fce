import Mathlib.Data.List.Perm.Basic
import Workbench.Proofs.Release.Sections

/-!
# Kinds of commits

A subject of the conventional form is told apart from all others (`Commit.read?_eq_some_iff`).  A
commit makes an entry of one kind, and one more among the breaking changes if it is marked as such.
The word at the front of the subject is looked up among all kinds, that of breaking changes
included, which is no type of commits (`categorized_once_iff`).
-/

open List

namespace Workbench

open Text

/-! ### The conventional form -/

namespace Commit

variable {s rest word d inside : Chars} {scope : Option Chars} {marked : Bool}

/-- A scope as it is written. -/
def scopeText : Option Chars → Chars
  | none => []
  | some inside => '(' :: (inside ++ [')'])

/-- The exclamation mark, if there is one. -/
def markText (marked : Bool) : Chars := if marked then ['!'] else []

/-- A word, a scope in parentheses or none, an exclamation mark or none, a colon with a blank, and a
description up to the end of the text or to a line end there. -/
structure Conforms (s word : Chars) (scope : Option Chars) (marked : Bool) (description : Chars) :
    Prop where
  word_ne : word ≠ []
  isWord : ∀ c ∈ word, isWord c = true
  inside : ∀ inside ∈ scope, inside ≠ [] ∧ ')' ∉ inside
  description_ne : description ≠ []
  oneLine : '\n' ∉ description
  text : ∃ tail, (tail = [] ∨ tail = ['\n']) ∧
    s = word ++ (scopeText scope ++ (markText marked ++ ':' :: ' ' :: (description ++ tail)))

lemma parenthesised?_eq_some_iff :
    parenthesised? s = some (inside, rest) ↔ s = '(' :: (inside ++ ')' :: rest) ∧ inside ≠ [] ∧
      ')' ∉ inside := by
  constructor
  · intro h
    unfold parenthesised? at h
    split at h
    · rename_i t
      have hparts := takeWhile_append_dropWhile (p := (· != ')')) (l := t)
      have hnot : ')' ∉ t.takeWhile (· != ')') := fun hmem => by simpa using mem_takeWhile_imp hmem
      have hfirst := head?_dropWhile_not (· != ')') t
      cases hrest : t.dropWhile (· != ')') with
      | nil =>
        rw [hrest] at h
        cases h
      | cons c u =>
        rw [hrest] at hparts hfirst
        simp only [hrest] at h
        split_ifs at h with hempty
        obtain ⟨rfl, rfl⟩ := Prod.mk.inj (Option.some.inj h)
        obtain rfl : c = ')' := by simpa using hfirst
        exact ⟨by rw [hparts], by simpa using hempty, hnot⟩
    · cases h
  · rintro ⟨rfl, hne, hnot⟩
    have hkeep : ∀ c ∈ inside, (c != ')') = true := fun c hc => by
      simpa using fun heq : c = ')' => hnot (heq ▸ hc)
    have hstop : ∀ c ∈ (')' :: rest).head?, (c != ')') = false := by simp
    simp [parenthesised?, takeWhile_run hkeep hstop, dropWhile_run hkeep hstop, hne]

lemma scope?_eq_some_iff : scope? s = some (scope, rest) ↔ s = scopeText scope ++ rest ∧
    (∀ inside ∈ scope, inside ≠ [] ∧ ')' ∉ inside) ∧ (scope = none → rest.head? ≠ some '(') := by
  unfold scope?
  split_ifs with hopen
  · have hopen : s.head? = some '(' := by simpa using hopen
    cases scope with
    | none =>
      refine iff_of_false (by simp [Option.bind_eq_some_iff]) ?_
      rintro ⟨rfl, -, hother⟩
      exact hother rfl hopen
    | some inside => simp [Option.bind_eq_some_iff, scopeText, parenthesised?_eq_some_iff]
  · have hopen : s.head? ≠ some '(' := by simpa using hopen
    cases scope with
    | none =>
      refine ⟨fun h => ?_, fun h => by rw [h.1]; rfl⟩
      obtain rfl : s = rest := (Prod.mk.inj (Option.some.inj h)).2
      exact ⟨rfl, by simp, fun _ => hopen⟩
    | some inside => exact iff_of_false (by simp) fun h => hopen (by rw [h.1]; rfl)

lemma markText_append_mark (s : Chars) : markText (mark s).1 ++ (mark s).2 = s := by
  unfold mark
  split <;> rfl

lemma mark_markText (marked : Bool) (h : rest.head? ≠ some '!') :
    mark (markText marked ++ rest) = (marked, rest) := by
  cases marked with
  | true => rfl
  | false =>
    unfold mark markText
    split
    · rename_i u heq
      obtain rfl : rest = '!' :: u := heq
      exact absurd rfl h
    · rfl

lemma onlyLine?_eq_some_iff :
    onlyLine? s = some d ↔ '\n' ∉ d ∧ ∃ tail, (tail = [] ∨ tail = ['\n']) ∧ s = d ++ tail := by
  constructor
  · intro h
    unfold onlyLine? at h
    dsimp only at h
    split_ifs at h with htail
    obtain rfl := Option.some.inj h
    refine ⟨fun hmem => by simpa using mem_takeWhile_imp hmem,
      s.dropWhile (· != '\n'), by simpa using htail, ?_⟩
    exact takeWhile_append_dropWhile.symm
  · rintro ⟨hline, tail, htail, rfl⟩
    have hkeep : ∀ c ∈ d, (c != '\n') = true := fun c hc => by
      simpa using fun heq : c = '\n' => hline (heq ▸ hc)
    have hstop : ∀ c ∈ tail.head?, (c != '\n') = false := by
      rcases htail with rfl | rfl <;> simp
    simp [onlyLine?, takeWhile_run hkeep hstop, dropWhile_run hkeep hstop, htail]

lemma description?_eq_some_iff : description? s = some d ↔
    d ≠ [] ∧ '\n' ∉ d ∧ ∃ tail, (tail = [] ∨ tail = ['\n']) ∧ s = ':' :: ' ' :: (d ++ tail) := by
  constructor
  · intro h
    obtain ⟨t, ht, h⟩ := Option.bind_eq_some_iff.mp h
    obtain ⟨line, hline, h⟩ := Option.bind_eq_some_iff.mp h
    split_ifs at h with hempty
    obtain rfl := Option.some.inj h
    obtain ⟨hone, tail, htail, rfl⟩ := onlyLine?_eq_some_iff.mp hline
    exact ⟨by simpa using hempty, hone, tail, htail, eq_append_of_dropFront? ht⟩
  · rintro ⟨hne, hone, tail, htail, rfl⟩
    have hcut : dropFront? [':', ' '] (':' :: ' ' :: (d ++ tail)) = some (d ++ tail) :=
      dropFront?_append [':', ' '] _
    have hline : onlyLine? (d ++ tail) = some d :=
      onlyLine?_eq_some_iff.mpr ⟨hone, tail, htail, rfl⟩
    simp [description?, hcut, hline, hne]

/-- The reader accepts the conventional form and nothing else, and takes it apart. -/
theorem read?_eq_some_iff {t : Subject} :
    Subject.read? s = some t ↔ ∃ word scope d, Conforms s word scope t.breaking d ∧
    t = ⟨lower (.ofList word), .ofList (scope.getD []), t.breaking, .ofList d⟩ := by
  constructor
  · intro h
    have hword := takeWhile_append_dropWhile (p := isWord) (l := s)
    unfold Subject.read? at h
    dsimp only at h
    split_ifs at h with hempty
    · cases h
    obtain ⟨⟨scope, tail⟩, hscope, h⟩ := Option.bind_eq_some_iff.mp h
    obtain ⟨d, hd, h⟩ := Option.bind_eq_some_iff.mp h
    obtain rfl := Option.some.inj h
    obtain ⟨hrest, hinside, -⟩ := scope?_eq_some_iff.mp hscope
    obtain ⟨hne, hone, last, hlast, htail⟩ := description?_eq_some_iff.mp hd
    refine ⟨_, scope, d, ⟨by simpa using hempty, fun c hc => mem_takeWhile_imp hc, hinside, hne,
      hone, last, hlast, ?_⟩, rfl⟩
    rw [← htail, markText_append_mark, ← hrest, hword]
  · rintro ⟨word, scope, d, ⟨hne, hword, hinside, hd, hone, tail, htail, hs⟩, ht⟩
    obtain ⟨type, text, marked, line⟩ := t
    obtain ⟨rfl, rfl, -, rfl⟩ := Subject.mk.inj ht
    dsimp only at hs
    generalize hafter : ':' :: ' ' :: (d ++ tail) = after at hs
    have hcolon : after.head? = some ':' := by rw [← hafter]; rfl
    have hdescription : description? after = some d :=
      description?_eq_some_iff.mpr ⟨hd, hone, tail, htail, hafter.symm⟩
    have hmark : mark (markText marked ++ after) = (marked, after) :=
      mark_markText _ (by simp [hcolon])
    have hscope : scope? (scopeText scope ++ (markText marked ++ after)) =
        some (scope, markText marked ++ after) := by
      refine scope?_eq_some_iff.mpr ⟨rfl, hinside, fun _ => ?_⟩
      cases marked <;> simp [markText, hcolon]
    have hstop : ∀ c ∈ (scopeText scope ++ (markText marked ++ after)).head?, isWord c = false := by
      cases scope <;> cases marked <;> simp [scopeText, markText, hcolon] <;> decide
    have hempty : word.isEmpty = false := by simpa using hne
    rw [hs, Subject.read?]
    simp only [takeWhile_run hword hstop, dropWhile_run hword hstop, hempty, Bool.false_eq_true,
      if_false, hscope]
    simp [hmark, hdescription]

lemma read?_of_conforms (h : Conforms s word scope marked d) :
    Subject.read? s = some ⟨lower (.ofList word), .ofList (scope.getD []), marked, .ofList d⟩ :=
  read?_eq_some_iff.mpr ⟨word, scope, d, h, rfl⟩

lemma ofText_breaking_iff {text : String} :
    (Subject.ofText text).breaking = true ↔
      ∃ word scope d, Conforms text.toList word scope true d := by
  unfold Subject.ofText
  constructor
  · intro h
    cases hread : Subject.read? text.toList with
    | none =>
      rw [hread] at h
      cases h
    | some t =>
      rw [hread, Option.getD_some] at h
      obtain ⟨word, scope, d, hconforms, -⟩ := read?_eq_some_iff.mp hread
      exact ⟨word, scope, d, h ▸ hconforms⟩
  · rintro ⟨word, scope, d, hconforms⟩
    rw [read?_of_conforms hconforms]
    rfl

lemma ofText_type_eq_iff {text type : String} (htype : type ≠ "other") :
    (Subject.ofText text).type = type ↔
      ∃ word scope marked d, Conforms text.toList word scope marked d ∧
        lower (.ofList word) = type := by
  unfold Subject.ofText
  constructor
  · intro h
    cases hread : Subject.read? text.toList with
    | none =>
      rw [hread] at h
      exact absurd h.symm htype
    | some t =>
      rw [hread, Option.getD_some] at h
      obtain ⟨word, scope, d, hconforms, ht⟩ := read?_eq_some_iff.mp hread
      exact ⟨word, scope, t.breaking, d, hconforms, by rw [← h, ht]⟩
  · rintro ⟨word, scope, marked, d, hconforms, rfl⟩
    rw [read?_of_conforms hconforms]
    rfl

end Commit

/-! ### Entries of a commit -/

namespace Release

open Workbench.Commit (Conforms)

variable {c : Commit} {k : Kind}

/-- The subject has the exclamation mark of the conventional form, or the body tells of a breaking
change. -/
def Commit.Marked (c : Commit) : Prop :=
  (∃ word scope d, Conforms c.subject.toList word scope true d) ∨
    breakingMark.toList <:+: c.body.toList

/-- The subject has the conventional form, but the kind of breaking changes stands in the place of
the type. -/
def Commit.Misnamed (c : Commit) : Prop :=
  ∃ word scope marked d, Conforms c.subject.toList word scope marked d ∧
    lower (.ofList word) = Kind.breaking.name

lemma Commit.parsed_breaking_iff : c.parsed.breaking = true ↔ c.Marked := by
  rw [Marked, ← Workbench.Commit.ofText_breaking_iff, ← contains_iff, parsed]
  split_ifs with hbody <;> simp [hbody]

lemma Kind.ofType_eq_breaking_iff {type : String} :
    Kind.ofType type = .breaking ↔ type = Kind.breaking.name := by
  refine ⟨fun h => ?_, fun h => by rw [h]; decide⟩
  rw [ofType] at h
  cases hfound : Kind.all.find? (·.name == type) with
  | none =>
    rw [hfound] at h
    cases h
  | some k =>
    rw [hfound] at h
    obtain rfl : k = .breaking := h
    have hname : (Kind.breaking.name == type) = true :=
      find?_some (p := fun k : Kind => k.name == type) hfound
    exact (beq_iff_eq.mp hname).symm

lemma Commit.ofType_parsed_iff : Kind.ofType c.parsed.type = .breaking ↔ c.Misnamed := by
  have htype : c.parsed.type = (Workbench.Commit.Subject.ofText c.subject).type := by
    unfold parsed
    dsimp only
    split_ifs <;> rfl
  rw [Kind.ofType_eq_breaking_iff, htype, Workbench.Commit.ofText_type_eq_iff (by decide)]
  rfl

instance (c : Commit) : Decidable c.Marked := decidable_of_iff _ Commit.parsed_breaking_iff

instance (c : Commit) : Decidable c.Misnamed := decidable_of_iff _ Commit.ofType_parsed_iff

/-- All kinds but that of breaking changes. -/
def Kind.others : List Kind := Kind.all.filter (· ≠ .breaking)

/-- All entries but the breaking ones. -/
def others (cs : List Commit) : List Entry := Kind.others.flatMap (categorize cs)

lemma Commit.entriesFor_breaking (c : Commit) : c.entriesFor .breaking =
    (if c.Marked then [c.entry] else []) ++ (if c.Misnamed then [c.entry] else []) := by
  simp [entriesFor, parsed_breaking_iff, ofType_parsed_iff]

lemma Commit.flatMap_entriesFor (c : Commit) :
    Kind.others.flatMap c.entriesFor = if c.Misnamed then [] else [c.entry] := by
  have hkind : ∀ kind : Kind,
      (Kind.others.flatMap fun k =>
      (if c.parsed.breaking && k == .breaking then [c.entry] else []) ++
      (if kind == k then [c.entry] else [])) = if kind = .breaking then [] else [c.entry] := by
    intro kind
    cases kind <;> simp [Kind.others, Kind.all]
  exact (hkind _).trans (if_congr ofType_parsed_iff rfl rfl)

/-- The entries of the other kinds are those of the commits that are not misnamed, one for each. -/
lemma others_perm (cs : List Commit) :
    (others cs).Perm ((cs.filter fun c => ¬ c.Misnamed).map Commit.entry) := by
  induction cs with
  | nil => simp [others, categorize]
  | cons c cs ih =>
    have hsplit : others (c :: cs) = Kind.others.flatMap fun k =>
        c.entriesFor k ++ categorize cs k := rfl
    have hboth := (flatMap_append_perm Kind.others c.entriesFor (categorize cs)).symm
    rw [← hsplit, c.flatMap_entriesFor] at hboth
    refine hboth.trans ?_
    by_cases hc : c.Misnamed
    · rw [if_pos hc, filter_cons_of_neg (by simpa using hc)]
      exact ih
    · rw [if_neg hc, filter_cons_of_pos (by simpa using hc), map_cons]
      exact ih.cons _

lemma categorize_breaking (cs : List Commit) : categorize cs .breaking =
    cs.flatMap fun c =>
      (if c.Marked then [c.entry] else []) ++ (if c.Misnamed then [c.entry] else []) :=
  congrArg cs.flatMap (funext Commit.entriesFor_breaking)

/-- Misnamed commits come on top of the marked ones. -/
lemma length_categorize_breaking (cs : List Commit) :
    (categorize cs .breaking).length = (cs.filter fun c => c.Marked).length + cs.countP fun c =>
      c.Misnamed := by
  rw [categorize_breaking]
  induction cs with
  | nil => rfl
  | cons c cs ih =>
    rw [flatMap_cons, length_append, ih, countP_cons, filter_cons]
    by_cases hmarked : c.Marked <;> by_cases hnamed : c.Misnamed
      <;> simp [hmarked, hnamed] <;> omega

lemma categorize_breaking_of_named {cs : List Commit} (h : ∀ c ∈ cs, ¬ c.Misnamed) :
    categorize cs .breaking = (cs.filter fun c => c.Marked).map Commit.entry := by
  rw [categorize_breaking]
  induction cs with
  | nil => rfl
  | cons c cs ih =>
    obtain ⟨hc, hcs⟩ := forall_mem_cons.mp h
    rw [flatMap_cons, ih hcs, if_neg hc, append_nil, filter_cons]
    by_cases hmarked : c.Marked <;> simp [hmarked]

lemma suggestedBump_eq_major_iff (cs : List Commit) :
    suggestedBump (categorize cs) = "major" ↔ categorize cs .breaking ≠ [] := by
  unfold suggestedBump bumpFor
  cases categorize cs .breaking with
  | nil => cases (categorize cs .feat).isEmpty <;> simp
  | cons e es => simp

/-- Each commit is counted once, and once more among the breaking changes if it is marked, just if
none is misnamed.  A misnamed commit is missing among the other kinds and is counted as a breaking
change, so that it makes the next version a major one. -/
theorem categorized_once_iff (cs : List Commit) :
    (others cs).Perm ((cs.filter fun c => ¬ c.Misnamed).map Commit.entry) ∧
    categorize cs .breaking = cs.flatMap
      (fun c => (if c.Marked then [c.entry] else []) ++ (if c.Misnamed then [c.entry] else [])) ∧
    ((others cs).Perm (cs.map Commit.entry) ↔ ∀ c ∈ cs, ¬ c.Misnamed) ∧
    (categorize cs .breaking = (cs.filter fun c => c.Marked).map Commit.entry ↔
      ∀ c ∈ cs, ¬ c.Misnamed) ∧
    (suggestedBump (categorize cs) = "major" ↔ ∃ c ∈ cs, c.Marked ∨ c.Misnamed) := by
  refine ⟨others_perm cs, categorize_breaking cs, ⟨fun h => ?_, fun h => ?_⟩,
    ⟨fun h => ?_, categorize_breaking_of_named⟩, ?_⟩
  · have hlength := ((others_perm cs).symm.trans h).length_eq
    rw [length_map, length_map, length_filter_eq_length_iff] at hlength
    simpa using hlength
  · have hall : (cs.filter fun c => ¬ c.Misnamed) = cs := filter_eq_self.mpr (by simpa using h)
    rw [← congrArg (map Commit.entry) hall]
    exact others_perm cs
  · have hlength := length_categorize_breaking cs
    rw [h, length_map, Nat.left_eq_add, countP_eq_zero] at hlength
    simpa using hlength
  · rw [suggestedBump_eq_major_iff, categorize_breaking, ne_eq, flatMap_eq_nil_iff]
    simp only [append_eq_nil_iff, ite_eq_right_iff, cons_ne_nil, imp_false, not_forall, not_and_or,
      not_not, exists_prop]

/-- A commit that is no breaking change, but has that word in the place of the type. -/
def misnamedCommit : Commit := ⟨"a1b2c3d", "Breaking: drop x", ""⟩

/-- A type that is named like the breaking changes is counted among them. -/
theorem misnamedCommit_not_once :
    misnamedCommit.Misnamed ∧ ¬ misnamedCommit.Marked ∧ ¬ (others [misnamedCommit]).Perm
      [misnamedCommit.entry] ∧
      categorize [misnamedCommit] .breaking = [misnamedCommit.entry] ∧
        suggestedBump (categorize [misnamedCommit]) = "major" := by
  have hnamed : misnamedCommit.Misnamed := by decide
  have hmarked : ¬ misnamedCommit.Marked := by decide
  obtain ⟨-, hbreaking, hothers, -, hbump⟩ := categorized_once_iff [misnamedCommit]
  refine ⟨hnamed, hmarked, fun h => hothers.mp h misnamedCommit (by simp) hnamed, ?_,
    hbump.mpr ⟨_, by simp, .inr hnamed⟩⟩
  simpa [hnamed, hmarked] using hbreaking

end Release

end Workbench
