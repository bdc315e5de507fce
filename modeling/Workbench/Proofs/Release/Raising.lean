import Mathlib.Algebra.Order.Ring.Int
import Mathlib.Data.Prod.Lex
import Workbench.Proofs.Json.Numbers
import Workbench.Proofs.Release.Kinds
import Workbench.Release.Version

/-!
# Raising versions

A list of commits asks for the greatest raise that one of its commits asks for
(`suggestedBump_greatest`).  A raised version is read back as it is written and is greater than the
version before, however often versions are raised (`bumpText_increases`).
-/

open List

namespace Workbench.Release

open Text Value

/-! ### Groups of digits -/

/-- A group of digits. -/
def IsGroup (ds : Chars) : Prop := ds ≠ [] ∧ ∀ c ∈ ds, isDecimal c = true

/-- The text does not begin with a digit. -/
def Undigited (s : Chars) : Prop := ∀ c ∈ s.head?, isDecimal c = false

lemma undigited_dot (s : Chars) : Undigited ('.' :: s) := by
  simp only [Undigited, head?_cons, Option.mem_some_iff]
  rintro c rfl
  decide

lemma isGroup_of_numberText {n : Int} (hn : 0 ≤ n) {text : String}
    (h : Version.numberText n = .ok text) :
    IsGroup text.toList := by
  simp only [Version.numberText] at h
  split_ifs at h with _ hneg
  · omega
  · obtain rfl := Except.ok.inj h
    have hdigits : (toString n.natAbs).toList = Nat.toDigits 10 n.natAbs := by simp
    rw [hdigits]
    exact ⟨Nat.toDigits_ne_nil, Decimal.isDecimal_of_mem_toDigits _⟩

/-! ### What commits ask for -/

/-- How much a bump changes. -/
def Bump.rank : Bump → Nat
  | .patch => 0
  | .minor => 1
  | .major => 2

lemma Bump.rank_injective : Function.Injective Bump.rank := by
  intro a b h
  cases a <;> cases b <;> simp_all [rank]

instance : LinearOrder Bump := LinearOrder.lift' Bump.rank Bump.rank_injective

/-- What one commit asks for. -/
def Commit.asks (c : Commit) : Bump :=
  if c.Marked ∨ c.Misnamed then .major
  else if Kind.ofType c.parsed.type = .feat then .minor else .patch

/-- The greatest of what the commits ask for. -/
def asked (cs : List Commit) : Bump := (cs.map Commit.asks).foldr max .patch

/-- The bump that categories ask for. -/
def Categories.bump (c : Categories) : Bump :=
  match c .breaking, c .feat with
  | _ :: _, _ => .major
  | [], _ :: _ => .minor
  | [], [] => .patch

section Suggestion

variable {xs ys : List Commit} {c : Commit}

lemma suggestedBump_eq_name (c : Categories) : suggestedBump c = c.bump.name := by
  unfold suggestedBump bumpFor Categories.bump
  cases c .breaking <;> cases c .feat <;> rfl

lemma suggestedBumpOf_categoriesValue (c : Categories) :
    suggestedBumpOf (categoriesValue c) = .ok (suggestedBump c) := by
  have htruthy : ∀ es : List Entry, (Value.list (es.map Entry.value)).truthy = !es.isEmpty := by
    intro es
    cases es <;> rfl
  rw [suggestedBump, ← htruthy, ← htruthy]
  rfl

lemma categorize_append (xs ys : List Commit) (k : Kind) :
    categorize (xs ++ ys) k = categorize xs k ++ categorize ys k :=
  flatMap_append

/-- Entries that are added key by key suggest the greater of the two raises. -/
lemma Categories.bump_append (a b : Categories) :
    Categories.bump (fun k => a k ++ b k) = max a.bump b.bump := by
  unfold Categories.bump
  dsimp only
  cases a .breaking <;> cases b .breaking <;> cases a .feat <;> cases b .feat <;> rfl

lemma Commit.bump_entriesFor (c : Commit) : Categories.bump c.entriesFor = c.asks := by
  have hfeat : c.entriesFor .feat = if Kind.ofType c.parsed.type = .feat then [c.entry]
      else [] := by simp [entriesFor]
  unfold Categories.bump asks
  rw [c.entriesFor_breaking, hfeat]
  by_cases hmarked : c.Marked <;> by_cases hnamed : c.Misnamed
    <;> by_cases htype : Kind.ofType c.parsed.type = .feat <;>
    simp [hmarked, hnamed, htype]

lemma bump_categorize (cs : List Commit) : (categorize cs).bump = asked cs := by
  induction cs with
  | nil => rfl
  | cons c cs ih =>
    have hcons : categorize (c :: cs) = fun k => c.entriesFor k ++ categorize cs k := rfl
    rw [hcons, Categories.bump_append, c.bump_entriesFor, ih]
    rfl

lemma asked_append (xs ys : List Commit) : asked (xs ++ ys) = max (asked xs) (asked ys) := by
  rw [← bump_categorize, ← bump_categorize xs, ← bump_categorize ys, ← Categories.bump_append]
  exact congrArg Categories.bump (funext (categorize_append xs ys))

lemma asks_le_asked (h : c ∈ ys) : c.asks ≤ asked ys := by
  obtain ⟨before, after, rfl⟩ := append_of_mem h
  rw [asked_append]
  exact (le_max_left c.asks (asked after)).trans (le_max_right _ _)

lemma asked_mono (h : xs ⊆ ys) : asked xs ≤ asked ys := by
  induction xs with
  | nil => exact Nat.zero_le _
  | cons c xs ih =>
    obtain ⟨hc, hxs⟩ := cons_subset.mp h
    exact max_le (asks_le_asked hc) (ih hxs)

/-- The categories of commits are added up key by key, and the suggested raise is the greatest that
a commit asks for: that of all commits is the greater one of those of two parts, more commits never
suggest less, and their order does not matter. -/
theorem suggestedBump_greatest (xs ys : List Commit) :
    (∀ k, categorize (xs ++ ys) k = categorize xs k ++ categorize ys k) ∧
    suggestedBump (categorize xs) = (asked xs).name ∧
    suggestedBumpOf (categoriesValue (categorize xs)) = .ok (asked xs).name ∧
    suggestedBump (categorize (xs ++ ys)) = (max (asked xs) (asked ys)).name ∧
    (xs ⊆ ys → asked xs ≤ asked ys) ∧
    (xs.Perm ys → suggestedBump (categorize xs) = suggestedBump (categorize ys)) := by
  have hname : ∀ cs, suggestedBump (categorize cs) = (asked cs).name := fun cs => by
    rw [suggestedBump_eq_name, bump_categorize]
  refine ⟨categorize_append xs ys, hname xs, ?_, ?_, asked_mono, fun hperm => ?_⟩
  · rw [suggestedBumpOf_categoriesValue, hname]
  · rw [hname, asked_append]
  · rw [hname, hname, le_antisymm (asked_mono hperm.subset) (asked_mono hperm.symm.subset)]

def fixCommit : Commit := ⟨"a1b2c3d", "fix: keep the order", ""⟩

def featureCommit : Commit := ⟨"d4e5f6a", "feat(core): sort", ""⟩

/-- A feature asks for more than a fix, in any order. -/
theorem suggestedBump_fix_and_feature :
    asked [fixCommit] = .patch ∧ asked [featureCommit] = .minor ∧
    suggestedBump (categorize ([fixCommit] ++ [featureCommit])) = "minor" ∧
    suggestedBump (categorize [featureCommit, fixCommit]) = "minor" := by
  have hfix : asked [fixCommit] = .patch := by decide
  have hfeature : asked [featureCommit] = .minor := by decide
  obtain ⟨-, -, -, happend, -⟩ := suggestedBump_greatest [fixCommit] [featureCommit]
  obtain ⟨-, -, -, -, -, hperm⟩ :=
    suggestedBump_greatest [featureCommit, fixCommit] ([fixCommit] ++ [featureCommit])
  have hgreater : (max Bump.patch .minor).name = "minor" := by decide
  rw [hfix, hfeature, hgreater] at happend
  exact ⟨hfix, hfeature, happend, (hperm (.swap _ _ _)).trans happend⟩

end Suggestion

/-! ### Versions that are written and read -/

namespace Version

/-- Versions are ordered by their numbers. -/
def key (v : Version) : ℤ ×ₗ ℤ ×ₗ ℤ := toLex (v.major, toLex (v.minor, v.patch))

lemma key_injective : Function.Injective key := by
  intro u v h
  cases u
  cases v
  simpa [key] using h

end Version

instance : LinearOrder Version := LinearOrder.lift' Version.key Version.key_injective

namespace Version

variable {v : Version} {j k : Nat} {a b c rest : Chars}

lemma lt_bump (v : Version) (b : Bump) : v < v.bump b := by
  show v.key < (v.bump b).key
  cases b <;> simp [key, bump, Prod.Lex.toLex_lt_toLex]

/-- The numbers of a version have at most `k` digits. -/
def Within (k : Nat) (v : Version) : Prop := ∀ n ∈ [v.major, v.minor, v.patch], 0 ≤ n ∧ n < 10 ^ k

instance (k : Nat) (v : Version) : Decidable (v.Within k) :=
  inferInstanceAs (Decidable (∀ n ∈ _, _))

lemma Within.mono (h : v.Within j) (hjk : j ≤ k) : v.Within k := fun n hn =>
  ⟨(h n hn).1, (h n hn).2.trans_le (pow_le_pow_right₀ (by decide) hjk)⟩

lemma Within.bump (h : v.Within k) (b : Bump) : (v.bump b).Within (k + 1) := by
  have hstep : ∀ n : ℤ, 0 ≤ n ∧ n < 10 ^ k → 0 ≤ n + 1 ∧ n + 1 < 10 ^ (k + 1) := by
    rintro n ⟨hlow, hhigh⟩
    rw [pow_succ]
    omega
  have hzero : (0 : ℤ) ≤ 0 ∧ (0 : ℤ) < 10 ^ (k + 1) := ⟨le_rfl, pow_pos (by decide) _⟩
  have hsame := h.mono (Nat.le_succ k)
  simp only [Within, mem_cons, not_mem_nil, or_false, forall_eq_or_imp, forall_eq] at h hsame ⊢
  cases b with
  | major => exact ⟨hstep _ h.1, hzero, hzero⟩
  | minor => exact ⟨hsame.1, hstep _ h.2.1, hzero⟩
  | patch => exact ⟨hsame.1, hsame.2.1, hstep _ h.2.2⟩

lemma digits?_append (ha : IsGroup a) (hrest : Undigited rest) :
    digits? (a ++ rest) = some (a, rest) := by
  rw [digits?, takeWhile_run ha.2 hrest]
  simp [ha.1]

lemma groups?_append (ha : IsGroup a) (hb : IsGroup b) (hc : IsGroup c) (hrest : Undigited rest) :
    groups? (a ++ '.' :: (b ++ '.' :: (c ++ rest))) = some (a, b, c) := by
  have hletter : ¬ ((a ++ '.' :: (b ++ '.' :: (c ++ rest))).head? == some 'v') = true := by
    obtain ⟨d, ds, rfl⟩ := exists_cons_of_ne_nil ha.1
    have hd := ha.2 d (by simp)
    intro heq
    obtain rfl : d = 'v' := by simpa using heq
    exact absurd hd (by decide)
  simp only [groups?, if_neg hletter, digits?_append ha (undigited_dot _),
    digits?_append hb (undigited_dot _), digits?_append hc hrest, dropDot?, Option.bind_eq_bind,
    Option.bind_some]
  rfl

lemma numberText_nat {n : Nat} (h : (n : ℤ) < 10 ^ Decimal.digitLimit) :
    numberText n = .ok (toString n) ∧ number (toString n).toList = .ok n := by
  have hlength : (Nat.toDigits 10 n).length ≤ Decimal.digitLimit :=
    (Nat.length_toDigits_le_iff (by decide) (by decide)).mpr (by exact_mod_cast h)
  have htext : (toString n).toList = Nat.toDigits 10 n := by simp
  have hdigits := Json.numeral_toDigits n
  constructor
  · have hshort : ¬ Decimal.digitLimit < (toString n).length := by
      rw [← String.length_toList, htext]
      omega
    simp only [numberText, Int.natAbs_natCast, if_neg hshort]
    rw [if_neg (by omega)]
  · rw [htext, number, Decimal.readNat_of_digits hdigits.digits hdigits.ne_nil hlength,
      Json.natOf_toDigits]

/-- A version that is not too long is read as it is written. -/
theorem parse_format (h : v.Within Decimal.digitLimit) :
    ∃ text, v.format = .ok text ∧ parse text = .ok v := by
  obtain ⟨a, b, c⟩ := v
  simp only [Within, mem_cons, not_mem_nil, or_false, forall_eq_or_imp, forall_eq] at h
  lift a to ℕ using h.1.1
  lift b to ℕ using h.2.1.1
  lift c to ℕ using h.2.2.1
  obtain ⟨hmajor, ha⟩ := numberText_nat h.1.2
  obtain ⟨hminor, hb⟩ := numberText_nat h.2.1.2
  obtain ⟨hpatch, hc⟩ := numberText_nat h.2.2.2
  have hgroup : ∀ {n : ℕ}, numberText n = .ok (toString n) → IsGroup (toString n).toList :=
    fun hn =>
    isGroup_of_numberText (Int.natCast_nonneg _) hn
  have hend : Undigited [] := by simp [Undigited]
  have hread := groups?_append (hgroup hmajor) (hgroup hminor) (hgroup hpatch) hend
  refine ⟨toString a ++ "." ++ toString b ++ "." ++ toString c, ?_, ?_⟩
  · rw [format, hmajor, hminor, hpatch]
    rfl
  · have htext : (toString a ++ "." ++ toString b ++ "." ++ toString c).toList =
        (toString a).toList ++
          '.' :: ((toString b).toList ++ '.' :: ((toString c).toList ++ [])) := by simp
    rw [parse, htext, hread]
    simp only [ha, hb, hc]
    rfl

end Version

/-! ### Versions that are raised again and again -/

/-- The versions that are read when a text is raised time after time. -/
def trail (text : String) : List Bump → Result (List Version)
  | [] => do return [← Version.parse text]
  | b :: bs => do
    let v ← Version.parse text
    return v :: (← trail (← bumpText text b.name) bs)

section Trail

variable {text : String} {u v : Version} {k : Nat}

lemma exists_bumpText (hv : Version.parse text = .ok v) (hk : k < Decimal.digitLimit)
    (h : v.Within k) (b : Bump) :
    ∃ raised, bumpText text b.name = .ok raised ∧ Version.parse raised = .ok (v.bump b) := by
  obtain ⟨raised, hformat, hparse⟩ := Version.parse_format ((h.bump b).mono hk)
  refine ⟨raised, ?_, hparse⟩
  have hname : Bump.ofName? b.name = some b := by cases b <;> rfl
  rw [bumpText, hv, hname]
  exact hformat

lemma le_of_mem_scanl {bs : List Bump} (h : u ∈ bs.scanl Version.bump v) : v ≤ u := by
  induction bs generalizing v with
  | nil => exact (mem_singleton.mp h).ge
  | cons b bs ih =>
    rw [scanl_cons] at h
    rcases mem_cons.mp h with rfl | h
    · exact le_rfl
    · exact (Version.lt_bump v b).le.trans (ih h)

lemma pairwise_scanl (v : Version) (bs : List Bump) :
    (bs.scanl Version.bump v).Pairwise (· < ·) := by
  induction bs generalizing v with
  | nil => exact pairwise_singleton _ _
  | cons b bs ih =>
    rw [scanl_cons]
    exact pairwise_cons.mpr ⟨fun u hu => (Version.lt_bump v b).trans_le (le_of_mem_scanl hu), ih _⟩

lemma trail_eq (hv : Version.parse text = .ok v) (hk : k < Decimal.digitLimit) {bs : List Bump}
    (h : ∀ u ∈ bs.scanl Version.bump v, u.Within k) :
    trail text bs = .ok (bs.scanl Version.bump v) := by
  induction bs generalizing text v with
  | nil =>
    rw [trail, hv]
    rfl
  | cons b bs ih =>
    rw [scanl_cons] at h ⊢
    obtain ⟨hfirst, hrest⟩ := forall_mem_cons.mp h
    obtain ⟨raised, hraised, hparse⟩ := exists_bumpText hv hk hfirst b
    rw [trail, hv, hraised]
    simp only [bind, Except.bind, ih hparse hrest]
    rfl

/-- For numbers of at most `k` digits, where `k` is less than the most digits that are read: a
version is read as it is written; what is made of a text that can be read, by any raise, can be read
again, as the version with its numbers raised, which is greater; and along any sequence of raises
the versions that are read increase. -/
theorem bumpText_increases (hk : k < Decimal.digitLimit) :
    (∀ a b c : Nat, Version.Within k ⟨a, b, c⟩ →
      ∃ text, Version.format ⟨a, b, c⟩ = .ok text ∧ Version.parse text = .ok ⟨a, b, c⟩) ∧
    ∀ text v, Version.parse text = .ok v → v.Within k →
      (∀ b : Bump, ∃ raised, bumpText text b.name = .ok raised ∧
        Version.parse raised = .ok (v.bump b) ∧ v < v.bump b) ∧
      ∀ bs : List Bump, (∀ u ∈ bs.scanl Version.bump v, u.Within k) →
        trail text bs = .ok (bs.scanl Version.bump v) ∧
          (bs.scanl Version.bump v).Pairwise (· < ·) := by
  refine ⟨fun a b c h => Version.parse_format (h.mono hk.le), fun text v hv h =>
    ⟨fun b => ?_, fun bs hbs => ?_⟩⟩
  · obtain ⟨raised, hraised, hparse⟩ := exists_bumpText hv hk h b
    exact ⟨raised, hraised, hparse, v.lt_bump b⟩
  · exact ⟨trail_eq hv hk hbs, pairwise_scanl v bs⟩

/-- A letter, zeros in front, a digit of another script and a text behind the numbers. -/
theorem bumpText_increases_odd :
    trail "v007.٩.3-rc1" [.patch, .minor, .major] = .ok
      [⟨7, 9, 3⟩, ⟨7, 9, 4⟩, ⟨7, 10, 0⟩, ⟨8, 0, 0⟩] ∧
      [⟨7, 9, 3⟩, ⟨7, 9, 4⟩, ⟨7, 10, 0⟩, (⟨8, 0, 0⟩ : Version)].Pairwise (· < ·) := by
  have hread : Version.parse "v007.٩.3-rc1" = .ok ⟨7, 9, 3⟩ := by rfl
  have hversions : [Bump.patch, .minor, .major].scanl Version.bump ⟨7, 9, 3⟩ =
      [⟨7, 9, 3⟩, ⟨7, 9, 4⟩, ⟨7, 10, 0⟩, ⟨8, 0, 0⟩] := by decide
  have hshort : ∀ u ∈ [⟨7, 9, 3⟩, ⟨7, 9, 4⟩, ⟨7, 10, 0⟩, (⟨8, 0, 0⟩ : Version)], u.Within 2 := by
    decide
  have hwithin : Version.Within 4000 ⟨7, 9, 3⟩ := (hshort _ (by simp)).mono (by decide)
  rw [← hversions] at hshort ⊢
  exact ((bumpText_increases (by decide)).2 _ _ hread hwithin).2 _ fun u hu =>
    (hshort u hu).mono (by decide)

end Trail

end Workbench.Release
