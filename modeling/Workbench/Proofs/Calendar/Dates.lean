import Mathlib.Algebra.Ring.Nat
import Mathlib.Tactic.Common
import Workbench.Calendar.Basic

/-!
# Dates as they are written

A date is written as numbers with hyphens between them, and a number as digits.  Days are counted
one by one (`dayNumber_ofDayNumber`).
-/

namespace Workbench.Calendar

open List String Nat Int

lemma isDigit_of_mem_padded {width k : Nat} {c : Char} (hc : c ∈ (padded width k).toList) :
    c.isDigit = true := by
  rw [padded, toList_ofList] at hc
  rcases mem_append.mp hc with hc | hc
  · rw [eq_of_mem_replicate hc]
    rfl
  · exact isDigit_of_mem_toDigits (by decide) (by decide) hc

lemma toString_eq_padded (k : Nat) : toString k = padded 0 k := by
  rw [padded, Nat.zero_sub]
  rfl

lemma toList_yearMonth (d : Date) :
    d.yearMonth.toList = (padded 0 d.year).toList ++ '-' :: (padded 2 d.month).toList := by
  rw [Date.yearMonth, toString_eq_padded]
  simp

lemma toList_plain (d : Date) :
    d.plain.toList = d.yearMonth.toList ++ '-' :: (padded 2 d.day).toList := by
  rw [Date.plain, Date.yearMonth]
  simp

lemma notMem_plain {c : Char} (hdigit : c.isDigit = false) (hdash : c ≠ '-') (d : Date) :
    c ∉ d.yearMonth.toList ∧ c ∉ d.plain.toList := by
  have hnumber : ∀ width k, c ∉ (padded width k).toList := by
    intro width k hmem
    rw [isDigit_of_mem_padded hmem] at hdigit
    cases hdigit
  rw [toList_plain, toList_yearMonth]
  simp [hnumber, hdash]

/-! ### Dates that are read -/

lemma length_padded {width k n : Nat} (hwidth : width ≤ n)
    (hlow : 10 ^ (n - 1) ≤ k ∨ n = width) (hn : 1 < n) (hhigh : k < 10 ^ n) :
    (padded width k).toList.length = n := by
  have hmost : (Nat.toDigits 10 k).length ≤ n :=
    (length_toDigits_le_iff (by decide) (by omega)).mpr hhigh
  rw [padded, String.toList_ofList, List.length_append, List.length_replicate]
  rcases hlow with hlow | rfl
  · have hleast : ¬ (Nat.toDigits 10 k).length ≤ n - 1 := by
      rw [length_toDigits_le_iff (by decide) (by omega)]
      omega
    omega
  · omega

/-! ### Days by number -/

lemma monthDay_valid {year : Nat} (fuel m n : Nat)
    (hn : daysBeforeMonth year (m + 1) + n < daysBeforeMonth year (m + fuel + 2)) :
    1 ≤ (monthDay year fuel (m + 1) n).1 ∧ (monthDay year fuel (m + 1) n).1 ≤ m + 1 + fuel ∧
      1 ≤ (monthDay year fuel (m + 1) n).2 ∧
      (monthDay year fuel (m + 1) n).2 ≤ daysInMonth year (monthDay year fuel (m + 1) n).1 := by
  induction fuel generalizing m n with
  | zero =>
    simp only [daysBeforeMonth, monthDay, Nat.add_zero] at hn ⊢
    omega
  | succ fuel ih =>
    rw [monthDay]
    split_ifs with hlen
    · simp only
      omega
    · have hmore := ih (m + 1) (n - daysInMonth year (m + 1)) (by
        rw [show m + 1 + fuel + 2 = m + (fuel + 1) + 2 by omega]
        simp only [daysBeforeMonth] at hn ⊢
        omega)
      omega

/-- The dates of day numbers are dates of the calendar, and those after the first 999 years have
years of four digits. -/
theorem valid_ofDayNumber {n : Nat} (hfirst : 1 ≤ n) (hlast : n ≤ maxDayNumber) :
    (Date.ofDayNumber n).Valid ∧ (daysBeforeYear 1000 < n → 1000 ≤ (Date.ofDayNumber n).year) := by
  have hlength : ∀ year k, k < 365 →
      daysBeforeMonth year (0 + 1) + k < daysBeforeMonth year (0 + 11 + 2) := by
    intro year k hk
    rw [show daysBeforeMonth year (0 + 1) = 0 from rfl, Nat.zero_add]
    refine Nat.lt_of_lt_of_le hk ?_
    simp only [daysBeforeMonth, daysInMonth]
    cases isLeap year <;> decide
  rw [maxDayNumber] at hlast
  rw [show daysBeforeYear 1000 = 364877 by decide]
  simp only [Date.ofDayNumber, Date.Valid]
  split_ifs with hend
  · simp only [Bool.or_eq_true, beq_iff_eq] at hend
    simp only [daysInMonth]
    exact ⟨⟨by omega, by omega, by decide, by decide, by decide, Nat.le_refl 31⟩, by omega⟩
  · simp only [Bool.or_eq_true, beq_iff_eq, not_or] at hend
    have hmonth := fun year =>
      monthDay_valid 11 0 _ (hlength year _ (mod_lt ((n - 1) % 146097 % 36524 % 1461) (by decide)))
    refine ⟨⟨?_, ?_, hmonth _⟩, ?_⟩ <;> dsimp only <;> omega

lemma daysBeforeMonth_monthDay (year fuel m n : Nat) :
    daysBeforeMonth year (monthDay year fuel (m + 1) n).1 + (monthDay year fuel (m + 1) n).2 =
      daysBeforeMonth year (m + 1) + n + 1 := by
  induction fuel generalizing m n with
  | zero => rfl
  | succ fuel ih =>
    rw [monthDay]
    split_ifs with hlen
    · rfl
    · have hmore := ih (m + 1) (n - daysInMonth year (m + 1))
      have hnext : daysBeforeMonth year (m + 1 + 1) = daysBeforeMonth year (m + 1) +
          daysInMonth year (m + 1) := rfl
      omega

/-- The days before a year, from its place among the 400, the 100 and the 4 years it belongs to. -/
lemma daysBeforeYear_blocks (a : Nat) {b c d : Nat} (hb : b ≤ 3) (hc : c ≤ 24) (hd : d ≤ 3) :
    daysBeforeYear (a * 400 + b * 100 + c * 4 + d + 1) = a * 146097 + b * 36524 +
      c * 1461 + d * 365 := by
  have hfour : (a * 400 + b * 100 + c * 4 + d) / 4 = a * 100 + b * 25 + c := by omega
  have hhundred : (a * 400 + b * 100 + c * 4 + d) / 100 = a * 4 + b := by omega
  have hwhole : (a * 400 + b * 100 + c * 4 + d) / 400 = a := by omega
  simp only [daysBeforeYear, Nat.add_sub_cancel, hfour, hhundred, hwhole]
  omega

lemma dayNumber_last {year : Nat} (hleap : isLeap year = true) :
    Date.dayNumber ⟨year, 12, 31⟩ = daysBeforeYear year + 366 := by
  have hmonths : daysBeforeMonth year 12 = 335 := by
    simp only [daysBeforeMonth, daysInMonth, hleap]
    decide
  simp only [Date.dayNumber, hmonths]

/-- Each day number is the number of its date. -/
theorem dayNumber_ofDayNumber {n : Nat} (hfirst : 1 ≤ n) : (Date.ofDayNumber n).dayNumber = n := by
  simp only [Date.ofDayNumber]
  generalize ha : (n - 1) / 146097 = a
  generalize hb : (n - 1) % 146097 / 36524 = b
  generalize hc : (n - 1) % 146097 % 36524 / 1461 = c
  generalize hd : (n - 1) % 146097 % 36524 % 1461 / 365 = d
  generalize he : (n - 1) % 146097 % 36524 % 1461 % 365 = e
  split_ifs with hend
  · -- the last day of a leap year, which the division counts to the year after it
    simp only [Bool.or_eq_true, beq_iff_eq] at hend
    obtain ⟨b', c', hyear, hb', hc', hlast⟩ : ∃ b' c', a * 400 + b * 100 + c * 4 + d + 1 - 1 =
        a * 400 + b' * 100 + c' * 4 + 3 + 1 ∧ b' ≤ 3 ∧ c' ≤ 24 ∧ (c' = 24 → b' = 3) := by
      rcases hend with hend | hend
      · exact ⟨b, c, by omega, by omega, by omega, by omega⟩
      · exact ⟨3, 24, by omega, by omega, by omega, by omega⟩
    have hleap : isLeap (a * 400 + b' * 100 + c' * 4 + 3 + 1) = true := by
      simp only [isLeap, Bool.and_eq_true, Bool.or_eq_true, beq_iff_eq, bne_iff_ne]
      omega
    rw [hyear, dayNumber_last hleap, daysBeforeYear_blocks a hb' hc' (Nat.le_refl 3)]
    omega
  · simp only [Bool.or_eq_true, beq_iff_eq, not_or] at hend
    have hmonth := daysBeforeMonth_monthDay (a * 400 + b * 100 + c * 4 + d + 1) 11 0 e
    rw [show ∀ year, daysBeforeMonth year (0 + 1) = 0 from fun _ => rfl, Nat.zero_add,
      Nat.zero_add] at hmonth
    rw [Date.dayNumber, Nat.add_assoc, hmonth,
      daysBeforeYear_blocks a (by omega) (by omega) (by omega)]
    omega

lemma dayNumber_addDays {t t' : DateTime} {days : Int} (h : t.addDays? days = some t') :
    (t'.date.dayNumber : Int) = t.date.dayNumber + days := by
  rw [DateTime.addDays?] at h
  split_ifs at h with hrange
  simp only [Bool.and_eq_true, decide_eq_true_eq, ofNat_eq_natCast] at hrange
  obtain rfl := Option.some.inj h
  show ((Date.ofDayNumber (Int.ofNat t.date.dayNumber + days).toNat).dayNumber : Int) = _
  rw [dayNumber_ofDayNumber (by rw [ofNat_eq_natCast]; omega), ofNat_eq_natCast]
  omega

/-! ### The years of four digits -/

lemma daysBeforeMonth_le (year m k : Nat) :
    daysBeforeMonth year (m + 1) ≤ daysBeforeMonth year (m + k + 1) := by
  induction k with
  | zero => exact Nat.le_refl _
  | succ k ih => exact Nat.le_trans ih (Nat.le_add_right _ _)

lemma daysBeforeMonth_add_day_le {d : Date} (hd : d.Valid) :
    daysBeforeMonth d.year d.month + d.day ≤ if isLeap d.year then 366 else 365 := by
  obtain ⟨-, -, hfirst, hlast, -, hday⟩ := hd
  have hyear : daysBeforeMonth d.year 13 = if isLeap d.year then 366 else 365 := by
    simp only [daysBeforeMonth, daysInMonth]
    cases isLeap d.year <;> rfl
  obtain ⟨m, hm⟩ : ∃ m, d.month = m + 1 := ⟨d.month - 1, by omega⟩
  have hnext : daysBeforeMonth d.year (m + 1 + 1) = daysBeforeMonth d.year (m + 1) +
      daysInMonth d.year (m + 1) := rfl
  have hmost := daysBeforeMonth_le d.year (m + 1) (11 - m)
  rw [show m + 1 + (11 - m) + 1 = 13 by omega, hyear] at hmost
  rw [hm] at hday ⊢
  omega

/-- The days of the calendar are counted from one, and the years of four digits begin with the day
364878. -/
theorem dayNumber_bounds {d : Date} (hd : d.Valid) : 1 ≤ d.dayNumber ∧ d.dayNumber ≤ maxDayNumber ∧
    (daysBeforeYear 1000 < d.dayNumber ↔ 1000 ≤ d.year) := by
  have hmost := daysBeforeMonth_add_day_le hd
  obtain ⟨hfirst, hlast, -, -, hday, -⟩ := hd
  have hthousand : daysBeforeYear 1000 = 364877 := by decide
  have hlonger : (if isLeap d.year then 366 else 365) ≤ 366 := by split_ifs <;> omega
  rw [hthousand, Date.dayNumber, maxDayNumber]
  refine ⟨by omega, ?_, ?_⟩
  · rcases Nat.eq_or_lt_of_le hlast with hyear | hyear
    · rw [hyear] at hmost ⊢
      have hcommon : isLeap 9999 = false := by decide
      rw [hcommon] at hmost
      have : daysBeforeYear 9999 = 3651694 := by decide
      simp only [Bool.false_eq_true, if_false] at hmost
      omega
    · simp only [daysBeforeYear]
      omega
  · rcases Nat.lt_trichotomy d.year 999 with hyear | hyear | hyear
    · simp only [daysBeforeYear]
      omega
    · rw [hyear] at hmost ⊢
      have hcommon : isLeap 999 = false := by decide
      rw [hcommon] at hmost
      have : daysBeforeYear 999 = 364512 := by decide
      simp only [Bool.false_eq_true, if_false] at hmost
      omega
    · rcases Nat.eq_or_lt_of_le hyear with hyear | hyear
      · rw [← hyear, show daysBeforeYear (998 + 1 + 1) = 364877 by decide]
        omega
      · simp only [daysBeforeYear]
        omega

lemma plain_eq_iso {d : Date} (hyear : 1000 ≤ d.year) : d.plain = d.iso := by
  have hleast : ¬ (Nat.toDigits 10 d.year).length ≤ 3 := by
    rw [Nat.length_toDigits_le_iff (by decide) (by decide)]
    omega
  have hpadded : toString d.year = padded 4 d.year := by
    rw [toString_eq_padded, padded, padded, show 4 - (Nat.toDigits 10 d.year).length =
      0 by omega, Nat.zero_sub]
  rw [Date.plain, Date.iso, hpadded]

lemma length_month_and_day {d : Date} (hd : d.Valid) :
    (padded 2 d.month).toList.length = 2 ∧ (padded 2 d.day).toList.length = 2 := by
  obtain ⟨-, -, -, hmonth, -, hday⟩ := hd
  have hlast : daysInMonth d.year d.month ≤ 31 := by
    rw [daysInMonth]
    split_ifs <;> decide
  exact ⟨length_padded (by decide) (.inr rfl) (by decide) (by omega),
    length_padded (by decide) (.inr rfl) (by decide) (by omega)⟩

lemma length_iso {d : Date} (hd : d.Valid) : d.iso.toList.length = 10 := by
  obtain ⟨hmonth, hday⟩ := length_month_and_day hd
  have hyear : (padded 4 d.year).toList.length = 4 :=
    length_padded (by decide) (.inr rfl) (by decide) (Nat.lt_of_le_of_lt hd.2.1 (by decide))
  rw [Date.iso]
  simp [hyear, hmonth, hday]

lemma length_plain_lt {d : Date} (hd : d.Valid) (hyear : d.year < 1000) :
    d.plain.toList.length < 10 := by
  obtain ⟨hmonth, hday⟩ := length_month_and_day hd
  have hmost : (Nat.toDigits 10 d.year).length ≤ 3 :=
    (Nat.length_toDigits_le_iff (by decide) (by decide)).mpr hyear
  have hdigits : (toString d.year).toList.length ≤ 3 := by
    rw [toString_eq_padded, padded, Nat.zero_sub]
    simpa using hmost
  rw [Date.plain]
  simp only [String.toList_append, List.length_append, hmonth, hday]
  have hdash : "-".toList.length = 1 := by decide
  omega

lemma valid_addDays {t t' : DateTime} {days : Int} (h : t.addDays? days = some t') :
    t'.date.Valid := by
  rw [DateTime.addDays?] at h
  split_ifs at h with hrange
  simp only [Bool.and_eq_true, decide_eq_true_eq, Int.ofNat_eq_natCast] at hrange
  obtain rfl := Option.some.inj h
  exact (valid_ofDayNumber (by rw [Int.ofNat_eq_natCast]; omega)
    (by rw [Int.ofNat_eq_natCast]; omega)).1

end Workbench.Calendar
