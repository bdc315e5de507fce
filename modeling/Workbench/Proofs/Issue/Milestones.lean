import Mathlib.Data.Int.Order.Basic
import Workbench.Issue.Milestone
import Workbench.Proofs.Calendar.Dates
import Workbench.Proofs.World.Exec

/-!
# Due dates of milestones

A due date is read in one of three forms or as a distance in days; what comes of a text depends on
the day that it names (`dueDate_clean_iff`).
-/

namespace Workbench.Issue.Milestone

open List Tool Value Text Calendar Decimal

/-! ### Due dates -/

/-- The day that a text names, by its number, in one of the forms of dates or as a distance from
now. -/
def dayNamed? (now : DateTime) (text : String) : Option Int :=
  match dateForms.findSome? fun form => Date.read? form.1 form.2 text with
  | some d => some d.dayNumber
  | none => (wholeOf text).toOption.map (now.date.dayNumber + ·)

/-- What is said of a text that is no due date. -/
def complaint (text : String) : String := Color.paint Color.red ("Error: " ++
  (s!"Invalid date format: {text}. Use YYYY-MM-DD, days from now (e.g., 14), or "
    ++ "MM/DD/YYYY"))

/-- A due date is found, with a year of four digits, or the text is refused. -/
def Clean (text : String) (w : World) (run : Result String × World) : Prop :=
  (∃ d : Date, d.Valid ∧ run = (.ok (d.iso ++ "T00:00:00Z"), w)) ∨
    run = (.error (.exit 1), { w with err := w.err ++ complaint text ++ "\n" })

variable {w : World} {text : String}

lemma exec_dueDate_eq (text : String) (w : World) :
    (dueDate (.str text)).exec w = match dueDay? w.now text with
    | .ok (some d) => (.ok (startOf d), w)
    | .ok none => (.error (.exit 1), { w with err := w.err ++ complaint text ++ "\n" })
    | .error e => (.error e, w) := by
  have hday : (do return ← dueDay? (← now) text : Tool (Option Date)).exec w =
      (dueDay? w.now text, w) := by
    rw [exec_bind_ok (exec_now w), exec_lift]
  rw [dueDate]
  cases hdue : dueDay? w.now text with
  | error e =>
    rw [hdue] at hday
    exact exec_bind_error hday _
  | ok day =>
    rw [hdue] at hday
    refine (exec_bind_ok hday _).trans ?_
    cases day <;> rfl

lemma dueDay?_eq (now : DateTime) (text : String) :
    dueDay? now text = match dateForms.findSome? fun form => Date.read? form.1 form.2 text with
      | some d => .ok (some d)
      | none => match wholeOf text with
        | .ok days => (daysFrom now days).map fun t => some t.date
        | .error _ => .ok none := rfl

/-- A distance leads to a day of the calendar, or it is refused as too large. -/
lemma daysFrom_cases {now : DateTime} (hnow : now.date.Valid) (days : Int) :
    (∃ t, daysFrom now days = .ok t ∧ t.date.Valid ∧
      (t.date.dayNumber : Int) = now.date.dayNumber + days) ∨
    ∃ m, daysFrom now days = .error (.overflow m) ∧
      ¬ (1 ≤ now.date.dayNumber + days ∧ now.date.dayNumber + days ≤ maxDayNumber) := by
  have hlast := (dayNumber_bounds hnow).2.1
  rw [maxDayNumber] at hlast
  rw [daysFrom]
  split_ifs with hword hspan
  · refine .inr ⟨_, rfl, ?_⟩
    simp only [Bool.or_eq_true, decide_eq_true_eq] at hword
    rw [maxDayNumber]
    omega
  · refine .inr ⟨_, rfl, ?_⟩
    rw [maxSpan] at hspan
    rw [maxDayNumber]
    omega
  · cases hadd : now.addDays? days with
    | some t => exact .inl ⟨t, rfl, valid_addDays hadd, dayNumber_addDays hadd⟩
    | none =>
      refine .inr ⟨_, rfl, ?_⟩
      rw [DateTime.addDays?] at hadd
      split_ifs at hadd with hrange
      simpa using hrange

/-- What comes of a text by the day that it names. -/
theorem exec_dueDate (hnow : w.now.date.Valid) (text : String) :
    (dayNamed? w.now text = none ∧
      (dueDate (.str text)).exec w =
        (.error (.exit 1), { w with err := w.err ++ complaint text ++ "\n" })) ∨
    (∃ d : Date, d.Valid ∧ dayNamed? w.now text = some d.dayNumber ∧
      (dueDate (.str text)).exec w = (.ok (startOf d), w)) ∨
    ∃ n m, dayNamed? w.now text = some n ∧ ¬ (1 ≤ n ∧ n ≤ maxDayNumber) ∧
      (dueDate (.str text)).exec w = (.error (.overflow m), w) := by
  rw [exec_dueDate_eq, dueDay?_eq, dayNamed?]
  cases hform : dateForms.findSome? fun form => Date.read? form.1 form.2 text with
  | some d =>
    have hvalid : d.Valid := by
      obtain ⟨form, -, hread⟩ := List.exists_of_findSome?_eq_some hform
      obtain ⟨d', -, hd'⟩ := Option.bind_eq_some_iff.mp hread
      split_ifs at hd' with hd
      exact Option.some.inj hd' ▸ hd
    exact .inr (.inl ⟨d, hvalid, rfl, rfl⟩)
  | none =>
    cases hwhole : wholeOf text with
    | error e => exact .inl ⟨rfl, rfl⟩
    | ok days =>
      rcases daysFrom_cases hnow days with ⟨t, ht, hvalid, hnumber⟩ | ⟨m, hm, hrange⟩
      · exact .inr (.inl ⟨t.date, hvalid, congrArg some hnumber.symm, by dsimp only; rw [ht]; rfl⟩)
      · exact .inr (.inr ⟨_, m, rfl, hrange, by dsimp only; rw [hm]; rfl⟩)

lemma startOf_eq (d : Date) : startOf d = d.plain ++ "T00:00:00Z" := by
  simp [startOf, toString]

/-- A due date is found or refused in due form, unless the text names a day outside the years of
four digits: then the year is written with fewer digits, or the calendar overflows. -/
theorem dueDate_clean_iff (hnow : w.now.date.Valid) (text : String) :
    (Clean text w ((dueDate (.str text)).exec w) ↔
      ∀ n, dayNamed? w.now text = some n → daysBeforeYear 1000 < n ∧ n ≤ maxDayNumber) ∧
    (¬ Clean text w ((dueDate (.str text)).exec w) →
      (∃ d : Date, d.Valid ∧ d.year < 1000 ∧
        (dueDate (.str text)).exec w = (.ok (d.plain ++ "T00:00:00Z"), w)) ∨
      ∃ m, (dueDate (.str text)).exec w = (.error (.overflow m), w)) := by
  rcases exec_dueDate hnow text with
    ⟨hnone, hexec⟩ | ⟨d, hvalid, hsome, hexec⟩ | ⟨n, m, hsome, hrange, hexec⟩
  · have hclean : Clean text w ((dueDate (.str text)).exec w) := .inr hexec
    exact ⟨iff_of_true hclean (by simp [hnone]), fun h => absurd hclean h⟩
  · rw [startOf_eq] at hexec
    obtain ⟨-, hlast, hyear⟩ := dayNumber_bounds hvalid
    have hiff : Clean text w ((dueDate (.str text)).exec w) ↔ 1000 ≤ d.year := by
      rw [hexec]
      refine ⟨fun hclean => ?_, fun hfour => .inl ⟨d, hvalid, by rw [plain_eq_iso hfour]⟩⟩
      rcases hclean with ⟨d', hvalid', heq⟩ | heq
      · by_contra hshort
        have hsame : d.plain = d'.iso :=
          String.append_left_inj _ |>.mp (Except.ok.inj (Prod.mk.inj heq).1)
        have hlength := length_plain_lt hvalid (Nat.lt_of_not_le hshort)
        rw [hsame, length_iso hvalid'] at hlength
        exact Nat.lt_irrefl _ hlength
      · cases (Prod.mk.inj heq).1
    refine ⟨?_, fun hnot => .inl ⟨d, hvalid, Nat.lt_of_not_le (mt hiff.mpr hnot), hexec⟩⟩
    rw [hiff, ← hyear, hsome]
    simp [hlast]
  · refine ⟨iff_of_false ?_ fun h => ?_, fun _ => .inr ⟨m, hexec⟩⟩
    · rw [hexec]
      rintro (⟨d', -, heq⟩ | heq) <;> cases (Prod.mk.inj heq).1
    · obtain ⟨hfirst, hlast⟩ := h n hsome
      exact hrange ⟨by omega, hlast⟩

/-- A date of the first year loses three digits, and a distance of many days is not refused. -/
theorem dueDate_unclean :
    ¬ Clean "0001-01-01" {} ((dueDate (.str "0001-01-01")).exec {}) ∧
    ¬ Clean "99999999" {} ((dueDate (.str "99999999")).exec {}) := by
  have hnow : ({} : World).now.date.Valid := by decide
  have hfirst : dayNamed? ({} : World).now "0001-01-01" = some 1 := by decide +kernel
  have hfar : dayNamed? ({} : World).now "99999999" =
      some (({} : World).now.date.dayNumber + 99999999) := by
    decide +kernel
  constructor
  · rw [(dueDate_clean_iff hnow "0001-01-01").1]
    exact fun h => absurd (h 1 hfirst).1 (by decide)
  · rw [(dueDate_clean_iff hnow "99999999").1]
    exact fun h => absurd (h _ hfar).2 (by decide)

end Workbench.Issue.Milestone
