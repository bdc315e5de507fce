/-!
# Days and times

The proleptic Gregorian calendar, years 1 to 9999, with times of day to the microsecond and an
optional offset from universal time.
-/

namespace Workbench.Calendar

/-- A day of the calendar. -/
structure Date where
  year : Nat
  month : Nat
  day : Nat
deriving DecidableEq, Repr, Inhabited

/-- A date with a time of day.  `offset` is the distance from universal time in microseconds; a time
without one is local. -/
structure DateTime where
  date : Date
  hour : Nat := 0
  minute : Nat := 0
  second : Nat := 0
  micro : Nat := 0
  offset : Option Int := none
deriving DecidableEq, Repr, Inhabited

def isLeap (year : Nat) : Bool := year % 4 == 0 && (year % 100 != 0 || year % 400 == 0)

def daysInMonth (year month : Nat) : Nat :=
  if month == 2 then (if isLeap year then 29 else 28)
  else if month == 4 || month == 6 || month == 9 || month == 11 then 30 else 31

def daysBeforeYear (year : Nat) : Nat :=
  let y := year - 1
  y * 365 + y / 4 - y / 100 + y / 400

def daysBeforeMonth (year : Nat) : Nat → Nat
  | 0 => 0
  | 1 => 0
  | m + 1 => daysBeforeMonth year m + daysInMonth year m

def Date.Valid (d : Date) : Prop :=
  1 ≤ d.year ∧ d.year ≤ 9999 ∧ 1 ≤ d.month ∧ d.month ≤ 12 ∧ 1 ≤ d.day ∧
    d.day ≤ daysInMonth d.year d.month

instance (d : Date) : Decidable d.Valid := by unfold Date.Valid; infer_instance

/-- The number of a day, from the first of year 1. -/
def Date.dayNumber (d : Date) : Nat :=
  daysBeforeYear d.year + daysBeforeMonth d.year d.month + d.day

def monthDay (year : Nat) : (fuel month n : Nat) → Nat × Nat
  | 0, month, n => (month, n + 1)
  | fuel + 1, month, n =>
    let len := daysInMonth year month
    if n < len then (month, n + 1) else monthDay year fuel (month + 1) (n - len)

def Date.ofDayNumber (n : Nat) : Date :=
  let n := n - 1
  let n400 := n / 146097
  let n := n % 146097
  let n100 := n / 36524
  let n := n % 36524
  let n4 := n / 1461
  let n := n % 1461
  let n1 := n / 365
  let n := n % 365
  let year := n400 * 400 + n100 * 100 + n4 * 4 + n1 + 1
  if n1 == 4 || n100 == 4 then ⟨year - 1, 12, 31⟩
  else
    let (month, day) := monthDay year 11 1 n
    ⟨year, month, day⟩

def maxDayNumber : Nat := 3652059

def Date.weekday (d : Date) : Nat := (d.dayNumber + 6) % 7

def DateTime.wall (t : DateTime) : Int :=
  ((Int.ofNat t.date.dayNumber * 86400 +
    (t.hour * 3600 + t.minute * 60 + t.second : Nat)) * 1000000)
    + t.micro

def DateTime.instant (t : DateTime) : Int := t.wall - t.offset.getD 0

def DateTime.ofWall (n : Int) (offset : Option Int) : DateTime :=
  let micros := 86400000000
  let day := (n / micros).toNat
  let rest := (n % micros).toNat
  { date := Date.ofDayNumber day
    hour := rest / 3600000000
    minute := rest / 60000000 % 60
    second := rest / 1000000 % 60
    micro := rest % 1000000
    offset := offset }

def DateTime.addDays? (t : DateTime) (days : Int) : Option DateTime :=
  let n := Int.ofNat t.date.dayNumber + days
  if 1 ≤ n && n ≤ maxDayNumber then some { t with date := Date.ofDayNumber n.toNat } else none

/-! ### Writing -/

def padded (width n : Nat) : String :=
  let ds := Nat.toDigits 10 n
  .ofList (List.replicate (width - ds.length) '0' ++ ds)

def Date.iso (d : Date) : String :=
  padded 4 d.year ++ "-" ++ padded 2 d.month ++ "-" ++ padded 2 d.day

def Date.plain (d : Date) : String :=
  toString d.year ++ "-" ++ padded 2 d.month ++ "-" ++ padded 2 d.day

def Date.yearMonth (d : Date) : String := toString d.year ++ "-" ++ padded 2 d.month

def offsetText (o : Int) : String :=
  let a := o.natAbs
  let secs := a / 1000000
  (if o < 0 then "-" else "+") ++ padded 2 (secs / 3600) ++ ":" ++ padded 2 (secs / 60 % 60)
    ++ (if secs % 60 == 0 && a % 1000000 == 0 then "" else ":" ++ padded 2 (secs % 60))
    ++ (if a % 1000000 == 0 then "" else "." ++ padded 6 (a % 1000000))

def DateTime.isoWith (sep : String) (t : DateTime) : String :=
  t.date.iso ++ sep ++ padded 2 t.hour ++ ":" ++ padded 2 t.minute ++ ":" ++ padded 2 t.second
    ++ (if t.micro == 0 then "" else "." ++ padded 6 t.micro)
    ++ (match t.offset with
      | some o => offsetText o
      | none => "")

def DateTime.iso (t : DateTime) : String := t.isoWith "T"

def monthNames : List String :=
  ["January", "February", "March", "April", "May", "June", "July", "August", "September", "October",
   "November", "December"]

end Workbench.Calendar
