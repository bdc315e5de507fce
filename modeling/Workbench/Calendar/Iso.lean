import Workbench.Text.Quoted
import Workbench.Calendar.Basic

/-!
# Reading dates and times in the formats of ISO 8601

A date is written `YYYY-MM-DD`, `YYYYMMDD`, or by week as `YYYY-Www-D` with its shorter forms.
-/

namespace Workbench.Calendar

open Text

/-- Why a text is no date. -/
inductive IsoError where
  | malformed
  | yearRange (year : Nat)
  | monthRange
  | dayRange
  | hourRange
  | minuteRange
  | secondRange
  | offsetRange (offset : Int)
deriving DecidableEq, Repr

def digits? : (n acc : Nat) → Chars → Option (Nat × Chars)
  | 0, acc, s => some (acc, s)
  | n + 1, acc, c :: s => if isAsciiDigit c then digits? n (10 * acc + (c.toNat - 48)) s else none
  | _ + 1, _, [] => none

def weekOne (year : Nat) : Nat :=
  let first := daysBeforeYear year + 1
  let weekday := (first + 6) % 7
  let monday := first - weekday
  if weekday > 3 then monday + 7 else monday

def ofWeek? (year week day : Nat) : Option Date :=
  let first := (daysBeforeYear year + 1) % 7
  let long := first == 4 || (first == 3 && isLeap year)
  let weekOk := (0 < week && week < 53) || (week == 53 && long)
  if 1 ≤ year && year ≤ 9999 && weekOk && 0 < day && day < 8 then
    some (Date.ofDayNumber (weekOne year + (week - 1) * 7 + (day - 1)))
  else none

def dateLength (s : Chars) : Option Nat :=
  let at? (i : Nat) : Option Char := (s.drop i).head?
  let digitAt (i : Nat) : Bool := (at? i).any isAsciiDigit
  if s.length == 7 then some 7
  else if at? 4 == some '-' then
    if at? 5 == some 'W' then
      if at? 8 == some '-' then
        if s.length == 9 then none
        else if digitAt 10 then some 8 else some 10
      else some 8
    else some 10
  else if at? 4 == some 'W' then
    let run := ((s.drop 7).takeWhile isAsciiDigit).length
    let idx := 7 + run
    if idx < 9 then some idx else if idx % 2 == 0 then some 7 else some 8
  else some 8

def readDate? (s : Chars) : Option Date := do
  let (year, s) ← digits? 4 0 s
  let sep := s.head? == some '-'
  let s := if sep then s.drop 1 else s
  match s with
  | 'W' :: s =>
    let (week, s) ← digits? 2 0 s
    if s.isEmpty then ofWeek? year week 1
    else if (s.head? == some '-') != sep then none
    else
      let (day, s) ← digits? 1 0 (if sep then s.drop 1 else s)
      if s.isEmpty then ofWeek? year week day else none
  | _ =>
    let (month, s) ← digits? 2 0 s
    if sep && s.head? != some '-' then none
    else
      let (day, s) ← digits? 2 0 (if sep then s.drop 1 else s)
      if s.isEmpty then some ⟨year, month, day⟩ else none

def readFraction? (s : Chars) : Option Nat :=
  let n := min s.length 6
  if 0 < n && s.all isAsciiDigit then (digits? n 0 s).map fun (v, _) => v * Nat.pow 10 (6 - n)
  else none

/-- Reads the minutes and seconds of a time of day, with colons if `sep`, and a fraction. -/
def readClockTail? (sep : Bool) : (more : Nat) → Chars → Option (List Nat × Nat)
  | _, [] => some ([], 0)
  | 0, c :: s =>
    if c == '.' || c == ',' then (readFraction? s).map ([], ·)
    else if sep then none
    else (readFraction? (c :: s)).map ([], ·)
  | more + 1, c :: s =>
    if c == '.' || c == ',' then (readFraction? s).map ([], ·)
    else if sep && c != ':' then none
    else do
      let (v, rest) ← digits? 2 0 (if sep then s else c :: s)
      let (vs, f) ← readClockTail? sep more rest
      some (v :: vs, f)

def readClock? (s : Chars) : Option (Nat × Nat × Nat × Nat) := do
  let (hour, rest) ← digits? 2 0 s
  let (vs, f) ← readClockTail? (rest.head? == some ':') 2 rest
  match vs with
  | [] => some (hour, 0, 0, f)
  | [m] => some (hour, m, 0, f)
  | m :: sec :: _ => some (hour, m, sec, f)

def readOffset? : Chars → Option Int
  | ['Z'] => some 0
  | c :: s =>
    if c == '+' || c == '-' then
      (readClock? s).map fun (h, m, sec, f) =>
        let us : Int := ((h * 3600 + m * 60 + sec) * 1000000 + f : Nat)
        if c == '-' then -us else us
    else none
  | [] => none

def startsOffset (c : Char) : Bool := c == '+' || c == '-' || c == 'Z'

def DateTime.check (t : DateTime) : Except IsoError DateTime :=
  if 86400000000 ≤ (t.offset.getD 0).natAbs then .error (.offsetRange (t.offset.getD 0))
  else if t.date.year < 1 || 9999 < t.date.year then .error (.yearRange t.date.year)
  else if t.date.month < 1 || 12 < t.date.month then .error .monthRange
  else if t.date.day < 1 || daysInMonth t.date.year t.date.month < t.date.day then .error .dayRange
  else if 23 < t.hour then .error .hourRange
  else if 59 < t.minute then .error .minuteRange
  else if 59 < t.second then .error .secondRange
  else .ok t

def DateTime.ofIso (text : String) : Except IsoError DateTime :=
  let s := text.toList
  if s.length < 7 then .error .malformed
  else
    match dateLength s with
    | none => .error .malformed
    | some n =>
      match readDate? (s.take n) with
      | none => .error .malformed
      | some date =>
        match s.drop (n + 1) with
        | [] => { date := date : DateTime }.check
        | time =>
          let (clock, off) := time.span fun c => !startsOffset c
          match readClock? clock,
            (if off.isEmpty then some none else (readOffset? off).map some) with
          | some (h, m, sec, f), some o =>
            { date := date, hour := h, minute := m, second := sec, micro := f,
              offset := o : DateTime }.check
          | _, _ => .error .malformed

def spanText (micros : Int) : String :=
  let days := Int.fdiv micros 86400000000
  let rest := Int.fmod micros 86400000000
  let parts :=
    [("days", days), ("seconds", rest / 1000000), ("microseconds", rest % 1000000)].filter
      (·.2 != 0)
  "datetime.timedelta(" ++ (if parts.isEmpty then "0"
    else join ", " (parts.map fun (k, n) => s!"{k}={n}")) ++ ")"

def IsoError.message (text : String) : IsoError → String
  | .malformed => s!"Invalid isoformat string: {quoted text}"
  | .yearRange year => s!"year {year} is out of range"
  | .monthRange => "month must be in 1..12"
  | .dayRange => "day is out of range for month"
  | .hourRange => "hour must be in 0..23"
  | .minuteRange => "minute must be in 0..59"
  | .secondRange => "second must be in 0..59"
  | .offsetRange offset =>
    "offset must be a timedelta strictly between -timedelta(hours=24) and timedelta(hours=24), not "
      ++ s!"{spanText offset}."

end Workbench.Calendar
