/-
The proleptic Gregorian calendar on day numbers.

Day 0 is 1 January of year 1, a Monday, and the calendar ends with year 9999.

* `Date.dayNumber` — the number of a day given by year, month and day;
* `Date.ofDayNumber` — its inverse on the days of the calendar;
* `weekdayName` — the English name of a day's place in the week.

Design notes: years are cut into cycles of 400, 100, 4 and 1 years, whose
lengths in days are constants, so `yearOfDay` is plain division; a month is
found by walking the list of month lengths.  Both directions therefore reduce
to arithmetic on small constants.
-/

namespace Meetings

/-- A day of the calendar by year, month (from 1) and day of the month (from 1). -/
structure Date where
  year : Nat
  month : Nat
  day : Nat
deriving DecidableEq, Repr, Inhabited

/-- The number of days from the start of year 1 to the end of year 9999. -/
def calendarDays : Nat := 3652059

/-- A year is leap when 4 divides it, unless 100 does and 400 does not. -/
def isLeap (year : Nat) : Bool :=
  year % 4 == 0 && (year % 100 != 0 || year % 400 == 0)

/-- The lengths of the twelve months. -/
def monthLengths (leap : Bool) : List Nat :=
  [31, if leap then 29 else 28, 31, 30, 31, 30, 31, 31, 30, 31, 30, 31]

/-- The length of a month, and 0 for a month that does not exist. -/
def monthLength (year month : Nat) : Nat :=
  if month = 0 then 0 else (monthLengths (isLeap year)).getD (month - 1) 0

/-- The length of a year in days. -/
def yearLength (year : Nat) : Nat := if isLeap year then 366 else 365

/-- The number of the first day of a year. -/
def daysBeforeYear (year : Nat) : Nat :=
  let past := year - 1
  365 * past + past / 4 - past / 100 + past / 400

/-- The number of days of a year that precede a month. -/
def daysBeforeMonth (year month : Nat) : Nat :=
  ((monthLengths (isLeap year)).take (month - 1)).foldl (· + ·) 0

/-- The year that holds a day. -/
def yearOfDay (n : Nat) : Nat :=
  let cycles := n / 146097
  let inCycle := n % 146097
  -- The fourth century of a cycle is a day longer, and so is the fourth year
  -- below; their last days must not open a fifth.
  let centuries := min 3 (inCycle / 36524)
  let inCentury := inCycle - centuries * 36524
  let leaps := inCentury / 1461
  let inLeap := inCentury % 1461
  let singles := min 3 (inLeap / 365)
  400 * cycles + 100 * centuries + 4 * leaps + singles + 1

/-- Walks months of the given lengths, `month` being the first of them, until
the month that holds the day with the given number is reached. -/
def walkMonths : List Nat → Nat → Nat → Nat × Nat
  | [], month, n => (month, n + 1)
  | length :: rest, month, n =>
    if n < length then (month, n + 1) else walkMonths rest (month + 1) (n - length)

namespace Date

/-- The parts name a day of the calendar. -/
def Valid (d : Date) : Prop :=
  1 ≤ d.year ∧ d.year ≤ 9999 ∧ 1 ≤ d.month ∧ d.month ≤ 12 ∧
    1 ≤ d.day ∧ d.day ≤ monthLength d.year d.month

instance (d : Date) : Decidable d.Valid := by unfold Valid; infer_instance

/-- The number of a day. -/
def dayNumber (d : Date) : Nat :=
  daysBeforeYear d.year + daysBeforeMonth d.year d.month + d.day - 1

/-- The day with a given number. -/
def ofDayNumber (n : Nat) : Date :=
  let year := yearOfDay n
  let (month, day) := walkMonths (monthLengths (isLeap year)) 1 (n - daysBeforeYear year)
  ⟨year, month, day⟩

end Date

/-- The English names of the days of the week, from Monday. -/
def weekdayNames : List String :=
  ["Monday", "Tuesday", "Wednesday", "Thursday", "Friday", "Saturday", "Sunday"]

/-- The name of the weekday of a day number. -/
def weekdayName (n : Nat) : String := weekdayNames.getD (n % 7) ""

end Meetings
