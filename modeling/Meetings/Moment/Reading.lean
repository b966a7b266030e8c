/-
Moments read from text.

* `readMoment` — reads a date, with or without a time and an offset, in one of
  the notations below; text without an offset is on the clock of UTC;
* `Reading` — what a text may turn out to be: a moment, a span of time, or a
  pair of moments;
* `ReadingFault` — why a text is none of these.

Notations: the calendar date `2024-06-15` or `20240615`, the month `2024-06`,
the year `2024`, the ordinal date `2024-167` or `2024167`, the week date
`2024-W24-6` or `2024W246`; then `T` or a space and a time, `09:30:00.5` after
a date with hyphens and `093000.5` after one without; then `Z`, `+02:00` or
`+0200`.  A looser notation `2024/06/15 9:30` is tried last.

Design notes: readers take a list of characters and return the rest of it, so
each notation is a composition of small readers.
-/
import Meetings.Moment
import Meetings.Text.DecimalDigit

namespace Meetings

open Meetings.Text

/-- Why a text is not read. -/
inductive ReadingFault where
  /-- No notation fits. -/
  | unreadable (text : String)
  /-- A loose time has no minutes. -/
  | missingMinute
  /-- A pair holds a date on one side and a time on the other. -/
  | mixedPair
  /-- A pair lacks a side. -/
  | emptySide
deriving DecidableEq, Repr

/-- What is said about a text that is not read. -/
def ReadingFault.message : ReadingFault → String
  | unreadable text => "Unable to parse string [" ++ text ++ "]"
  | missingMinute =>
    "int() argument must be a string, a bytes-like object or a real number, not 'NoneType'"
  | mixedPair => "Both start and end of an Interval must have the same type"
  | emptySide => "string index out of range"

/-- What a text may turn out to be. -/
inductive Reading where
  | moment (z : Zoned)
  | span
  | pair
deriving Repr

/-- A date with the time and offset that follow it, if any do. -/
structure Written where
  date : Date
  /-- Microseconds since midnight. -/
  time : Option Nat
  offset : Option Int
deriving Repr

/-- Reads exactly so many ASCII digits. -/
def readDigits : Nat → List Char → Option (Nat × List Char)
  | count, cs =>
    let ds := cs.take count
    if ds.length = count ∧ ds.all isDigit then some (digitsValue ds, cs.drop count) else none

/-- The microseconds of the digits after a point; those beyond six are dropped. -/
def fractionValue (values : List Nat) : Nat :=
  let six := values.take 6
  six.foldl (fun n d => 10 * n + d) 0 * Nat.pow 10 (6 - six.length)

/-- The date of a day of a year counted from 1. -/
def ordinalDate (year ordinal : Nat) : Option Date :=
  if 1 ≤ year ∧ year ≤ 9999 ∧ 1 ≤ ordinal ∧ ordinal ≤ yearLength year then
    some (Date.ofDayNumber (daysBeforeYear year + ordinal - 1))
  else none

/-- The number of weeks of a year of the week calendar. -/
def weeksOfYear (year : Nat) : Nat :=
  let first := daysBeforeYear year % 7
  if first = 3 ∨ (first = 2 ∧ isLeap year) then 53 else 52

/-- The date of a day of a week: the first week of a year holds its 4th of
January, and days count from Monday as 1. -/
def weekDate (year week day : Nat) : Option Date :=
  if 1 ≤ year ∧ year ≤ 9999 ∧ 1 ≤ week ∧ week ≤ weeksOfYear year ∧ 1 ≤ day ∧ day ≤ 7 then
    let fourth := daysBeforeYear year + 3
    -- The Monday of the first week, and the days that have passed since.
    let number : Int := fourth - fourth % 7 + ((week - 1) * 7 + day - 1 : Nat)
    if 0 ≤ number ∧ number < calendarDays then some (Date.ofDayNumber number.toNat) else none
  else none

/-- The calendar date, if there is one. -/
def calendarDate (year month day : Nat) : Option Date :=
  let d : Date := ⟨year, month, day⟩
  if d.Valid then some d else none

/-- The text ends or goes on with a time. -/
def atDateEnd : List Char → Bool
  | [] => true
  | c :: _ => c = 'T' || c = ' '

/-- Reads a date, and tells whether it is written with hyphens. -/
def readDate (cs : List Char) : Option (Date × Bool × List Char) := do
  let (year, cs) ← readDigits 4 cs
  match cs with
  | '-' :: 'W' :: cs =>
    let (week, cs) ← readDigits 2 cs
    match cs with
    | '-' :: cs =>
      let (day, cs) ← readDigits 1 cs
      return (← weekDate year week day, true, cs)
    | cs => if atDateEnd cs then return (← weekDate year week 1, true, cs) else none
  | '-' :: cs =>
    let (month, cs) ← readDigits 2 cs
    match cs with
    | '-' :: cs =>
      let (day, cs) ← readDigits 2 cs
      return (← calendarDate year month day, true, cs)
    | cs =>
      if atDateEnd cs then return (← calendarDate year month 1, true, cs)
      else
        let (last, cs) ← readDigits 1 cs
        return (← ordinalDate year (month * 10 + last), true, cs)
  | 'W' :: cs =>
    let (week, cs) ← readDigits 2 cs
    if atDateEnd cs then return (← weekDate year week 1, false, cs)
    else
      let (day, cs) ← readDigits 1 cs
      return (← weekDate year week day, false, cs)
  | cs =>
    if atDateEnd cs then return (← calendarDate year 1 1, false, cs)
    else
      let (month, cs) ← readDigits 2 cs
      let (tens, cs) ← readDigits 1 cs
      if atDateEnd cs then return (← ordinalDate year (month * 10 + tens), false, cs)
      else
        let (ones, cs) ← readDigits 1 cs
        return (← calendarDate year month (tens * 10 + ones), false, cs)

/-- Reads the digits after a point or comma, if there is one. -/
def readFraction : List Char → Option (Nat × List Char)
  | c :: cs =>
    if c = '.' ∨ c = ',' then
      let ds := cs.takeWhile isDigit
      if ds.isEmpty then none
      else some (fractionValue (ds.filterMap digit?), cs.dropWhile isDigit)
    else some (0, c :: cs)
  | [] => some (0, [])

/-- Microseconds since midnight, if the parts are on the clock. -/
def clockTime (hour minute second micro : Nat) : Option Nat :=
  if hour < 24 ∧ minute < 60 ∧ second < 60 then
    some (((hour * 60 + minute) * 60 + second) * 1000000 + micro)
  else none

/-- Reads a time of day, with colons exactly when the date has hyphens. -/
def readTime (hyphens : Bool) (cs : List Char) : Option (Nat × List Char) := do
  let (hour, cs) ← readDigits 2 cs
  match cs with
  | ':' :: cs =>
    if !hyphens then none
    let (minute, cs) ← readDigits 2 cs
    match cs with
    | ':' :: cs =>
      let (second, cs) ← readDigits 2 cs
      let (micro, cs) ← readFraction cs
      return (← clockTime hour minute second micro, cs)
    | cs => return (← clockTime hour minute 0 0, cs)
  | c :: rest =>
    if isDigit c then
      if hyphens then none
      let (minute, cs) ← readDigits 2 (c :: rest)
      match cs with
      | d :: rest =>
        if isDigit d then
          let (second, cs) ← readDigits 2 (d :: rest)
          let (micro, cs) ← readFraction cs
          return (← clockTime hour minute second micro, cs)
        else return (← clockTime hour minute 0 0, d :: rest)
      | [] => return (← clockTime hour minute 0 0, [])
    else return (← clockTime hour 0 0 0, c :: rest)
  | [] => return (← clockTime hour 0 0 0, [])

/-- Reads an offset in hours and minutes, which ends the text. -/
def readOffset : List Char → Option (Option Int)
  | [] => some none
  | ['Z'] => some (some 0)
  | sign :: cs => do
    let factor : Int ← if sign = '+' then some 1 else if sign = '-' then some (-1) else none
    let (hours, cs) ← readDigits 2 cs
    let (minutes, cs) ← match cs with
      | [] => some (0, [])
      | ':' :: cs => readDigits 2 cs
      | cs => readDigits 2 cs
    if cs.isEmpty then return some (factor * ((hours * 60 + minutes) * 60 : Nat)) else none

/-- Reads a text in the standard notations. -/
def readWritten (cs : List Char) : Option Written := do
  let (date, hyphens, cs) ← readDate cs
  match cs with
  | [] => return ⟨date, none, none⟩
  | _ :: rest =>
    if !atDateEnd cs then none
    let (time, cs) ← readTime hyphens rest
    return ⟨date, some time, ← readOffset cs⟩

/-- Reads the parts of a span after its sign `P`; a fraction ends the span. -/
def readSpanParts : Nat → Bool → List Char → Bool
  | 0, _, _ => false
  | _ + 1, _, [] => true
  | fuel + 1, clock, 'T' :: cs => !clock && readSpanParts fuel true cs
  | fuel + 1, clock, cs =>
    let whole := cs.takeWhile isDigit
    match whole, cs.dropWhile isDigit with
    | _ :: _, unit :: rest =>
      if unit = '.' ∨ unit = ',' then
        match rest.takeWhile isDigit, rest.dropWhile isDigit with
        | _ :: _, [unit] =>
          if clock then ['H', 'M', 'S'].contains unit else ['W', 'D'].contains unit
        | _, _ => false
      else
        (if clock then ['H', 'M', 'S'].contains unit else ['Y', 'M', 'W', 'D'].contains unit) &&
          readSpanParts fuel clock rest
    | _, _ => false

/-- The text is a span of time such as `P1D` or `PT1H30M`. -/
def isSpan : List Char → Bool
  | 'P' :: cs => !cs.isEmpty && readSpanParts (cs.length + 1) false cs
  | _ => false

/-- The sides of a text with exactly one slash. -/
def slashSides (cs : List Char) : Option (List Char × List Char) :=
  match cs.dropWhile (· != '/') with
  | _ :: rest => if rest.contains '/' then none else some (cs.takeWhile (· != '/'), rest)
  | [] => none

/-- Reads two moments, or a moment and a span, joined by a slash. -/
def readPair (cs : List Char) : Except ReadingFault Bool :=
  match slashSides cs with
  | none => .ok false
  | some ([], _) => .error .emptySide
  | some (first, last) =>
    if first.head? = some 'P' then .ok (isSpan first && (readWritten last).isSome)
    else
      match last with
      | [] => .error .emptySide
      | 'P' :: _ => .ok (isSpan last && (readWritten first).isSome)
      | _ =>
        match readWritten first, readWritten last with
        | some a, some b => if a.time.isSome = b.time.isSome then .ok true else .error .mixedPair
        | _, _ => .ok false

/-- Reads one or two digits of any script. -/
def readOneOrTwo : List Char → Option (Nat × List Char)
  | a :: b :: cs =>
    match anyDigit? a, anyDigit? b with
    | some x, some y => some (10 * x + y, cs)
    | some x, none => some (x, b :: cs)
    | none, _ => none
  | [a] => (anyDigit? a).map (·, [])
  | [] => none

/-- Reads exactly so many digits of any script. -/
def readAnyDigits (count : Nat) (cs : List Char) : Option (Nat × List Char) :=
  let ds := cs.take count
  if ds.length = count ∧ ds.all isAnyDigit then
    some ((ds.filterMap anyDigit?).foldl (fun n d => 10 * n + d) 0, cs.drop count)
  else none

/-- Reads a loose time up to the end of the text; the minutes may be missing. -/
def readLooseTime (cs : List Char) : Option (Nat × Option Nat × Nat × Nat) := do
  let cs := match cs with
    | ' ' :: rest => rest
    | cs => cs
  let (hour, cs) ← readOneOrTwo cs
  match cs with
  | ':' :: cs =>
    let (minute, cs) := match readOneOrTwo cs with
      | some (m, rest) => (some m, rest)
      | none => (none, cs)
    let (second, cs) ← match cs with
      | ':' :: rest => readOneOrTwo rest
      | cs => some (0, cs)
    let (micro, cs) ← match cs with
      | c :: rest =>
        if ['.', '|', ','].contains c then
          let ds := rest.takeWhile isAnyDigit
          if ds.isEmpty ∨ 9 < ds.length then none
          else some (fractionValue (ds.filterMap anyDigit?), rest.dropWhile isAnyDigit)
        else none
      | [] => some (0, [])
    if cs.isEmpty then return (hour, minute, second, micro) else none
  | _ => none

/-- Skips a separator between the parts of a loose date. -/
def skipSeparator : List Char → List Char
  | c :: cs => if c = '/' ∨ c = ':' then cs else c :: cs
  | [] => []

/-- Reads a loose date followed by the end of the text or a loose time. -/
def readLoose (text : String) : Except ReadingFault (Option Written) :=
  let fail : Except ReadingFault (Option Written) := .ok none
  let finish (year month day : Nat) (rest : List Char) :
      Option (Except ReadingFault (Option Written)) :=
    if rest.isEmpty then some (.ok ((calendarDate year month day).map (⟨·, none, none⟩)))
    else match readLooseTime rest with
      | none => none
      | some (_, none, _, _) => some (.error .missingMinute)
      | some (hour, some minute, second, micro) =>
        some (.ok (do return ⟨← calendarDate year month day,
          some (← clockTime hour minute second micro), none⟩))
  match readAnyDigits 4 text.toList with
  | none => fail
  | some (year, cs) =>
    let withDay := do
      let (month, rest) ← readAnyDigits 2 (skipSeparator cs)
      let (day, rest) ← readAnyDigits 2 (skipSeparator rest)
      finish year month day rest
    match withDay with
    | some answer => answer
    | none => (finish year 1 1 cs).getD fail

/-- The moment that a written date and time stand for. -/
def Written.zoned? (w : Written) : Option Zoned :=
  let offset := w.offset.getD 0
  (Moment.ofDate? offset w.date (w.time.getD 0)).map (⟨offset, ·⟩)

/-- Reads a text; `now` is what the word itself stands for. -/
def readMoment (now : Utc) (text : String) : Except ReadingFault Reading := do
  let cs := text.toList
  if text = "now" then return .moment now.zoned
  if let some z := (readWritten cs).bind Written.zoned? then return .moment z
  if isSpan cs then return .span
  if ← readPair cs then return .pair
  match (← readLoose text).bind Written.zoned? with
  | some z => return .moment z
  | none => throw (.unreadable text)

end Meetings
