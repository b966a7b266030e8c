/-
Moments written as text.

* `Moment.iso` — `2024-06-15T10:00:00+00:00`, with six digits of a fraction
  only when the microseconds are not zero;
* `Moment.spaced` — the same with a space between date and time;
* `Utc.zulu` — the form with the offset written `Z`;
* `Moment.dayMonthYear`, `Moment.yearMonthDay`, `Moment.clock` — the parts shown
  to people.

Design notes: the year has four digits in the first three forms and in
`yearMonthDay` as many as it needs, as in `dayMonthYear`.
-/
import Meetings.Moment
import Meetings.Text.Digits

namespace Meetings

open Meetings.Text

namespace Moment

variable {offset : Int}

/-- The date as `YYYY-MM-DD`. -/
def isoDate (m : Moment offset) : String :=
  let d := m.date
  padded 4 d.year ++ "-" ++ padded 2 d.month ++ "-" ++ padded 2 d.day

/-- The time as `HH:MM:SS`, and `.ffffff` unless the microseconds are zero. -/
def isoTime (m : Moment offset) : String :=
  padded 2 m.hour ++ ":" ++ padded 2 m.minute ++ ":" ++ padded 2 m.second ++
    (if m.microsecond = 0 then "" else "." ++ padded 6 m.microsecond)

/-- The offset as `+HH:MM` or `-HH:MM`, and `:SS` unless the seconds are zero. -/
def isoOffset (offset : Int) : String :=
  (if offset < 0 then "-" else "+") ++
    padded 2 (offset.natAbs / 3600) ++ ":" ++ padded 2 (offset.natAbs % 3600 / 60) ++
    (if offset.natAbs % 60 = 0 then "" else ":" ++ padded 2 (offset.natAbs % 60))

/-- Date and time joined by `T`, and the offset. -/
def iso (m : Moment offset) : String := m.isoDate ++ "T" ++ m.isoTime ++ isoOffset offset

/-- Date and time joined by a space, and the offset. -/
def spaced (m : Moment offset) : String := m.isoDate ++ " " ++ m.isoTime ++ isoOffset offset

/-- The date as `DD.MM.YYYY`; the year has no leading zeros. -/
def dayMonthYear (m : Moment offset) : String :=
  let d := m.date
  padded 2 d.day ++ "." ++ padded 2 d.month ++ "." ++ decimal d.year

/-- The date as `YYYY-MM-DD`; the year has no leading zeros. -/
def yearMonthDay (m : Moment offset) : String :=
  let d := m.date
  decimal d.year ++ "-" ++ padded 2 d.month ++ "-" ++ padded 2 d.day

/-- The time as `HH:mm`. -/
def clock (m : Moment offset) : String := padded 2 m.hour ++ ":" ++ padded 2 m.minute

/-- The name of the local weekday. -/
def weekday (m : Moment offset) : String := weekdayName m.dayNumber

end Moment

/-- Date and time joined by `T`, and the offset. -/
def Zoned.iso (z : Zoned) : String := z.moment.iso

/-- Date and time joined by a space, and the offset. -/
def Zoned.spaced (z : Zoned) : String := z.moment.spaced

/-- A moment in UTC with its offset written `Z`. -/
def Utc.zulu (m : Utc) : String := m.isoDate ++ "T" ++ m.isoTime ++ "Z"

/-- What a fault of time arithmetic says. -/
def TimeFault.message : TimeFault → String
  | .outsideCalendar => "date value out of range"
  | .countTooLarge => "Python int too large to convert to C int"
  | .spanTooLong days =>
    "days=" ++ signedDecimal days ++ "; must have magnitude <= 999999999"
  | .minuteOffClock => "minute must be in 0..59"
  | .zeroSpacing => "integer modulo by zero"
  | .offsetTooLarge =>
    "offset must be a timedelta strictly between -timedelta(hours=24) and timedelta(hours=24)."
  | .inverted start stop =>
    "Start time " ++ start.spaced ++ " must be before end time " ++ stop.spaced
  | .endless => "the search does not advance"

end Meetings
