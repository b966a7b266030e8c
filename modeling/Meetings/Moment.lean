/-
Moments: a reading of the calendar and the clock at a fixed offset from UTC.

* `Moment offset` — a wall-clock reading within years 1 to 9999, whose offset
  from UTC in seconds is part of its type;
* `Moment.instant` — the point of time it stands for, as microseconds from the
  start of year 1 in UTC, which may lie outside the calendar by up to a day;
* `Moment.toUtc`, `Moment.plusMinutes`, `Moment.plusDays` — the operations that
  can leave the calendar, and then say so;
* `Moment.onDay` — the same day at another time of day, which cannot.

Design notes: a wall reading is one integer, so that the order of moments, the
start of a day and the minute of an hour are arithmetic.  That the reading is
in the calendar is carried by the type.
-/
import Meetings.Calendar

namespace Meetings

/-- Points of time, as microseconds from the start of year 1 in UTC. -/
abbrev Instant := Int

/-- Microseconds in a second. -/
def secondSpan : Int := 1000000

/-- Microseconds in a minute. -/
def minuteSpan : Int := 60000000

/-- Microseconds in an hour. -/
def hourSpan : Int := 3600000000

/-- Microseconds in a day. -/
def daySpan : Int := 86400000000

/-- The first wall reading after year 9999. -/
def calendarEnd : Int := 315537897600000000

/-- An hour and a minute of the day. -/
structure TimeOfDay where
  hour : Fin 24
  minute : Fin 60
deriving DecidableEq, Repr

/-- Microseconds from midnight to a time of day. -/
def TimeOfDay.span (t : TimeOfDay) : Int :=
  (t.hour.val : Int) * hourSpan + (t.minute.val : Int) * minuteSpan

theorem TimeOfDay.span_nonneg (t : TimeOfDay) : 0 ≤ t.span := by
  unfold span hourSpan minuteSpan
  omega

theorem TimeOfDay.span_lt (t : TimeOfDay) : t.span < daySpan := by
  have h := t.hour.isLt
  have m := t.minute.isLt
  unfold span hourSpan minuteSpan daySpan
  omega

/-- A reading of the calendar and the clock `offset` seconds east of UTC. -/
structure Moment (offset : Int) where
  /-- Microseconds from the start of year 1 on the local clock. -/
  wall : Int
  wall_nonneg : 0 ≤ wall
  wall_lt : wall < calendarEnd
deriving DecidableEq, Repr

/-- Moments in UTC. -/
abbrev Utc := Moment 0

/-- A moment together with its offset from UTC in seconds. -/
structure Zoned where
  offset : Int
  moment : Moment offset
deriving DecidableEq, Repr

/-- Why an operation on moments has no result. -/
inductive TimeFault where
  /-- The result lies before year 1 or after year 9999. -/
  | outsideCalendar
  /-- The number of days to move by does not fit a 32-bit integer. -/
  | countTooLarge
  /-- The number of days to move by is larger than any span allowed. -/
  | spanTooLong (days : Int)
  /-- The minute to set is not on the clock. -/
  | minuteOffClock
  /-- The grid has no spacing. -/
  | zeroSpacing
  /-- The offset from UTC is a day or more. -/
  | offsetTooLarge
  /-- A range would end no later than it starts. -/
  | inverted (start stop : Zoned)
  /-- The steps of a search no longer move. -/
  | endless
deriving DecidableEq, Repr

namespace Moment

variable {offset : Int}

/-- The moment with a given wall reading, if that lies in the calendar. -/
def ofWall (offset wall : Int) : Except TimeFault (Moment offset) :=
  if h : 0 ≤ wall ∧ wall < calendarEnd then .ok ⟨wall, h.1, h.2⟩
  else .error .outsideCalendar

/-- The point of time that a moment stands for. -/
def instant (m : Moment offset) : Instant := m.wall - offset * secondSpan

/-- The same point of time in UTC. -/
def toUtc (m : Moment offset) : Except TimeFault Utc :=
  if offset ≤ -86400 ∨ 86400 ≤ offset then .error .offsetTooLarge
  else ofWall 0 m.instant

/-- The number of the local day. -/
def dayNumber (m : Moment offset) : Nat := (m.wall / daySpan).toNat

/-- Microseconds since local midnight. -/
def sinceMidnight (m : Moment offset) : Int := m.wall % daySpan

/-- The local date. -/
def date (m : Moment offset) : Date := Date.ofDayNumber m.dayNumber

/-- The hour of the local clock. -/
def hour (m : Moment offset) : Nat := (m.sinceMidnight / hourSpan).toNat

/-- The minute of the local clock. -/
def minute (m : Moment offset) : Nat := (m.wall % hourSpan / minuteSpan).toNat

/-- The second of the local clock. -/
def second (m : Moment offset) : Nat := (m.wall % minuteSpan / secondSpan).toNat

/-- The microsecond of the local clock. -/
def microsecond (m : Moment offset) : Nat := (m.wall % secondSpan).toNat

/-- The given time on the local day of a moment. -/
def onDay (m : Moment offset) (t : TimeOfDay) : Moment offset where
  wall := m.wall / daySpan * daySpan + t.span
  wall_nonneg := by
    have := t.span_nonneg
    have := m.wall_nonneg
    unfold daySpan
    omega
  wall_lt := by
    have h := t.span_lt
    have := m.wall_nonneg
    have w := m.wall_lt
    unfold calendarEnd at w
    unfold daySpan at h
    unfold daySpan calendarEnd
    omega

/-- Midnight at the start of the local day. -/
def startOfDay (m : Moment offset) : Moment offset := m.onDay ⟨0, 0⟩

/-- The start of a minute of the hour a moment lies in. -/
def atMinute (m : Moment offset) (minute : Int) : Except TimeFault (Moment offset) :=
  if minute < 0 ∨ 59 < minute then .error .minuteOffClock
  else ofWall offset (m.wall / hourSpan * hourSpan + minute * minuteSpan)

/-- The moment a number of minutes later, on the same clock.  The two points of
time must lie in the calendar of UTC as well as in that of the clock. -/
def plusMinutes (m : Moment offset) (count : Int) : Except TimeFault (Moment offset) := do
  let _ ← ofWall 0 m.instant
  -- A count is carried as days and a rest of the day, so only the days can be
  -- too many.
  let days := count / 1440
  if days < -2147483648 ∨ 2147483647 < days then throw .countTooLarge
  if days < -999999999 ∨ 999999999 < days then throw (.spanTooLong days)
  let _ ← ofWall 0 (m.instant + count * minuteSpan)
  ofWall offset (m.wall + count * minuteSpan)

/-- The same time of day a number of days later. -/
def plusDays (m : Moment offset) (count : Int) : Except TimeFault (Moment offset) :=
  ofWall offset (m.wall + count * daySpan)

/-- The moment with a given date and microseconds since midnight, if the date
is one of the calendar. -/
def ofDate? (offset : Int) (d : Date) (sinceMidnight : Nat) : Option (Moment offset) :=
  if d.Valid then
    (ofWall offset (d.dayNumber * daySpan + sinceMidnight)).toOption
  else none

end Moment

/-- A moment at its offset. -/
def Moment.zoned {offset : Int} (m : Moment offset) : Zoned := ⟨offset, m⟩

/-- The point of time that a moment at some offset stands for. -/
def Zoned.instant (z : Zoned) : Instant := z.moment.instant

/-- The same point of time in UTC. -/
def Zoned.toUtc (z : Zoned) : Except TimeFault Utc := z.moment.toUtc

end Meetings
