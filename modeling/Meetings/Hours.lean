/-
Business hours: the daily band that meetings fall within.

Everything is read on the clock of the moment in question.

* `Hours.opening`, `Hours.closing` — the band on the day of a moment;
* `Hours.isOpenAt` — a meeting could start at a moment;
* `Hours.contains` — an interval lies inside the band of the day it starts on;
* `Hours.nextOpening` — the earliest opening that is not before a moment.

Design notes: nothing requires the opening to come before the closing.  A band
that is not a range has no answer to `contains`, which then says why.
-/
import Meetings.TimeRange

namespace Meetings

/-- The times of day between which meetings may lie. -/
structure Hours where
  opens : TimeOfDay
  closes : TimeOfDay
deriving DecidableEq, Repr

namespace Hours

/-- From nine to five. -/
def standard : Hours :=
  ⟨⟨⟨9, by decide⟩, ⟨0, by decide⟩⟩, ⟨⟨17, by decide⟩, ⟨0, by decide⟩⟩⟩

variable {offset : Int}

/-- The opening on the day of a moment. -/
def opening (h : Hours) (m : Moment offset) : Moment offset := m.onDay h.opens

/-- The closing on the day of a moment. -/
def closing (h : Hours) (m : Moment offset) : Moment offset := m.onDay h.closes

/-- The band of the day of a moment. -/
def dayRange (h : Hours) (m : Moment offset) : Except TimeFault TimeRange :=
  TimeRange.make (h.opening m).zoned (h.closing m).zoned

/-- An interval starts no earlier than the opening of its day and stops no later
than the closing of that day. -/
def spans (h : Hours) (start : Moment offset) (stop : Zoned) : Bool :=
  decide ((h.opening start).instant ≤ start.instant) &&
    decide (stop.instant ≤ (h.closing start).instant)

/-- The interval from `start` to `stop` lies inside the band of the day it
starts on.  One that runs past midnight never does. -/
def contains (h : Hours) (start : Moment offset) (stop : Zoned) : Except TimeFault Bool := do
  let _ ← h.dayRange start
  return h.spans start stop

/-- A meeting could start at the moment. -/
def isOpenAt (h : Hours) (m : Moment offset) : Bool :=
  decide ((h.opening m).wall ≤ m.wall) && decide (m.wall < (h.closing m).wall)

/-- The earliest opening that is not before the moment. -/
def nextOpening (h : Hours) (m : Moment offset) : Except TimeFault (Moment offset) :=
  if m.wall ≤ (h.opening m).wall then .ok (h.opening m)
  else (m.plusDays 1).map h.opening

end Hours

end Meetings
