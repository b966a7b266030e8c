/-
Ranges of time between two readings of the clock.

* `TimeRange.make` — builds a range, whose start must come before its end;
* `TimeRange.minutes` — its length in whole minutes;
* `TimeRange.display` — `15.06.2024 10:00 - 11:30`.
-/
import Meetings.Moment.Written
import Meetings.Commitment
import Meetings.Number.Binary64

namespace Meetings

/-- A range of time, each end at its own offset from UTC. -/
structure TimeRange where
  start : Zoned
  stop : Zoned
  ordered : start.instant < stop.instant

/-- The length of a span of microseconds in whole minutes.  The span is counted
in seconds as a binary64 number, and so is its quotient by 60. -/
def wholeMinutes (span : Int) : Int :=
  let seconds := Binary64.ofRatio (span < 0) span.natAbs 1000000
  ((seconds.dividedBy (.ofInt 60)).truncate?).getD 0

/-- The date and the time of a start, and the time of an end. -/
def displayRange (start stop : Zoned) : String :=
  start.moment.dayMonthYear ++ " " ++ start.moment.clock ++ " - " ++ stop.moment.clock

namespace TimeRange

/-- The range between two readings, if the first comes before the second. -/
def make (start stop : Zoned) : Except TimeFault TimeRange :=
  if h : start.instant < stop.instant then .ok ⟨start, stop, h⟩
  else .error (.inverted start stop)

/-- The length in whole minutes. -/
def minutes (r : TimeRange) : Int := wholeMinutes (r.stop.instant - r.start.instant)

/-- Two ranges meet. -/
def overlaps (a b : TimeRange) : Bool :=
  Meetings.overlaps a.start.instant a.stop.instant b.start.instant b.stop.instant

/-- The date and the time of the start, and the time of the end. -/
def display (r : TimeRange) : String := displayRange r.start r.stop

end TimeRange

end Meetings
