/-
Bookings, the events that announce them, and the views that show them.

* `Booking.ofUtc` — the rules of a booking, in the order in which they are
  checked: it starts before it ends, it lies within business hours, someone
  takes part, and nobody twice;
* `Booking.make` — the same for times at any offset;
* `Booking.withId` — a copy under an id, for a booking that has none;
* `Event.announce` — the event of a booking;
* `BookingView.display` — a booking and its people on one line.

Design notes: `Booking.Valid` says the rules without an order.
-/
import Meetings.Fault
import Meetings.Hours
import Meetings.Participant

namespace Meetings

open Meetings.Text

/-- A meeting of some people; the id is given by a store. -/
structure Booking where
  id : Option Int
  people : List PersonRef
  start : Utc
  stop : Utc
deriving DecidableEq, Repr

namespace Booking

/-- The interval of time that a booking takes up of its people. -/
def commitment (b : Booking) : Commitment :=
  ⟨b.people, b.start.instant, b.stop.instant⟩

/-- An interval lies within the standard hours of the day it starts on. -/
def withinHours (start stop : Utc) : Bool := Hours.standard.spans start stop.zoned

/-- The rules of a booking. -/
def Valid (b : Booking) : Prop :=
  b.start.instant < b.stop.instant ∧ withinHours b.start b.stop = true ∧
    b.people ≠ [] ∧ hasRepeat b.people = false

instance (b : Booking) : Decidable b.Valid := by unfold Valid; infer_instance

/-- The first rule that the times of a booking break. -/
def timesFault (start stop : Utc) : Option BookingFault :=
  if stop.instant ≤ start.instant then some .startsTooLate
  else if withinHours start stop then none
  else some .outsideHours

/-- The first rule that the people of a booking break. -/
def peopleFault (people : List PersonRef) : Option BookingFault :=
  if people.isEmpty then some .nobody
  else if hasRepeat people then some .repeatedParticipant
  else none

/-- A booking of people between two times, if it obeys the rules. -/
def ofUtc (id : Option Int) (people : List PersonRef) (start stop : Utc) :
    Except BookingFault Booking :=
  match timesFault start stop with
  | some fault => .error fault
  | none =>
    match peopleFault people with
    | some fault => .error fault
    | none => .ok ⟨id, people, start, stop⟩

/-- A booking between two readings of the clock, kept in UTC; no list of people
is a list of nobody. -/
def make (id : Option Int) (people : Option (List PersonRef)) (start stop : Zoned) :
    Except Fault Booking := do
  let start ← start.toUtc.mapError .time
  let stop ← stop.toUtc.mapError .time
  (ofUtc id (people.getD []) start stop).mapError .booking

/-- The booking under an id. -/
def withId (b : Booking) (id : Int) : Except Fault Booking :=
  match b.id with
  | some old => .error (.bookingHasId old)
  | none => .ok { b with id := some id }

/-- The length in whole minutes. -/
def minutes (b : Booking) : Int := wholeMinutes (b.stop.instant - b.start.instant)

/-- The date, and the times of start and end. -/
def range (b : Booking) : String := displayRange b.start.zoned b.stop.zoned

/-- The booking collides with another one; an absent one never does. -/
def conflictsWith (b : Booking) (other : Option Booking) : Bool :=
  conflicts (some b.commitment) (other.map commitment)

theorem ofUtc_eq_ok_iff {id : Option Int} {people : List PersonRef} {start stop : Utc}
    {b : Booking} :
    ofUtc id people start stop = .ok b ↔
      b = ⟨id, people, start, stop⟩ ∧ b.Valid := by
  unfold ofUtc timesFault peopleFault Valid
  by_cases h : stop.instant ≤ start.instant
  · simp only [h, if_true]
    constructor
    · intro e; cases e
    · rintro ⟨rfl, v, -⟩
      exact absurd v (Int.not_lt.mpr h)
  · cases hw : withinHours start stop
    · simp only [h, if_false]
      constructor
      · intro e; cases e
      · rintro ⟨rfl, -, v, -⟩
        simp [hw] at v
    · cases people with
      | nil =>
        simp only [h, if_false, if_true, List.isEmpty_nil]
        constructor
        · intro e; cases e
        · rintro ⟨rfl, -, -, v, -⟩
          exact absurd rfl v
      | cons p ps =>
        cases hr : hasRepeat (p :: ps)
        · simp only [h, if_false, if_true, List.isEmpty_cons, Bool.false_eq_true]
          constructor
          · intro e
            cases e
            exact ⟨rfl, Int.not_le.mp h, hw, List.cons_ne_nil p ps, hr⟩
          · rintro ⟨rfl, -⟩
            rfl
        · simp only [h, if_false, if_true, List.isEmpty_cons, Bool.false_eq_true]
          constructor
          · intro e; cases e
          · rintro ⟨rfl, -, -, -, v⟩
            simp [hr] at v

end Booking

/-- The announcement that a booking was made. -/
structure Event where
  bookingId : Option Int
  people : List PersonRef
  start : Utc
  stop : Utc
  occurredAt : Utc
deriving DecidableEq, Repr

namespace Event

/-- The word for the kind of an event. -/
def kindName : String := "BookingScheduled"

/-- The event of a booking that is made now. -/
def announce (now : Utc) (b : Booking) : Event :=
  ⟨b.id, b.people, b.start, b.stop, now⟩

/-- A copy that names the id a store has given. -/
def withBookingId (e : Event) (id : Option Int) : Event := { e with bookingId := id }

/-- Two events are copies of one, which differ at most in the id of the booking. -/
def sameAs (a b : Event) : Bool := a.withBookingId none == b.withBookingId none

end Event

/-- A booking together with the records of its people. -/
structure BookingView where
  booking : Booking
  participants : List Participant
deriving DecidableEq, Repr

/-- `Saturday, 15.06.2024 | 10:00 – 11:30 UTC (90 min) · Ada, Alan`. -/
def BookingView.display (v : BookingView) : String :=
  let start := v.booking.start
  start.weekday ++ ", " ++ start.dayMonthYear ++ " | " ++ start.clock ++ " – " ++
    v.booking.stop.clock ++ " UTC (" ++ signedDecimal v.booking.minutes ++ " min) · " ++
    ", ".intercalate (v.participants.map (·.name))

end Meetings
