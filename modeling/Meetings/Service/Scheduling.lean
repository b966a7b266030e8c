/-
Scheduling: from a request to a stored booking.

* `Collaborator` — what scheduling needs of a store: known participants, the
  commitments in the way, and adding a booking;
* `notFound` — the answer that somebody is not known;
* `Scheduler.find` — the earliest slot, among the commitments of the whole days
  that the window touches;
* `Scheduler.schedule` — the people are known, a slot is found, the booking
  obeys the rules; then it is added and announced.

Design notes: a refusal is a value and a fault of the collaborator stops the
action.  So does a number with too many digits to be put into the message of a
refusal.  Search and adding are two steps, with nothing that keeps other actions
from coming between them.
-/
import Meetings.Booking
import Meetings.Json.Printer
import Meetings.Request.Meeting
import Meetings.Slot.Report

namespace Meetings

open Meetings.Text

/-- What scheduling needs of a store with states `σ`. -/
structure Collaborator (σ : Type) where
  /-- The known participants among some people. -/
  participants : List Int → Action σ (List Participant)
  /-- All commitments that meet an interval and share a person, and maybe more. -/
  lookup : List Int → Utc → Utc → Action σ (List (Option Commitment))
  /-- Stores a booking and returns it under its id. -/
  add : Booking → Action σ Booking

/-- Scheduling over a collaborator. -/
structure Scheduler (σ : Type) where
  store : Collaborator σ
  grid : Grid
  /-- Who is told of a booking, in order. -/
  sinks : List (Event → σ → σ)
  /-- When bookings are announced. -/
  now : Utc

/-- The days that a window touches, as an interval. -/
def daysTouched (start stop : Zoned) : Except TimeFault (Utc × Utc) := do
  let first := (← start.toUtc).startOfDay
  let last ← (← stop.toUtc).startOfDay.plusDays 1
  return (first, last)

/-- The people of a request who are not among some participants. -/
def missingPeople (people : List Int) (known : List Participant) : List Int :=
  people.filter fun id => !known.any fun p => p.id == some id

/-- The records of the people of a booking, as far as they are known. -/
def recordsOf (people : List PersonRef) (known : List Participant) : List Participant :=
  people.filterMap fun r =>
    r.number?.bind fun id => known.find? fun p => p.id == some id

/-- The answer that somebody is not known.  It names them by their number, and
there is no such answer for a number with too many digits to be written. -/
def notFound {α : Type} (id : Int) : Except Fault (Except Failure α) :=
  if Json.overlong id then .error .unprintable else .ok (.error (.unknownParticipant id))

namespace Scheduler

variable {σ : Type}

/-- The commitments that may stand in the way of some people. -/
def existing (s : Scheduler σ) (people : List Int) (start stop : Zoned) :
    Action σ (List (Option Commitment)) :=
  if people.isEmpty then return []
  else do
    let (first, last) ← Action.liftTime (daysTouched start stop)
    let found ← s.store.lookup people first last
    Action.debug ("Retrieved " ++ decimal found.length ++ " existing bookings between " ++
      first.spaced ++ " and " ++ last.spaced)
    return found

/-- The earliest slot of some people. -/
def find (s : Scheduler σ) (people : List Int) (duration : Option Int) (start stop : Zoned) :
    Action σ (Option Utc) := do
  let found ← s.existing people start stop
  searchSlot s.grid (some (people.map .number)) duration start stop found

/-- Tells everyone of an event. -/
def publish (s : Scheduler σ) (e : Event) : Action σ Unit :=
  s.sinks.forM fun sink => Action.update (sink e)

/-- Adds a booking, announces it, and shows it with the records of its people. -/
def commit (s : Scheduler σ) (r : MeetingRequest) (known : List Participant) (b : Booking) :
    Action σ BookingView := do
  let saved ← s.store.add b
  Action.info ("Created booking " ++ displayOptional saved.id ++ " for participants " ++
    bracketed (r.people.map signedDecimal) ++ " at " ++ saved.start.spaced ++ " - " ++
    saved.stop.spaced)
  s.publish ((Event.announce s.now b).withBookingId saved.id)
  return ⟨saved, recordsOf saved.people known⟩

/-- Books the earliest slot of a request. -/
def schedule (s : Scheduler σ) (r : MeetingRequest) : Action σ (Except Failure BookingView) := do
  let people := bracketed (r.people.map signedDecimal)
  let window := r.earliest.spaced ++ " - " ++ r.latest.spaced
  Action.info ("Scheduling meeting for participants " ++ people ++ ", duration " ++
    signedDecimal r.duration ++ " minutes, window " ++ window)
  let known ← s.store.participants r.people
  match missingPeople r.people known with
  | first :: rest =>
    Action.warn ("Scheduling failed: missing participants " ++
      bracketed ((first :: rest).map signedDecimal))
    Action.lift (notFound first)
  | [] =>
    match ← s.find r.people (some r.duration) r.earliest.zoned r.latest.zoned with
    | none =>
      Action.warn ("No available slot for participants " ++ people ++ " in window " ++ window)
      return .error .noSlot
    | some slot =>
      let stop ← Action.liftTime (slot.plusMinutes r.duration)
      match Booking.ofUtc none (r.people.map .number) slot stop with
      | .error fault =>
        Action.warn ("Booking creation failed for " ++ people ++ ": " ++ fault.message)
        return .error (.booking fault)
      | .ok b => return .ok (← s.commit r known b)

end Scheduler

end Meetings
