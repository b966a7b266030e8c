/-
Requests from raw data to an answer, observed.

* `Pipeline.schedule`, `Pipeline.find`, `Pipeline.register`,
  `Pipeline.bookings` — check a raw request, carry it out, and report how it
  went and how long it took;
* `Pipeline.scheduleFields`, `Pipeline.findFields` — the same for requests whose
  fields need no reading.

Design notes: the two readings of the clock that time a request are given with
it, so that the report is a function of its inputs.  A fault ends a request
without a report.
-/
import Meetings.Number.Shortest
import Meetings.Request.Registration
import Meetings.Service.People

namespace Meetings

open Meetings.Text

/-- Both services over one store, and the limits of requests. -/
structure Pipeline (σ : Type) where
  scheduler : Scheduler σ
  people : PeopleStore σ
  /-- The most participants of a request. -/
  maxParticipants : Int
  /-- Requests that take longer, in milliseconds, are reported as slow. -/
  slowRequest : Int

/-- The readings of the clock, in seconds, at the start and the end of a request. -/
structure Ticks where
  started : Binary64
  ended : Binary64

/-- The two readings are equal. -/
def Ticks.none : Ticks := ⟨.zero, .zero⟩

/-- Milliseconds between two readings. -/
def Ticks.elapsed (t : Ticks) : Binary64 := (t.ended.minus t.started).times (.ofInt 1000)

namespace Pipeline

variable {σ α : Type}

/-- What is logged about a request and its outcome. -/
def observation (slowRequest : Int) (operation : String) (t : Ticks)
    (outcome : Except Failure α) : List LogLine :=
  let took := t.elapsed.places 1 ++ "ms"
  let result : LogLine := match outcome with
    | .ok _ => ⟨.debug, operation ++ " succeeded in " ++ took⟩
    | .error f =>
      ⟨.warning, operation ++ " failed in " ++ took ++ ": " ++ f.kind.code ++ " - " ++ f.message⟩
  result ::
    if t.elapsed.exceeds slowRequest then
      [⟨.warning, "Slow request detected: " ++ operation ++ " took " ++ took⟩]
    else []

/-- Carries out a request and reports it. -/
def observed (p : Pipeline σ) (operation : String) (t : Ticks)
    (action : Action σ (Except Failure α)) : Action σ (Except Failure α) := do
  let outcome ← action
  Action.writeAll (observation p.slowRequest operation t outcome)
  return outcome

/-- Goes on with a request for a meeting that is read and checked. -/
def withRequest (parsed : Except Fault (Except RequestFault MeetingRequest))
    (act : MeetingRequest → Action σ (Except Failure α)) : Action σ (Except Failure α) := do
  match ← Action.lift parsed with
  | .error fault => return .error (.request fault)
  | .ok r => act r

/-- Books the earliest slot of a request. -/
def book (p : Pipeline σ) (t : Ticks)
    (parsed : Except Fault (Except RequestFault MeetingRequest)) :
    Action σ (Except Failure BookingView) :=
  p.observed "schedule" t (withRequest parsed p.scheduler.schedule)

/-- Finds the earliest slot of a request without booking it. -/
def look (p : Pipeline σ) (t : Ticks)
    (parsed : Except Fault (Except RequestFault MeetingRequest)) :
    Action σ (Except Failure Utc) :=
  p.observed "find" t <| withRequest parsed fun r => do
    match ← p.scheduler.find r.people (some r.duration) r.earliest.zoned r.latest.zoned with
    | none => return .error .noSlot
    | some slot => return .ok slot

/-- Books the earliest slot of a raw request. -/
def schedule (p : Pipeline σ) (t : Ticks) (now : Option Zoned) (data : Json) :
    Action σ (Except Failure BookingView) :=
  p.book t (MeetingRequest.parse p.maxParticipants now data)

/-- Finds the earliest slot of a raw request without booking it. -/
def find (p : Pipeline σ) (t : Ticks) (now : Option Zoned) (data : Json) :
    Action σ (Except Failure Utc) :=
  p.look t (MeetingRequest.parse p.maxParticipants now data)

/-- Books the earliest slot of a request whose fields need no reading. -/
def scheduleFields (p : Pipeline σ) (t : Ticks) (now : Option Zoned)
    (f : MeetingRequest.Fields) : Action σ (Except Failure BookingView) :=
  p.book t ((MeetingRequest.ofFields p.maxParticipants now f).mapError .time)

/-- Finds the earliest slot of a request whose fields need no reading. -/
def findFields (p : Pipeline σ) (t : Ticks) (now : Option Zoned)
    (f : MeetingRequest.Fields) : Action σ (Except Failure Utc) :=
  p.look t ((MeetingRequest.ofFields p.maxParticipants now f).mapError .time)

/-- Registers the participant of a raw request. -/
def register (p : Pipeline σ) (t : Ticks) (data : Json) :
    Action σ (Except Failure Participant) :=
  p.observed "create_participant" t do
    match ← Action.lift (parseRegistration data) with
    | .error fault => return .error (.nameRequest fault)
    | .ok name => p.people.register (.str name)

/-- Lists the bookings of a participant. -/
def bookings (p : Pipeline σ) (t : Ticks) (id : Int) :
    Action σ (Except Failure (List BookingView)) :=
  p.observed "participant_bookings" t (p.people.bookings id)

end Pipeline

end Meetings
