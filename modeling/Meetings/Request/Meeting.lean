/-
Requests for a meeting.

* `MeetingRequest` — who is to meet, for how long, and between which times;
* `MeetingRequest.parse` — reads the four fields of a mapping and checks the
  rules of each, then those of the window;
* `peopleFault`, `durationFault`, `windowFault` — these rules, each in the order
  in which they are checked.

Design notes: every field is read, and the first field with a fault decides.  A
time that has no reading in UTC stops the request whatever else is wrong.
-/
import Meetings.Lenient.Integer
import Meetings.Lenient.Moment
import Meetings.Request.Mapping

namespace Meetings

/-- A request that has passed all rules. -/
structure MeetingRequest where
  people : List Int
  duration : Int
  earliest : Utc
  latest : Utc
deriving DecidableEq, Repr

namespace MeetingRequest

/-- A raw request: fields, each read or faulty. -/
structure Fields where
  people : Except LenientFault (List Int)
  duration : Except LenientFault Int
  earliest : Except LenientFault Utc
  latest : Except LenientFault Utc

/-- Reads a field that may be missing. -/
def readField {α : Type} (read : Json → Except LenientFault α) (m : Mapping) (key : String) :
    Except LenientFault α :=
  match m.field? key with
  | none => .error .absent
  | some value => read value

/-- Reads a time and converts it to UTC. -/
def readUtc (m : Mapping) (key : String) : Except TimeFault (Except LenientFault Utc) :=
  match readField lenientMoment m key with
  | .error fault => .ok (.error fault)
  | .ok z => z.toUtc.map .ok

/-- Reads the four fields. -/
def Fields.ofMapping (m : Mapping) : Except TimeFault Fields := do
  return {
    people := readField lenientIntegers m "participant_ids"
    duration := readField lenientInteger m "duration_minutes"
    earliest := ← readUtc m "earliest_start"
    latest := ← readUtc m "latest_end" }

/-- Fields that need no reading. -/
def Fields.ofValues (people : List Int) (duration : Int) (earliest latest : Utc) : Fields where
  people := .ok people
  duration := .ok duration
  earliest := .ok earliest
  latest := .ok latest

/-- The first rule about people that a request breaks. -/
def peopleFault (limit : Int) (people : List Int) : Option RequestFault :=
  if people.isEmpty then some .nobody
  else if people.any (· ≤ 0) then some .idNotPositive
  else if ¬people.Nodup then some .repeatedParticipant
  else if limit < people.length then some (.tooMany limit)
  else none

/-- The first rule about its duration that a request breaks. -/
def durationFault (duration : Int) : Option RequestFault :=
  if duration ≤ 0 then some .notPositive
  else if duration < shortestMeeting then some .tooBrief
  else if longestMeeting < duration then some .tooLengthy
  else if duration % standardQuantum ≠ 0 then some .offGrid
  else none

/-- The minutes by which a window may start in the past. -/
def pastTolerance : Int := 5

/-- The first rule about its window that a request breaks, as of a time that may
be left open. -/
def windowFault (now : Option Zoned) (r : MeetingRequest) :
    Except TimeFault (Option RequestFault) := do
  if r.latest.wall ≤ r.earliest.wall then return some .windowInverted
  if r.latest.wall < (← r.earliest.plusMinutes r.duration).wall then
    return some .windowTooShort
  if windowLimit * daySpan < r.latest.wall - r.earliest.wall then return some .windowTooLong
  match now with
  | none => return none
  | some now =>
    let threshold ← (← now.toUtc).plusMinutes (-pastTolerance)
    if r.earliest.wall ≤ threshold.wall then return some .inThePast
    return none

/-- The value of a field that is read and obeys its rules. -/
def checked {α : Type} (field : RequestField) (rules : α → Option RequestFault) :
    Except LenientFault α → Except RequestFault α
  | .error fault => .error (.unreadable field fault)
  | .ok value =>
    match rules value with
    | some fault => .error fault
    | none => .ok value

/-- The request of four fields, before its window is checked. -/
def Fields.request (limit : Int) (f : Fields) : Except RequestFault MeetingRequest := do
  let people ← checked .participants (peopleFault limit) f.people
  let duration ← checked .duration durationFault f.duration
  let earliest ← checked .earliestStart (fun _ => none) f.earliest
  let latest ← checked .latestEnd (fun _ => none) f.latest
  return ⟨people, duration, earliest, latest⟩

/-- Checks the fields of a request, then its window. -/
def ofFields (limit : Int) (now : Option Zoned) (f : Fields) :
    Except TimeFault (Except RequestFault MeetingRequest) := do
  match f.request limit with
  | .error fault => return .error fault
  | .ok r =>
    match ← windowFault now r with
    | some fault => return .error fault
    | none => return .ok r

/-- Reads and checks the request of a mapping. -/
def ofMapping (limit : Int) (now : Option Zoned) (m : Mapping) :
    Except TimeFault (Except RequestFault MeetingRequest) := do
  ofFields limit now (← Fields.ofMapping m)

/-- Reads and checks a raw request. -/
def parse (limit : Int) (now : Option Zoned) (data : Json) :
    Except Fault (Except RequestFault MeetingRequest) := do
  let m ← (Mapping.ofJson data).mapError .mapping
  (ofMapping limit now m).mapError .time

end MeetingRequest

end Meetings
