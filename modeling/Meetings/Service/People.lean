/-
Registering participants and listing their bookings.

* `PeopleStore` — what this needs of a store;
* `PeopleStore.register` — checks a name and adds a participant;
* `PeopleStore.bookings` — the bookings of a participant with the records of all
  who take part; people without a record are left out.

Design notes: before the records are fetched the references of all bookings are
put in order, which is impossible for references of different kinds.
-/
import Meetings.Json.Shown
import Meetings.Service.Scheduling

namespace Meetings

open Meetings.Text

/-- What the service for people needs of a store with states `σ`. -/
structure PeopleStore (σ : Type) where
  add : Participant → Action σ Participant
  participant : Int → Action σ (Option Participant)
  among : List PersonRef → Action σ (List Participant)
  all : Action σ (List Participant)
  /-- The bookings of a participant, by start and id. -/
  bookingsOf : Int → Action σ (List Booking)

/-- Two references can be put in order. -/
def comparable : PersonRef → PersonRef → Bool
  | .text _, .text _ => true
  | .text _, _ | _, .text _ => false
  | .missing, _ | _, .missing => false
  | _, _ => true

/-- The first two neighbours that cannot be put in order. -/
def unorderedNeighbours : List PersonRef → Option (PersonRef × PersonRef)
  | a :: b :: rest => if comparable a b then unorderedNeighbours (b :: rest) else some (a, b)
  | _ => none

namespace PeopleStore

variable {σ : Type}

/-- Adds a participant with a raw value for a name. -/
def register (s : PeopleStore σ) (name : Json) : Action σ (Except Failure Participant) := do
  Action.info ("Creating participant with name: " ++ name.display)
  match Participant.make none name with
  | .error fault =>
    Action.warn ("Participant creation failed for " ++ name.shown ++ ": " ++ fault.message)
    return .error (.name fault)
  | .ok p =>
    let created ← s.add p
    Action.info ("Created participant " ++ displayOptional created.id ++ " with name: " ++
      created.name)
    return .ok created

/-- The people of some bookings, each once. -/
def peopleOf (bookings : List Booking) : List PersonRef :=
  withoutRepeats (bookings.flatMap (·.people))

/-- The bookings of a participant, with the records of all who take part. -/
def bookings (s : PeopleStore σ) (id : Int) : Action σ (Except Failure (List BookingView)) := do
  match ← s.participant id with
  | none => Action.lift (notFound id)
  | some _ =>
    let found ← s.bookingsOf id
    if found.isEmpty then return .ok []
    let people := peopleOf found
    if let some (a, b) := unorderedNeighbours people then
      throw (.unordered b.kindName a.kindName)
    let known ← s.among people
    return .ok (found.map fun b => ⟨b, recordsOf b.people known⟩)

end PeopleStore

end Meetings
