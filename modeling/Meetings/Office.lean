/-
An archive in use: the collaborators that the services need, over one archive,
and the events that were announced.

* `Office` — an archive and the deliveries of events that nobody has fetched;
* `Office.collaborator`, `Office.peopleStore` — the archive as the services see
  it;
* `Office.pipeline` — the services over an office.
-/
import Meetings.Archive
import Meetings.Service.Pipeline

namespace Meetings

/-- An event that was handed to one of those who listen. -/
structure Delivery where
  /-- The place of the listener among all, from 0. -/
  listener : Nat
  event : Event
deriving DecidableEq, Repr

/-- An archive and the deliveries of events that nobody has fetched. -/
structure Office where
  archive : Archive
  outbox : List Delivery

namespace Office

/-- Runs an action on the archive. -/
def onArchive {α : Type} (action : Action Archive α) : Action Office α :=
  action.zoom (·.archive) (fun a o => { o with archive := a })

/-- The store of an office. -/
def store : Action Office Store := return (← Action.state).archive.store

/-- The archive as the scheduler sees it. -/
def collaborator : Collaborator Office where
  participants people := return (← store).participantsAmong (people.map .number)
  lookup people start stop := do
    let found ← onArchive (Archive.overlapping people start.instant stop.instant)
    return found.map fun b => some b.commitment
  add b := onArchive (Archive.addBooking b)

/-- The archive as the service for people sees it. -/
def peopleStore : PeopleStore Office where
  add p := onArchive (Archive.addParticipant p)
  participant id := return (← store).participant? id
  among refs := return (← store).participantsAmong refs
  all := return (← store).participantList
  bookingsOf id := onArchive (Archive.participantBookings id)

/-- A listener that keeps what it is told. -/
def listener (place : Nat) (e : Event) (o : Office) : Office :=
  { o with outbox := o.outbox ++ [⟨place, e⟩] }

/-- The services over an office, with so many listeners. -/
def pipeline (grid : Grid) (now : Utc) (listeners : Nat) (maxParticipants slowRequest : Int) :
    Pipeline Office where
  scheduler := ⟨collaborator, grid, (List.range listeners).map listener, now⟩
  people := peopleStore
  maxParticipants := maxParticipants
  slowRequest := slowRequest

/-- Takes the deliveries that nobody has fetched. -/
def fetch : Action Office (List Delivery) := do
  let o ← Action.state
  Action.setState { o with outbox := [] }
  return o.outbox

end Office

end Meetings
