/-
The store of participants and bookings.

* `Store` — participants by id, bookings in the order in which they were added,
  and the ids to be given next;
* `Store.addParticipant`, `Store.addBooking` — give the next id to what has none;
* `Store.participant?`, `Store.participantsAmong`, `Store.participantList`,
  `Store.bookingsOf`, `Store.overlapping` — what a store answers;
* `Store.Valid` — what holds of every store that is built by adding and loading.

Design notes: a store is a plain value and its operations are functions; where a
store is kept and what is logged is a matter of `Archive`.
-/
import Meetings.Booking

namespace Meetings

/-- Participants and bookings, and the ids to be given next. -/
structure Store where
  participants : List Participant
  bookings : List Booking
  nextParticipant : Int
  nextBooking : Int
deriving DecidableEq, Repr

namespace Store

/-- The store without participants and bookings. -/
def empty : Store := ⟨[], [], 1, 1⟩

/-- Puts a participant among others: in the place of one with the same id, else
at the end. -/
def putParticipant : List Participant → Participant → List Participant
  | [], p => [p]
  | q :: rest, p => if q.id = p.id then p :: rest else q :: putParticipant rest p

/-- The participant under an id. -/
def participant? (s : Store) (id : Int) : Option Participant :=
  s.participants.find? fun p => p.id == some id

/-- The participant that a reference refers to. -/
def referent? (s : Store) (r : PersonRef) : Option Participant :=
  r.number?.bind s.participant?

/-- The participants that a list refers to, each once, in the order in which
they are first named. -/
def participantsAmong (s : Store) (refs : List PersonRef) : List Participant :=
  (withoutRepeats refs).filterMap s.referent?

/-- All participants by id. -/
def participantList (s : Store) : List Participant :=
  s.participants.mergeSort fun p q => p.id.getD 0 ≤ q.id.getD 0

/-- The bookings that a reference takes part in, by start and id. -/
def bookingsOf (s : Store) (r : PersonRef) : List Booking :=
  (s.bookings.filter fun b => refersTo b.people r).mergeSort fun a b =>
    a.start.wall < b.start.wall || (a.start.wall == b.start.wall && a.id.getD 0 ≤ b.id.getD 0)

/-- The bookings that meet an interval of time and share a person with a list,
as they were added. -/
def overlapping (s : Store) (people : List PersonRef) (start stop : Instant) : List Booking :=
  s.bookings.filter fun b =>
    overlaps b.start.instant b.stop.instant start stop && sharesPerson b.people people

/-- Adds a participant under the next id. -/
def addParticipant (s : Store) (p : Participant) : Except Fault (Participant × Store) := do
  let assigned ← p.withId s.nextParticipant
  return (assigned, { s with
    participants := putParticipant s.participants assigned
    nextParticipant := s.nextParticipant + 1 })

/-- Adds a booking under the next id. -/
def addBooking (s : Store) (b : Booking) : Except Fault (Booking × Store) := do
  let assigned ← b.withId s.nextBooking
  return (assigned, { s with
    bookings := s.bookings ++ [assigned]
    nextBooking := s.nextBooking + 1 })

/-- The id that follows the largest of some ids; 1 if there are none. -/
def idAfter : List Int → Int
  | [] => 1
  | n :: rest => rest.foldl max n + 1

/-- A store of participants and bookings that have ids. -/
def ofEntities (participants : List Participant) (bookings : List Booking) : Store where
  participants := participants
  bookings := bookings
  nextParticipant := idAfter (participants.filterMap (·.id))
  nextBooking := idAfter (bookings.filterMap (·.id))

/-- Every participant has a valid name and an id that no other one has, every
booking obeys the rules and has an id, and the ids to be given next are above
all ids given. -/
structure Valid (s : Store) : Prop where
  participantIds : ∀ p ∈ s.participants, ∃ id, p.id = some id ∧ id < s.nextParticipant
  participantsOnce : (s.participants.map (·.id)).Nodup
  names : ∀ p ∈ s.participants, ValidName p.name
  bookingIds : ∀ b ∈ s.bookings, ∃ id, b.id = some id ∧ id < s.nextBooking
  bookingRules : ∀ b ∈ s.bookings, b.Valid

/-- No two bookings at different places collide. -/
def ConflictFree (s : Store) : Prop :=
  s.bookings.Pairwise fun a b => a.commitment.conflicts b.commitment = false

end Store

end Meetings
