/-
Operations on an office, and what each of them does to it.

* `Operation.perform` — registering, scheduling, finding and listing, as the
  services carry them out;
* `Change` — what an operation does: it answers, or it puts a store in the place
  of the store, writes its file, and answers if that succeeds;
* `Operation.change` — the change of an operation, from the store alone.

Design notes: an operation looks at the store and at nothing else of an office,
and it writes at most once, at its end.  That the services do what these changes
say is `perform_does`; statements about runs are proved of changes, and none of
them goes through the services again.
-/
import Meetings.Proofs.Archive
import Meetings.Proofs.Service.Lookup

namespace Meetings

/-- What the services of an office are set up with. -/
structure Settings where
  grid : Grid
  /-- When bookings are announced. -/
  now : Utc
  /-- How many listen to announcements. -/
  listeners : Nat
  maxParticipants : Int
  slowRequest : Int

/-- The services over an office. -/
def Settings.pipeline (set : Settings) : Pipeline Office :=
  Office.pipeline set.grid set.now set.listeners set.maxParticipants set.slowRequest

/-- A request for a meeting as it comes in, and the time it is checked against. -/
inductive Asked where
  | raw (now : Option Zoned) (data : Json)
  | read (now : Option Zoned) (f : MeetingRequest.Fields)

/-- The request, read and checked. -/
def Asked.parsed (limit : Int) : Asked → Except Fault (Except RequestFault MeetingRequest)
  | raw now data => MeetingRequest.parse limit now data
  | read now f => (MeetingRequest.ofFields limit now f).mapError .time

/-- The operations of an office. -/
inductive Operation where
  | create (t : Ticks) (data : Json)
  | schedule (t : Ticks) (asked : Asked)
  | find (t : Ticks) (asked : Asked)
  | bookings (t : Ticks) (id : Int)
  | list

/-- The answer to an operation. -/
inductive Answer where
  | participant (answer : Except Failure Participant)
  | booking (answer : Except Failure BookingView)
  | slot (answer : Except Failure Utc)
  | views (answer : Except Failure (List BookingView))
  | listing (participants : List Participant)
deriving Repr

/-- Carries out an operation. -/
def Operation.perform (p : Pipeline Office) : Operation → Action Office Answer
  | create t data => return .participant (← p.register t data)
  | schedule t (.raw now data) => return .booking (← p.schedule t now data)
  | schedule t (.read now f) => return .booking (← p.scheduleFields t now f)
  | find t (.raw now data) => return .slot (← p.find t now data)
  | find t (.read now f) => return .slot (← p.findFields t now f)
  | bookings t id => return .views (← p.bookings t id)
  | list => return .listing (← p.people.all)

/-- What an operation does to an office. -/
inductive Change (α : Type) where
  /-- It answers, or stops with a fault, and changes nothing. -/
  | answer (result : Except Fault α)
  /-- It puts a store in the place of the store and writes its file; if that
  succeeds, it tells the listeners and answers. -/
  | put (store : Store) (told : List Delivery) (result : α)

/-- A store in the place of the store of an archive, with its file written: the
fault of writing it, and the archive this leaves. -/
def Archive.replaced (a : Archive) (s : Store) : Option Fault × Archive :=
  kept { a with store := s }

namespace Change

variable {α β : Type}

/-- The result of a change, and the office it leaves. -/
def apply (o : Office) : Change α → Except Fault α × Office
  | answer result => (result, o)
  | put store told result =>
    let after := Archive.replaced o.archive store
    (Archive.outcome after.1 result,
      ⟨after.2, if after.1.isNone then o.outbox ++ told else o.outbox⟩)

theorem apply_put_saved {o : Office} {store : Store} {told : List Delivery} {result : α}
    (h : (Archive.replaced o.archive store).1 = none) : (put store told result).apply o =
      (.ok result, ⟨(Archive.replaced o.archive store).2, o.outbox ++ told⟩) := by
  simp only [apply, h]
  rfl

theorem apply_put_failed {o : Office} {store : Store} {told : List Delivery} {result : α}
    {fault : Fault} (h : (Archive.replaced o.archive store).1 = some fault) :
    (put store told result).apply o =
      (.error fault, ⟨(Archive.replaced o.archive store).2, o.outbox⟩) := by
  simp only [apply, h]
  rfl

/-- A change with another answer. -/
def map (f : α → β) : Change α → Change β
  | answer result => .answer (result.map f)
  | put store told result => .put store told (f result)

/-- What is done with a slot, if one is found. -/
def onSlot (found : Except Fault (Option Utc)) (change : Utc → Change (Except Failure α)) :
    Change (Except Failure α) :=
  match found with
  | .error fault => .answer (.error fault)
  | .ok none => .answer (.ok (.error .noSlot))
  | .ok (some slot) => change slot

end Change

namespace Store

/-- The commitments that a store knows to stand in the way of some people. -/
def inTheWay (s : Store) (people : List Int) (start stop : Zoned) :
    Except Fault (List (Option Commitment)) :=
  if people.isEmpty then .ok []
  else do
    let (first, last) ← (daysTouched start stop).mapError .time
    return commitmentsOf (s.overlapping (people.map .number) first.instant last.instant)

/-- The earliest slot of some people in a window, as far as a store knows. -/
def slot (s : Store) (g : Grid) (people : List Int) (duration : Int) (start stop : Zoned) :
    Except Fault (Option Utc) := do
  slotAmong g people (some duration) start stop (← s.inTheWay people start stop)

/-- Within the window, what stands in the way is as good as all bookings. -/
theorem sameWithin_of_inTheWay {s : Store} {people : List Int} {start stop : Zoned}
    {found : List (Option Commitment)} (h : s.inTheWay people start stop = .ok found) :
    SameWithin (people.map .number) start.instant stop.instant found
      (commitmentsOf s.bookings) := by
  unfold inTheWay at h
  split at h
  · next hnobody =>
    -- Nobody shares a person with anybody.
    rw [List.isEmpty_iff.mp hnobody]
    rintro c ⟨⟩
  · obtain ⟨⟨first, last⟩, hdays, h⟩ := bind_eq_ok.mp h
    cases h
    obtain ⟨hfirst, hlast⟩ := daysTouched_spec (mapError_eq_ok.mp hdays)
    rw [Moment.instant_utc, Moment.instant_utc]
    exact (sees_overlapping s _ _ _).sameWithin hfirst (Int.le_of_lt hlast)

/-- What registering a participant does. -/
def registering (s : Store) (data : Json) : Change (Except Failure Participant) :=
  match parseRegistration data with
  | .error fault => .answer (.error fault)
  | .ok (.error fault) => .answer (.ok (.error (.nameRequest fault)))
  | .ok (.ok name) =>
    match Participant.make none (.str name) with
    | .error fault => .answer (.ok (.error (.name fault)))
    | .ok p => .put (s.joined p.name) [] (.ok ⟨some s.nextParticipant, p.name⟩)

/-- The deliveries of the announcement of a booking. -/
def announcements (s : Store) (set : Settings) (b : Booking) : List Delivery :=
  (List.range set.listeners).map fun place =>
    ⟨place, (Event.announce set.now b).withBookingId (s.saved b).id⟩

/-- What booking a slot does for a request whose people were looked up before. -/
def booking (s : Store) (set : Settings) (r : MeetingRequest) (known : List Participant)
    (slot : Utc) : Change (Except Failure BookingView) :=
  match slot.plusMinutes r.duration with
  | .error fault => .answer (.error (.time fault))
  | .ok stop =>
    match Booking.ofUtc none (r.people.map .number) slot stop with
    | .error fault => .answer (.ok (.error (.booking fault)))
    | .ok b =>
      .put (s.booked b) (s.announcements set b)
        (.ok ⟨s.saved b, recordsOf (s.saved b).people known⟩)

/-- What scheduling a meeting does. -/
def scheduling (s : Store) (set : Settings) (r : MeetingRequest) :
    Change (Except Failure BookingView) :=
  match missingPeople r.people (s.participantsAmong (r.people.map .number)) with
  | first :: _ => .answer (notFound first)
  | [] =>
    .onSlot (s.slot set.grid r.people r.duration r.earliest.zoned r.latest.zoned)
      (s.booking set r (s.participantsAmong (r.people.map .number)))

/-- What finding a slot does. -/
def finding (s : Store) (set : Settings) (r : MeetingRequest) : Change (Except Failure Utc) :=
  .onSlot (s.slot set.grid r.people r.duration r.earliest.zoned r.latest.zoned) fun slot =>
    .answer (.ok (.ok slot))

/-- What listing the bookings of a participant answers. -/
def views (s : Store) (id : Int) : Except Fault (Except Failure (List BookingView)) :=
  match s.participant? id with
  | none => notFound id
  | some _ =>
    let found := s.bookingsOf (.number id)
    if found.isEmpty then .ok (.ok [])
    else
      let people := PeopleStore.peopleOf found
      match unorderedNeighbours people with
      | some (a, b) => .error (.unordered b.kindName a.kindName)
      | none =>
        .ok (.ok (found.map fun b => ⟨b, recordsOf b.people (s.participantsAmong people)⟩))

end Store

/-- What is done with a request, once it is read and checked. -/
def Asked.change {α : Type} (asked : Asked) (limit : Int)
    (change : MeetingRequest → Change (Except Failure α)) : Change (Except Failure α) :=
  match asked.parsed limit with
  | .error fault => .answer (.error fault)
  | .ok (.error fault) => .answer (.ok (.error (.request fault)))
  | .ok (.ok r) => change r

/-- What an operation does, as it follows from the store. -/
def Operation.change (set : Settings) (s : Store) : Operation → Change Answer
  | create _ data => (s.registering data).map .participant
  | schedule _ asked => (asked.change set.maxParticipants (s.scheduling set)).map .booking
  | find _ asked => (asked.change set.maxParticipants (s.finding set)).map .slot
  | bookings _ id => (Change.answer (s.views id)).map .views
  | list => .answer (.ok (.listing s.participantList))

end Meetings
