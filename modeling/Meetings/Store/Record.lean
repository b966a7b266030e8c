/-
Stores as JSON documents.

* `Store.document` — the document of a store: its participants by id and its
  bookings as they were added, each a record;
* `Store.ofDocument?` — the store of a document, or what is wrong with a record.

Design notes: a document without content is an empty store.  The fields of a
record are read in a fixed order, and what they hold is converted as far as it
can be; the ids to be given next follow from the records.
-/
import Meetings.Store

namespace Meetings

/-- A reference to a person as a value. -/
def PersonRef.toJson : PersonRef → Json
  | .number n => .int n
  | .text s => .str s
  | .real x => .real x
  | .flag b => .bool b
  | .missing => .null

/-- A value as a reference to a person. -/
def PersonRef.ofJson : Json → Except RecordFault PersonRef
  | .int n => .ok (.number n)
  | .str s => .ok (.text s)
  | .real x => .ok (.real x)
  | .bool b => .ok (.flag b)
  | .null => .ok .missing
  | value => .error (.unhashable value.kindName)

namespace Store

/-- The record of a participant. -/
def participantRecord (p : Participant) : Json :=
  .obj [("id", (p.id.map Json.int).getD .null), ("name", .str p.name)]

/-- The record of a booking. -/
def bookingRecord (b : Booking) : Json :=
  .obj [
    ("id", (b.id.map Json.int).getD .null),
    ("participantIds", .arr (b.people.map PersonRef.toJson)),
    ("start", .str (Utc.zulu b.start)),
    ("end", .str (Utc.zulu b.stop))]

/-- The document of a store. -/
def document (s : Store) : Json :=
  .obj [
    ("participants", .arr (s.participantList.map participantRecord)),
    ("bookings", .arr (s.bookings.map bookingRecord))]

/-- The elements of a value, one after another: characters of a text, keys of an
object. -/
def elements : Json → Except RecordFault (List Json)
  | .arr items => .ok items
  | .str s => .ok (s.toList.map fun c => .str (String.singleton c))
  | .obj fields => .ok (fields.map fun f => .str f.1)
  | value => .error (.notIterable value.kindName)

/-- The field of a record. -/
def recordField (record : Json) (key : String) : Except RecordFault Json :=
  match record with
  | .obj fields =>
    match lookupField fields key with
    | some value => .ok value
    | none => .error (.missingField key)
  | .str _ => .error .textForRecord
  | .arr _ => .error .listForRecord
  | value => .error (.notRecord value.kindName)

/-- A value as an id: numbers lose their fraction, and text is a numeral. -/
def readId : Json → Except RecordFault Int
  | .int n => .ok n
  | .bool b => .ok (if b then 1 else 0)
  | .real .nan => .error (.numeral .notANumber)
  | .real x =>
    match x.truncate? with
    | some n => .ok n
    | none => .error (.numeral .infinite)
  | .str s => (readNumeral s).mapError .numeral
  | value => .error (.numeral (.notNumber value.kindName))

/-- A value as a time, which may turn out to be a span or a pair. -/
def readTime (now : Utc) : Json → Except RecordFault Reading
  | .str s => (readMoment now s).mapError .reading
  | value => .error (.timeNotText value.kindName)

/-- A time in UTC. -/
def readingUtc : Reading → Except RecordFault Utc
  | .moment z => z.toUtc.mapError .time
  | .span => .error .spanForTime
  | .pair => .error .pairForTime

/-- The participant of a record. -/
def participantOf (record : Json) : Except RecordFault Participant := do
  let name ← recordField record "name"
  let id ← readId (← recordField record "id")
  (Participant.make (some id) name).mapError .name

/-- The booking of a record. -/
def bookingOf (now : Utc) (record : Json) : Except RecordFault Booking := do
  let people ← elements (← recordField record "participantIds")
  let start ← readTime now (← recordField record "start")
  let stop ← readTime now (← recordField record "end")
  let id ← readId (← recordField record "id")
  let start ← readingUtc start
  let stop ← readingUtc stop
  match Booking.timesFault start stop with
  | some fault => throw (.booking fault)
  | none =>
    let people ← people.mapM PersonRef.ofJson
    (Booking.ofUtc (some id) people start stop).mapError .booking

/-- The records under a key of a document; none if the key is absent. -/
def records (fields : List (String × Json)) (key : String) : Except RecordFault (List Json) :=
  match lookupField fields key with
  | some value => elements value
  | none => .ok []

/-- The store of a document that is an object. -/
def ofFields (now : Utc) (fields : List (String × Json)) : Except RecordFault Store := do
  let participants ← (← records fields "participants").foldlM
    (fun found record => (participantOf record).map (putParticipant found)) []
  let bookings ← (← records fields "bookings").mapM (bookingOf now)
  return ofEntities participants bookings

/-- The store of a document; there is none in a document that is not an object
and has content. -/
def ofDocument? (now : Utc) (document : Json) : Option (Except RecordFault Store) :=
  if document.isEmpty then some (ofFields now [])
  else match document with
    | .obj fields => some (ofFields now fields)
    | _ => none

end Store

end Meetings
