/-
A store together with the disk it is kept on.

* `Archive` — a store, the file it is kept in if there is one, and the disk;
* `Archive.load` — reads the store of a file; a file that is absent is an empty
  store;
* `Archive.write` — writes the file of a store;
* `Archive.addParticipant`, `Archive.addBooking` — add to the store, then write
  its file;
* `Archive.participantBookings`, `Archive.overlapping` — queries that are
  logged.

Design notes: the store is changed before its file is written.  When writing
fails the change stays, and the next file that is written holds it.
-/
import Meetings.Disk
import Meetings.Json.Printer
import Meetings.Json.Reader
import Meetings.Slot.Report
import Meetings.Store.Record
import Meetings.Text.Lines
import Meetings.Text.Quoted

namespace Meetings

open Meetings.Text

/-- A store and where it is kept. -/
structure Archive where
  store : Store
  /-- The file of the store; a store without one is kept in memory only. -/
  file : Option Path
  disk : Disk

namespace Archive

/-- The text of the file of a store. -/
def fileText (s : Store) : String := s.document.pretty

/-- The store in the bytes of a file. -/
def decode (now : Utc) (file : Path) (bytes : List UInt8) : Except Fault Store := do
  let text ← (decodeUtf8 bytes).mapError Fault.notUtf8
  let text := String.ofList (unifyLines text.toList)
  match Json.read text with
  | .error (.problem what left) =>
    throw (.storage (.malformed file.display (Json.located text what left)))
  | .error (.tooDeep inArray) => throw (.tooDeep inArray)
  | .error (.overlong digits) => throw (.numeral (.tooLong digits))
  | .ok document =>
    match Store.ofDocument? now document with
    | none => throw (.storage (.notMapping file.display))
    | some (.ok store) => return store
    | some (.error fault) =>
      throw (if fault.escapes then .record fault else .storage (.badRecord file.display fault))

/-- Reads the store of a file. -/
def load (now : Utc) (file : Path) (disk : Disk) : Except Fault Store :=
  if disk.has file then do
    let bytes ← (disk.read file).mapError fun fault =>
      .storage (.unreadable file.display fault)
    decode now file bytes
  else .ok Store.empty

/-- What is logged about a store that was read from a file. -/
def loadReport (s : Store) (file : Path) : LogLine :=
  ⟨.debug, "Loaded " ++ decimal s.participants.length ++ " participants and " ++
    decimal s.bookings.length ++ " bookings from " ++ file.display⟩

/-- An archive that is kept in memory only. -/
def inMemory (disk : Disk) : Archive := ⟨Store.empty, none, disk⟩

/-- Opens the archive of a file; only a file that is there is reported. -/
def openFile {σ : Type} (now : Utc) (file : Path) (disk : Disk) : Action σ Archive := do
  let store ← Action.lift (load now file disk)
  if disk.has file then Action.writeAll [loadReport store file]
  return ⟨store, some file, disk⟩

/-- What the fault of writing a file is to its store; a path that no file can have
is refused as it is. -/
def savingFault (file : Path) : FileFault → Fault
  | .nullCharacter => .badPath .nullCharacter
  | fault => .storage (.unwritable file.display fault)

/-- Writes a store to a file; with a fault comes the disk as it was left.  A
number with too many digits ends the writing within the temporary file. -/
def write (s : Store) (file : Path) (disk : Disk) : Option Fault × Disk :=
  match s.document.cut with
  | none =>
    let (fault, disk) := disk.save file (encodeUtf8 (fileText s))
    (fault.map (savingFault file), disk)
  | some written =>
    let (fault, disk) := disk.writeTemporary file (encodeUtf8 written)
    (some ((fault.map (savingFault file)).getD (.numeral .tooLongToWrite)), disk)

/-- Writes the file of a store, if it has one. -/
def keep : Action Archive Unit := do
  let a ← Action.state
  match a.file with
  | none => return
  | some file =>
    let (fault, disk) := write a.store file a.disk
    Action.setState { a with disk := disk }
    if let some fault := fault then throw fault

/-- Adds a participant. -/
def addParticipant (p : Participant) : Action Archive Participant := do
  let a ← Action.state
  let (assigned, store) ← Action.lift (a.store.addParticipant p)
  Action.setState { a with store := store }
  keep
  return assigned

/-- Adds a booking. -/
def addBooking (b : Booking) : Action Archive Booking := do
  Action.debug ("Adding booking for participants " ++
    parenthesized (b.people.map PersonRef.shown) ++ " at " ++ b.start.spaced ++ " - " ++
    b.stop.spaced)
  let a ← Action.state
  let (assigned, store) ← Action.lift (a.store.addBooking b)
  Action.setState { a with store := store }
  keep
  Action.info ("Saved booking " ++ displayOptional assigned.id)
  return assigned

/-- The bookings of a participant, by start and id. -/
def participantBookings (id : Int) : Action Archive (List Booking) := do
  let found := (← Action.state).store.bookingsOf (.number id)
  Action.debug ("Found " ++ decimal found.length ++ " bookings for participant " ++
    signedDecimal id)
  return found

/-- The bookings that may stand in the way of some people between two times. -/
def overlapping (people : List Int) (start stop : Instant) : Action Archive (List Booking) := do
  let found := (← Action.state).store.overlapping (people.map .number) start stop
  Action.debug ("Found " ++ decimal found.length ++
    " potentially conflicting bookings for participants " ++
    bracketed (people.map signedDecimal))
  return found

end Archive

end Meetings
