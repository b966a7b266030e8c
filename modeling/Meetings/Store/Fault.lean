/-
Why stored data cannot be read, and why it cannot be saved.

* `RecordFault` — what is wrong with a record of a data file, in the order in
  which its parts are read;
* `StorageFault` — why a store fails, with `StorageFault.message`;
* `RecordFault.escapes` — the faults that loading a file does not turn into a
  failure of the store.
-/
import Meetings.Disk.Fault
import Meetings.Failure
import Meetings.Json.Fault
import Meetings.Moment.Reading
import Meetings.Moment.Written
import Meetings.Number.Numeral

namespace Meetings

open Meetings.Text

/-- What is wrong with a record, or with a list of records. -/
inductive RecordFault where
  | missingField (key : String)
  | notIterable (kindName : String)
  /-- A value without fields stands in the place of a record. -/
  | notRecord (kindName : String)
  | textForRecord
  | listForRecord
  /-- A list or an object stands in the place of a reference to a person. -/
  | unhashable (kindName : String)
  | numeral (fault : NumeralFault)
  /-- A time is not given as text. -/
  | timeNotText (kindName : String)
  | reading (fault : ReadingFault)
  /-- A time turns out to be a span. -/
  | spanForTime
  /-- A time turns out to be a pair of times. -/
  | pairForTime
  | time (fault : TimeFault)
  | name (fault : NameFault)
  | booking (fault : BookingFault)
deriving DecidableEq, Repr

/-- What is said about a record. -/
def RecordFault.message : RecordFault → String
  | missingField key => quoted key
  | notIterable kindName => "'" ++ kindName ++ "' object is not iterable"
  | notRecord kindName => "'" ++ kindName ++ "' object is not subscriptable"
  | textForRecord => "string indices must be integers, not 'str'"
  | listForRecord => "list indices must be integers or slices, not str"
  | unhashable kindName => "unhashable type: '" ++ kindName ++ "'"
  | numeral fault => fault.message
  | timeNotText kindName =>
    "argument 'input': '" ++ kindName ++ "' object cannot be converted to 'PyString'"
  | reading fault => fault.message
  | spanForTime => "'Duration' object has no attribute 'tzinfo'"
  | pairForTime => "'Interval' object has no attribute 'tzinfo'"
  | time fault => fault.message
  | name fault => fault.message
  | booking fault => fault.message

/-- Faults that are not counted as a broken record: what leaves the range of
numbers or of the calendar, and what is no moment. -/
def RecordFault.escapes : RecordFault → Bool
  | numeral .infinite => true
  | reading .emptySide => true
  | spanForTime | pairForTime => true
  | time fault => fault = .outsideCalendar
  | _ => false

/-- Why a store fails. -/
inductive StorageFault where
  | unreadable (file : String) (fault : FileFault)
  | malformed (file : String) (fault : JsonFault)
  | notMapping (file : String)
  | badRecord (file : String) (fault : RecordFault)
  | unwritable (file : String) (fault : FileFault)
  /-- A collaborator in the place of a store fails in its own words. -/
  | reported (message : String)
deriving DecidableEq, Repr

/-- What is said about a failing store. -/
def StorageFault.message : StorageFault → String
  | unreadable file fault => "Could not read data file " ++ file ++ ": " ++ fault.message
  | malformed file fault => "Could not read data file " ++ file ++ ": " ++ fault.message
  | notMapping file =>
    "Data file " ++ file ++ " must contain a mapping at the root level."
  | badRecord file fault => "Invalid record in " ++ file ++ ": " ++ fault.message
  | unwritable file fault => "Could not write data file " ++ file ++ ": " ++ fault.message
  | reported message => message

end Meetings
