/-
Everything that stops an operation short of an answer.

* `Fault` — the causes, grouped by where they arise;
* `Fault.message` — what is said about each.

Design notes: a refusal of a request is an answer and is not among these; see
`Failure`.
-/
import Meetings.Store.Fault
import Meetings.Text.Utf8

namespace Meetings

open Meetings.Text

/-- Why a raw request is not a mapping from names to values. -/
inductive MappingFault where
  | notIterable (kindName : String)
  /-- An element of a list is no pair, and not even a sequence. -/
  | notSequence (position : Nat)
  | wrongLength (position length : Nat)
  /-- A list or an object stands in the place of a key. -/
  | unhashable (kindName : String)
deriving DecidableEq, Repr

/-- What is said about a raw request that is no mapping. -/
def MappingFault.message : MappingFault → String
  | notIterable kindName => "'" ++ kindName ++ "' object is not iterable"
  | notSequence position =>
    "cannot convert dictionary update sequence element #" ++ decimal position ++
      " to a sequence"
  | wrongLength position length =>
    "dictionary update sequence element #" ++ decimal position ++ " has length " ++
      decimal length ++ "; 2 is required"
  | unhashable kindName => "unhashable type: '" ++ kindName ++ "'"

/-- Why an operation stops. -/
inductive Fault where
  | time (fault : TimeFault)
  | booking (fault : BookingFault)
  | name (fault : NameFault)
  | bookingHasId (id : Int)
  | participantHasId (id : Int)
  | mapping (fault : MappingFault)
  | storage (fault : StorageFault)
  /-- A record's fault that no store takes for its own. -/
  | record (fault : RecordFault)
  | notUtf8 (fault : Utf8Fault)
  /-- A number of a document has too many digits. -/
  | numeral (fault : NumeralFault)
  /-- The arrays or objects of a document are nested too deeply to be read. -/
  | tooDeep (inArray : Bool)
  /-- References of two kinds were to be put in order. -/
  | unordered (left right : String)
  /-- A path is one that no file can have. -/
  | badPath (fault : FileFault)
  /-- A number has too many digits to be put into a message. -/
  | unprintable
deriving DecidableEq, Repr

/-- What is said about a fault. -/
def Fault.message : Fault → String
  | time fault => fault.message
  | booking fault => fault.message
  | name fault => fault.message
  | bookingHasId id => "Booking already has id " ++ signedDecimal id
  | participantHasId id => "Participant already has id " ++ signedDecimal id
  | mapping fault => fault.message
  | storage fault => fault.message
  | record fault => fault.message
  | notUtf8 fault => fault.message
  | numeral fault => fault.message
  | tooDeep inArray =>
    "maximum recursion depth exceeded while decoding a JSON " ++
      (if inArray then "array" else "object") ++ " from a unicode string"
  | unordered left right =>
    "'<' not supported between instances of '" ++ left ++ "' and '" ++ right ++ "'"
  | badPath fault => fault.message
  | unprintable => NumeralFault.message .tooLongToWrite

end Meetings
