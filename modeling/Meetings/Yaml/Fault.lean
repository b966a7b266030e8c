/-
Why a text is no YAML document.

* `ScalarFault` — a scalar whose text does not suit its type;
* `YamlFault` — the faults of a document, with `YamlFault.message`.

Design notes: a malformed document is one fault whatever is wrong with it, for
nothing that reads a document asks for more.
-/
import Meetings.Number.Numeral

namespace Meetings

open Meetings.Text

/-- The part of a time that is out of range. -/
inductive TimestampPart where
  | year
  | month
  | day
  | hour
  | minute
  | second
deriving DecidableEq, Repr

/-- What is said about a part of a time that is out of range; only the year zero
is one that can be written. -/
def TimestampPart.message : TimestampPart → String
  | year => "year 0 is out of range"
  | month => "month must be in 1..12"
  | day => "day is out of range for month"
  | hour => "hour must be in 0..23"
  | minute => "minute must be in 0..59"
  | second => "second must be in 0..59"

/-- Why the text of a scalar does not suit its type. -/
inductive ScalarFault where
  /-- A number without anything to read. -/
  | emptyNumber
  | notInteger (base : Nat) (text : String)
  | overlongInteger (digits : Nat)
  | notReal (text : String)
  | notBoolean (text : String)
  | notTimestamp
  | outOfRange (part : TimestampPart)
  /-- An offset of a day or more. -/
  | offset (minutes : Int)
  /-- An escape that names no character. -/
  | codePoint (n : Nat)
deriving DecidableEq, Repr

/-- An offset written in days and in seconds from 0 to a day. -/
def offsetText (minutes : Int) : String :=
  let days := minutes / 1440
  let seconds := minutes % 1440 * 60
  "datetime.timedelta(days=" ++ signedDecimal days ++
    (if seconds = 0 then "" else ", seconds=" ++ signedDecimal seconds) ++ ")"

/-- What is said about a scalar whose text does not suit its type. -/
def ScalarFault.message : ScalarFault → String
  | emptyNumber => "string index out of range"
  | notInteger base text =>
    "invalid literal for int() with base " ++ decimal base ++ ": " ++ quoted text
  | overlongInteger digits => NumeralFault.message (.tooLong digits)
  | notReal text => "could not convert string to float: " ++ quoted text
  | notBoolean text => quoted text
  | notTimestamp => "'NoneType' object has no attribute 'groupdict'"
  | outOfRange part => part.message
  | offset minutes =>
    "offset must be a timedelta strictly between -timedelta(hours=24) and " ++
      "timedelta(hours=24), not " ++ offsetText minutes ++ "."
  | codePoint n =>
    if n < 0x80000000 then "chr() arg not in range(0x110000)"
    else "Python int too large to convert to C int"

/-- Why a text is no document. -/
inductive YamlFault where
  | malformed
  | scalar (fault : ScalarFault)
deriving DecidableEq, Repr

end Meetings
