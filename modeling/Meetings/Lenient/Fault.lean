/-
Why a raw value is not read as the kind of value a field asks for.

* `MomentTextFault` — the first thing wrong with the text of a date;
* `LenientFault` — the reason for any field, with `LenientFault.message` and
  the code `LenientFault.code` of its kind.
-/

namespace Meetings

/-- The first thing wrong with a text read as a date, or with a count of seconds
read as a time. -/
inductive MomentTextFault where
  | tooShort
  | badYear
  | badMonth
  | badDay
  | badSeparator
  | monthOutOfRange
  | dayOutOfRange
  | yearZero
  | extraCharacters
  | tooLate
  | tooEarly
  | notANumber
deriving DecidableEq, Repr

/-- What is said about a text read as a date. -/
def MomentTextFault.message : MomentTextFault → String
  | tooShort => "input is too short"
  | badYear => "invalid character in year"
  | badMonth => "invalid character in month"
  | badDay => "invalid character in day"
  | badSeparator => "invalid date separator, expected \x60-\x60"
  | monthOutOfRange => "month value is outside expected range of 1-12"
  | dayOutOfRange => "day value is outside expected range"
  | yearZero => "year 0 is out of range"
  | extraCharacters => "unexpected extra characters at the end of the input"
  | tooLate => "dates after 9999 are not supported as unix timestamps"
  | tooEarly => "dates before 0000 are not supported as unix timestamps"
  | notANumber => "NaN values not permitted"

/-- Why a raw value does not suit a field. -/
inductive LenientFault where
  | absent
  | notInteger
  | unreadableInteger
  | overlongInteger
  | fractional
  | notFinite
  | notText
  /-- Bytes stand for a text, but are none. -/
  | undecodable
  | notList
  | notMoment
  | momentText (fault : MomentTextFault)
deriving DecidableEq, Repr

/-- The code of the kind of a fault. -/
def LenientFault.code : LenientFault → String
  | absent => "missing"
  | notInteger => "int_type"
  | unreadableInteger => "int_parsing"
  | overlongInteger => "int_parsing_size"
  | fractional => "int_from_float"
  | notFinite => "finite_number"
  | notText => "string_type"
  | undecodable => "string_unicode"
  | notList => "list_type"
  | notMoment => "datetime_type"
  | momentText _ => "datetime_from_date_parsing"

/-- What is said about a raw value that does not suit a field. -/
def LenientFault.message : LenientFault → String
  | absent => "Field required"
  | notInteger => "Input should be a valid integer"
  | unreadableInteger =>
    "Input should be a valid integer, unable to parse string as an integer"
  | overlongInteger =>
    "Unable to parse input string as an integer, exceeded maximum size"
  | fractional =>
    "Input should be a valid integer, got a number with a fractional part"
  | notFinite => "Input should be a finite number"
  | notText => "Input should be a valid string"
  | undecodable =>
    "Input should be a valid string, unable to parse raw data as a unicode string"
  | notList => "Input should be a valid list"
  | notMoment => "Input should be a valid datetime"
  | momentText fault => fault.message

end Meetings
