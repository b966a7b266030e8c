/-
Values of YAML documents as they are shown in messages.

* `Value.shown` — a value, text in quotes;
* `Value.kindName` — the word for the kind of a value;
* `shortened` — a text of at most 50 bytes, without its middle if it is longer.
-/
import Meetings.Number.Shortest
import Meetings.Text.Quoted
import Meetings.Yaml.Value

namespace Meetings.Yaml

open Meetings.Text

/-- A byte inside quotes. -/
def shownByte (quote : Char) (b : UInt8) : List Char :=
  let c := Char.ofNat b.toNat
  if b < 0x80 then escapedIn quote c else '\\' :: 'x' :: hexChars 2 b.toNat

/-- Bytes in quotes. -/
def shownBytes (bs : List UInt8) : String :=
  let quote := if bs.contains 0x27 && !bs.contains 0x22 then '\x22' else '\x27'
  String.ofList ('b' :: quote :: bs.flatMap (shownByte quote) ++ [quote])

/-- An offset in minutes as the zone it stands for. -/
def shownOffset (minutes : Int) : String :=
  if minutes = 0 then "datetime.timezone.utc"
  else
    let days := minutes / 1440
    let seconds := minutes % 1440 * 60
    "datetime.timezone(datetime.timedelta(" ++
      (if days = 0 then "" else "days=" ++ signedDecimal days ++
        (if seconds = 0 then "" else ", ")) ++
      (if seconds = 0 then "" else "seconds=" ++ signedDecimal seconds) ++ "))"

/-- A day with the time of the day and the offset, as far as they are given. -/
def shownTimestamp (t : Timestamp) : String :=
  let day := [t.date.year, t.date.month, t.date.day].map decimal
  match t.time with
  | none => "datetime.date(" ++ ", ".intercalate day ++ ")"
  | some time =>
    let parts :=
      if time.microsecond != 0 then [time.hour, time.minute, time.second, time.microsecond]
      else if time.second != 0 then [time.hour, time.minute, time.second]
      else [time.hour, time.minute]
    let zone := (time.offset.map fun minutes => "tzinfo=" ++ shownOffset minutes).toList
    "datetime.datetime(" ++ ", ".intercalate (day ++ parts.map decimal ++ zone) ++ ")"

namespace Value

mutual

/-- A value, text in quotes. -/
def shown : Value → String
  | null => "None"
  | bool b => if b then "True" else "False"
  | int n => signedDecimal n
  | real x => x.shortest
  | text s => quoted s
  | bytes bs => shownBytes bs
  | timestamp t => shownTimestamp t
  | list items => "[" ++ ", ".intercalate (shownItems items) ++ "]"
  | pairs entries => "[" ++ ", ".intercalate (shownPairs entries) ++ "]"
  | mapping entries => "\x7b" ++ ", ".intercalate (shownEntries entries) ++ "\x7d"
  | set members =>
    if members.isEmpty then "set()"
    else "\x7b" ++ ", ".intercalate (shownItems members) ++ "\x7d"
  | enclosing => "[...]"

/-- The items of a list. -/
def shownItems : List Value → List String
  | [] => []
  | item :: rest => shown item :: shownItems rest

/-- The entries of a mapping. -/
def shownEntries : List (Value × Value) → List String
  | [] => []
  | (key, value) :: rest => (shown key ++ ": " ++ shown value) :: shownEntries rest

/-- The pairs of a list of pairs. -/
def shownPairs : List (Value × Value) → List String
  | [] => []
  | (key, value) :: rest => ("(" ++ shown key ++ ", " ++ shown value ++ ")") :: shownPairs rest

end

/-- The word for the kind of a value. -/
def kindName : Value → String
  | null => "NoneType"
  | bool _ => "bool"
  | int _ => "int"
  | real _ => "float"
  | text _ => "str"
  | bytes _ => "bytes"
  | timestamp t => if t.time.isNone then "date" else "datetime"
  | list _ | pairs _ | enclosing => "list"
  | mapping _ => "dict"
  | set _ => "set"

end Value

/-- The first characters of a text that take at most so many bytes. -/
def withinBytes : Nat → List Char → List Char
  | _, [] => []
  | limit, c :: rest =>
    if c.utf8Size ≤ limit then c :: withinBytes (limit - c.utf8Size) rest else []

/-- A text of at most 50 bytes; the middle of a longer one is left out. -/
def shortened (s : String) : String :=
  if s.utf8ByteSize ≤ 50 then s
  else
    let cs := s.toList
    String.ofList (withinBytes 25 cs) ++ "..." ++
      String.ofList (withinBytes 24 cs.reverse).reverse

end Meetings.Yaml
