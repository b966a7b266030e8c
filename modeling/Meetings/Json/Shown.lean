/-
Values as they are shown in log lines.

* `Json.shown` — a value inside another one, text in quotes;
* `Json.display` — a value by itself, text as it is.
-/
import Meetings.Json.Value
import Meetings.Number.Shortest
import Meetings.Text.Quoted

namespace Meetings.Json

open Meetings.Text

mutual

/-- A value inside another one. -/
def shown : Json → String
  | null => "None"
  | bool b => if b then "True" else "False"
  | int n => signedDecimal n
  | real x => x.shortest
  | str s => quoted s
  | arr items => "[" ++ ", ".intercalate (shownItems items) ++ "]"
  | obj fields => "\x7b" ++ ", ".intercalate (shownFields fields) ++ "\x7d"

/-- The items of an array. -/
def shownItems : List Json → List String
  | [] => []
  | item :: rest => shown item :: shownItems rest

/-- The fields of an object. -/
def shownFields : List (String × Json) → List String
  | [] => []
  | (key, value) :: rest => (quoted key ++ ": " ++ shown value) :: shownFields rest

end

/-- A value by itself. -/
def display : Json → String
  | str s => s
  | value => value.shown

end Meetings.Json
