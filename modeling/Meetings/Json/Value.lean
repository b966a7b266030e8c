/-
JSON values.

* `Json` — null, booleans, whole numbers of any size, binary64 numbers, text,
  arrays, and objects with their fields in order;
* `Json.kindName` — the word for the kind of a value in messages;
* `Json.field?` — the value of a field;
* `putField` — sets a field, which keeps its place if it was there;
* `Json.isEmpty` — null, false, zeros and everything without content.
-/
import Meetings.Number.Binary64

namespace Meetings

/-- JSON values; a whole number is told apart from one with a point. -/
inductive Json where
  | null
  | bool (b : Bool)
  | int (n : Int)
  | real (x : Binary64)
  | str (s : String)
  | arr (items : List Json)
  | obj (fields : List (String × Json))
deriving Repr, Inhabited, BEq

/-- The value of a field, by key. -/
def lookupField {α : Type} (fields : List (String × α)) (key : String) : Option α :=
  (fields.find? fun f => f.1 == key).map (·.2)

/-- Sets a field: in its old place if the key is there, else at the end. -/
def putField {α : Type} : List (String × α) → String → α → List (String × α)
  | [], key, value => [(key, value)]
  | f :: rest, key, value =>
    if f.1 == key then (key, value) :: rest else f :: putField rest key value

namespace Json

/-- The word for the kind of a value. -/
def kindName : Json → String
  | null => "NoneType"
  | bool _ => "bool"
  | int _ => "int"
  | real _ => "float"
  | str _ => "str"
  | arr _ => "list"
  | obj _ => "dict"

/-- A value without content. -/
def isEmpty : Json → Bool
  | null => true
  | bool b => !b
  | int n => n == 0
  | real x => x.integer? == some 0
  | str s => s == ""
  | arr items => items.isEmpty
  | obj fields => fields.isEmpty

/-- The value of a field of an object. -/
def field? : Json → String → Option Json
  | obj fields, key => lookupField fields key
  | _, _ => none

end Json

end Meetings
