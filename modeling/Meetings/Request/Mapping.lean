/-
Raw requests as mappings.

* `Mapping.ofJson` — the fields of a raw value: an object, or a list of pairs;
* `Mapping.field?` — the value of a field.

Design notes: a pair may be any sequence of two elements, so a text of two
characters is one and an object of two fields gives its keys.  A later pair
overrides an earlier one with the same key; keys that are no text name no field.
-/
import Meetings.Fault
import Meetings.Json.Value

namespace Meetings

/-- The fields of a raw request. -/
abbrev Mapping := List (String × Json)

/-- The elements of a value that is a sequence. -/
def sequence? : Json → Option (List Json)
  | .arr items => some items
  | .str s => some (s.toList.map fun c => .str (String.singleton c))
  | .obj fields => some (fields.map fun f => .str f.1)
  | _ => none

/-- A value that can be a key. -/
def checkKey : Json → Except MappingFault Json
  | .arr items => .error (.unhashable (Json.arr items).kindName)
  | .obj fields => .error (.unhashable (Json.obj fields).kindName)
  | key => .ok key

namespace Mapping

/-- Adds a list of pairs, the first of them at a position, to some fields. -/
def addPairs : Mapping → Nat → List Json → Except MappingFault Mapping
  | fields, _, [] => .ok fields
  | fields, position, pair :: rest => do
    match sequence? pair with
    | none => throw (.notSequence position)
    | some [key, value] =>
      match ← checkKey key with
      | .str name => addPairs (putField fields name value) (position + 1) rest
      | _ => addPairs fields (position + 1) rest
    | some items => throw (.wrongLength position items.length)

/-- The fields of a raw value. -/
def ofJson : Json → Except MappingFault Mapping
  | .obj fields => .ok fields
  | value =>
    match sequence? value with
    | some pairs => addPairs [] 0 pairs
    | none => .error (.notIterable value.kindName)

/-- The value of a field. -/
def field? (m : Mapping) (key : String) : Option Json := lookupField m key

end Mapping

end Meetings
