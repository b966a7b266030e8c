/-
Values of YAML documents.

* `Value` — what a node stands for;
* `Value.isTrue` — a value that is neither nothing nor empty;
* `Value.field?` — what a mapping holds behind a text;
* `Value.raw` — the raw value that a field of a configuration reads.
-/
import Meetings.Json.Value
import Meetings.Text.Utf8
import Meetings.Yaml.Timestamp

namespace Meetings.Yaml

open Meetings.Text

/-- What a node stands for. -/
inductive Value where
  | null
  | bool (b : Bool)
  | int (n : Int)
  | real (x : Binary64)
  | text (s : String)
  | bytes (bs : List UInt8)
  | timestamp (t : Timestamp)
  | list (items : List Value)
  /-- The pairs of a list of pairs, each with its key in front. -/
  | pairs (entries : List (Value × Value))
  /-- The entries of a mapping; of two with the same key the later one counts. -/
  | mapping (entries : List (Value × Value))
  | set (members : List Value)
  /-- A collection that this value is a part of. -/
  | enclosing
deriving Repr

namespace Value

/-- A value that is neither nothing nor empty. -/
def isTrue : Value → Bool
  | null => false
  | bool b => b
  | int n => n != 0
  | real (.finite _ units) => units != 0
  | real _ => true
  | text s => !s.isEmpty
  | bytes bs => !bs.isEmpty
  | timestamp _ => true
  | list items => !items.isEmpty
  | pairs entries => !entries.isEmpty
  | mapping entries => !entries.isEmpty
  | set members => !members.isEmpty
  | enclosing => true

/-- A value that may be a key: no collection is one. -/
def isKey : Value → Bool
  | list _ | pairs _ | mapping _ | set _ | enclosing => false
  | _ => true

/-- The text of a value that is one. -/
def text? : Value → Option String
  | text s => some s
  | _ => none

/-- What a mapping holds behind a text. -/
def field? (entries : List (Value × Value)) (key : String) : Option Value :=
  (entries.reverse.find? fun entry => entry.1.text? == some key).map (·.2)

/-- The raw value that a field reads.  Bytes are read as text, and kinds that no
field reads are nothing. -/
def raw : Value → Json
  | null => .null
  | bool b => .bool b
  | int n => .int n
  | real x => .real x
  | text s => .str s
  | bytes bs => .str ((decodeUtf8 bs).toOption.getD "\ufffd")
  | timestamp _ => .null
  | list _ => .null
  | pairs _ => .null
  | mapping _ => .null
  | set _ => .null
  | enclosing => .null

end Value

end Meetings.Yaml
