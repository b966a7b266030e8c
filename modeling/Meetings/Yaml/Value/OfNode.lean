/-
The values of nodes.

* `scalarValue` — the value of a scalar by its tag and its text;
* `Made` — the value of a node, with the first fault in it;
* `Made.ofNode` — the value of a node whose names are known;
* `Document.value` — the value of a document.

Design notes: the parts of collections are looked at level by level, the scalars
of a level before the collections below it, so that of two faults the one nearer
to the root counts, and of two equally near the one that is written first.
`Made.later` holds the level of a fault below the node itself.

A node that is referred to is made once.  The names are known in the order in
which their nodes end; a name that is not yet known belongs to a node around.
-/
import Meetings.Text.Base64
import Meetings.Yaml.Node
import Meetings.Yaml.Number
import Meetings.Yaml.Value

namespace Meetings.Yaml

open Meetings.Text

/-- The value of a scalar by its tag, unless the tag is one of collections. -/
def scalarValue (tag : Tag) (text : String) : Except YamlFault Value :=
  match tag with
  | .null => .ok .null
  | .bool =>
    let word := String.ofList (smallLetters text.toList)
    if ["yes", "true", "on"].contains word then .ok (.bool true)
    else if ["no", "false", "off"].contains word then .ok (.bool false)
    else .error (.scalar (.notBoolean word))
  | .int => ((readInteger text).map .int).mapError .scalar
  | .real => ((readReal text).map .real).mapError .scalar
  | .timestamp => ((readTimestamp text).map .timestamp).mapError .scalar
  | .binary =>
    if text.toList.all fun c => c.toNat < 128 then
      match decodeBase64 text with
      | some bytes => .ok (.bytes bytes)
      | none => .error .malformed
    else .error .malformed
  | .str => .ok (.text text)
  | _ => .error .malformed

/-- A fault and how many levels below a node it lies. -/
abbrev Deep := Nat × YamlFault

/-- The one of two faults that counts. -/
def nearer : Option Deep → Option Deep → Option Deep
  | none, f => f
  | f, none => f
  | some f, some g => if g.1 < f.1 then some g else some f

/-- The fault that counts among several. -/
def nearest (faults : List (Option Deep)) : Option Deep := faults.foldl nearer none

/-- An entry of a mapping with the faults in it, seen from the mapping. -/
structure Entry where
  key : Value
  value : Value
  fault : Option Deep
deriving Repr

/-- A node that is made. -/
structure Made where
  value : Value
  /-- The fault of a node that cannot even be begun. -/
  atOnce : Option YamlFault := none
  /-- The first fault inside of a collection. -/
  later : Option Deep := none
  /-- The entries of a mapping, if those merged into it are mappings. -/
  entries : Option (List Entry) := none
  /-- The entries that the node gives to a mapping it is merged into. -/
  merged : Option (List Entry) := none
deriving Repr

namespace Made

/-- The fault of a part, seen from the collection. -/
def fault (m : Made) : Option Deep :=
  match m.atOnce with
  | some f => some (0, f)
  | none => m.later.map fun deep => (deep.1 + 1, deep.2)

/-- A node that cannot be begun. -/
def refused (f : YamlFault) : Made := { value := .null, atOnce := some f }

/-- A collection of a kind that its tag does not suit. -/
def mismatched (value : Value) : Made := { value := value, later := some (0, .malformed) }

/-- The empty collection of a tag. -/
def emptyOf : Tag → Option Value
  | .seq => some (.list [])
  | .pairs => some (.pairs [])
  | .map => some (.mapping [])
  | .set => some (.set [])
  | _ => none

/-- Makes a scalar. -/
def scalar (tag : Tag) (text : String) : Made :=
  match emptyOf tag with
  | some empty => mismatched empty
  | none =>
    match scalarValue tag text with
    | .ok value => { value := value }
    | .error f => refused f

/-- The single entry of a mapping. -/
def single? (m : Made) : Option Entry :=
  match m.entries with
  | some [entry] => some entry
  | _ => none

/-- Makes a list of pairs from mappings with a single entry each. -/
def pairList (items : List Made) : Made :=
  match items.mapM single? with
  | none => mismatched (.pairs [])
  | some entries =>
    { value := .pairs (entries.map fun e => (e.key, e.value))
      later := nearest (entries.map (·.fault)) }

/-- Makes a sequence.  The last of several mappings is merged first. -/
def sequence (tag : Tag) (items : List Made) : Made :=
  let merged := (items.mapM Made.entries).map fun sources => sources.reverse.flatten
  let made : Made := match tag with
    | .seq =>
      { value := .list (items.map (·.value)), later := nearest (items.map fault) }
    | .pairs => pairList items
    | _ =>
      match emptyOf tag with
      | some empty => mismatched empty
      | none => refused .malformed
  { made with merged := merged }

/-- Makes the entry of a key and a value.  A collection is no key. -/
def entry (key value : Made) : Entry :=
  let fault :=
    match key.atOnce with
    | some f => some (0, f)
    | none => if key.value.isKey then value.fault else some (0, .malformed)
  ⟨key.value, value.value, fault⟩

/-- The tag of a scalar. -/
def tagOf : Node → Option Tag
  | .scalar tag _ => some tag
  | _ => none

/-- The entries of a mapping: those merged into it, then its own. -/
def entriesOf (parts : List (Option Tag × Made × Made)) : Option (List Entry) := do
  let sources ← (parts.filter fun part => part.1 == some .merge).mapM fun part => part.2.2.merged
  let own := (parts.filter fun part => part.1 != some .merge).map fun (tag, key, value) =>
    entry (if tag = some .default then { value := .text "=" } else key) value
  return sources.flatten ++ own

/-- Makes a mapping from the tags of its keys, its keys and its values. -/
def mapping (tag : Tag) (parts : List (Option Tag × Made × Made)) : Made :=
  let entries := entriesOf parts
  let pairs := (entries.getD []).map fun e => (e.key, e.value)
  let later : Option Deep := match entries with
    | none => some (0, .malformed)
    | some entries => nearest (entries.map Entry.fault)
  let made : Made := match tag with
    | .map => { value := .mapping pairs, later := later }
    | .set => { value := .set (pairs.map (·.1)), later := later }
    | _ =>
      match emptyOf tag with
      | some empty => mismatched empty
      | none => refused .malformed
  { made with entries := entries, merged := entries }

/-- A node that a node around it refers to. -/
def enclosing : Made := { value := .enclosing, entries := some [], merged := some [] }

mutual

/-- Makes a node, where some names are known. -/
def ofNode (known : List (String × Made)) : Node → Made
  | .scalar tag text => scalar tag text
  | .sequence tag items => sequence tag (ofItems known items)
  | .mapping tag pairs => mapping tag (ofPairs known pairs)
  | .alias name => (known.lookup name).getD enclosing

/-- Makes the items of a sequence. -/
def ofItems (known : List (String × Made)) : List Node → List Made
  | [] => []
  | item :: rest => ofNode known item :: ofItems known rest

/-- Makes the keys and the values of a mapping. -/
def ofPairs (known : List (String × Made)) :
    List (Node × Node) → List (Option Tag × Made × Made)
  | [] => []
  | (key, value) :: rest =>
    (tagOf key, ofNode known key, ofNode known value) :: ofPairs known rest

end

/-- The nodes of the names of a document, each made where the ones before it are
known. -/
def known (anchors : List (String × Node)) : List (String × Made) :=
  anchors.foldr (fun (name, node) made => (name, ofNode made node) :: made) []

end Made

/-- The value of a document, or the first fault in it. -/
def Document.value (d : Document) : Except YamlFault Value :=
  let made := Made.ofNode (Made.known d.anchors) d.root
  match made.fault with
  | some deep => .error deep.2
  | none => .ok made.value

end Meetings.Yaml
