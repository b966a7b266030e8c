/-
Requests to register a participant.

* `registrationName` — reads and checks the name of a mapping;
* `requestedNameFault` — the rules of a requested name, in the order in which
  they are checked: it is not blank, it is not too long, and it has only
  letters of ASCII, space, hyphens, apostrophes and periods.
-/
import Meetings.Participant
import Meetings.Request.Mapping

namespace Meetings

open Meetings.Text

/-- A character that a requested name may have. -/
def isNameChar (c : Char) : Bool :=
  c.isAlpha || isBlank c || c = '-' || c = '\x27' || c = '.'

/-- The first rule that a requested name breaks. -/
def requestedNameFault (name : String) : Option NameRequestFault :=
  if isBlankText name then some .blank
  else if nameLimit < name.length then some .tooLong
  else if name.toList.all isNameChar then none
  else some .badCharacter

/-- Reads and checks the name of a mapping. -/
def registrationName (m : Mapping) : Except NameRequestFault String :=
  match m.field? "name" with
  | none => .error (.unreadable .absent)
  | some (.str name) =>
    match requestedNameFault name with
    | some fault => .error fault
    | none => .ok name
  | some _ => .error (.unreadable .notText)

/-- Reads and checks a raw request. -/
def parseRegistration (data : Json) : Except Fault (Except NameRequestFault String) := do
  let m ← (Mapping.ofJson data).mapError .mapping
  return registrationName m

end Meetings
