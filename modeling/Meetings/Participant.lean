/-
Participants.

* `checkName` — the rules of a name, on a raw value: it is text, it is not
  blank, and it has at most 100 characters;
* `Participant.make` — a participant whose name obeys the rules;
* `Participant.withId` — a copy under an id, for a participant that has none.

Design notes: `ValidName` says the rules without the order in which they are
checked.
-/
import Meetings.Fault
import Meetings.Json.Value
import Meetings.Text.Blank

namespace Meetings

open Meetings.Text

/-- A person who can take part in meetings; the id is given by a store. -/
structure Participant where
  id : Option Int
  name : String
deriving DecidableEq, Repr, Inhabited

/-- A name that a participant may have. -/
def ValidName (name : String) : Prop :=
  isBlankText name = false ∧ name.length ≤ nameLimit

instance (name : String) : Decidable (ValidName name) := by
  unfold ValidName; infer_instance

/-- Checks a text as a name. -/
def checkNameText (name : String) : Except NameFault String :=
  if isBlankText name then .error .blank
  else if nameLimit < name.length then .error .tooLong
  else .ok name

/-- Checks a raw value as a name. -/
def checkName : Json → Except NameFault String
  | .str name => checkNameText name
  | .null => .error .blank
  | value => .error (.notText value.kindName)

namespace Participant

/-- A participant with a name that is text. -/
def ofName (id : Option Int) (name : String) : Except NameFault Participant :=
  (checkNameText name).map fun name => ⟨id, name⟩

/-- A participant with a raw value for a name. -/
def make (id : Option Int) (name : Json) : Except NameFault Participant :=
  (checkName name).map fun name => ⟨id, name⟩

/-- The participant under an id. -/
def withId (p : Participant) (id : Int) : Except Fault Participant :=
  match p.id with
  | some old => .error (.participantHasId old)
  | none => .ok ⟨some id, p.name⟩

end Participant

theorem checkNameText_eq_ok_iff {name out : String} :
    checkNameText name = .ok out ↔ ValidName name ∧ out = name := by
  unfold checkNameText ValidName
  cases h : isBlankText name
  · by_cases hl : nameLimit < name.length
    · simp [hl, Nat.not_le.mpr hl]
    · simp [hl, Nat.not_lt.mp hl, eq_comm]
  · simp

end Meetings
