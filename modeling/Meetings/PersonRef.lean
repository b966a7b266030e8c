/-
References to people.

Requests refer to people by whole numbers.  A stored record may hold any scalar
in the place of a number, and is kept as it was written.

* `PersonRef` — a reference as written;
* `PersonRef.key` — the value it stands for: `true` and `1.0` stand for 1;
* `PersonRef.same` — two references to one person, which is equality of keys;
* `sharesPerson`, `hasRepeat` — common and repeated references.

Design notes: keys have decidable equality, so every set operation of the
scheduler is a statement about lists of keys.
-/
import Meetings.Number.Shortest
import Meetings.Text.Quoted

namespace Meetings

open Meetings.Text

/-- A reference to a person, as written. -/
inductive PersonRef where
  | number (n : Int)
  | text (s : String)
  | real (x : Binary64)
  | flag (b : Bool)
  | missing
deriving DecidableEq, Repr, Inhabited

/-- What a reference stands for. -/
inductive PersonKey where
  | number (n : Int)
  | text (s : String)
  /-- A number that is not whole, or none at all. -/
  | real (x : Binary64)
  | missing
deriving DecidableEq, Repr, Inhabited

namespace PersonRef

/-- The value a reference stands for. -/
def key : PersonRef → PersonKey
  | number n => .number n
  | text s => .text s
  | real x => match x.integer? with
    | some n => .number n
    | none => .real x
  | flag b => .number (if b then 1 else 0)
  | missing => .missing

/-- Two references to the same person. -/
def same (a b : PersonRef) : Bool := a.key == b.key

/-- The whole number a reference stands for. -/
def number? (r : PersonRef) : Option Int :=
  match r.key with
  | .number n => some n
  | _ => none

/-- A reference as it is shown in a list. -/
def shown : PersonRef → String
  | number n => signedDecimal n
  | text s => quoted s
  | real x => x.shortest
  | flag b => if b then "True" else "False"
  | missing => "None"

/-- The word for the kind of a reference. -/
def kindName : PersonRef → String
  | number _ => "int"
  | text _ => "str"
  | real _ => "float"
  | flag _ => "bool"
  | missing => "NoneType"

theorem same_number (m n : Int) : (number m).same (number n) = (m == n) := by
  rw [Bool.eq_iff_iff]
  simp [same, key]

end PersonRef

/-- A reference occurs in a list, however it is written there. -/
def refersTo (refs : List PersonRef) (r : PersonRef) : Bool := refs.any r.same

/-- Two lists refer to a common person. -/
def sharesPerson (a b : List PersonRef) : Bool := a.any (refersTo b)

/-- A list refers to some person twice. -/
def hasRepeat : List PersonRef → Bool
  | [] => false
  | r :: rest => refersTo rest r || hasRepeat rest

/-- A list without its later references to people already named. -/
def withoutRepeats : List PersonRef → List PersonRef
  | [] => []
  | r :: rest => r :: (withoutRepeats rest).filter fun s => !r.same s

end Meetings
