/-
Commitments and conflicts between them.

A commitment takes up a half-open interval of time of some people.  Its ends
are not checked against each other.

* `overlaps` — two half-open intervals meet;
* `conflicts` — two commitments, either of which may be absent, collide: they
  overlap and have a person in common;
* `conflictsWithAny` — a slot collides with some commitment of a list.
-/
import Meetings.Moment
import Meetings.PersonRef

namespace Meetings

/-- An interval of time that some people are taken up with. -/
structure Commitment where
  people : List PersonRef
  start : Instant
  stop : Instant
deriving DecidableEq, Repr

/-- The half-open intervals `[a, b)` and `[c, d)` meet; intervals that only
touch do not. -/
def overlaps (a b c d : Instant) : Bool := decide (a < d) && decide (c < b)

namespace Commitment

/-- Two commitments overlap in time and have a person in common. -/
def conflicts (a b : Commitment) : Bool :=
  overlaps a.start a.stop b.start b.stop && sharesPerson a.people b.people

end Commitment

/-- Two commitments collide; an absent one never does. -/
def conflicts : Option Commitment → Option Commitment → Bool
  | some a, some b => a.conflicts b
  | _, _ => false

/-- A slot of some people collides with one of the commitments.  These are gone
through in order, up to the first that meets the slot and has a person of it. -/
def conflictsWithAny (slot : Commitment) : List (Option Commitment) → Bool
  | [] => false
  | none :: rest => conflictsWithAny slot rest
  | some c :: rest =>
    if overlaps slot.start slot.stop c.start c.stop then
      sharesPerson slot.people c.people || conflictsWithAny slot rest
    else conflictsWithAny slot rest

end Meetings
