/-
The grid of possible starts.

* `ceilTo` — rounds a moment up to the spacing of the grid within its hour;
* `Grid.first` — the first start that is not before a moment;
* `Grid.next` — the start that follows one;
* `OpenAligned` — what makes a moment a start: it lies on the spacing, to the
  microsecond, and within business hours.

Design notes: the spacing may be any integer.  One that is not positive, or
that does not divide the hour, still has the meaning that the arithmetic gives
it, and a minute that this puts off the clock is a fault.
-/
import Meetings.Hours

namespace Meetings

variable {offset : Int}

/-- Rounds a moment up to a multiple of some minutes, counted from the start of
its hour; past the last multiple it goes on into the next hour. -/
def ceilTo (quantum : Int) (m : Moment offset) : Except TimeFault (Moment offset) :=
  if quantum = 0 then .error .zeroSpacing
  else do
    let floored ← m.atMinute (m.minute - Int.fmod m.minute quantum)
    if floored.wall = m.wall then return floored
    floored.plusMinutes quantum

/-- The starts that meetings may have: multiples of `quantum` minutes within the
hours. -/
structure Grid where
  hours : Hours
  quantum : Int
deriving DecidableEq, Repr

namespace Grid

/-- Every quarter of an hour within the standard hours. -/
def standard : Grid := ⟨Hours.standard, 15⟩

/-- A moment within the hours stays; any other moves to the next opening. -/
def intoHours (g : Grid) (m : Moment offset) : Except TimeFault (Moment offset) :=
  if g.hours.isOpenAt m then .ok m else g.hours.nextOpening m

/-- The first start that is not before a moment. -/
def first (g : Grid) (m : Moment offset) : Except TimeFault (Moment offset) :=
  (ceilTo g.quantum m).bind g.intoHours

/-- The start that follows one. -/
def next (g : Grid) (m : Moment offset) : Except TimeFault (Moment offset) :=
  (m.plusMinutes g.quantum).bind g.intoHours

/-- A start and so many that follow it. -/
def following (g : Grid) : Nat → Moment offset → Except TimeFault (List (Moment offset))
  | 0, m => .ok [m]
  | count + 1, m => do
    let after ← g.next m
    return m :: (← following g count after)

/-- The moment lies on the spacing of the grid and within its hours. -/
def OpenAligned (g : Grid) (m : Moment offset) : Prop :=
  g.quantum ∣ m.minute ∧ m.second = 0 ∧ m.microsecond = 0 ∧ g.hours.isOpenAt m = true

instance (g : Grid) (m : Moment offset) : Decidable (g.OpenAligned m) := by
  unfold OpenAligned; infer_instance

end Grid

end Meetings
