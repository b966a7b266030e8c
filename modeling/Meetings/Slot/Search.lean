/-
The search for the earliest slot.

* `Search` — what is asked for: people, a duration, a window, and what the
  people are taken up with;
* `findSlot` — answers with an `Outcome`: why no search was made, or the slot
  found, or that the window holds none, with the number of starts looked at.

Design notes: the search steps from start to start of the grid.  It ends because
each step moves in the direction of the spacing and the calendar is finite; a
step that does not move is a fault of its own, which a positive spacing never
meets.
-/
import Meetings.Slot.Grid

namespace Meetings

/-- A question for the earliest slot. -/
structure Search where
  grid : Grid
  people : List PersonRef
  duration : Int
  windowStart : Utc
  windowStop : Utc
  existing : List (Option Commitment)

/-- The answer to a question for the earliest slot. -/
inductive Outcome where
  | nobody
  | badDuration (duration : Option Int)
  | emptyWindow (start stop : Utc)
  | doesNotFit (duration : Int) (start stop : Utc)
  | found (checked : Nat) (start stop : Utc)
  | exhausted (checked : Nat)
deriving Repr

/-- The slot that was found. -/
def Outcome.slot : Outcome → Option Utc
  | found _ start _ => some start
  | _ => none

namespace Search

/-- The slot as a commitment of the people asked for. -/
def commitment (s : Search) (start stop : Utc) : Commitment :=
  ⟨s.people, start.instant, stop.instant⟩

/-- A slot is acceptable: it lies within the hours and collides with nothing. -/
def accepts (s : Search) (start stop : Utc) : Except TimeFault Bool := do
  if ← s.grid.hours.contains start stop.zoned then
    return !conflictsWithAny (s.commitment start stop) s.existing
  return false

/-- The step from one start to another goes in the direction of the spacing. -/
def advances (s : Search) (start after : Utc) : Bool :=
  if 0 < s.grid.quantum then decide (start.wall < after.wall)
  else decide (after.wall < start.wall)

/-- How far a start is from the end of the calendar that the steps lead to. -/
def room (s : Search) (start : Utc) : Nat :=
  if 0 < s.grid.quantum then (calendarEnd - start.wall).toNat else start.wall.toNat

theorem room_lt {s : Search} {start after : Utc} (h : s.advances start after = true) :
    s.room after < s.room start := by
  have := start.wall_lt
  have := after.wall_nonneg
  have := after.wall_lt
  have := start.wall_nonneg
  unfold advances at h
  unfold room
  split at h <;> rename_i q <;> simp only [q, if_true, if_false] <;>
    have := of_decide_eq_true h <;> omega

/-- Looks at a start and those that follow it, `checked` having been looked at
before. -/
def seek (s : Search) (checked : Nat) (start : Utc) : Except TimeFault Outcome :=
  match start.plusMinutes s.duration with
  | .error fault => .error fault
  | .ok stop =>
    if s.windowStop.wall < stop.wall then .ok (.exhausted checked)
    else
      match s.accepts start stop with
      | .error fault => .error fault
      | .ok true => .ok (.found (checked + 1) start stop)
      | .ok false =>
        match s.grid.next start with
        | .error fault => .error fault
        | .ok after =>
          if h : s.advances start after = true then
            have := room_lt h
            s.seek (checked + 1) after
          else .error .endless
termination_by s.room start

/-- The answer once people and duration are known to be sensible. -/
def run (s : Search) : Except TimeFault Outcome :=
  if s.windowStop.wall ≤ s.windowStart.wall then
    .ok (.emptyWindow s.windowStart s.windowStop)
  else do
    let fit ← s.windowStart.plusMinutes s.duration
    if s.windowStop.wall ≤ fit.wall then
      return .doesNotFit s.duration s.windowStart s.windowStop
    s.seek 0 (← s.grid.first s.windowStart)

end Search

/-- The answer to a question as it is asked: people and duration may be absent,
and the window may be at any offset. -/
def findSlot (g : Grid) (people : Option (List PersonRef)) (duration : Option Int)
    (start stop : Zoned) (existing : List (Option Commitment)) :
    Except TimeFault Outcome :=
  match people.getD [] with
  | [] => .ok .nobody
  | p :: ps =>
    match duration with
    | none => .ok (.badDuration none)
    | some d =>
      if d ≤ 0 then .ok (.badDuration (some d))
      else do
        let start ← start.toUtc
        let stop ← stop.toUtc
        Search.run ⟨g, p :: ps, d, start, stop, existing⟩

end Meetings
