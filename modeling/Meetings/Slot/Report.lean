/-
What the search for a slot reports of itself.

* `searchReport` — the log lines of a question and its answer.

Design notes: a search that stops with a fault has reported its question only.
-/
import Meetings.Log
import Meetings.Slot.Search

namespace Meetings

open Meetings.Text

/-- An integer that may be absent. -/
def displayOptional (n : Option Int) : String := (n.map signedDecimal).getD "None"

/-- What the answer to a question adds to the log. -/
def Outcome.report (peopleCount : Nat) : Outcome → LogLine
  | nobody => ⟨.warning, "No slot: no participants provided"⟩
  | badDuration d => ⟨.warning, "No slot: invalid duration " ++ displayOptional d⟩
  | emptyWindow start stop =>
    ⟨.warning, "No slot: invalid time range " ++ start.spaced ++ " >= " ++ stop.spaced⟩
  | doesNotFit d start stop =>
    ⟨.warning, "No slot: duration " ++ signedDecimal d ++ " does not fit within window " ++
      start.spaced ++ " - " ++ stop.spaced⟩
  | found checked start stop =>
    ⟨.info, "Found slot after checking " ++ decimal checked ++ " candidates: " ++
      start.spaced ++ " - " ++ stop.spaced⟩
  | exhausted checked =>
    ⟨.warning, "No slot found after checking " ++ decimal checked ++ " candidates for " ++
      decimal peopleCount ++ " participants"⟩

/-- The log lines of a question and its answer. -/
def searchReport (people : Option (List PersonRef)) (duration : Option Int)
    (answer : Except TimeFault Outcome) : List LogLine :=
  let count := (people.getD []).length
  ⟨.debug, "Searching slot for " ++ decimal count ++ " participants, duration " ++
      displayOptional duration ++ " minutes"⟩ ::
    match answer with
    | .ok outcome => [outcome.report count]
    | .error _ => []

/-- Searches for a slot and reports. -/
def searchSlot {σ : Type} (g : Grid) (people : Option (List PersonRef)) (duration : Option Int)
    (start stop : Zoned) (existing : List (Option Commitment)) : Action σ (Option Utc) := do
  let answer := findSlot g people duration start stop existing
  .writeAll (searchReport people duration answer)
  return (← Action.liftTime answer).slot

end Meetings
