/-
Log lines and actions that write them.

* `LogLine` — a level and a text;
* `Action σ α` — a computation with a state that writes log lines and may stop
  with a fault; what it has changed and written by then stays.

Design notes: a line has in it the numbers it tells of, however long they are.
That one with too many digits would be left out where a log is shown is not
followed here; it stops no action.
-/
import Meetings.Fault

namespace Meetings

/-- How much a log line matters. -/
inductive LogLevel where
  | debug
  | info
  | warning
deriving DecidableEq, Repr

/-- The word for a level. -/
def LogLevel.word : LogLevel → String
  | debug => "DEBUG"
  | info => "INFO"
  | warning => "WARNING"

/-- One line of a log. -/
structure LogLine where
  level : LogLevel
  text : String
deriving DecidableEq, Repr

/-- The level and the text of a line. -/
def LogLine.display (l : LogLine) : String := l.level.word ++ ": " ++ l.text

/-- A state and the log lines written so far, oldest first. -/
structure Run (σ : Type) where
  state : σ
  log : List LogLine := []

/-- Computations with a state of type `σ` that write log lines. -/
abbrev Action (σ α : Type) := ExceptT Fault (StateM (Run σ)) α

namespace Action

variable {σ τ α : Type}

/-- The state. -/
def state : Action σ σ := return (← get).state

/-- Sets the state. -/
def setState (s : σ) : Action σ Unit := modify fun r => { r with state := s }

/-- Changes the state. -/
def update (f : σ → σ) : Action σ Unit := modify fun r => { r with state := f r.state }

/-- Writes lines. -/
def writeAll (lines : List LogLine) : Action σ Unit :=
  modify fun r => { r with log := r.log ++ lines }

/-- Writes a line. -/
def write (level : LogLevel) (text : String) : Action σ Unit := writeAll [⟨level, text⟩]

/-- Writes a line of detail. -/
def debug (text : String) : Action σ Unit := write .debug text

/-- Writes a line of record. -/
def info (text : String) : Action σ Unit := write .info text

/-- Writes a line of warning. -/
def warn (text : String) : Action σ Unit := write .warning text

/-- Goes on with a result, or stops with its fault. -/
def lift (result : Except Fault α) : Action σ α := fun r => (result, r)

/-- Goes on with a result of time arithmetic, or stops with its fault. -/
def liftTime (result : Except TimeFault α) : Action σ α := lift (result.mapError .time)

/-- Runs an action from a state with an empty log. -/
def runFrom (action : Action σ α) (s : σ) : Except Fault α × Run σ := action.run ⟨s, []⟩

/-- Runs an action on a part of a state. -/
def zoom (part : τ → σ) (put : σ → τ → τ) (action : Action σ α) : Action τ α := fun r =>
  let (result, inner) := action.run ⟨part r.state, r.log⟩
  (result, ⟨put inner.state r.state, inner.log⟩)

end Action

end Meetings
