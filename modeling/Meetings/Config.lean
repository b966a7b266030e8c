/-
The configuration of the program.

* `Config` — where the store is kept and what holds for requests;
* `Config.ofEntries` — reads the entries of a mapping; missing ones have their
  usual values, and unknown ones are passed over;
* `Config.Valid` — what holds of every configuration that is read;
* `FieldFault` — a field that is not read, with the reason.

Design notes: every field is read, and all that are faulty are reported in the
order of the fields.
-/
import Meetings.Disk.Path
import Meetings.Failure
import Meetings.Lenient.Integer
import Meetings.Text.Capital
import Meetings.Yaml.Value

namespace Meetings

open Meetings.Text

/-- How much a log line must matter to be shown. -/
inductive LogThreshold where
  | critical
  | fatal
  | error
  | warn
  | warning
  | info
  | debug
  | notset
deriving DecidableEq, Repr

namespace LogThreshold

/-- The word for a threshold. -/
def word : LogThreshold → String
  | critical => "CRITICAL"
  | fatal => "FATAL"
  | error => "ERROR"
  | warn => "WARN"
  | warning => "WARNING"
  | info => "INFO"
  | debug => "DEBUG"
  | notset => "NOTSET"

/-- All thresholds. -/
def all : List LogThreshold := [critical, fatal, error, warn, warning, info, debug, notset]

/-- The threshold of a word in capitals or small letters. -/
def ofText? (s : String) : Option LogThreshold := all.find? fun t => t.word == capitals s

end LogThreshold

/-- Why a field of a configuration is not read. -/
inductive FieldProblem where
  | notPath
  /-- The field holds no mapping with the settings of the given name. -/
  | notSettings (name : String)
  | unsuited (fault : LenientFault)
  | unknownLevel (text : String)
  | durationNotPositive
  | durationOffGrid
  | windowOutOfRange (days : Int)
  | notPositive (n : Int)
deriving DecidableEq, Repr

/-- The most days of a window. -/
def windowDaysLimit : Int := windowLimit

namespace FieldProblem

/-- The code of the kind of a problem. -/
def code : FieldProblem → String
  | notPath => "path_type"
  | notSettings _ => "model_type"
  | unsuited fault => fault.code
  | _ => "value_error"

/-- What a broken rule says; the other problems say nothing here. -/
def rule : FieldProblem → String
  | unknownLevel text => "Unknown log level: " ++ text
  | durationNotPositive => "duration_minutes must be greater than zero"
  | durationOffGrid => "duration_minutes must be a multiple of " ++ signedDecimal standardQuantum
  | windowOutOfRange days =>
    "window_days must be between 1 and " ++ signedDecimal windowDaysLimit ++ ", got " ++
      signedDecimal days
  | notPositive n => "Value must be greater than zero, got " ++ signedDecimal n
  | _ => ""

/-- What is said about a problem. -/
def message : FieldProblem → String
  | notPath => "Input is not a valid path for <class 'pathlib.Path'>"
  | notSettings name => "Input should be a valid dictionary or instance of " ++ name
  | unsuited fault => fault.message
  | problem => "Value error, " ++ problem.rule

end FieldProblem

/-- A field that is not read. -/
structure FieldFault where
  /-- The names that lead to the field. -/
  place : List String
  problem : FieldProblem
  value : Yaml.Value
deriving Repr

/-- A configuration. -/
structure Config where
  dataFile : Path := ⟨"", ["meetings.json"]⟩
  threshold : LogThreshold := .warning
  durationMinutes : Int := 60
  windowDays : Int := 7
  maxParticipants : Int := 50
  /-- Requests that take longer, in milliseconds, are reported as slow. -/
  slowRequest : Int := 1000
deriving DecidableEq, Repr

namespace Config

/-- The rules of a configuration. -/
def Valid (c : Config) : Prop :=
  0 < c.durationMinutes ∧ c.durationMinutes % standardQuantum = 0 ∧
    1 ≤ c.windowDays ∧ c.windowDays ≤ windowDaysLimit ∧
    0 < c.maxParticipants ∧ 0 < c.slowRequest

instance (c : Config) : Decidable c.Valid := by unfold Valid; infer_instance

/-- Reads a path. -/
def readPath (v : Yaml.Value) : Except FieldProblem Path :=
  match v with
  | .text s => .ok (Path.ofText s)
  | _ => .error .notPath

/-- Reads a text, which may be given as bytes. -/
def readText : Yaml.Value → Except FieldProblem String
  | .text s => .ok s
  | .bytes bs => (decodeUtf8 bs).mapError fun _ => .unsuited .undecodable
  | _ => .error (.unsuited .notText)

/-- Reads a threshold. -/
def readThreshold (v : Yaml.Value) : Except FieldProblem LogThreshold := do
  let text ← readText v
  match LogThreshold.ofText? text with
  | some t => return t
  | none => throw (.unknownLevel text)

/-- Reads a whole number that obeys a rule. -/
def readNumber (rule : Int → Option FieldProblem) (v : Yaml.Value) : Except FieldProblem Int := do
  let n ← (lenientInteger v.raw).mapError .unsuited
  match rule n with
  | some problem => throw problem
  | none => return n

/-- The rule of the usual duration. -/
def durationRule (n : Int) : Option FieldProblem :=
  if n ≤ 0 then some .durationNotPositive
  else if n % standardQuantum ≠ 0 then some .durationOffGrid
  else none

/-- The rule of the usual window. -/
def windowRule (n : Int) : Option FieldProblem :=
  if 1 ≤ n ∧ n ≤ windowDaysLimit then none else some (.windowOutOfRange n)

/-- The rule of a limit. -/
def limitRule (n : Int) : Option FieldProblem := if n ≤ 0 then some (.notPositive n) else none

/-- The entries of a mapping. -/
abbrev Entries := List (Yaml.Value × Yaml.Value)

/-- The value of a field, or the usual one with the fault of the field. -/
def field {α : Type} (place : List String) (usual : α) (read : Yaml.Value → Except FieldProblem α)
    (entries : Entries) : α × List FieldFault :=
  match Yaml.Value.field? entries (place.getLastD "") with
  | none => (usual, [])
  | some v =>
    match read v with
    | .ok a => (a, [])
    | .error problem => (usual, [⟨place, problem, v⟩])

/-- The entries of a field that holds settings of the given name. -/
def section? (name : String) (v : Yaml.Value) : Except FieldProblem Entries :=
  match v with
  | .mapping entries => .ok entries
  | _ => .error (.notSettings name)

/-- Reads the entries of a configuration. -/
def ofEntries (entries : Entries) : Except (List FieldFault) Config :=
  let usual : Config := {}
  let (dataFile, f1) := field ["data_file"] usual.dataFile readPath entries
  let (threshold, f2) := field ["log_level"] usual.threshold readThreshold entries
  let (defaults, f3) := field ["defaults"] [] (section? "DefaultsConfig") entries
  let (duration, f4) := field ["defaults", "duration_minutes"] usual.durationMinutes
    (readNumber durationRule) defaults
  let (window, f5) := field ["defaults", "window_days"] usual.windowDays
    (readNumber windowRule) defaults
  let (limits, f6) := field ["limits"] [] (section? "LimitsConfig") entries
  let (people, f7) := field ["limits", "max_participants"] usual.maxParticipants
    (readNumber limitRule) limits
  let (slow, f8) := field ["limits", "slow_request_ms"] usual.slowRequest
    (readNumber limitRule) limits
  match f1 ++ f2 ++ f3 ++ f4 ++ f5 ++ f6 ++ f7 ++ f8 with
  | [] => .ok ⟨dataFile, threshold, duration, window, people, slow⟩
  | faults => .error faults

end Config

end Meetings
