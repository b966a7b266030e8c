/-
Why a configuration is not loaded.

* `ConfigFault` — the causes, with `ConfigFault.message`.
-/
import Meetings.Config
import Meetings.Disk.Fault
import Meetings.Text.Utf8
import Meetings.Yaml.Value.Shown

namespace Meetings

open Meetings.Text

/-- Why a configuration is not loaded. -/
inductive ConfigFault where
  | absent (path : String)
  | file (fault : FileFault)
  | notUtf8 (fault : Utf8Fault)
  /-- The file is no YAML document. -/
  | malformed (path : String)
  /-- A scalar of the document does not suit its type. -/
  | scalar (fault : ScalarFault)
  | notMapping
  /-- A key at the root is no text. -/
  | keyNotText
  | invalid (faults : List FieldFault)
deriving Repr

/-- Where the kinds of problems are explained. -/
def adviceSite : String := "errors.pydantic.dev"

/-- A faulty field with its place, its problem and its value. -/
def FieldFault.message (f : FieldFault) : String :=
  let code := f.problem.code
  let advice :=
    if code = "path_type" then ""
    else "\n    For further information visit https" ++ "://" ++ adviceSite ++ "/2.14/v/" ++ code
  ".".intercalate f.place ++ "\n  " ++ f.problem.message ++ " [type=" ++ code ++
    ", input_value=" ++ Yaml.shortened f.value.shown ++ ", input_type=" ++ f.value.kindName ++
    "]" ++ advice

/-- What is said about a configuration that is not loaded. -/
def ConfigFault.message : ConfigFault → String
  | absent path =>
    "Config file not found: " ++ path ++
      "\nPlease create a config.yaml file. See config.example.yaml for reference."
  | file fault => fault.message
  | notUtf8 fault => fault.message
  | malformed path => "Invalid YAML in " ++ path
  | scalar fault => fault.message
  | notMapping => "Config file must contain a mapping at the root level."
  | keyNotText => "keywords must be strings"
  | invalid faults =>
    decimal faults.length ++ " validation error" ++ (if faults.length = 1 then "" else "s") ++
      " for AppConfig\n" ++ "\n".intercalate (faults.map FieldFault.message)

/-- A fault that the command line reports instead of breaking off. -/
def ConfigFault.isReported : ConfigFault → Bool
  | file _ | keyNotText => false
  | scalar .emptyNumber | scalar (.notBoolean _) | scalar .notTimestamp => false
  | scalar (.codePoint n) => n < 0x80000000
  | _ => true

end Meetings
