/-
Configurations in files.

* `Config.ofFile` — the configuration of a file;
* `Config.usualFile` — the file when none is asked for: `config.yaml` in the working
  directory, or else the one at the place of the program;
* `Config.load` — the configuration of a file asked for, or else of the usual file,
  or else the usual configuration.
-/
import Meetings.Config.Fault
import Meetings.Disk
import Meetings.Text.Lines
import Meetings.Text.Utf8.Blocks
import Meetings.Yaml

namespace Meetings

open Meetings.Text

namespace Config

/-- How many bytes of a file are decoded at a time. -/
def blockSize : Nat := 8192

/-- The entries at the root of a document; a document without a value has none. -/
def rootEntries (v : Yaml.Value) : Except ConfigFault Entries :=
  if !v.isTrue then .ok []
  else match v with
    | .mapping entries =>
      if entries.all fun entry => entry.1.text?.isSome then .ok entries else .error .keyNotText
    | _ => .error .notMapping

/-- What a fault of a document is to the configuration in a file. -/
def documentFault (file : Path) : YamlFault → ConfigFault
  | .malformed => .malformed file.display
  | .scalar fault => .scalar fault

/-- The configuration in the bytes of a file. -/
def decode (file : Path) (bytes : List UInt8) : Except ConfigFault Config := do
  let text ← (decodeUtf8InBlocks blockSize bytes).mapError .notUtf8
  let text := String.ofList (unifyLines text.toList)
  let entries ← rootEntries (← (Yaml.read text).mapError (documentFault file))
  (ofEntries entries).mapError .invalid

/-- The configuration of a file.  A path to the data that has no root is taken
from the directory of the file. -/
def ofFile (d : Disk) (file : Path) : Except ConfigFault Config := do
  if !d.has file then throw (.absent file.display)
  let config ← decode file (← (d.read file).mapError .file)
  return { config with dataFile := file.parent.join config.dataFile }

/-- The file of the configuration in a directory. -/
def fileAt (place : Place) : Path := ⟨"/", place ++ ["config.yaml"]⟩

/-- The file of the configuration when none is asked for. -/
def usualFile (d : Disk) : Path :=
  if d.has (fileAt d.workingPlace) then fileAt d.workingPlace else fileAt d.programPlace

/-- The configuration of a file, if one is asked for. -/
def load (d : Disk) : Option Path → Except ConfigFault Config
  | some file => ofFile d file
  | none => if d.has (usualFile d) then ofFile d (usualFile d) else .ok {}

end Config

end Meetings
