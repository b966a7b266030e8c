/-
YAML documents.

* `Yaml.read` — the value of the only document of a text.
-/
import Meetings.Yaml.Value.OfNode

namespace Meetings.Yaml

/-- The value of the document of a text; a text without one has the value
`Value.null`. -/
def read (text : String) : Except YamlFault Value := do
  match ← Document.ofTokens (← tokens text) with
  | none => return .null
  | some document => document.value

end Meetings.Yaml
