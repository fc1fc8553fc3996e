import Defusal.Yaml.Filling

/-!
# Documents as data

The plain value that the text of a document stands for. A text without a document is null.
-/

namespace Defusal.Yaml

/-- The value of a document from its source. -/
def read (source : Source) : Except Fault Datum := do
  match ← Document.ofTokens? (tokensOf (.ofSource source)) with
  | none => return .null
  | some d => d.value

end Defusal.Yaml
