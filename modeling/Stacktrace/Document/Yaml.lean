import Stacktrace.Document.Yaml.Content
import Stacktrace.Document.Yaml.Layout

/-!
# YAML texts

`Yaml.read` reads a text with one YAML document, or none, as a value:

    text → tokens → node → value

A text without a document is null. Characters that no document may hold are a fault wherever they
stand.
-/

namespace Stacktrace.Yaml

/-- The value of the document in a text. -/
def read (s : Text) : Except Fault Value :=
  if !s.all isAllowed then
    .error .malformedDocument
  else do
    match ← Node.ofTokens (tokens s) with
    | none => return .null
    | some n => n.read

end Stacktrace.Yaml
