import Stacktrace.Document.Yaml.Word

/-!
# Tokens

The parts that a YAML text is made of, as the grammar of nodes sees them. Brackets of block
collections are tokens too, although the text shows them by indentation only. The last token of a
text that cannot be read to its end is `broken`.
-/

namespace Stacktrace.Yaml

/-- A part of a YAML text. -/
inductive Token where
  | directive (d : Directive)
  | documentStart
  | documentEnd
  | blockSequenceStart
  | blockMappingStart
  | blockEnd
  | flowSequenceStart
  | flowSequenceEnd
  | flowMappingStart
  | flowMappingEnd
  | blockEntry
  | flowEntry
  | key
  | value
  | alias (name : Text)
  | anchor (name : Text)
  | tag (t : TagText)
  | scalar (text : Text) (plain : Bool)
  | broken (fault : Fault)
deriving DecidableEq, Repr

end Stacktrace.Yaml
