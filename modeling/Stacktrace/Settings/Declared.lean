import Stacktrace.Settings.Placeholder
import Stacktrace.Settings.Schema

/-!
# Declared fields

The fields of the settings as they are declared: each has a default, a constraint on what may be given
for it, and sometimes a rule of its own, its validator. Nothing here says how values are found, read
and checked; that is the matter of a `SettingsReader`, of which this library knows nothing but that
it keeps to the declarations.
-/

namespace Stacktrace

/-- A field of the settings with what is declared for it. -/
structure DeclaredField where
  /-- What the field holds. -/
  Data : Type
  get : Settings → Data
  default : Data
  /-- The constraint on what is given for the field. -/
  Allows : Data → Prop := fun _ => True
  /-- What is made of it in the end, or the complaint about it. -/
  validator : Data → Except Text Data := .ok

namespace DeclaredField

/-- A field is as declared: it has its default, or what its validator makes of data that is allowed. -/
def Admits (f : DeclaredField) (s : Settings) : Prop :=
  f.get s = f.default ∨ ∃ given, f.Allows given ∧ f.validator given = .ok (f.get s)

/-- A number of lines around a line. -/
def lines (get : Settings → Int) (default : Int) : DeclaredField where
  Data := Int
  get := get
  default := default
  Allows n := 0 ≤ n ∧ n ≤ Schema.mostLines

/-- A text without a rule. -/
def text (get : Settings → Text) (default : Text) : DeclaredField where
  Data := Text
  get := get
  default := default

/-- A text that is one of several. -/
def choice (get : Settings → Text) (choices : List Text) (default : Text) : DeclaredField where
  Data := Text
  get := get
  default := default
  Allows s := s ∈ choices

end DeclaredField

namespace Settings

def linesAbove : DeclaredField := .lines (·.codeFrame.above) 2

def linesBelow : DeclaredField := .lines (·.codeFrame.below) 3

def internalOrigin : DeclaredField :=
  { DeclaredField.text (·.stack.internalOrigin) "cypress://".toList with
    validator := Schema.validateOrigin }

def functionNameRewrites : DeclaredField where
  Data := Rewrites
  get s := s.stack.functionNameRewrites
  default := [("Context.eval".toList, "Test.run".toList)]

def loggingLevel : DeclaredField :=
  .choice (·.logging.level.name) (Level.all.map Level.name) "WARNING".toList

def loggingFormat : DeclaredField :=
  .choice (·.logging.format.name) (LogFormat.all.map LogFormat.name) "console".toList

/-- All fields, section by section. -/
def declared : List DeclaredField :=
  [.text (·.projectRoot) ['.'], linesAbove, linesBelow, internalOrigin,
    .text (·.stack.specFrameMarker) "__getSpecFrameStack".toList, functionNameRewrites, loggingLevel,
    loggingFormat]

end Settings

/-- What settings are read with. -/
structure SettingsReader where
  /-- The document that a text is. -/
  parse : Text → Except Fault Value
  /-- The settings that a document and an environment give together. -/
  validate : Environment → Value → Except Fault Settings

end Stacktrace
