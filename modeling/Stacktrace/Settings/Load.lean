import Stacktrace.Document.Yaml
import Stacktrace.Mapper
import Stacktrace.Settings.Declared
import Stacktrace.Settings.Sources

/-!
# Settings from files

A settings file is a text with placeholders for environment variables. `Settings.loadWith` puts the
variables in, has a reader read the document, takes an empty one for no settings at all, has the
reader lay the settings over those of the environment, and adds the rules that span fields.
`Settings.load` does so with the standard reader, for which a document is YAML.

`SettingsFile` is what a path leads to. Where there is no file, loading fails with the path as it is
shown to people.
-/

namespace Stacktrace

/-- What the path of a settings file leads to: a text, a directory or nothing. -/
inductive SettingsFile where
  | text (contents : Text)
  | directory
  | missing (path : Text)

namespace SettingsFile

/-- Whether a path leads up only, or nowhere. -/
def staysAbove (path : Text) : Bool :=
  (Path.components path).all fun c => c = [] || c = ['.'] || c = Path.parent

/-- What a path leads to where there are no files: a directory above, or nothing. -/
def nothingAt (path : Text) : SettingsFile :=
  if staysAbove path then directory else missing (Path.tidied path)

end SettingsFile

namespace Settings

/-- The text with a line feed for every line end. -/
def unifyLineEnds : Text → Text
  | [] => []
  | '\r' :: '\n' :: s => '\n' :: unifyLineEnds s
  | c :: s => (if c = '\r' then '\n' else c) :: unifyLineEnds s

/-- The settings that a document gives together with the environment, rules that span fields
included. An empty document gives no settings at all. -/
def ofDocumentWith (r : SettingsReader) (environment : Environment) (document : Value) :
    Except Fault Settings := do
  -- nothing, false, zero and empty containers are all read as no settings
  let given := if document.isTruthy then document else .map []
  (← r.validate environment given).confirm

def ofTextWith (r : SettingsReader) (environment : Environment) (contents : Text) :
    Except Fault Settings := do
  -- placeholders are replaced in the text, before anything is read from it
  let text ← Placeholder.substitute environment (unifyLineEnds contents)
  ofDocumentWith r environment (← r.parse text)

def loadWith (r : SettingsReader) (environment : Environment) : SettingsFile → Run Settings
  | .directory => Run.fail .isDirectory
  | .missing path => Run.fail (.missingFile path)
  | .text contents => do
    let settings ← Run.lift (ofTextWith r environment contents)
    Run.log .configLoaded
    return settings

end Settings

/-- Reads YAML, and checks what all sources give together. -/
def SettingsReader.standard : SettingsReader where
  parse := Yaml.read
  validate := Sources.readSettings

namespace Settings

def ofDocument : Environment → Value → Except Fault Settings :=
  ofDocumentWith .standard

def load : Environment → SettingsFile → Run Settings :=
  loadWith .standard

end Settings

def Mapper.ofFile (resolver : Resolver) (environment : Environment) (file : SettingsFile) :
    Run Mapper := do
  return { resolver, settings := ← Settings.load environment file }

end Stacktrace
