import Stacktrace.Text.Basic

/-!
# Faults

Every way in which an operation of this library can fail, as a cause and not as a sentence. The
sentences are written elsewhere, in one function per kind of reader: `Fault.message` covers the
causes whose wording callers rely on, and returns `none` for the others.

A `Problem` is one complaint about a configuration value: where it stands, which rule it breaks and
the sentence for it. A rejected configuration carries all of its problems at once.
-/

namespace Stacktrace

/-- One step on the way to a value inside nested configuration. -/
inductive PathStep where
  | key (name : Text)
  | index (i : Int)
deriving DecidableEq, Repr

/-- One complaint about a configuration value. -/
structure Problem where
  path : List PathStep
  rule : Text
  message : Text
deriving DecidableEq, Repr

/-- Where variables for settings come from. -/
inductive Origin where
  | environment
  | commandLine
deriving DecidableEq, Repr

/-- Why settings cannot be gathered. -/
inductive SourceFault where
  /-- A variable for a section holds no JSON text. -/
  | unreadable (field : Text) (origin : Origin)
  /-- What all names of variables start with is no text, so that a field has no variable. -/
  | unnamed (field : Text) (origin : Origin)
  /-- The words of a command line are no sequence but of another kind. -/
  | notWords (kind : Text)
  /-- The names of options on a command line cannot start so. -/
  | unsuitableLead (lead : Text)
  /-- A command line has a word that is out of place. -/
  | misplacedWord (reason : Text)
  /-- The words for a mapping are no entries. -/
  | unreadableEntries (field reason : Text)
deriving DecidableEq, Repr

inductive Fault where
  /-- A numeral has more digits than are ever read. -/
  | numeralTooLong (digits : Nat)
  /-- A number has more digits than are ever written. -/
  | numberTooLong
  /-- No line of the source lies inside the window of a code frame. -/
  | outsideSource (line : Int) (lineText : Text) (lineCount : Nat)
  | resolverFailed (reason : Text)
  /-- A parsed stack that holds no elements was found where a sequence is needed. -/
  | notASequence
  /-- A placeholder names a variable that is not set. -/
  | missingVariable (name : Text)
  | missingFile (path : Text)
  | isDirectory
  | malformedDocument
  /-- A scalar of the document has a written form that its type does not read. -/
  | unreadableScalar (reason : Text)
  | unknownTruthValue
  | unknownMoment
  | emptyNumeral
  /-- An escape names a code point beyond the last character. -/
  | noSuchCharacter (codePoint : Nat)
  /-- A mapping that must have text keys has another one. -/
  | keyNotText
  /-- A value was used for what values of its kind are not made for. -/
  | unsuitableValue
  | source (cause : SourceFault)
  /-- A command line asks to stop, with help or because it has a word that is out of place. -/
  | stopped
  /-- The configuration breaks rules of its fields. -/
  | invalid (problems : List Problem)
  | emptyMarker
  | emptyRewrite
  /-- An event has a directive that cannot be filled. -/
  | badTemplate (reason : Text)
  /-- An event asks for a member that its mapping does not have. -/
  | unknownMember
  /-- A number is too large for what is asked of it. -/
  | numberOutOfRange
  | unknownLevel (quoted : Text)
  | unknownFormat (quoted : Text)
deriving DecidableEq, Repr

def Origin.name : Origin → Text
  | environment => "EnvSettingsSource".toList
  | commandLine => "CliSettingsSource".toList

def SourceFault.message : SourceFault → Text
  | unreadable field origin =>
    "error parsing value for field \"".toList ++ field ++ "\" from source \"".toList ++
      origin.name ++ ['"']
  | unnamed field origin =>
    "error getting value for field \"".toList ++ field ++ "\" from source \"".toList ++
      origin.name ++ ['"']
  | notWords kind =>
    "cli_parse_args must be a list or tuple of strings, received <class '".toList ++ kind ++
      "'>".toList
  | unsuitableLead lead => "CLI settings source prefix is invalid: ".toList ++ lead
  | misplacedWord reason => "error parsing CLI: ".toList ++ reason
  | unreadableEntries field reason =>
    "Parsing error encountered for ".toList ++ field ++ ": ".toList ++ reason

namespace Fault

/-- How many decimal digits a number may have to be read or written. -/
def digitLimit : Nat := 4300

/-- Code points from here on are too large even to be looked at. -/
def codePointLimit : Nat := Nat.pow 2 31

/-- The sentence for a fault, where callers rely on its wording. -/
def message : Fault → Option Text
  | numeralTooLong n => some <|
      "Exceeds the limit (".toList ++ (Nat.repr digitLimit).toList ++
        " digits) for integer string conversion: value has ".toList ++ (Nat.repr n).toList ++
        " digits; use sys.set_int_max_str_digits() to increase the limit".toList
  | numberTooLong => some <|
      "Exceeds the limit (".toList ++ (Nat.repr digitLimit).toList ++
        " digits) for integer string conversion; use sys.set_int_max_str_digits() ".toList ++
        "to increase the limit".toList
  | outsideSource _ lineText n => some <|
      "Line ".toList ++ lineText ++ " is outside the source (".toList ++ (Nat.repr n).toList ++
        " lines)".toList
  | resolverFailed reason => some reason
  | missingVariable name => some <|
      "Environment variable ".toList ++ name ++ " not found".toList
  | missingFile path => some <| "Configuration file not found: ".toList ++ path
  | unreadableScalar reason => some reason
  | badTemplate reason => some reason
  | noSuchCharacter n =>
    if n < codePointLimit then some "chr() arg not in range(0x110000)".toList else none
  | source cause => some cause.message
  | emptyMarker => some "Spec frame marker must not be empty".toList
  | emptyRewrite => some "Function name rewrites must map non-empty names".toList
  | unknownLevel quoted => some <| quoted ++ " is not a valid LogLevel".toList
  | unknownFormat quoted => some <| quoted ++ " is not a valid LogFormat".toList
  | _ => none

end Fault

end Stacktrace
