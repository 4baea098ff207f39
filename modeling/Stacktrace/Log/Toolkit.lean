import Stacktrace.Log.Entry

/-!
# What logging is made of

An entry goes through a chain of stages, one after the other; each may change it, drop it or fault.
What the last one leaves is rendered. Which stages there are, and in which order, is the matter of
this library, and so is one of them: `Log.stampStage`, which signs every entry with the service and
its version.

The other stages, the renderers and the context whose values reach every entry are not. They come in
a `Toolkit`, of which this library knows nothing but what its makers say about it.
-/

namespace Stacktrace

/-! ## The root logger -/

/-- The logger that all entries reach. A handler is given by the level from which on it writes. -/
structure RootLogger where
  level : Level := .warning
  handlers : List Level := []
deriving DecidableEq, Repr

namespace RootLogger

def isEnabled (root : RootLogger) (level : Level) : Bool :=
  root.level.number ≤ level.number

/-- Whether an entry of a level is written by some handler. -/
def passes (root : RootLogger) (level : Level) : Bool :=
  root.handlers.any fun h => h.number ≤ level.number

/-- Whether an entry that reaches the root logger is written. -/
def writes (root : RootLogger) (level : Level) : Bool :=
  root.isEnabled level && root.passes level

def withoutHandlers (root : RootLogger) : RootLogger :=
  { root with handlers := [] }

def withHandler (level : Level) (root : RootLogger) : RootLogger :=
  { root with handlers := root.handlers ++ [level] }

def withLevel (level : Level) (root : RootLogger) : RootLogger :=
  { root with level }

/-- Starts anew: the handlers that are there are removed, one is added, and the level is set. -/
def restart (level : Level) (root : RootLogger) : RootLogger :=
  (root.withoutHandlers.withHandler level).withLevel level

end RootLogger

namespace Log

/-! ## Stages -/

/-- What a stage is told beside the entry: the logger of the call, its level, and the root logger. -/
structure Caller where
  logger : Text
  level : Level
  root : RootLogger

/-- A stage on the way of an entry. No entry stands for one that is dropped. -/
abbrev Stage := Caller → Entry → Except Fault (Option Entry)

/-- What logging takes from elsewhere. -/
structure Toolkit where
  /-- The context, of which a name has a value or none, with values bound over it. -/
  bind : Attributes → Attributes → Attributes
  /-- The context without some names. -/
  unbind : Attributes → List Text → Attributes
  /-- The context with nothing bound in it. -/
  clear : Attributes → Attributes
  /-- The entry with which a call begins. -/
  begin : Call → Except Fault Entry
  /-- Takes an entry through stages. -/
  run : List Stage → Stage
  /-- Adds what is bound in a context. -/
  mergeContext : Attributes → Stage
  /-- Drops entries for which the root logger is not enabled. -/
  filterByLevel : Stage
  /-- Adds the name of the logger. -/
  addLoggerName : Stage
  /-- Adds the name of the level. -/
  addLevel : Stage
  /-- Puts arguments into the event. -/
  fillArguments : Stage
  /-- Adds the time. -/
  stampTime : Stage
  /-- Adds the call stack where an entry asks for it. -/
  showStack : Stage
  /-- Adds the text of an error that is handed over. -/
  showError : Stage
  /-- Reads octets as text. -/
  decodeOctets : Stage
  /-- A value as `decodeOctets` leaves it. -/
  decoded : Value → Value
  /-- An entry as an object in JSON. -/
  inJson : Entry → Except Fault Attributes
  /-- A value as it stands in JSON. -/
  toJson : Value → Except Fault Value
  /-- An entry as a line for people. -/
  onConsole : Entry → Except Fault Text
  /-- What a call prints, given the context, while nothing is configured. -/
  printed : Attributes → Call → Except Fault Text

/-! ## The signature -/

def service : Text := "stack-mapper".toList

/-- What is known about the version of this library: the one under which it is installed, and the one
that the project's file next to it declares. -/
structure Package where
  installed : Option Text
  declared : Option Text

namespace Package

/-- The version, if it is known at all. -/
def version (p : Package) : Option Text :=
  p.installed.or p.declared

/-- This library as it is installed. -/
def current : Package where
  installed := some "0.1.0".toList
  declared := some "0.1.0".toList

end Package

/-- Fields with the service and its version. A version that is not known is left out. -/
def stampWith (p : Package) (fields : Attributes) : Attributes :=
  let signed := fields.set "service".toList (.text service)
  match p.version with
  | some version => signed.set "version".toList (.text version)
  | none => signed

def stamp : Attributes → Attributes :=
  stampWith Package.current

theorem namedOnce_stampWith {p : Package} {fields : Attributes} (h : fields.NamedOnce) :
    (stampWith p fields).NamedOnce := by
  unfold stampWith
  split
  · exact h.set.set
  · exact h.set

def stampStage (p : Package) : Stage := fun _ e =>
  .ok (some ⟨stampWith p e.fields, namedOnce_stampWith e.once⟩)

namespace Toolkit

/-- The stages of every entry, in their order. -/
def chain (t : Toolkit) (p : Package) (context : Attributes) : List Stage :=
  [t.mergeContext context, stampStage p, t.filterByLevel, t.addLoggerName, t.addLevel,
    t.fillArguments, t.stampTime, t.showStack, t.showError, t.decodeOctets]

def render (t : Toolkit) (form : LogFormat) (e : Entry) : Except Fault LogOutput :=
  match form with
  | .json => do return .entry (← t.inJson e)
  | .console => do return .line (← t.onConsole e)

end Toolkit

end Log

end Stacktrace
