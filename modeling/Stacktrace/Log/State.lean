import Stacktrace.Log.Standard

/-!
# Logging

`LogState` is what logging remembers: the form in which entries are written, the root logger with its
level and its handlers, and the context that is bound for all later entries. Nothing has a form before
the first configuration.

`configuring` is a configuration step by step. Level and form are read before anything is set, and
then the form is set and the root logger starts anew, with one handler for its level.

`LogState.emit` is one log call. Without a form, the call is printed as the toolkit prints it. With
one, its entry goes through the chain, is rendered, and is written if it passes the root logger's level
and the level of a handler. `LogState.log` is what the handlers of the standard toolkit write.
-/

namespace Stacktrace

open Text

structure LogState where
  form : Option LogFormat := none
  root : RootLogger := {}
  context : Attributes := []

/-- What a host does with logging. -/
inductive LogAction where
  | configure (level format : Text)
  | bind (values : Attributes)
  | unbind (names : List Text)
  | clear
  | log (call : Log.Call)

namespace Log

/-- The settings with the given names, the level's name in any case, and the form's too. -/
def readSettings (level format : Text) : Except Fault LogSettings :=
  match Level.ofName? (upper level) with
  | none => .error (.unknownLevel (Text.quoted (upper level)))
  | some level =>
    match LogFormat.ofName? (lower format) with
    | none => .error (.unknownFormat (Text.quoted (lower format)))
    | some format => .ok { level, format }

end Log

namespace LogState

def withForm (form : LogFormat) (state : LogState) : LogState :=
  { state with form := some form }

def restartRoot (level : Level) (state : LogState) : LogState :=
  { state with root := state.root.restart level }

/-- Sets form and level. What was set before a fault would stay set. -/
def configuring (level format : Text) : ExceptT Fault (StateM LogState) Unit := do
  let settings ← MonadExcept.ofExcept (Log.readSettings level format)
  modify (withForm settings.format)
  modify (restartRoot settings.level)

/-- The state after a configuration that succeeds. -/
def configure (state : LogState) (level format : Text) : Except Fault LogState :=
  match (configuring level format).run state with
  | (.ok (), next) => .ok next
  | (.error e, _) => .error e

/-- The form and the level in force. -/
def settings (state : LogState) : Option LogSettings :=
  state.form.map fun format => { level := state.root.level, format }

/-- The state after an action. Log calls leave none of it changed, nor do configurations that fault. -/
def perform (t : Log.Toolkit) (state : LogState) : LogAction → LogState
  | .configure level format => ((configuring level format).run state).2
  | .bind values => { state with context := t.bind state.context values }
  | .unbind names => { state with context := t.unbind state.context names }
  | .clear => { state with context := t.clear state.context }
  | .log _ => state

/-- Binds values for all later entries. -/
def bind (state : LogState) (values : Attributes) : LogState :=
  state.perform Log.standard (.bind values)

def unbind (state : LogState) (names : List Text) : LogState :=
  state.perform Log.standard (.unbind names)

def clear (state : LogState) : LogState :=
  state.perform Log.standard .clear

end LogState

/-- What comes out of a log call: what is printed past the root logger, and what its handlers write. -/
structure Log.Emission where
  printed : Text := []
  written : LogOutput := .nothing

namespace LogState

def emit (t : Log.Toolkit) (p : Log.Package) (state : LogState) (call : Log.Call) :
    Except Fault Log.Emission :=
  match state.form with
  | none => do return { printed := ← t.printed state.context call }
  | some form => do
    let caller : Log.Caller := { logger := call.logger, level := call.level, root := state.root }
    let begun ← t.begin call
    match ← t.run (t.chain p state.context) caller begun with
    | none => return {}
    | some entry =>
      let output ← t.render form entry
      -- The root logger asks for the level once more, whatever the chain has let through.
      return { written := if state.root.writes call.level then output else .nothing }

def log (state : LogState) (call : Log.Call) : Except Fault LogOutput := do
  return (← state.emit Log.standard Log.Package.current call).written

end LogState

end Stacktrace
