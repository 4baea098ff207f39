import Stacktrace.Settings.Options
import Stacktrace.Settings.Schema

/-!
# Settings from all their sources

Settings come from given values and, below them, from environment variables whose names start with
`STACK_MAPPER_`; the case of names does not matter. Sections that more than one source gives are
merged field by field. Options among the given values change where settings come from; with them, a
command line may stand above the given values, and the defaults of sections below the environment.

`readSettings` is the whole way from a value to settings, and `environmentSettings` the way without
one.
-/

namespace Stacktrace.Sources

open Text

def sectionDefaults : List (Value × Value) :=
  let standard : Settings := {}
  let text (s : Text) : Value := .text s
  let fields (es : List (String × Value)) : Value := .map (es.map fun e => (text e.1.toList, e.2))
  [(text "code_frame".toList, fields [
      ("lines_above", .int standard.codeFrame.above),
      ("lines_below", .int standard.codeFrame.below)]),
    (text "stack".toList, fields [
      ("internal_origin", text standard.stack.internalOrigin),
      ("spec_frame_marker", text standard.stack.specFrameMarker),
      ("function_name_rewrites",
        .map (standard.stack.functionNameRewrites.map fun r => (text r.1, text r.2)))]),
    (text "logging".toList, fields [
      ("level", text standard.logging.level.name),
      ("format", text standard.logging.format.name)])]

/-- Everything that an environment gives under options. -/
def environmentEntries (o : Options) (lead : Option Text) (nesting : Option Nesting)
    (environment : Environment) : Except Fault (List (Value × Value)) :=
  match lead with
  | none => .error (.source (.unnamed Field.root .environment))
  | some lead =>
    let naming : Naming := { lead, nesting, caseMatters := o.caseMatters }
    naming.entries .environment (o.toVariables environment)

/-- Everything that the sources give together. -/
def gather (o : Options) (environment : Environment) (given : List (Value × Value)) :
    Except Fault (List (Value × Value)) := do
  let nesting ← o.nesting
  let lead ← o.lead
  -- the options are checked in this order, and the first fault counts
  o.checkFiles "_env_file"
  let commanded ← match ← o.commandLine with
    | none => pure []
    | some c => c.entries
  let inherited ← environmentEntries o lead nesting environment
  o.checkFiles "_secrets_dir"
  let base := if o.fromDefaults then sectionDefaults else []
  -- each source is laid over those below it
  return Value.mergeEntries base (Value.mergeEntries inherited (Value.mergeEntries given commanded))

def isTextKey : Value → Bool
  | .text _ => true
  | _ => false

/-- A fault of the sources as a problem of the settings. -/
def asProblem : Fault → Fault
  | .source cause => .invalid
      [⟨[], "value_error".toList, "Value error, ".toList ++ cause.message⟩]
  | fault => fault

/-- The settings that a value gives together with the environment. -/
def readSettings (environment : Environment) : Value → Except Fault Settings
  | .map given => do
    if !given.all fun e => isTextKey e.1 then
      .error .keyNotText
    else
      let (options, fields) := Options.split given
      let entries ← (gather options environment fields).mapError asProblem
      Schema.orFault (Schema.checkSettings entries)
  | _ => .error (.invalid (Schema.problem [] "model_type"
      "Input should be a valid dictionary or instance of StackMapperConfig"))

def environmentSettings (environment : Environment) : Except Fault Settings := do
  Schema.orFault (Schema.checkSettings (← gather {} environment []))

end Stacktrace.Sources
