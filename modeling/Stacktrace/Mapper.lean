import Stacktrace.Error.WriteBack
import Stacktrace.Settings.Basic

/-!
# The mapper

A `Mapper` binds a resolver to settings and runs the whole pipeline on an error:

    normalize the stack → map its lines to their sources → render a code frame

`process` returns a new record. It is `processIn` with one resolver for all questions. `normalize`
and `replace` work on the caller's own host: they write the new stack into it and hand it back, and
only a host that is itself a record is replaced.
-/

namespace Stacktrace

structure Mapper where
  resolver : Resolver
  settings : Settings := {}

/-- A host after an operation, and whether it is still the one that went in. -/
structure Returned where
  host : Host
  same : Bool

namespace Mapper

/-- The source stack of a record, if it has a stack. -/
def recordSourceStackIn (session : Session) (settings : Settings) (record : ErrorRecord) :
    Run (Option SourceStack) :=
  SourceStack.ofValueIn session settings.projectRoot settings.stack.functionNameRewrites
    (Event.optionalText record.stack)

def recordSourceStack (m : Mapper) (record : ErrorRecord) : Run (Option SourceStack) :=
  recordSourceStackIn (fun _ => m.resolver) m.settings record

def sourceStack (m : Mapper) (host : Host) : Run (Option SourceStack) := do
  m.recordSourceStack (← Run.lift (ErrorRecord.ofHost host))

def codeFrame (m : Mapper) (host : Host) : Run (Option Value) :=
  findCodeFrame host m.resolver m.settings.codeFrame

def hasStack (_ : Mapper) (host : Host) : Run Bool :=
  Stacktrace.hasStack host

def isInternal (m : Mapper) (host : Host) : Run Bool :=
  Stacktrace.isInternal host m.settings.stack.internalOrigin

/-- Writes a record into the host that it was made from. A host that is a record stays the same only
if nothing had to change. -/
def giveBack (record : ErrorRecord) (unchanged : Bool) (host : Host) : Run Returned := do
  let result ← record.applyTo host
  return {
    host := result
    same := match host with
      | .record _ => unchanged
      | .value _ => true }

/-- Normalizes the stack of a host in place. -/
def normalize (_ : Mapper) (host : Host) : Run Returned := do
  let record ← Run.lift (ErrorRecord.ofHost host)
  giveBack (← record.normalize) record.showsText host

def replace (m : Mapper) (host : Host) (newStack : Text) : Run Returned := do
  let record ← Run.lift (ErrorRecord.ofHost host)
  giveBack (← record.replace m.settings.stack.specFrameMarker newStack) (!record.hasStackText) host

/-- A record with its stack rebuilt. -/
def withSourceStack (r : ErrorRecord) (s : SourceStack) : ErrorRecord :=
  { r with
    stack := some s.sourceMapped
    parsedStack := some (s.parsed.map Value.line) }

/-- Finds the code frame for a record with its stack rebuilt and adds it. -/
def addCodeFrame (resolver : Resolver) (settings : Settings) (mapped : ErrorRecord)
    (s : SourceStack) : Run ErrorRecord := do
  let codeFrame ← mapped.findCodeFrame resolver settings.codeFrame
  let result : ErrorRecord := { mapped with codeFrame }
  Run.log (.stackBuilt result.name s.frames.length result.codeFrame.isSome)
  return result

/-- What the pipeline does to a normalized record. The code frame is looked for after all questions of
the stack. -/
def mapRecordIn (session : Session) (settings : Settings) (record : ErrorRecord) :
    Run ErrorRecord := do
  let building := recordSourceStackIn session settings record
  match ← building with
  | none => return record
  | some s => addCodeFrame (session building.queries) settings (withSourceStack record s) s

/-- The pipeline in a session. -/
def processIn (session : Session) (settings : Settings) (host : Host) : Run ErrorRecord := do
  mapRecordIn session settings (← normalizeStack host)

def process (m : Mapper) : Host → Run ErrorRecord :=
  processIn (fun _ => m.resolver) m.settings

end Mapper

end Stacktrace
