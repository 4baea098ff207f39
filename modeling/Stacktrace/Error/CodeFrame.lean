import Stacktrace.CodeFrame.Render
import Stacktrace.Error.Record
import Stacktrace.Resolver
import Stacktrace.Text.Path

/-!
# The code frame of an error

An error that carries a usable code frame keeps it. Otherwise the first classified frame with a
generated file decides: the resolver is asked for its source once, and the lines around it are
rendered. Whatever is missing on the way, the error then has no code frame.
-/

namespace Stacktrace

open Text

/-- How many lines of context a code frame shows. -/
structure ContextLines where
  above : Int := CodeFrame.standardLinesAbove
  below : Int := CodeFrame.standardLinesBelow
deriving DecidableEq, Repr

/-- Renders the code frame of a stack frame from its source, if both are known well enough. -/
def codeFrameFromSource (source : Option Text) (frame : FrameLine) (context : ContextLines) :
    Run (Option CodeFrame) :=
  match source, frame.line with
  | some (c :: cs), some line =>
    match CodeFrame.render (c :: cs) line frame.column context.above context.below with
    | .ok [] => return none
    | .ok rendered => return some {
        line
        column := frame.column
        relativeFile := frame.relativeFile
        absoluteFile := frame.absoluteFile
        frame := rendered
        language := Path.language frame.relativeFile }
    -- a line outside its source costs the code frame only
    | .error (.outsideSource l t n) => do
      Run.log (.codeFrameUnavailable frame.relativeFile
        (((Fault.outsideSource l t n).message).getD []))
      return none
    | .error e => Run.fail e
  | _, _ => return none

/-- The first classified frame with a generated file. -/
def firstFrameWithFile : List Value → Option FrameLine
  | [] => none
  | .line (.frame f) :: rest => if f.hasFile then some f else firstFrameWithFile rest
  | _ :: rest => firstFrameWithFile rest

/-- The code frame of a record: its own, or one made from its first frame with a file. -/
def ErrorRecord.findCodeFrame (record : ErrorRecord) (resolver : Resolver)
    (context : ContextLines) : Run (Option Value) :=
  match record.codeFrame with
  | some c => return some c
  | none =>
    match firstFrameWithFile (record.parsedStack.getD []) with
    | none => return none
    | some frame =>
      match frame.fileUrl with
      | none => return none
      | some fileUrl => do
        match ← resolver.askContents fileUrl frame.relativeFile with
        | none =>
          Run.log (.contentsUnavailable fileUrl frame.relativeFile)
          return none
        | some source =>
          return (← codeFrameFromSource (some source) frame context).map Value.codeFrame

def findCodeFrame (host : Host) (resolver : Resolver) (context : ContextLines) :
    Run (Option Value) := do
  (← Run.lift (ErrorRecord.ofHost host)).findCodeFrame resolver context

end Stacktrace
