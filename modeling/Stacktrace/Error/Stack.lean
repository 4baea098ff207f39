import Stacktrace.Error.Record
import Stacktrace.Run
import Stacktrace.Stack.Division

/-!
# The stack of an error

Engines disagree on whether a stack repeats the error's text. `normalizeStack` makes sure that it
does, `replaceStack` exchanges the frames below that text, and `hasStack` and `isInternal` look at
the frames. All of them accept any host and change none.
-/

namespace Stacktrace

open Text

/-- The mark of frames that the runner adds when it captures a call site. -/
def standardFrameMarker : Text := "__getSpecFrameStack".toList

/-- The scheme of files that the test runner itself serves. -/
def standardInternalOrigin : Text := "cypress://".toList

namespace ErrorRecord

def stackText (r : ErrorRecord) : Text :=
  r.stack.getD []

/-- Whether the first line of the stack shows the first line of the error's text. -/
def showsText (r : ErrorRecord) : Bool :=
  -- being contained is enough, wherever in the line
  occursIn (firstLine r.toText) (firstLine r.stackText)

/-- The record with its own text above its stack. -/
def headed (r : ErrorRecord) : ErrorRecord :=
  r.withStack (r.toText ++ '\n' :: r.stackText)

def hasStackText (r : ErrorRecord) : Bool :=
  !r.stackText.isEmpty

/-- The frame lines of a new stack that are kept: those without the marker. -/
def keptFrames (marker newStack : Text) : List Text :=
  (Text.divide newStack).frames.filter fun l => !occursIn marker l

def reframed (r : ErrorRecord) (marker newStack : Text) : ErrorRecord :=
  -- the old stack goes altogether: text and kept frames make the new one
  r.withStack (joinLines (r.toText :: keptFrames marker newStack))

/-- The record with its text at the top of its stack; nothing changes if it is there already. -/
def normalize (r : ErrorRecord) : Run ErrorRecord :=
  if r.showsText then
    return r
  else do
    Run.log (.stackNormalized r.name)
    return r.headed

/-- The record with its frames replaced; an error without a stack keeps having none. -/
def replace (r : ErrorRecord) (marker newStack : Text) : Run ErrorRecord :=
  if r.hasStackText then
    return r.reframed marker newStack
  else do
    Run.log (.replaceSkipped r.name)
    return r

/-- Whether the stack has a frame line. A stack that is empty is not divided at all. -/
def hasFrames (r : ErrorRecord) : Bool :=
  r.hasStackText && !(divideStack r.stack).frames.isEmpty

/-- The frame lines decide alone: a stack that is missing or empty has none. -/
theorem hasFrames_eq (r : ErrorRecord) : r.hasFrames = !(divideStack r.stack).frames.isEmpty := by
  rw [hasFrames, hasStackText, stackText]
  cases r.stack with
  | none => rfl
  | some stack => cases stack <;> rfl

/-- Whether the first frame line mentions the origin of internal files. -/
def isInternal (r : ErrorRecord) (origin : Text) : Bool :=
  match (divideStack r.stack).frames with
  | [] => false
  | l :: _ => occursIn origin l

end ErrorRecord

def normalizeStack (host : Host) : Run ErrorRecord := do
  (← Run.lift (ErrorRecord.ofHost host)).normalize

def replaceStack (host : Host) (newStack marker : Text) : Run ErrorRecord := do
  (← Run.lift (ErrorRecord.ofHost host)).replace marker newStack

def hasStack (host : Host) : Run Bool := do
  return (← Run.lift (ErrorRecord.ofHost host)).hasFrames

/-- Whether an error was thrown from the runner's own files. -/
def isInternal (host : Host) (origin : Text) : Run Bool := do
  return (← Run.lift (ErrorRecord.ofHost host)).isInternal origin

def errorText (host : Host) : Run Text := do
  return (← Run.lift (ErrorRecord.ofHost host)).toText

end Stacktrace
