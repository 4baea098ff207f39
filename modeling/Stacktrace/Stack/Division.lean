import Stacktrace.Frame.Grammar
import Stacktrace.Value.Basic

/-!
# Dividing a stack into message and frames

A stack starts with the lines of its message. The first frame line ends the message for good: every
later line counts as a frame, whether or not the grammar would take it. `Division` is the state of
this two-state automaton, `feed` is its step and `divide` runs it over the lines of a stack.
-/

namespace Stacktrace

open Text

/-- Which part of a stack the lines are filed under at the moment. -/
inductive Section where
  | message
  | frames
deriving DecidableEq, Repr

/-- The lines seen so far, filed under the two parts of a stack. -/
structure Division (α : Type) where
  state : Section
  messages : List α
  frames : List α
deriving Repr

namespace Division

def empty : Division α := ⟨.message, [], []⟩

/-- Files one line. The predicate says which lines are frame lines. -/
def feed (isFrame : α → Bool) (d : Division α) (line : α) : Division α :=
  -- there is no way back to the message
  let state := if d.state = .message && isFrame line then .frames else d.state
  match state with
  | .message => ⟨state, d.messages ++ [line], d.frames⟩
  | .frames => ⟨state, d.messages, d.frames ++ [line]⟩

def feedAll (isFrame : α → Bool) (d : Division α) (lines : List α) : Division α :=
  lines.foldl (feed isFrame) d

end Division

/-- Whether a value is a frame line. Only texts are. -/
def Value.isFrameLine : Value → Bool
  | .text s => Frame.isFrameText s
  | _ => false

def Text.divide (stack : Text) : Division Text :=
  Division.empty.feedAll Frame.isFrameText (lines stack)

/-- Divides a stack that may be missing: then it has neither message nor frames. -/
def divideStack : Option Text → Division Text
  | none => .empty
  | some stack => Text.divide stack

end Stacktrace
