import Stacktrace.Text.Basic

/-!
# Frames and positions

The records that a stack is made of. A *generated* location is what an engine reported about the
bundle it ran; a *source* location is where a resolver says that code came from.

* `FrameFields` — what one frame line says, or what it says after mapping.
* `FrameLine` — a frame ready for display, beside the message lines of a stack (`ParsedLine`).
* `Position` — a place in a file: lines count from one, columns from zero.
* `SourceLocation` — what a source map says about a position, which may be less than a whole place.
-/

namespace Stacktrace

/-- A place in a file. Lines count from one and columns from zero. -/
structure Position where
  file : Text
  line : Int
  column : Int
deriving DecidableEq, Repr

/-- Where generated code comes from. A source map may leave out any part of the answer. -/
structure SourceLocation where
  file : Option Text
  line : Option Int
  column : Option Int
deriving DecidableEq, Repr

def Position.toLocation (p : Position) : SourceLocation :=
  ⟨some p.file, some p.line, some p.column⟩

/-- The location fields of one frame. Columns count from zero. -/
structure FrameFields where
  functionName : Text
  file : Option Text
  line : Option Int
  column : Option Int
  /-- Whether the fields give a source location. -/
  mapped : Bool := false
deriving DecidableEq, Repr

/-- A frame, mapped to its source where possible. Columns of mapped frames count from one. -/
structure FrameLine where
  functionName : Text
  /-- The generated file. -/
  fileUrl : Option Text
  /-- The source file. -/
  relativeFile : Option Text
  absoluteFile : Option Text
  line : Option Int
  column : Option Int
  whitespace : Text := []
deriving DecidableEq, Repr

structure MessageLine where
  message : Text
  whitespace : Text := []
deriving DecidableEq, Repr

inductive ParsedLine where
  | message (line : MessageLine)
  | frame (line : FrameLine)
deriving DecidableEq, Repr

/-- Whether the frame names a generated file that can be looked up. -/
def FrameLine.hasFile (f : FrameLine) : Bool :=
  match f.fileUrl with
  | some (_ :: _) => true
  | _ => false

def ParsedLine.whitespace : ParsedLine → Text
  | .message m => m.whitespace
  | .frame f => f.whitespace

def ParsedLine.frame? : ParsedLine → Option FrameLine
  | .message _ => none
  | .frame f => some f

/-- The two families of frame syntax. -/
inductive Dialect where
  /-- `at name (file:line:column)` -/
  | chromium
  /-- `name@file:line:column` -/
  | firefox
deriving DecidableEq, Repr

end Stacktrace
