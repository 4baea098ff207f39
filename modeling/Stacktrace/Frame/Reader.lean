import Stacktrace.Frame.Basic
import Stacktrace.Frame.Firefox
import Stacktrace.Frame.Grammar

/-!
# Reading a frame line

`Frame.read` joins the pieces: the grammar says whether a line is a frame, the dialect says how its
location is pulled out, and the function name is cleaned of the suffixes that Firefox gives to
functions inside anonymous wrappers. The outcome is a `Reading`, which tells a line that is no frame
from a frame that names no place.
-/

namespace Stacktrace.Frame

open Text

def unknownFunction : Text := "<unknown>".toList

/-- Removes one wrapper suffix, `</<` or `/<`, from the end of a name. A final line feed stays. -/
def dropWrapperSuffix (name : Text) : Text :=
  let (body, newline) := cutFinalNewline name
  if endsWith ['<', '/', '<'] body then
    body.take (body.length - 3) ++ newline
  -- the longer suffix is tried first: the leftmost match wins
  else if endsWith ['/', '<'] body then
    body.take (body.length - 2) ++ newline
  else
    name

/-- The function name to report. A missing or empty name is unknown. -/
def cleanName : Option Text → Text
  | none => unknownFunction
  | some [] => unknownFunction
  | some (c :: s) => dropWrapperSuffix (c :: s)

/-- What a line of a stack turns out to be. -/
inductive Reading where
  /-- No frame. -/
  | message
  /-- A frame that names neither a file nor a line. -/
  | placeless (dialect : Dialect)
  /-- A frame at a place. -/
  | frame (fields : FrameFields)
deriving DecidableEq, Repr

def dialect (line : Text) : Dialect :=
  if speaksChromium line then .chromium else .firefox

/-- The fields of a frame, if it names a file or a line. -/
def RawFrame.reading (dialect : Dialect) (raw : RawFrame) : Reading :=
  if raw.place.file.isNone && raw.place.line.isNone then
    .placeless dialect
  else
    .frame {
      functionName := cleanName raw.functionName
      file := raw.place.file
      line := raw.place.line.map Int.ofNat
      column := raw.place.column.map Int.ofNat }

def read (line : Text) : Except Fault Reading :=
  if !isFrameText line then
    .ok .message
  else
    match dialect line with
    | .chromium => (Chromium.read line).map (RawFrame.reading .chromium)
    | .firefox =>
      -- native code is named like a frame and has no place to map
      if Firefox.isNativeCode (trim line) then
        .ok .message
      else
        (Firefox.read line).map (RawFrame.reading .firefox)

end Stacktrace.Frame
