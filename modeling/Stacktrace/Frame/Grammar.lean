import Stacktrace.Text.Blank
import Stacktrace.Text.Numeral

/-!
# The grammar of frame lines

A line is a frame line when it ends in a place: `:digits:digits`, then at most one closing
parenthesis. One final line feed is ignored, and line feeds further left are tolerated only as
part of a blank beginning. `isFrameText` decides this by one look from the right-hand end.

The engine's dialect plays no part in the decision. `speaksChromium` asks for the syntax of a line
that is already known to be a frame: the keyword `at` and, later on the same line, something that
looks like a place.
-/

namespace Stacktrace.Frame

open Text Numeral

/-! ## Recognising a place at the end -/

/-- Splits a numeral and the colon before it off the end of a text that is given backwards. -/
def dropColonNumeral? (backwards : Text) : Option Text :=
  match cutDigits? backwards with
  | some (_, ':' :: rest) => some rest
  | _ => none

/-- Whether a text that is given backwards ends in `:digits:digits`. -/
def endsInNumerals (backwards : Text) : Bool :=
  ((dropColonNumeral? backwards).bind dropColonNumeral?).isSome

/-- Whether a text that is given backwards ends in a place, with or without a parenthesis. -/
def endsInPlace (backwards : Text) : Bool :=
  match backwards with
  | ')' :: rest => endsInNumerals rest
  | rest => endsInNumerals rest

def isFrameText (s : Text) : Bool :=
  let backwards := (cutFinalNewline s).1.reverse
  -- line ends may stand in the indentation, and nowhere behind it
  (backwards.dropWhile (· != '\n')).all isBlank && endsInPlace (backwards.takeWhile (· != '\n'))

/-! ## The dialect of a frame line -/

/-- Whether a colon with a digit after it stands behind a character that is not blank. The first
argument tells whether the character just passed was such a character. -/
def hasColonDigit : Bool → Text → Bool
  | _, [] => false
  | solid, c :: s =>
    (solid && c == ':' && (s.head?.map isDigit).getD false) || hasColonDigit (!isBlank c) s

/-- Whether the line is written with the keyword `at` and shows a place, or native code, after it. -/
def speaksChromium (s : Text) : Bool :=
  match dropPrefix? ['a', 't', ' '] (trimStart s) with
  | none => false
  | some rest =>
    let rest := firstLine rest
    hasColonDigit false rest || occursIn ['(', 'n', 'a', 't', 'i', 'v', 'e', ')'] rest

end Stacktrace.Frame
