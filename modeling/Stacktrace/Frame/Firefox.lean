import Stacktrace.Frame.Chromium

/-!
# Firefox and Safari frames

`name@location`, where the name may be missing and may hold quoted sections with at signs inside.
Frames of evaluated code carry a chain `file line 10 > eval line 2 > eval:1:1`, which
`collapseEvals` replaces by the line of the script that evaluated: `file:10`.

`cutName?` finds the at sign between name and location. If a quoted section closes before the last
at sign of the text, that is the first at sign behind the last such section, and otherwise the
first one.
-/

namespace Stacktrace.Firefox

open Text Numeral

/-! ## Chains of evaluated code -/

/-- Reads `piece` and a numeral after it: the numeral and the rest. -/
def piecedNumeral? (piece s : Text) : Option (Text × Text) :=
  (dropPrefix? piece s).bind cutDigits?

def linkHead : Text := " > eval line ".toList

/-- Passes over the links ` > eval line 12` of a chain. The first argument bounds their number. -/
def dropLinks : Nat → Text → Text
  | 0, s => s
  | n + 1, s =>
    match piecedNumeral? linkHead s with
    | some (_, rest) => dropLinks n rest
    | none => s

/-- Reads a whole chain at the front of the text: the digits of the script's line and the rest. -/
def chain? (s : Text) : Option (Text × Text) := do
  let (line, rest) ← piecedNumeral? " line ".toList s
  -- a rest has no more links than characters
  let (_, rest) ← piecedNumeral? " > eval:".toList (dropLinks rest.length rest)
  let (_, rest) ← piecedNumeral? [':'] rest
  return (line, rest)

/-- Replaces chains from the left. The counter holds how many code points of the chain just
replaced are still to be passed over. -/
def collapseFrom : Nat → Text → Text
  | _, [] => []
  | k + 1, _ :: s => collapseFrom k s
  | 0, c :: s =>
    match chain? (c :: s) with
    | some (line, rest) => ':' :: line ++ collapseFrom (s.length - rest.length) s
    | none => c :: collapseFrom 0 s

/-- Replaces every eval chain by a colon and the line of the script. -/
def collapseEvals (s : Text) : Text :=
  if occursIn " > eval".toList s then collapseFrom 0 s else s

/-! ## Names -/

/--
Splits a text behind the last quotation mark on its first line that closes a section and has an at
sign somewhere after it. The flags tell whether a mark was seen, and whether one was seen before the
character just passed, so that a section holds at least one character.
-/
def cutQuoted? (older newer : Bool) : Text → Option (Text × Text)
  | [] => none
  | c :: s =>
    if c = '\n' then
      none
    else
      match cutQuoted? (older || newer) (c == '"') s with
      -- a later mark is preferred to this one
      | some (before, after) => some (c :: before, after)
      | none => if c = '"' && older && s.contains '@' then some ([c], s) else none

/-- Splits a text at the at sign that ends a function name. -/
def cutName? (s : Text) : Option (Text × Text) :=
  let (quoted, rest) := (cutQuoted? false false s).getD ([], s)
  if rest.contains '@' then
    some (quoted ++ rest.takeWhile (· != '@'), (rest.dropWhile (· != '@')).drop 1)
  else
    none

/-! ## Frames -/

/-- Text that the engine writes for a frame of native code. -/
def isNativeCode (s : Text) : Bool :=
  let code := "[native code]".toList
  let evaluated := "eval@".toList
  s == [] || s == evaluated || s == code || s == evaluated ++ code

def read (line : Text) : Except Fault RawFrame := do
  let line := collapseEvals (trimStart line)
  -- neither a name nor a place: all of the line is taken for the name
  if !line.contains '@' && !line.contains ':' then
    return ⟨if line.isEmpty then none else some line, Place.unknown⟩
  else
    match cutName? line with
    | some (name, location) =>
      let place ← Place.read location
      return ⟨if name.isEmpty then none else some name, place⟩
    | none =>
      let place ← Place.read line
      return ⟨none, place⟩

end Stacktrace.Firefox
