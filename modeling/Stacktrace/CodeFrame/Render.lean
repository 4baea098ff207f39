import Stacktrace.Text.Numeral

/-!
# Rendering code frames

A code frame shows the source lines around an error. Every row has a gutter with a line number; the
row of the error starts with `>` and, if a column is known, a row with a caret under that column
follows it.

```
  1 | const a = 1
> 2 | const b = c
    |           ^
  3 | done()
```

`render` picks the window, which may be empty: then no line of the source lies inside it, and that
is a fault.
-/

namespace Stacktrace.CodeFrame

open Text Numeral

/-- Lines shown before the marked line unless said otherwise. -/
def standardLinesAbove : Int := 2

/-- Lines shown after the marked line unless said otherwise. -/
def standardLinesBelow : Int := 3

/-- Whether the character ends a source line on its own. -/
def endsLine (c : Char) : Bool :=
  c = '\n' || c = '\r' || c = '\u2028' || c = '\u2029'

def consFirst (c : Char) : List Text → List Text
  | [] => [[c]]
  | l :: ls => (c :: l) :: ls

/-- The lines of a source. A carriage return and the line feed after it end one line together. -/
def sourceLines : Text → List Text
  | [] => [[]]
  | '\r' :: '\n' :: s => [] :: sourceLines s
  | c :: s => if endsLine c then [] :: sourceLines s else consFirst c (sourceLines s)

/-- The rows to render, from which line to which, and where the marks go. -/
structure Window where
  start : Nat
  stop : Nat
deriving DecidableEq, Repr

/-- The source lines inside the window around a line. -/
def window (lineCount : Nat) (line linesAbove linesBelow : Int) : Window :=
  { start := (line - (linesAbove + 1)).toNat
    stop := (min (lineCount : Int) (line + linesBelow)).toNat }

def gutter (width number : Nat) : Text :=
  ' ' :: padLeft width (ofNat number) ++ [' ', '|']

/-- The gutter of the caret row: the same without digits. -/
def blankGutter (width number : Nat) : Text :=
  (gutter width number).map fun c => if '0' ≤ c && c ≤ '9' then ' ' else c

/-- The code of a row, a space apart from the gutter unless the line is empty. -/
def code (text : Text) : Text :=
  if text.isEmpty then [] else ' ' :: text

/-- What stands before the caret: the tabs of the line, and spaces for everything else. -/
def caretSpacing (text : Text) (column : Int) : Text :=
  (text.take (column - 1).toNat).map fun c => if c = '\t' then '\t' else ' '

def caretRow (width number : Nat) (text : Text) (column : Int) : Text :=
  ' ' :: blankGutter width number ++ ' ' :: caretSpacing text column ++ ['^']

def rows (width : Nat) (line : Int) (column : Option Int) (number : Nat) (text : Text) :
    List Text :=
  if (number : Int) ≠ line then
    [' ' :: gutter width number ++ code text]
  else
    let row := '>' :: gutter width number ++ code text
    match column with
    | none => [row]
    -- column zero stands for no column
    | some column => if column = 0 then [row] else [row, caretRow width number text column]

def allRows (width : Nat) (line : Int) (column : Option Int) : Nat → List Text → List Text
  | _, [] => []
  | number, text :: texts =>
    rows width line column number text ++ allRows width line column (number + 1) texts

def render (source : Text) (line : Int) (column : Option Int)
    (linesAbove linesBelow : Int) : Except Fault Text :=
  let texts := sourceLines source
  let w := window texts.length line linesAbove linesBelow
  -- the window is tested and not the line, so a line close to the source still has a window
  if w.stop ≤ w.start then do
    -- the fault's text names the line, and writing its number may fail first
    let lineText ← Numeral.write line
    .error (.outsideSource line lineText texts.length)
  else
    let shown := (texts.take w.stop).drop w.start
    -- the last number is the longest
    let width := (ofNat w.stop).length
    .ok (joinLines (allRows width line column (w.start + 1) shown))

end Stacktrace.CodeFrame
