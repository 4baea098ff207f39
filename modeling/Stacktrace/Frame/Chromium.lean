import Stacktrace.Frame.Place
import Stacktrace.Text.Blank

/-!
# Chromium frames

`at name (location)` or `at location`. Reading one goes in four steps:

1. `unwrapEvals` takes the wrappers `(eval at name …, <anonymous>:1:1)` away, so that the innermost
   location is left;
2. `dropKeyword` removes everything up to and including the first run of blanks;
3. `findLocation` looks for the parenthesised text that ends the line;
4. `Place.read` splits that text, or the whole line where there is none.

The pseudo files of the engine are no files.
-/

namespace Stacktrace

open Text

/-- What a frame line says before its function name is cleaned. -/
structure RawFrame where
  functionName : Option Text
  place : Place
deriving DecidableEq, Repr

namespace Chromium

/-- Names that the engine gives to code without a file. -/
def pseudoFiles : List Text :=
  [['e', 'v', 'a', 'l'], ['<', 'a', 'n', 'o', 'n', 'y', 'm', 'o', 'u', 's', '>']]

def evalMark : Text := ['(', 'e', 'v', 'a', 'l', ' ']

def wrapperHead : Text := ['e', 'v', 'a', 'l', ' ', 'a', 't', ' ']

/-- Whether nothing but at most a final line feed follows the current line. -/
def onLastLine (s : Text) : Bool :=
  (cutFinalNewline s).1.all (· != '\n')

/--
Removes eval wrappers. A wrapper's head runs from `(eval at ` up to the next parenthesis; the flag
tells whether the walk is inside a head. A comma on the last line ends the frame: it and everything
after it is the wrapper's tail.
-/
def unwrapFrom : Bool → Text → Text
  | _, [] => []
  | inHead, c :: s =>
    if inHead && c != '(' && c != ')' then
      unwrapFrom true s
    else if c = '(' && wrapperHead.isPrefixOf s then
      unwrapFrom true s
    -- a tail cannot run past a line end, so only a comma on the last line starts one
    else if c = ',' && onLastLine s then
      (cutFinalNewline s).2
    else
      c :: unwrapFrom false s

/-- Removes the eval wrappers of a frame inside evaluated code; other frames stay as they are. -/
def unwrapEvals (line : Text) : Text :=
  if occursIn evalMark line then
    unwrapFrom false
      (replaceAll ['e', 'v', 'a', 'l', ' ', 'c', 'o', 'd', 'e'] ['e', 'v', 'a', 'l'] line)
  else
    line

/-- Removes everything up to the first blank and the blanks there. Without a blank nothing goes. -/
def dropKeyword (s : Text) : Text :=
  if s.any isBlank then
    (s.dropWhile fun c => !isBlank c).dropWhile isBlank
  else
    s

/-- Whether the text, after an opening parenthesis, is some text on one line and a closing
parenthesis at the end; returns what stands up to and including that parenthesis. -/
def closedToEnd? (s : Text) : Option Text :=
  let body := (cutFinalNewline s).1
  -- at least one character stands between the parentheses
  if 2 ≤ body.length && body.getLast? == some ')' && body.all (· != '\n') then
    some body
  else
    none

/-- The leftmost parenthesised text behind a space that runs to the end of the line. -/
def findLocation : Text → Option Text
  | ' ' :: '(' :: s =>
    match closedToEnd? s with
    | some body => some ('(' :: body)
    -- the search goes on behind the space: a later one may stand in front of a location
    | none => findLocation ('(' :: s)
  | _ :: s => findLocation s
  | [] => none

/-- A place without a file if the file is only a name that the engine made up. -/
def dropPseudoFile (p : Place) : Place :=
  match p.file with
  | some f => if pseudoFiles.contains f then { p with file := none } else p
  | none => p

def read (line : Text) : Except Fault RawFrame := do
  let line := trimStart (unwrapEvals line)
  -- the words for evaluated code go and their parenthesis stays, in lines without a wrapper too
  let line := dropKeyword (replaceAll
    ['(', 'e', 'v', 'a', 'l', ' ', 'c', 'o', 'd', 'e'] ['('] line)
  match findLocation line with
  | some location =>
    -- the first occurrence goes, which need not be the one that was found
    let name := replaceFirst (' ' :: location) [] line
    let place ← Place.read location
    return ⟨if name.isEmpty then none else some name, dropPseudoFile place⟩
  | none =>
    let place ← Place.read line
    return ⟨none, dropPseudoFile place⟩

end Chromium

end Stacktrace
