import Stacktrace.Text.Blank
import Stacktrace.Text.Numeral

/-!
# Whole numbers as people write them

`Whole.read` takes a text for a whole number where nothing of it is lost. It tidies the text first:

1. padding and a plus sign are dropped;
2. leading zeros are dropped, and with them the underscores between them;
3. a fraction of zeros is dropped;
4. underscores are dropped if each stands alone between two other characters.

What is left has to be plain: a minus sign or none, and then a zero or digits that do not start with
one.
-/

namespace Stacktrace.Whole

open Text

inductive Refusal where
  /-- The text is not written like one. -/
  | unreadable
  /-- There are more digits than are ever read. -/
  | tooLong
deriving DecidableEq, Repr

/-- Reads a zero alone, or digits that do not start with one. -/
def readDigits (s : Text) : Except Refusal Nat :=
  let digits := s.takeWhile Char.isDigit
  if s = ['0'] then .ok 0
  else if digits.isEmpty || digits.head? = some '0' then .error .unreadable
  else if digits.length > Fault.digitLimit then .error .tooLong
  else if digits.length < s.length then .error .unreadable
  else .ok (Numeral.value digits)

def readPlain : Text → Except Refusal Int
  | '-' :: s => (readDigits s).map fun n => -(n : Int)
  | s => (readDigits s).map Int.ofNat

/-- The text behind its plus sign; both signs at once are too many. -/
def dropPlus : Text → Option Text
  | '+' :: '-' :: _ => none
  | '+' :: s => some s
  | s => some s

/-- What follows a zero, from the first character on that counts. Before a point, and at the end, the
last character passed over is kept. -/
def behindZero (last : Char) : Text → Option Text
  | [] => some [last]
  | c :: s =>
    if c = '0' || c = '_' then behindZero c s
    else if c = '.' then some (last :: c :: s)
    else if c = '-' || c.isDigit then some (c :: s)
    else none

def dropZeros : Text → Option Text
  | [] => none
  | c :: s =>
    if c = '0' then behindZero c s
    else if c = '-' || c.isDigit then some (c :: s)
    else none

def dropFraction (s : Text) : Text :=
  match s.dropWhile (· != '.') with
  | '.' :: zeros =>
    if !zeros.isEmpty && zeros.all (· == '0') then s.takeWhile (· != '.') else s
  | _ => s

/-- The text without underscores, if each stands alone between two other characters. -/
def dropUnderscores (s : Text) : Text :=
  if s.head? = some '_' || s.getLast? = some '_' || occursIn ['_', '_'] s then s
  else s.filter (· != '_')

/-- The text without all that a whole number can do without. -/
def tidied? (s : Text) : Option Text := do
  let unsigned ← dropPlus (trimPadding s)
  return dropUnderscores (dropFraction (← dropZeros unsigned))

def read (s : Text) : Except Refusal Int :=
  match tidied? s with
  | some t => readPlain t
  | none => .error .unreadable

end Stacktrace.Whole
