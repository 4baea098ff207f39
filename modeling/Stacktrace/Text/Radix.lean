import Stacktrace.Text.Blank
import Stacktrace.Text.Hexadecimal
import Stacktrace.Text.Numeral
import Stacktrace.Text.Quoted

/-!
# Numerals of other radices

`Radix.read` reads a whole number in radix two, eight, ten or sixteen, with padding around it, a sign,
and the radix's own mark in front of the digits. Digits may be of any script. Only radix ten has a
limit on their number.
-/

namespace Stacktrace.Radix

def digit? (radix : Nat) (c : Char) : Option Nat :=
  match Numeral.digit? c with
  | some d => if d < radix then some d else none
  | none => (Hexadecimal.digit? c).filter (· < radix)

/-- The letter in the mark of a radix. -/
def markLetter? : Nat → Option Char
  | 2 => some 'b'
  | 8 => some 'o'
  | 16 => some 'x'
  | _ => none

/-- The digits behind the mark of a radix, if it is there. -/
def dropMark (radix : Nat) (s : Text) : Text :=
  match s with
  | '0' :: c :: r => if markLetter? radix = some c.toLower then r else s
  | _ => s

def value (radix : Nat) (s : Text) : Nat :=
  s.foldl (fun n c => radix * n + (digit? radix c).getD 0) 0

/-- How much of a numeral a complaint shows. -/
def shownLength : Nat := 200

/-- The complaint about something that is no numeral. -/
def complaint (radix : Nat) (s : Text) : Fault :=
  .unreadableScalar ("invalid literal for int() with base ".toList ++ (Nat.repr radix).toList ++
    [':', ' '] ++ (Text.quoted s).take shownLength)

def read (radix : Nat) (s : Text) : Except Fault Int :=
  let isDigit := fun c => (digit? radix c).isSome
  let (negative, unsigned) := match Text.trimPadding s with
    | '-' :: r => (true, r)
    | '+' :: r => (false, r)
    | r => (false, r)
  let numeral := dropMark radix unsigned
  let digits := numeral.takeWhile isDigit
  if radix = 10 && digits.length > Fault.digitLimit then
    .error (.numeralTooLong digits.length)
  else if digits.isEmpty || digits.length < numeral.length then
    .error (complaint radix s)
  else
    let n : Int := value radix digits
    .ok (if negative then -n else n)

end Stacktrace.Radix
