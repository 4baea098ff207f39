import Stacktrace.Number.Shortest
import Stacktrace.Text.Numeral

/-!
# Decimals with a chosen number of digits

A double is written with a number of digits that the reader asks for, rounded to the nearest such
decimal; of two that are equally near, the one whose last digit is even. There are three forms: with a
fixed number of places behind the point, with an exponent, and in general, which takes the shorter of
the two and drops zeros at the end.

All functions take the magnitude of the number as an exact ratio.
-/

namespace Stacktrace.Number

open Numeral

/-- The nearest natural number; of two that are equally near, the even one. -/
def Ratio.nearest (r : Ratio) : Nat :=
  let below := r.num / r.den
  let twice := 2 * (r.num % r.den)
  if twice < r.den || (twice = r.den && below % 2 = 0) then below else below + 1

/-- Which zeros and points a form keeps. -/
structure Trimming where
  /-- A point stays without digits behind it, and zeros at the end stay in the general form. -/
  keep : Bool

def withPoint (t : Trimming) (whole fraction : Text) : Text :=
  if fraction.isEmpty && !t.keep then whole else whole ++ '.' :: fraction

def fillDigits (width : Nat) (n : Nat) : Text :=
  let digits := ofNat n
  List.replicate (width - digits.length) '0' ++ digits

def writeFixed (t : Trimming) (places : Nat) (r : Ratio) : Text :=
  let digits := fillDigits (places + 1) (r.scale10 (-places)).nearest
  let whole := digits.take (digits.length - places)
  withPoint t whole (digits.drop whole.length)

/-- The digits of a number, one before the point and a given number behind it, and the power of ten
of the first one. -/
def leadingDigits (places : Nat) (r : Ratio) : Text × Int :=
  if r.num = 0 then
    (List.replicate (places + 1) '0', 0)
  else
    let power := leadingPower r 700 310
    let digits := ofNat (r.scale10 (power - places)).nearest
    if digits.length > places + 1 then (digits.take (places + 1), power + 1) else (digits, power)

def writeExponent (e : Int) : Text :=
  'e' :: (if e < 0 then '-' else '+') :: fillDigits 2 e.natAbs

def writePower (t : Trimming) (digits : Text) (power : Int) : Text :=
  withPoint t (digits.take 1) (digits.drop 1) ++ writeExponent power

/-- A number with an exponent and a given number of places behind the point. -/
def writeScientific (t : Trimming) (places : Nat) (r : Ratio) : Text :=
  let (digits, power) := leadingDigits places r
  writePower t digits power

def dropFinalZeros (s : Text) : Text :=
  (s.reverse.dropWhile (· == '0')).reverse

/-- The least power of ten that is written without an exponent in the general form. -/
def leastPlainPower : Int := -4

/-- A number in the general form, with a number of digits that must not be zero. -/
def writeGeneral (t : Trimming) (count : Nat) (r : Ratio) : Text :=
  let count := max count 1
  let (digits, power) := leadingDigits (count - 1) r
  let trim (s : Text) : Text := if t.keep then s else dropFinalZeros s
  if power < leastPlainPower || power ≥ count then
    writePower t (digits.take 1 ++ trim (digits.drop 1)) power
  else if power < 0 then
    withPoint t ['0'] (trim (List.replicate (-power - 1).toNat '0' ++ digits))
  else
    withPoint t (digits.take (power.toNat + 1)) (trim (digits.drop (power.toNat + 1)))

end Stacktrace.Number
