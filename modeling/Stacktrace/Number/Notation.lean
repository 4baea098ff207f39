import Stacktrace.Number.Shortest
import Stacktrace.Text.Blank
import Stacktrace.Text.Numeral

/-!
# Decimal notation of floating-point numbers

`ofFloat` writes a double with the digits of its shortest decimal. Leading digits worth `10 ^ -4` up
to `10 ^ 15` are written positionally and always with a fractional part; others get an exponent with
a sign and at least two digits. `toFloat` is the way back: the double nearest to a decimal. `read?`
reads the forms that people write.
-/

namespace Stacktrace.Number

open Numeral

/-- The powers of ten of the leading digit that are written positionally. -/
def positionalPowers : Int × Int := (-4, 16)

def pointed : Text → Text
  | [] => []
  | [d] => [d]
  | d :: ds => d :: '.' :: ds

/-- `d · 10 ^ e`, for a positive `d` without trailing zeros. -/
def writeDecimal (d : Nat) (e : Int) : Text :=
  let digits := ofNat d
  let lead : Int := e + digits.length - 1
  if lead < positionalPowers.1 || lead ≥ positionalPowers.2 then
    let exponent := ofNat lead.natAbs
    pointed digits ++ 'e' :: (if lead < 0 then '-' else '+') ::
      (if exponent.length < 2 then '0' :: exponent else exponent)
  else if e ≥ 0 then
    digits ++ List.replicate e.toNat '0' ++ ['.', '0']
  else if lead ≥ 0 then
    digits.take (lead.toNat + 1) ++ '.' :: digits.drop (lead.toNat + 1)
  else
    '0' :: '.' :: List.replicate (-lead - 1).toNat '0' ++ digits

def ofBinary64 : Binary64 → Text
  | .nan => "nan".toList
  | .infinite negative => (if negative then "-inf" else "inf").toList
  | .finite negative m q =>
    (if negative then ['-'] else []) ++
      (if m = 0 then "0.0".toList else let r := shortest m q; writeDecimal r.1 r.2)

def ofFloat (x : Float) : Text :=
  ofBinary64 (Binary64.decode x.toBits.toNat)

/-- The double nearest to `d · 10 ^ e`. Decimals beyond every double are infinite or zero. -/
def toFloat (d : Nat) (e : Int) : Float :=
  let lead := e + (ofNat d).length
  if d = 0 then 0.0
  else if lead > 320 then 1.0 / 0.0
  else if lead < -400 then 0.0
  else if e ≥ 0 then Float.ofScientific (d * Nat.pow 10 e.toNat) false 0
  else Float.ofScientific d true (-e).toNat

/-! ## Reading -/

def cutSign : Text → Bool × Text
  | '-' :: s => (true, s)
  | '+' :: s => (false, s)
  | s => (false, s)

/-- The exponent that ends a number: none, or a letter, an optional sign and digits. -/
def readExponent? : Text → Option Int
  | [] => some 0
  | c :: s =>
    let (negative, digits) := cutSign s
    if (c = 'e' || c = 'E') && !digits.isEmpty && digits.all isDigit then
      some (if negative then -(value digits : Int) else value digits)
    else
      none

/-- Reads digits with an optional point among them and an optional exponent. -/
def readMagnitude? (s : Text) : Option Float := do
  let whole := s.takeWhile isDigit
  let (fraction, rest) := match s.dropWhile isDigit with
    | '.' :: r => (r.takeWhile isDigit, r.dropWhile isDigit)
    | r => ([], r)
  let exponent ← readExponent? rest
  if whole.isEmpty && fraction.isEmpty then
    none
  else
    some (toFloat (value (whole ++ fraction)) (exponent - fraction.length))

/-- The words for numbers that have no digits, in lower case. -/
def words : List (Text × Float) :=
  [("inf".toList, 1.0 / 0.0), ("infinity".toList, 1.0 / 0.0), ("nan".toList, 0.0 / 0.0)]

/-- Reads a number with padding around it: a sign, and digits or a word in any case. -/
def read? (s : Text) : Option Float :=
  let (negative, s) := cutSign (Text.trimPadding s)
  let magnitude := match words.lookup (s.map Char.toLower) with
    | some x => some x
    | none => readMagnitude? s
  magnitude.map fun x => if negative then -x else x

end Stacktrace.Number
