/-!
# The shortest decimal of a binary floating-point number

`Binary64.decode` reads the bits of a double as `m · 2 ^ q`. `shortest` finds the decimal `d · 10 ^ e`
with the fewest digits among those that round to the same double: for one digit, two digits and so
on it tests the two neighbours of the number on that decimal grid, in exact arithmetic. The first
grid with a hit wins, of two hits the nearer one, and an exact tie goes to the even digit.
-/

namespace Stacktrace.Number

/-- The parts of a double. A finite one is `mantissa · 2 ^ exponent`, negated if so marked. -/
inductive Binary64 where
  | finite (negative : Bool) (mantissa : Nat) (exponent : Int)
  | infinite (negative : Bool)
  | nan
deriving DecidableEq, Repr

/-- The parts that the sixty-four bits of a double stand for. -/
def Binary64.decode (bits : Nat) : Binary64 :=
  let negative := bits / Nat.pow 2 63 % 2 == 1
  let biased : Nat := bits / Nat.pow 2 52 % Nat.pow 2 11
  let fraction : Nat := bits % Nat.pow 2 52
  if biased == 2047 then
    if fraction == 0 then .infinite negative else .nan
  else if biased == 0 then
    .finite negative fraction (-1074)
  else
    .finite negative (Nat.pow 2 52 + fraction) ((biased : Int) - 1075)

structure Ratio where
  num : Nat
  den : Nat
deriving Repr

def Ratio.scale2 (n : Nat) (q : Int) : Ratio :=
  if q ≥ 0 then ⟨n * Nat.pow 2 q.toNat, 1⟩ else ⟨n, Nat.pow 2 (-q).toNat⟩

def Ratio.scale10 (r : Ratio) (p : Int) : Ratio :=
  if p ≥ 0 then ⟨r.num, r.den * Nat.pow 10 p.toNat⟩ else ⟨r.num * Nat.pow 10 (-p).toNat, r.den⟩

/-- The power of ten of the leading digit, counting down from `top` for at most `fuel` steps. -/
def leadingPower (r : Ratio) : Nat → Int → Int
  | 0, top => top
  | fuel + 1, top =>
    let s := r.scale10 top
    if s.num ≥ s.den then top else leadingPower r fuel (top - 1)

/-- The numbers that round to one double: its own value and the ends of its interval, which belong
to it when `closed`. All three have the same denominator. -/
structure Rounding where
  low : Ratio
  value : Ratio
  high : Ratio
  closed : Bool

/-- The interval of a positive double `m · 2 ^ q`. Below a power of two the gap is half as wide. -/
def Rounding.of (m : Nat) (q : Int) : Rounding :=
  let atPower := m == Nat.pow 2 52 && q != -1074
  { low := Ratio.scale2 (if atPower then 4 * m - 1 else 4 * m - 2) (q - 2)
    value := Ratio.scale2 (4 * m) (q - 2)
    high := Ratio.scale2 (4 * m + 2) (q - 2)
    closed := m % 2 == 0 }

def Rounding.accepts (r : Rounding) (d : Nat) (p : Int) : Bool :=
  let low := r.low.scale10 p
  let high := r.high.scale10 p
  if r.closed then
    low.num ≤ d * low.den && d * high.den ≤ high.num
  else
    low.num < d * low.den && d * high.den < high.num

/-- The accepted neighbour of the value on the grid of multiples of `10 ^ p`. -/
def Rounding.neighbour? (r : Rounding) (p : Int) : Option Nat :=
  let v := r.value.scale10 p
  let below := v.num / v.den
  match r.accepts below p, r.accepts (below + 1) p with
  | true, true =>
    let twice := 2 * (v.num % v.den)
    if twice < v.den || (twice == v.den && below % 2 == 0) then some below else some (below + 1)
  | true, false => some below
  | false, true => some (below + 1)
  | false, false => none

/-- Tries grids from coarse to fine; `fuel` bounds their number. -/
def Rounding.search (r : Rounding) : Nat → Int → Nat × Int
  | 0, p => ((r.value.scale10 p).num / (r.value.scale10 p).den, p)
  | fuel + 1, p =>
    match r.neighbour? p with
    | some d => (d, p)
    | none => r.search fuel (p - 1)

/-- Moves trailing zeros of the digits into the exponent. -/
def dropZeros : Nat → Nat → Int → Nat × Int
  | 0, d, e => (d, e)
  | fuel + 1, d, e =>
    if d != 0 && d % 10 == 0 then dropZeros fuel (d / 10) (e + 1) else (d, e)

/-- The shortest decimal `d · 10 ^ e` of a positive double `m · 2 ^ q`. -/
def shortest (m : Nat) (q : Int) : Nat × Int :=
  let r := Rounding.of m q
  let (d, e) := r.search 17 (leadingPower r.value 700 310)
  dropZeros 20 d e

end Stacktrace.Number
