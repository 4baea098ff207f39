import Stacktrace.Text.Basic

/-!
# Hexadecimal digits

The values of the sixteen digits in either case, and of a fixed number of them at the front of a text.
-/

namespace Stacktrace.Hexadecimal

def digit? (c : Char) : Option Nat :=
  if '0' ≤ c && c ≤ '9' then some (c.toNat - '0'.toNat)
  else if 'a' ≤ c && c ≤ 'f' then some (c.toNat - 'a'.toNat + 10)
  else if 'A' ≤ c && c ≤ 'F' then some (c.toNat - 'A'.toNat + 10)
  else none

/-- Reads a number of digits, most significant first, on top of a value. -/
def read? : Nat → Nat → Text → Option (Nat × Text)
  | 0, n, s => some (n, s)
  | k + 1, n, c :: s => (digit? c).bind fun d => read? k (16 * n + d) s
  | _ + 1, _, [] => none

end Stacktrace.Hexadecimal
