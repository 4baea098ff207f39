import Stacktrace.Fault

/-!
# Decimal numerals

Numerals are runs of decimal digits of any script: `digit?` knows the sixty-six runs of ten digits
that Unicode 14 gives the category of a decimal digit. `read` turns a run into its value and `write`
turns an integer into ASCII digits; both refuse more than `Fault.digitLimit` digits.
-/

namespace Stacktrace.Numeral

/-- The code points of the zeros of all decimal digit runs; the nine digits that follow each zero
are one to nine. -/
def zeros : List Nat := [
    0x30, 0x660, 0x6f0, 0x7c0, 0x966, 0x9e6, 0xa66, 0xae6, 0xb66, 0xbe6, 0xc66, 0xce6, 0xd66,
    0xde6, 0xe50, 0xed0, 0xf20, 0x1040, 0x1090, 0x17e0, 0x1810, 0x1946, 0x19d0, 0x1a80, 0x1a90,
    0x1b50, 0x1bb0, 0x1c40, 0x1c50, 0xa620, 0xa8d0, 0xa900, 0xa9d0, 0xa9f0, 0xaa50, 0xabf0,
    0xff10, 0x104a0, 0x10d30, 0x11066, 0x110f0, 0x11136, 0x111d0, 0x112f0, 0x11450, 0x114d0,
    0x11650, 0x116c0, 0x11730, 0x118e0, 0x11950, 0x11c50, 0x11d50, 0x11da0, 0x16a60, 0x16ac0,
    0x16b50, 0x1d7ce, 0x1d7d8, 0x1d7e2, 0x1d7ec, 0x1d7f6, 0x1e140, 0x1e2f0, 0x1e950, 0x1fbf0]

def digit? (c : Char) : Option Nat :=
  (zeros.find? fun z => z ≤ c.toNat && c.toNat ≤ z + 9).map (c.toNat - ·)

def isDigit (c : Char) : Bool :=
  (digit? c).isSome

def value (s : Text) : Nat :=
  s.foldl (fun n c => 10 * n + (digit? c).getD 0) 0

/-- Reads a run of digits that is not too long. -/
def read (s : Text) : Except Fault Nat :=
  if s.length ≤ Fault.digitLimit then .ok (value s) else .error (.numeralTooLong s.length)

def ofNat (n : Nat) : Text :=
  Nat.toDigits 10 n

/-- The ASCII digits of an integer, after a minus sign if it is negative. -/
def ofInt : Int → Text
  | .ofNat n => ofNat n
  | .negSucc n => '-' :: ofNat (n + 1)

/-- Writes an integer that does not have too many digits. -/
def write (i : Int) : Except Fault Text :=
  let digits := ofNat i.natAbs
  if digits.length ≤ Fault.digitLimit then .ok (ofInt i) else .error .numberTooLong

/-! ## Digits at the front of a text -/

/-- Splits a non-empty run of digits off the front. -/
def cutDigits? (s : Text) : Option (Text × Text) :=
  let digits := s.takeWhile isDigit
  if digits.isEmpty then none else some (digits, s.dropWhile isDigit)

/-- What `cutDigits?` returns is the longest run of digits and the rest of the text. -/
theorem cutDigits?_eq_some_iff {s d r : Text} :
    cutDigits? s = some (d, r) ↔
      d ≠ [] ∧ d = s.takeWhile isDigit ∧ r = s.dropWhile isDigit := by
  unfold cutDigits?
  by_cases h : (s.takeWhile isDigit).isEmpty
  · simp only [h, if_true]
    constructor
    · intro h'; cases h'
    · rintro ⟨hd, hd', -⟩
      exact absurd (hd'.trans (List.isEmpty_iff.1 h)) hd
  · simp only [h]
    constructor
    · intro h'
      cases h'
      exact ⟨fun he => h (List.isEmpty_iff.2 he), rfl, rfl⟩
    · rintro ⟨-, rfl, rfl⟩
      rfl

end Stacktrace.Numeral
