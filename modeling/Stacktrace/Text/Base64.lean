import Stacktrace.Text.Basic

/-!
# Base 64

Octets written as text, three octets in four characters. `Base64.decode?` passes over characters that
stand for nothing and stops at padding that completes a group of four. Only ASCII texts are read, and
the last group must be complete.
-/

namespace Stacktrace.Base64

/-- The six bits that a character stands for. -/
def sextet? (c : Char) : Option Nat :=
  if 'A' ≤ c && c ≤ 'Z' then some (c.toNat - 'A'.toNat)
  else if 'a' ≤ c && c ≤ 'z' then some (c.toNat - 'a'.toNat + 26)
  else if c.isDigit then some (c.toNat - '0'.toNat + 52)
  else if c = '+' then some 62
  else if c = '/' then some 63
  else none

/-- Decodes a text, given how many characters of the group of four have been read, the bits of the
last one that are not written yet, and how many padding characters have been seen since. -/
def decodeFrom : Nat → Nat → Nat → Text → Option (List UInt8)
  | read, _, _, [] => if read = 0 then some [] else none
  | read, held, pads, c :: s =>
    if c = '=' then
      if read ≥ 2 && read + pads + 1 ≥ 4 then some []
      else decodeFrom read held (if read ≥ 2 then pads + 1 else pads) s
    else
      match sextet? c with
      | none => decodeFrom read held pads s
      | some bits =>
        match read with
        | 0 => decodeFrom 1 bits 0 s
        | 1 => (decodeFrom 2 (bits % 16) 0 s).map (UInt8.ofNat (held * 4 + bits / 16) :: ·)
        | 2 => (decodeFrom 3 (bits % 4) 0 s).map (UInt8.ofNat (held * 16 + bits / 4) :: ·)
        | _ => (decodeFrom 0 0 0 s).map (UInt8.ofNat (held * 64 + bits) :: ·)

/-- The octets that a text stands for. -/
def decode? (s : Text) : Option (List UInt8) :=
  if s.all fun c => c.toNat < 0x80 then decodeFrom 0 0 0 s else none

end Stacktrace.Base64
