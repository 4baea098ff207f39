import Stacktrace.Text.Basic

/-!
# Octets read as text

Octets spell characters as UTF-8 has it. `ofOctets` reads any octets: where they spell no character,
a replacement character stands for the longest piece with which one could have begun.
-/

namespace Stacktrace.Text

def replacement : Char := '\uFFFD'

/-- A character of which some octets have been read: their bits, how many octets are missing, and
between which bounds the next one has to be. -/
structure Begun where
  bits : Nat
  missing : Nat
  least : Nat := 0x80
  greatest : Nat := 0xBF

/-- What the first octet of a character gives: all of the character, or its beginning. The bounds for
the second octet leave out longer spellings than needed, surrogates, and what is beyond the last
character. -/
def beginCharacter (octet : Nat) : Text × Option Begun :=
  if octet < 0x80 then
    ([Char.ofNat octet], none)
  else if octet < 0xC2 then
    ([replacement], none)
  else if octet < 0xE0 then
    ([], some { bits := octet - 0xC0, missing := 1 })
  else if octet < 0xF0 then
    ([], some {
      bits := octet - 0xE0
      missing := 2
      least := if octet = 0xE0 then 0xA0 else 0x80
      greatest := if octet = 0xED then 0x9F else 0xBF })
  else if octet < 0xF5 then
    ([], some {
      bits := octet - 0xF0
      missing := 3
      least := if octet = 0xF0 then 0x90 else 0x80
      greatest := if octet = 0xF4 then 0x8F else 0xBF })
  else
    ([replacement], none)

/-- What one more octet gives. One that does not go on with the character begins another. -/
def readOctet : Option Begun → Nat → Text × Option Begun
  | none, octet => beginCharacter octet
  | some begun, octet =>
    if begun.least ≤ octet && octet ≤ begun.greatest then
      let bits := begun.bits * 0x40 + (octet - 0x80)
      if begun.missing = 1 then
        ([Char.ofNat bits], none)
      else
        ([], some { bits, missing := begun.missing - 1 })
    else
      let next := beginCharacter octet
      (replacement :: next.1, next.2)

def readOctets : Option Begun → List UInt8 → Text
  | none, [] => []
  | some _, [] => [replacement]
  | begun, octet :: octets =>
    let next := readOctet begun octet.toNat
    next.1 ++ readOctets next.2 octets

/-- The text that octets spell. -/
def ofOctets (octets : List UInt8) : Text :=
  readOctets none octets

example : ofOctets [0xE2, 0x82, 0xAC, 0xFF, 0xED, 0xA0, 0xF0, 0x9F] =
    ['€', replacement, replacement, replacement, replacement] := by decide

end Stacktrace.Text
