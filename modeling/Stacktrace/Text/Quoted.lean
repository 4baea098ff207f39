import Stacktrace.Text.Printable

/-!
# Quoted text

A text in quotation marks, on one line and printable. Single marks are used unless the text holds a
single mark and no double one. Backslashes and the marks in use are escaped, as are tab, line feed
and carriage return; other characters that are not printable are written by their code point in two,
four or eight hexadecimal digits.
-/

namespace Stacktrace.Text

/-- The lower-case hexadecimal digits of a code point, filled up with zeros to a width. -/
def hexDigits (width n : Nat) : Text :=
  let digits := Nat.toDigits 16 n
  List.replicate (width - digits.length) '0' ++ digits

/-- How a character is written between quotation marks. -/
def quoteChar (mark c : Char) : Text :=
  if c = mark || c = '\\' then ['\\', c]
  else if c = '\t' then ['\\', 't']
  else if c = '\n' then ['\\', 'n']
  else if c = '\r' then ['\\', 'r']
  else if isPrintable c then [c]
  else if c.toNat < 0x100 then '\\' :: 'x' :: hexDigits 2 c.toNat
  else if c.toNat < 0x10000 then '\\' :: 'u' :: hexDigits 4 c.toNat
  else '\\' :: 'U' :: hexDigits 8 c.toNat

def quotationMark (s : Text) : Char :=
  if s.contains '\'' && !s.contains '"' then '"' else '\''

def quoted (s : Text) : Text :=
  let mark := quotationMark s
  mark :: s.flatMap (quoteChar mark) ++ [mark]

end Stacktrace.Text
