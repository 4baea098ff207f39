import Stacktrace.Number.Notation
import Stacktrace.Number.Rounded
import Stacktrace.Value.Written

/-!
# Directives of event templates

A directive tells how one argument of a log call is shown: a percent sign, a key in parentheses, flags,
a least width, a precision, a length letter without meaning, and the letter of a form. A star stands
for a width or a precision that is an argument itself. `Directive.read` reads one, and `Form.show`
shows a value in the form of a letter:

* `s`, `r`, `a` — as a message, quoted, and quoted in ASCII; the precision cuts the text;
* `d`, `i`, `u`, `o`, `x`, `X` — as a whole number; the precision is the least number of digits;
* `e`, `f`, `g` and their capitals — as a number; the precision is the number of digits;
* `c` — as a character.

`Layout` puts sign, base mark and body into the width.
-/

namespace Stacktrace.Log

open Text Numeral

/-! ## Reading -/

structure Flags where
  left : Bool
  plus : Bool
  blank : Bool
  alternate : Bool
  zero : Bool

def Flags.ofText (s : Text) : Flags :=
  ⟨s.contains '-', s.contains '+', s.contains ' ', s.contains '#', s.contains '0'⟩

/-- A width or a precision: a number, or the next argument. -/
inductive Amount where
  | number (n : Nat)
  | next

/-- The key of a directive: none, one in parentheses, or one whose parenthesis is never closed. -/
inductive Key where
  | absent
  | named (name : Text)
  | unclosed

/-- A directive. Its form is missing if the template ends too early. -/
structure Directive where
  key : Key
  flags : Flags
  width : Option Amount
  precision : Option Amount
  form : Option Char

namespace Directive

/-- Splits a text at the parenthesis that closes the given number of open ones. -/
def cutBalanced : Nat → Text → Option (Text × Text)
  | _, [] => none
  | depth, c :: s =>
    if c = ')' && depth ≤ 1 then
      some ([], s)
    else
      let depth := if c = '(' then depth + 1 else if c = ')' then depth - 1 else depth
      (cutBalanced depth s).map fun r => (c :: r.1, r.2)

def readKey : Text → Key × Text
  | '(' :: s =>
    match cutBalanced 1 s with
    | some (name, rest) => (.named name, rest)
    | none => (.unclosed, [])
  | s => (.absent, s)

def isFlag (c : Char) : Bool :=
  c = '-' || c = '+' || c = ' ' || c = '#' || c = '0'

def readAmount : Text → Option Amount × Text
  | '*' :: s => (some .next, s)
  | s =>
    let digits := s.takeWhile Char.isDigit
    (if digits.isEmpty then none else some (.number (Numeral.value digits)), s.dropWhile Char.isDigit)

/-- Reads a precision, if there is one. A point alone asks for zero. -/
def readPrecision : Text → Option Amount × Text
  | '.' :: s => let (amount, rest) := readAmount s; (some (amount.getD (.number 0)), rest)
  | s => (none, s)

def skipLength : Text → Text
  | 'h' :: s => s
  | 'l' :: s => s
  | 'L' :: s => s
  | s => s

def read (s : Text) : Directive × Text :=
  let (key, s) := readKey s
  let flags := Flags.ofText (s.takeWhile isFlag)
  let (width, s) := readAmount (s.dropWhile isFlag)
  let (precision, s) := readPrecision s
  let s := skipLength s
  (⟨key, flags, width, precision, s.head?⟩, s.tail)

end Directive

/-! ## Showing values -/

/-- How a value is to be shown: with a width and a precision that are known. -/
structure Layout where
  flags : Flags
  width : Nat
  precision : Option Nat

/-- A value that is shown: its sign, the mark of its base and the rest, and whether zeros may fill
it up. -/
structure Shown where
  sign : Text := []
  mark : Text := []
  body : Text
  isNumber : Bool := true

namespace Layout

def sign (l : Layout) (negative : Bool) : Text :=
  if negative then ['-']
  else if l.flags.plus then ['+']
  else if l.flags.blank then [' ']
  else []

/-- What is shown, filled up to the width: on the right, between sign and body, or on the left. -/
def fill (l : Layout) (s : Shown) : Text :=
  let head := s.sign ++ s.mark
  let missing := l.width - (head.length + s.body.length)
  if l.flags.left then head ++ s.body ++ List.replicate missing ' '
  else if s.isNumber && l.flags.zero then head ++ List.replicate missing '0' ++ s.body
  else List.replicate missing ' ' ++ head ++ s.body

/-- A text, cut to the precision. -/
def text (l : Layout) (s : Text) : Shown :=
  { body := (l.precision.map fun n => s.take n).getD s, isNumber := false }

/-- The letters of bases in marks, and digits, as capitals if asked for. -/
def capital (upperCase : Bool) (s : Text) : Text :=
  if upperCase then s.map Char.toUpper else s

/-- A whole number in base eight or sixteen. -/
def based (l : Layout) (base : Nat) (letter : Char) (upperCase : Bool) (i : Int) : Shown :=
  let digits := Nat.toDigits base i.natAbs
  let zeros := List.replicate (l.precision.getD 0 - digits.length) '0'
  { sign := l.sign (i < 0)
    mark := if l.flags.alternate then capital upperCase ['0', letter] else []
    body := capital upperCase (zeros ++ digits) }

def decimal (l : Layout) (i : Int) : Except Fault Shown := do
  let digits ← Numeral.write i.natAbs
  let zeros := List.replicate (l.precision.getD 0 - digits.length) '0'
  return { sign := l.sign (i < 0), body := zeros ++ digits }

def usualPrecision : Nat := 6

def float (l : Layout) (letter : Char) (x : Float) : Shown :=
  let upperCase := letter.isUpper
  let trimming : Number.Trimming := ⟨l.flags.alternate⟩
  let precision := l.precision.getD usualPrecision
  match Number.Binary64.decode x.toBits.toNat with
  | .nan => { sign := l.sign false, body := capital upperCase "nan".toList }
  | .infinite negative => { sign := l.sign negative, body := capital upperCase "inf".toList }
  | .finite negative m q =>
    let magnitude := Number.Ratio.scale2 m q
    let body := match letter.toLower with
      | 'e' => Number.writeScientific trimming precision magnitude
      | 'f' => Number.writeFixed trimming precision magnitude
      | _ => Number.writeGeneral trimming precision magnitude
    { sign := l.sign negative, body := capital upperCase body }

end Layout

/-! ## Arguments as numbers -/

/-- The whole number that a value is. -/
def integer? : Value → Option Int
  | .int i => some i
  | .bool b => some (if b then 1 else 0)
  | _ => none

/-- The whole number that a value stands for, without its fraction. -/
def wholeNumber : Value → Except Fault Int
  | .float x =>
    match Number.Binary64.decode x.toBits.toNat with
    | .finite negative m q =>
      let n : Nat := if q ≥ 0 then m * Nat.pow 2 q.toNat else m / Nat.pow 2 (-q).toNat
      .ok (if negative then -(n : Int) else n)
    | .infinite _ => .error .numberOutOfRange
    | .nan => .error (.badTemplate "cannot convert float NaN to integer".toList)
  | v =>
    match integer? v with
    | some i => .ok i
    | none => .error .unsuitableValue

/-- The double that a value stands for. -/
def floatingNumber : Value → Except Fault Float
  | .float x => .ok x
  | v =>
    match integer? v with
    | some i =>
      let x := Number.toFloat i.natAbs 0
      if x.isInf then .error .numberOutOfRange else .ok (if i < 0 then -x else x)
    | none => .error .unsuitableValue

def character : Value → Except Fault Char
  | .text [c] => .ok c
  | v =>
    match integer? v with
    | some i =>
      if 0 ≤ i && i < 0x110000 then .ok (Char.ofNat i.toNat) else .error .numberOutOfRange
    | none => .error .unsuitableValue

/-- A text in which all characters beyond ASCII are written by their code points. -/
def asciiOnly (s : Text) : Text :=
  s.flatMap fun c =>
    let n := c.toNat
    if n < 0x80 then [c]
    else if n < 0x100 then '\\' :: 'x' :: hexDigits 2 n
    else if n < 0x10000 then '\\' :: 'u' :: hexDigits 4 n
    else '\\' :: 'U' :: hexDigits 8 n

/-- Shows a value in the form of a letter, or says that there is no such form. -/
def Layout.shown? (l : Layout) (letter : Char) (v : Value) : Option (Except Fault Shown) :=
  let based (base : Nat) (mark : Char) (upperCase : Bool) : Except Fault Shown :=
    match integer? v with
    | some i => .ok (l.based base mark upperCase i)
    | none => .error .unsuitableValue
  match letter with
  | 's' => some (l.text <$> v.written)
  | 'r' => some (l.text <$> v.quoted)
  | 'a' => some ((l.text ∘ asciiOnly) <$> v.quoted)
  | 'd' | 'i' | 'u' => some (do l.decimal (← wholeNumber v))
  | 'o' => some (based 8 'o' false)
  | 'x' => some (based 16 'x' false)
  | 'X' => some (based 16 'x' true)
  | 'e' | 'E' | 'f' | 'F' | 'g' | 'G' => some (l.float letter <$> floatingNumber v)
  | 'c' => some ((fun c => { body := [c], isNumber := false }) <$> character v)
  | _ => none

end Stacktrace.Log
