import Stacktrace.Number.Notation
import Stacktrace.Text.Hexadecimal
import Stacktrace.Text.Numeral
import Stacktrace.Value.Basic

/-!
# JSON texts

`Json.read` turns a JSON text into a value. Objects become mappings in the order of their keys, and
of equal keys the last value wins. Whole numbers become integers and others doubles; the words `NaN`,
`Infinity` and `-Infinity` are read as numbers. Every reader takes the text from its front and
returns the rest, and `none` means that the text is no JSON.
-/

namespace Stacktrace.Json

open Text

def isSpace (c : Char) : Bool :=
  c = ' ' || c = '\t' || c = '\n' || c = '\r'

def skipSpace (s : Text) : Text :=
  s.dropWhile isSpace

/-! ## Strings -/

/-- The value of four hexadecimal digits. -/
def hex4? (a b c d : Char) : Option Nat := do
  return (((← Hexadecimal.digit? a) * 16 + (← Hexadecimal.digit? b)) * 16
    + (← Hexadecimal.digit? c)) * 16 + (← Hexadecimal.digit? d)

def isHighHalf (u : Nat) : Bool := 0xd800 ≤ u && u ≤ 0xdbff

def isLowHalf (u : Nat) : Bool := 0xdc00 ≤ u && u ≤ 0xdfff

/-- The character of one code unit. A half on its own stands for the replacement character. -/
def unitChar (u : Nat) : Char :=
  if isHighHalf u || isLowHalf u then '\ufffd' else Char.ofNat u

/-- The character that a single-letter escape stands for. -/
def escape? : Char → Option Char
  | '"' => some '"'
  | '\\' => some '\\'
  | '/' => some '/'
  | 'b' => some '\x08'
  | 'f' => some '\x0c'
  | 'n' => some '\n'
  | 'r' => some '\r'
  | 't' => some '\t'
  | _ => none

def readString : Text → Option (Text × Text)
  | [] => none
  | '"' :: s => some ([], s)
  | '\\' :: 'u' :: a :: b :: c :: d :: '\\' :: 'u' :: e :: f :: g :: h :: s =>
    match hex4? a b c d with
    | none => none
    | some u =>
      match hex4? e f g h with
      | none => none
      | some v =>
        if isHighHalf u && isLowHalf v then
          (readString s).map fun (t, rest) =>
            (Char.ofNat (0x10000 + (u - 0xd800) * 0x400 + (v - 0xdc00)) :: t, rest)
        else
          (readString ('\\' :: 'u' :: e :: f :: g :: h :: s)).map fun (t, rest) =>
            (unitChar u :: t, rest)
  | '\\' :: 'u' :: a :: b :: c :: d :: s =>
    match hex4? a b c d with
    | none => none
    | some u => (readString s).map fun (t, rest) => (unitChar u :: t, rest)
  | '\\' :: e :: s =>
    match escape? e with
    | none => none
    | some c => (readString s).map fun (t, rest) => (c :: t, rest)
  | c :: s =>
    if c.toNat < 0x20 then none
    else (readString s).map fun (t, rest) => (c :: t, rest)
termination_by s => s.length

/-! ## Numbers -/

def isDigit (c : Char) : Bool := '0' ≤ c && c ≤ '9'

def cutDigits? (s : Text) : Option (Text × Text) :=
  let digits := s.takeWhile isDigit
  if digits.isEmpty then none else some (digits, s.dropWhile isDigit)

/-- Reads the digits before the point: a zero alone, or digits that do not start with one. -/
def readWhole : Text → Option (Text × Text)
  | '0' :: s => some (['0'], s)
  | s => cutDigits? s

def readFraction : Text → Option Text × Text
  | '.' :: s =>
    match cutDigits? s with
    | some (digits, rest) => (some digits, rest)
    | none => (none, '.' :: s)
  | s => (none, s)

def readSigned : Text → Option (Int × Text)
  | '-' :: s => (cutDigits? s).map fun (d, rest) => (-(Numeral.value d : Int), rest)
  | '+' :: s => (cutDigits? s).map fun (d, rest) => ((Numeral.value d : Int), rest)
  | s => (cutDigits? s).map fun (d, rest) => ((Numeral.value d : Int), rest)

def readExponent : Text → Option Int × Text
  | c :: s =>
    if c = 'e' || c = 'E' then
      match readSigned s with
      | some (e, rest) => (some e, rest)
      | none => (none, c :: s)
    else
      (none, c :: s)
  | [] => (none, [])

/-- Reads a number without its sign. A whole number must not be longer than numbers ever are. -/
def readMagnitude (negative : Bool) (s : Text) : Option (Value × Text) := do
  let (whole, s) ← readWhole s
  let (fraction, s) := readFraction s
  let (exponent, s) := readExponent s
  match fraction, exponent with
  | none, none =>
    if whole.length ≤ Fault.digitLimit then
      let n : Int := Numeral.value whole
      some (.int (if negative then -n else n), s)
    else
      none
  | _, _ =>
    let places := fraction.getD []
    let x := Number.toFloat (Numeral.value (whole ++ places)) (exponent.getD 0 - places.length)
    some (.float (if negative then -x else x), s)

def words : List (Text × Value) :=
  [("null".toList, .null), ("true".toList, .bool true), ("false".toList, .bool false),
    ("NaN".toList, .float (0.0 / 0.0)), ("Infinity".toList, .float (1.0 / 0.0)),
    ("-Infinity".toList, .float (-1.0 / 0.0))]

def readWord (s : Text) : Option (Value × Text) :=
  words.findSome? fun w => (dropPrefix? w.1 s).map fun rest => (w.2, rest)

/-- Reads a value that holds no others and is no string. -/
def readAtom (s : Text) : Option (Value × Text) :=
  match readWord s with
  | some r => some r
  | none =>
    match s with
    | '-' :: s => readMagnitude true s
    | s => readMagnitude false s

/-! ## Values -/

mutual

/-- Reads a value. The first argument bounds the work; the length of the text is enough. -/
def readValue : Nat → Text → Option (Value × Text)
  | 0, _ => none
  | fuel + 1, s =>
    match s with
    | '"' :: s => (readString s).map fun (t, rest) => (.text t, rest)
    | '[' :: s =>
      match skipSpace s with
      | ']' :: rest => some (.list [], rest)
      | s => (readItems fuel s).map fun (items, rest) => (.list items, rest)
    | '\x7b' :: s =>
      match skipSpace s with
      | '\x7d' :: rest => some (.map [], rest)
      | s => (readMembers fuel [] s).map fun (members, rest) => (.map members, rest)
    | s => readAtom s

def readItems : Nat → Text → Option (List Value × Text)
  | 0, _ => none
  | fuel + 1, s =>
    match readValue fuel s with
    | none => none
    | some (item, rest) =>
      match skipSpace rest with
      | ']' :: rest => some ([item], rest)
      | ',' :: rest =>
        (readItems fuel (skipSpace rest)).map fun (items, rest) => (item :: items, rest)
      | _ => none

/-- Reads the members of an object up to its closing brace, behind those read before. -/
def readMembers : Nat → List (Value × Value) → Text → Option (List (Value × Value) × Text)
  | 0, _, _ => none
  | fuel + 1, members, s =>
    match s with
    | '"' :: s =>
      match readString s with
      | none => none
      | some (key, rest) =>
        match skipSpace rest with
        | ':' :: rest =>
          match readValue fuel (skipSpace rest) with
          | none => none
          | some (value, rest) =>
            let members := Value.setEntry key value members
            match skipSpace rest with
            | '\x7d' :: rest => some (members, rest)
            | ',' :: rest => readMembers fuel members (skipSpace rest)
            | _ => none
        | _ => none
    | _ => none

end

def read (s : Text) : Option Value :=
  match readValue (2 * s.length + 2) (skipSpace s) with
  | some (v, rest) => if (skipSpace rest).isEmpty then some v else none
  | none => none

end Stacktrace.Json
