import Stacktrace.Document.Yaml.Timestamp

/-!
# Tags

The types of YAML nodes. `Tag.ofName` reads the full name of a type, and `Tag.ofPlain` finds the type
of a scalar that has no tag and no quotation marks, from the way it is written. Numbers may hold
underscores, whole numbers may be binary, octal, hexadecimal or in base sixty, and a scalar that is
written like nothing else is text.
-/

namespace Stacktrace.Yaml

open Text

inductive Tag where
  | null
  | bool
  | int
  | float
  | timestamp
  | binary
  | text
  | sequence
  | mapping
  | orderedMapping
  | pairs
  | set
  | merge
  | value
  | other
deriving DecidableEq, Repr

namespace Tag

/-- What the full names of known types start with. -/
def space : Text := "tag:yaml.org,2002:".toList

def names : List (Text × Tag) :=
  [("null".toList, null), ("bool".toList, bool), ("int".toList, int), ("float".toList, float),
    ("timestamp".toList, timestamp), ("binary".toList, binary), ("str".toList, text),
    ("seq".toList, sequence), ("map".toList, mapping), ("omap".toList, orderedMapping),
    ("pairs".toList, pairs), ("set".toList, set), ("merge".toList, merge),
    ("value".toList, value)]

def ofName (name : Text) : Tag :=
  match dropPrefix? space name with
  | some short => (names.lookup short).getD other
  | none => other

/-! ## Written forms -/

def dropSign : Text → Text
  | '+' :: s => s
  | '-' :: s => s
  | s => s

def boolWords : List Text :=
  ["yes", "Yes", "YES", "no", "No", "NO", "true", "True", "TRUE", "false", "False", "FALSE",
    "on", "On", "ON", "off", "Off", "OFF"].map String.toList

def nullWords : List Text :=
  ["~", "null", "Null", "NULL", ""].map String.toList

def isPlaceholderDigit (c : Char) : Bool :=
  c.isDigit || c = '_'

/-- A digit, then digits and underscores. -/
def isDigits : Text → Bool
  | [] => false
  | c :: s => c.isDigit && s.all isPlaceholderDigit

/-- One or two digits below sixty. -/
def isSixtieth : Text → Bool
  | [d] => d.isDigit
  | [t, d] => '0' ≤ t && t ≤ '5' && d.isDigit
  | _ => false

/-- Digits and sixtieths with colons between them, at least one colon. -/
def isSexagesimal (s : Text) : Bool :=
  match splitAtChar ':' s with
  | first :: part :: parts => isDigits first && (part :: parts).all isSixtieth
  | _ => false

/-- Nothing, or an exponent with its sign. -/
def isExponent : Text → Bool
  | [] => true
  | e :: sign :: digits =>
    (e = 'e' || e = 'E') && (sign = '-' || sign = '+') && !digits.isEmpty && digits.all Char.isDigit
  | _ => false

def hasDigits (p : Char → Bool) (s : Text) : Bool :=
  !s.isEmpty && s.all fun c => p c || c = '_'

def isHexadecimal (c : Char) : Bool :=
  c.isDigit || ('a' ≤ c && c ≤ 'f') || ('A' ≤ c && c ≤ 'F')

def isOctal (c : Char) : Bool :=
  '0' ≤ c && c ≤ '7'

def isBinary (c : Char) : Bool :=
  c = '0' || c = '1'

def isInt (s : Text) : Bool :=
  match dropSign s with
  | ['0'] => true
  | '0' :: 'b' :: digits => hasDigits isBinary digits
  | '0' :: 'x' :: digits => hasDigits isHexadecimal digits
  | '0' :: digits => hasDigits isOctal digits
  | digits => isDigits digits || isSexagesimal digits

/-- What stands behind digits: a point and more digits, with an exponent for numbers in base ten. -/
def isFraction (decimal : Bool) : Text → Bool
  | '.' :: s =>
      let rest := s.dropWhile isPlaceholderDigit
      if decimal then isExponent rest else rest.isEmpty
  | _ => false

def isFloat (s : Text) : Bool :=
  let magnitude := dropSign s
  let whole := magnitude.takeWhile (· != '.')
  let fraction := magnitude.dropWhile (· != '.')
  (isDigits whole && isFraction true fraction) ||
    (isSexagesimal whole && isFraction false fraction) ||
    [".inf".toList, ".Inf".toList, ".INF".toList].contains magnitude ||
    [".nan".toList, ".NaN".toList, ".NAN".toList].contains s ||
    match s with
    | '.' :: d :: _ => d.isDigit && isFraction true s
    | _ => false

def isTimestamp (s : Text) : Bool :=
  (Timestamp.read? s).any Timestamp.isTelling

/-- The forms of scalars, each with its type. -/
def forms : List ((Text → Bool) × Tag) :=
  [(boolWords.contains, bool), (isFloat, float), (isInt, int), ((· == ['<', '<']), merge),
    (nullWords.contains, null), (isTimestamp, timestamp), ((· == ['=']), value),
    ([['!'], ['&'], ['*']].contains, other)]

/-- The type of a scalar that says nothing about it. One line end behind the scalar does not matter,
unless there is nothing in front of it. -/
def ofPlain (s : Text) : Tag :=
  let (line, ending) := cutFinalNewline s
  if line.isEmpty && !ending.isEmpty then text
  else ((forms.find? fun f => f.1 line).map Prod.snd).getD text

end Tag

end Stacktrace.Yaml
