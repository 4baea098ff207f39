import Stacktrace.Document.Yaml.Character
import Stacktrace.Fault
import Stacktrace.Text.Hexadecimal

/-!
# Quoted scalars

`Quoted.read` takes a scalar in single or double quotation marks, from behind its opening mark.

* Lines are folded: white space around a line end is dropped, one line end is worth a space, and of
  several the first is dropped.
* In single quotation marks a doubled mark stands for one, and nothing else is special.
* In double quotation marks a backslash starts an escape: one letter, two, four or eight hexadecimal
  digits, or a line end that is dropped together with the white space behind it.
-/

namespace Stacktrace.Yaml.Quoted

inductive Style where
  | single
  | double
deriving DecidableEq, Repr

def Style.mark : Style → Char
  | .single => '\''
  | .double => '"'

/-- The line ends behind the first one, with the white space in between dropped. A document marker
must not stand inside a quoted scalar. -/
def readBreaks (s : Text) : Except Fault (Text × Text) :=
  if isMarker s then
    .error .malformedDocument
  else
    let line := s.dropWhile isWhite
    match _h : cutBreak? line with
    | none => .ok ([], line)
    | some (b, r) => do
      let (bs, rest) ← readBreaks r
      return (b :: bs, rest)
termination_by s.length
decreasing_by
  exact Nat.lt_of_lt_of_le (length_lt_of_cutBreak? _h)
    (List.IsSuffix.length_le (List.dropWhile_suffix _))

def escape? : Char → Option Char
  | '0' => some '\x00'
  | 'a' => some '\x07'
  | 'b' => some '\x08'
  | 't' | '\t' => some '\t'
  | 'n' => some '\n'
  | 'v' => some '\x0b'
  | 'f' => some '\x0c'
  | 'r' => some '\r'
  | 'e' => some '\x1b'
  | ' ' => some ' '
  | '"' => some '"'
  | '\\' => some '\\'
  | '/' => some '/'
  | 'N' => some '\x85'
  | '_' => some '\xa0'
  | 'L' => some '\u2028'
  | 'P' => some '\u2029'
  | _ => none

/-- How many hexadecimal digits an escape has. -/
def escapeWidth? : Char → Option Nat
  | 'x' => some 2
  | 'u' => some 4
  | 'U' => some 8
  | _ => none

/-- The character with a code point. Code points of half pairs stand for the replacement
character. -/
def charOf (n : Nat) : Except Fault Char :=
  if h : n.isValidChar then .ok (Char.ofNatAux n h)
  else if n < 0x110000 then .ok '\ufffd'
  else .error (.noSuchCharacter n)

/-- Reads an escape behind its backslash: what it is worth, and the rest. -/
def readEscape : Text → Except Fault (Text × Text)
  | [] => .error .malformedDocument
  | c :: s =>
    match escape? c with
    | some e => .ok ([e], s)
    | none =>
      match escapeWidth? c with
      | some width =>
        match Hexadecimal.read? width 0 s with
        | some (n, rest) => do return ([← charOf n], rest)
        | none => .error .malformedDocument
      | none =>
        match cutBreak? (c :: s) with
        | some (_, r) => readBreaks r
        | none => .error .malformedDocument

/-- Reads white space and line ends: what they are worth, and the rest. -/
def readGap (s : Text) : Except Fault (Text × Text) :=
  let white := s.takeWhile isWhite
  let r := s.dropWhile isWhite
  match cutBreak? r with
  | some (b, r) => do
    let (bs, rest) ← readBreaks r
    return (fold b bs, rest)
  | none => if r.isEmpty then .error .malformedDocument else .ok (white, r)

/-- Reads the next part of a scalar, which is not its end: what it is worth, and the rest. -/
def readPart (style : Style) : Text → Except Fault (Text × Text)
  | [] => .error .malformedDocument
  | c :: s =>
    if isGap c then readGap (c :: s)
    else if style = .double ∧ c = '\\' then readEscape s
    else .ok ([c], s)

/-- Reads a scalar behind its opening mark, on top of what was read before. The first argument bounds
the number of parts; the length of the text is enough. -/
def readParts (style : Style) : Nat → Text → Except Fault (Text × Text)
  | 0, _ => .error .malformedDocument
  | fuel + 1, s =>
    match s with
    | '\'' :: '\'' :: r =>
      if style = .single then do
        let (t, rest) ← readParts style fuel r
        return ('\'' :: t, rest)
      else do
        let (t, rest) ← readParts style fuel r
        return ('\'' :: '\'' :: t, rest)
    | s =>
      if s.head? = some style.mark then
        .ok ([], s.tail)
      else do
        let (part, r) ← readPart style s
        let (t, rest) ← readParts style fuel r
        return (part ++ t, rest)

/-- Reads a scalar behind its opening mark: its text, and the rest behind its closing mark. -/
def read (style : Style) (s : Text) : Except Fault (Text × Text) :=
  readParts style (s.length + 1) s

end Stacktrace.Yaml.Quoted
