import Stacktrace.Document.Yaml.Character
import Stacktrace.Text.Hexadecimal
import Stacktrace.Text.Numeral

/-!
# Words of YAML texts

Readers for the parts of a YAML text that are words: names of anchors and aliases, tags, and
directives. Each takes a text from behind the sign that announces the word and returns the rest.
-/

namespace Stacktrace.Yaml

/-- A tag as it is written: a handle, if there is one, and what follows it. -/
structure TagText where
  handle : Option Text
  suffix : Text
deriving DecidableEq, Repr

inductive Directive where
  | version (major minor : Nat)
  | handle (name start : Text)
  | other
deriving DecidableEq, Repr

namespace Word

/-! ## Names -/

def endsName (s : Text) : Bool :=
  atEndOr (fun c => isGap c || ['?', ':', ',', ']', '\x7d', '%', '@', '\x60'].contains c) s

def readName (s : Text) : Option (Text × Text) :=
  let name := s.takeWhile isNameChar
  let rest := s.dropWhile isNameChar
  if !name.isEmpty && endsName rest then some (name, rest) else none

/-! ## Tags -/

/-- A character that stands for itself in the name of a tag. -/
def isTagChar (c : Char) : Bool :=
  c.isAlphanum ||
    ['-', ';', '/', '?', ':', '@', '&', '=', '+', '$', ',', '_', '.', '!', '~', '*', '\'', '(', ')',
      '[', ']'].contains c

/-- Reads the octets of a tag's name. A percent sign and two hexadecimal digits stand for any
octet. -/
def readOctets : Text → Option (List UInt8 × Text)
  | '%' :: a :: b :: s => do
    let high ← Hexadecimal.digit? a
    let low ← Hexadecimal.digit? b
    let (octets, rest) ← readOctets s
    return (UInt8.ofNat (16 * high + low) :: octets, rest)
  | c :: s =>
    if c = '%' then none
    else if isTagChar c then do
      let (octets, rest) ← readOctets s
      return (UInt8.ofNat c.toNat :: octets, rest)
    else some ([], c :: s)
  | [] => some ([], [])

/-- Reads the name of a tag. -/
def readTagName (s : Text) : Option (Text × Text) := do
  let (octets, rest) ← readOctets s
  if octets.isEmpty then
    none
  else
    return ((← String.fromUTF8? ⟨octets.toArray⟩).toList, rest)

/-- Reads a handle: an exclamation mark alone before a space, or a name between two of them. -/
def readHandle : Text → Option (Text × Text)
  | '!' :: s =>
    if s.head? = some ' ' then
      some (['!'], s)
    else
      match s.dropWhile isNameChar with
      | '!' :: rest => some ('!' :: s.takeWhile isNameChar ++ ['!'], rest)
      | _ => none
  | _ => none

/-- Reads a tag with a handle, or with an exclamation mark for one, behind the first exclamation
mark. -/
def readHandledTag (s : Text) : Option (TagText × Text) := do
  let word := s.takeWhile fun c => !(c = ' ' || isBreak c)
  let (handle, r) ← if word.contains '!' then readHandle ('!' :: s) else some (['!'], s)
  let (suffix, rest) ← readTagName r
  return (⟨some handle, suffix⟩, rest)

/-- Reads a tag behind its first exclamation mark. -/
def readTag (s : Text) : Option (TagText × Text) := do
  let (tag, rest) ← match s with
    | '<' :: r => do
      let (suffix, r) ← readTagName r
      let rest ← Text.dropPrefix? ['>'] r
      pure (⟨none, suffix⟩, rest)
    | r => if wordEnds r then pure (⟨none, ['!']⟩, r) else readHandledTag r
  if lineOrSpace rest then some (tag, rest) else none

/-! ## Directives -/

def skipSpaces (s : Text) : Text :=
  s.dropWhile (· == ' ')

def readVersionPart (s : Text) : Except Fault (Nat × Text) := do
  let digits := s.takeWhile Char.isDigit
  if digits.isEmpty then
    .error .malformedDocument
  else
    return (← Numeral.read digits, s.dropWhile Char.isDigit)

/-- Reads the value of the directive with a name, from behind the name. -/
def readDirectiveValue (name : Text) (s : Text) : Except Fault (Directive × Text) :=
  if name = "YAML".toList then do
    let (major, r) ← readVersionPart (skipSpaces s)
    match r with
    | '.' :: r =>
      let (minor, rest) ← readVersionPart r
      return (.version major minor, rest)
    | _ => .error .malformedDocument
  else if name = "TAG".toList then
    match readHandle (skipSpaces s) with
    | some (handle, ' ' :: r) =>
      match readTagName (skipSpaces r) with
      | some (start, rest) => .ok (.handle handle start, rest)
      | none => .error .malformedDocument
    | _ => .error .malformedDocument
  else
    .ok (.other, s.dropWhile fun c => !isBreak c)

/-- Reads a directive behind its percent sign, to the end of its line. -/
def readDirective (s : Text) : Except Fault (Directive × Text) := do
  let name := s.takeWhile isNameChar
  let r := s.dropWhile isNameChar
  if name.isEmpty || !lineOrSpace r then
    .error .malformedDocument
  else
    let (directive, r) ← readDirectiveValue name r
    match if lineOrSpace r then skipLine? r else none with
    | some rest => return (directive, rest)
    | none => .error .malformedDocument

end Word

end Stacktrace.Yaml
