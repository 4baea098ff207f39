import Stacktrace.Document.Yaml.Tag
import Stacktrace.Number.Notation
import Stacktrace.Text.Base64
import Stacktrace.Text.Case
import Stacktrace.Text.Radix

/-!
# Values of scalars

`Scalar.read` reads the text of a scalar as a value of its type. A tag may force a type on any text,
so every reader can fail, and a reader takes more forms than those that tell the type by themselves.
-/

namespace Stacktrace.Yaml.Scalar

open Text

def dropUnderscores (s : Text) : Text :=
  s.filter (· != '_')

/-- The sign and the rest of a number that has characters. -/
def cutSign : Text → Except Fault (Bool × Text)
  | [] => .error .emptyNumeral
  | '-' :: s => .ok (true, s)
  | '+' :: s => .ok (false, s)
  | s => .ok (false, s)

def readBool (s : Text) : Except Fault Value :=
  let word := lower s
  if ["yes".toList, "true".toList, "on".toList].contains word then .ok (.bool true)
  else if ["no".toList, "false".toList, "off".toList].contains word then .ok (.bool false)
  else .error .unknownTruthValue

def readMagnitude (s : Text) : Except Fault Int :=
  match s with
  | [] => .error .emptyNumeral
  | ['0'] => .ok 0
  | '0' :: 'b' :: digits => Radix.read 2 digits
  | '0' :: 'x' :: digits => Radix.read 16 digits
  | '0' :: _ => Radix.read 8 s
  | _ =>
    if s.contains ':' then do
      let parts ← (splitAtChar ':' s).mapM (Radix.read 10)
      return parts.foldl (fun n part => 60 * n + part) 0
    else
      Radix.read 10 s

/-- A whole number: binary, octal, decimal, hexadecimal or in base sixty. -/
def readInt (s : Text) : Except Fault Value := do
  let (negative, magnitude) ← cutSign (dropUnderscores s)
  let n ← readMagnitude magnitude
  return .int (if negative then -n else n)

def readDecimal (s : Text) : Except Fault Float :=
  match Number.read? s with
  | some x => .ok x
  | none => .error (.unreadableScalar ("could not convert string to float: ".toList ++ quoted s))

/-- The sum of parts in base sixty, the last one first, each counted by a power of sixty. -/
def sumSixtieths : Nat → List Float → Float → Float
  | _, [], sum => sum
  | power, x :: xs, sum => sumSixtieths (60 * power) xs (sum + x * Float.ofNat power)

def readFloatMagnitude (s : Text) : Except Fault Float :=
  if s = ".inf".toList then .ok (1.0 / 0.0)
  else if s = ".nan".toList then .ok (0.0 / 0.0)
  else if s.contains ':' then do
    let parts ← (splitAtChar ':' s).mapM readDecimal
    return sumSixtieths 1 parts.reverse 0.0
  else
    readDecimal s

/-- A number with a fraction, or a word for one that is not finite. -/
def readFloat (s : Text) : Except Fault Value := do
  let (negative, magnitude) ← cutSign (lower (dropUnderscores s))
  let x ← readFloatMagnitude magnitude
  return .float (if negative then -x else x)

def readTimestamp (s : Text) : Except Fault Value :=
  match Timestamp.read? s with
  | some t => Value.moment <$> t.moment
  | none => .error .unknownMoment

def readBinary (s : Text) : Except Fault Value :=
  match Base64.decode? s with
  | some octets => .ok (.bytes octets)
  | none => .error .malformedDocument

/-- The value of a scalar. Types that no scalar has are faults. -/
def read : Tag → Text → Except Fault Value
  | .null, _ => .ok .null
  | .bool, s => readBool s
  | .int, s => readInt s
  | .float, s => readFloat s
  | .timestamp, s => readTimestamp (cutFinalNewline s).1
  | .binary, s => readBinary s
  | .text, s => .ok (.text s)
  | _, _ => .error .malformedDocument

end Stacktrace.Yaml.Scalar
