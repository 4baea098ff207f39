import Stacktrace.Number.Whole
import Stacktrace.Settings.Basic
import Stacktrace.Text.Path
import Stacktrace.Value.Written

/-!
# The schema of settings

`checkSettings` turns a mapping into `Settings` or lists everything that is wrong with it. Each check
takes the path to the value, so that a problem says where it stands; problems come in the order of
the fields, and fields that do not exist come last.

Values are taken generously where nothing is lost: a whole number may be written as text, as a
truth value or as a number with an empty fraction, and bytes may stand for the text that they encode.
Absent fields get their defaults. The root has no other fields than the known ones, while unknown
fields of a section are passed over.
-/

namespace Stacktrace.Schema

open Text

/-- A checked value, or the problems with it. -/
abbrev Checked (α : Type) := Except (List Problem) α

def both : Checked α → Checked β → Checked (α × β)
  | .ok a, .ok b => .ok (a, b)
  | .ok _, .error q => .error q
  | .error p, .ok _ => .error p
  | .error p, .error q => .error (p ++ q)

def problem (path : List PathStep) (rule message : String) : List Problem :=
  [⟨path, rule.toList, message.toList⟩]

/-! ## Whole numbers -/

/-- The problem of a text that is no whole number. -/
def unreadableNumber : String × String :=
  ("int_parsing", "Input should be a valid integer, unable to parse string as an integer")

/-- The problem of a number with too many digits. -/
def oversizedNumber : String × String :=
  ("int_parsing_size", "Unable to parse input string as an integer, exceeded maximum size")

/-- A text that is a whole number. -/
def readCount (s : Text) : Except (String × String) Int :=
  match Whole.read s with
  | .ok n => .ok n
  | .error .unreadable => .error unreadableNumber
  | .error .tooLong => .error oversizedNumber

def decodeBytes (octets : List UInt8) : Option Text :=
  (String.fromUTF8? ⟨octets.toArray⟩).map String.toList

/-- Doubles from here on, of either sign, are not taken for whole numbers. -/
def doubleLimit : Nat := Nat.pow 2 63

/-- The whole number that a double is. -/
def readFloat (x : Float) : Except (String × String) Int :=
  match Number.Binary64.decode x.toBits.toNat with
  | .finite negative m q =>
    let whole : Option Nat :=
      if q ≥ 0 then some (m * Nat.pow 2 q.toNat)
      else if m % Nat.pow 2 (-q).toNat = 0 then some (m / Nat.pow 2 (-q).toNat)
      else none
    match whole with
    | some n =>
      if n < doubleLimit then .ok (if negative then -(n : Int) else n)
      else .error oversizedNumber
    | none =>
      .error ("int_from_float",
        "Input should be a valid integer, got a number with a fractional part")
  | _ => .error ("finite_number", "Input should be a finite number")

/-- The whole number that a value stands for. -/
def readWhole : Value → Except (String × String) Int
  | .int i => .ok i
  | .bool b => .ok (if b then 1 else 0)
  | .float x => readFloat x
  | .text s => readCount s
  | .bytes b =>
    match decodeBytes b with
    | some s => readCount s
    | none => .error unreadableNumber
  | _ => .error ("int_type", "Input should be a valid integer")

/-- How many lines of context may stand on either side. -/
def mostLines : Int := 50

def checkLines (path : List PathStep) (v : Value) : Checked Int :=
  match readWhole v with
  | .error (rule, message) => .error (problem path rule message)
  | .ok n =>
    if n > mostLines then
      .error (problem path "less_than_equal" "Input should be less than or equal to 50")
    else if n < 0 then
      .error (problem path "greater_than_equal" "Input should be greater than or equal to 0")
    else
      .ok n

/-! ## Texts and choices -/

def checkText (path : List PathStep) : Value → Checked Text
  | .text s => .ok s
  | .bytes b =>
    match decodeBytes b with
    | some s => .ok s
    | none => .error (problem path "string_unicode"
        "Input should be a valid string, unable to parse raw data as a unicode string")
  | _ => .error (problem path "string_type" "Input should be a valid string")

def originEnd : Text := [':', '/', '/']

/-- The rule for origins that is not about a type. -/
def validateOrigin (s : Text) : Except Text Text :=
  if endsWith originEnd s then .ok s else .error "Internal origin must end with ://".toList

def checkOrigin (path : List PathStep) (v : Value) : Checked Text := do
  let s ← checkText path v
  match validateOrigin s with
  | .ok s => return s
  | .error message => .error [⟨path, "value_error".toList, "Value error, ".toList ++ message⟩]

def checkLevel (path : List PathStep) (v : Value) : Checked Level :=
  match v with
  | .text s =>
    match Level.ofName? s with
    | some l => .ok l
    | none => fault
  | _ => fault
where
  fault := .error (problem path "literal_error"
    "Input should be 'DEBUG', 'INFO', 'WARNING', 'ERROR' or 'CRITICAL'")

def checkFormat (path : List PathStep) (v : Value) : Checked LogFormat :=
  match v with
  | .text s =>
    match LogFormat.ofName? s with
    | some f => .ok f
    | none => fault
  | _ => fault
where
  fault := .error (problem path "literal_error" "Input should be 'json' or 'console'")

def checkDirectory (path : List PathStep) : Value → Checked Text
  | .text s => .ok (Path.tidied s)
  | _ => .error (problem path "path_type" "Input is not a valid path for <class 'pathlib.Path'>")

/-! ## Rewrites -/

/-- The largest number that a path shows as a number. -/
def largestIndex : Int := Nat.pow 2 63 - 1

/-- How a key shows in a path. -/
def stepOf : Value → PathStep
  | .text s => .key s
  | .bool b => .index (if b then 1 else 0)
  | .int i =>
    if -largestIndex - 1 ≤ i && i ≤ largestIndex then .index i else .key (Numeral.ofInt i)
  | v =>
    match v.quoted with
    | .ok s => .key s
    | .error _ => .key []

/-- Adds a rewrite; a later one for the same name replaces an earlier one. -/
def putRewrite (name target : Text) : Rewrites → Rewrites
  | [] => [(name, target)]
  | (k, v) :: rest => if k = name then (k, target) :: rest else (k, v) :: putRewrite name target rest

/-- Rewrites of function names, added to those found before. -/
def checkEntries (path : List PathStep) : Rewrites → List (Value × Value) → Checked Rewrites
  | found, [] => .ok found
  | found, (k, v) :: rest =>
    let here := path ++ [stepOf k]
    let entry := both (checkText (here ++ [.key "[key]".toList]) k) (checkText here v)
    match entry with
    | .ok (name, target) => checkEntries path (putRewrite name target found) rest
    | .error p =>
      match checkEntries path found rest with
      | .ok _ => .error p
      | .error q => .error (p ++ q)

def checkRewrites (path : List PathStep) : Value → Checked Rewrites
  | .map es | .frozenMap es => checkEntries path [] es
  | _ => .error (problem path "dict_type" "Input should be a valid dictionary")

/-! ## Sections -/

def checkField (path : List PathStep) (name : String) (entries : List (Value × Value)) (default : α)
    (check : List PathStep → Value → Checked α) : Checked α :=
  match Value.entry? name.toList entries with
  | none => .ok default
  | some v => check (path ++ [.key name.toList]) v

/-- The entries of a section. The name is the one that the section's kind goes by. -/
def checkSection (path : List PathStep) (kind : String) : Value → Checked (List (Value × Value))
  | .map es => .ok es
  | _ => .error (problem path "model_type"
      ("Input should be a valid dictionary or instance of " ++ kind))

def checkCodeFrame (path : List PathStep) (v : Value) : Checked ContextLines := do
  let es ← checkSection path "CodeFrameConfig" v
  let base : ContextLines := {}
  let (above, below) ← both
    (checkField path "lines_above" es base.above checkLines)
    (checkField path "lines_below" es base.below checkLines)
  return { above, below }

def checkStack (path : List PathStep) (v : Value) : Checked StackSettings := do
  let es ← checkSection path "StackConfig" v
  let base : StackSettings := {}
  let (internalOrigin, specFrameMarker, functionNameRewrites) ← both
    (checkField path "internal_origin" es base.internalOrigin checkOrigin)
    (both (checkField path "spec_frame_marker" es base.specFrameMarker checkText)
      (checkField path "function_name_rewrites" es base.functionNameRewrites checkRewrites))
  return { internalOrigin, specFrameMarker, functionNameRewrites }

def checkLogging (path : List PathStep) (v : Value) : Checked LogSettings := do
  let es ← checkSection path "LoggingConfig" v
  let base : LogSettings := {}
  let (level, format) ← both
    (checkField path "level" es base.level checkLevel)
    (checkField path "format" es base.format checkFormat)
  return { level, format }

def rootFields : List Text :=
  ["project_root".toList, "code_frame".toList, "stack".toList, "logging".toList]

def checkUnknown : List (Value × Value) → Checked Unit
  | [] => .ok ()
  | (k, _) :: rest =>
    match k with
    | .text name =>
      if rootFields.contains name then
        checkUnknown rest
      else
        (both (.error (problem [.key name] "extra_forbidden" "Extra inputs are not permitted"))
          (checkUnknown rest)).map Prod.fst
    | _ => checkUnknown rest

def checkSettings (es : List (Value × Value)) : Checked Settings := do
  let base : Settings := {}
  let (projectRoot, codeFrame, stack, logging, _) ← both
    (checkField [] "project_root" es base.projectRoot checkDirectory)
    (both (checkField [] "code_frame" es base.codeFrame checkCodeFrame)
      (both (checkField [] "stack" es base.stack checkStack)
        (both (checkField [] "logging" es base.logging checkLogging) (checkUnknown es))))
  return { projectRoot, codeFrame, stack, logging }

/-- A checked value, with its problems as a fault. -/
def orFault : Checked α → Except Fault α
  | .ok a => .ok a
  | .error ps => .error (.invalid ps)

end Stacktrace.Schema

namespace Stacktrace

/-- Rules that span fields: neither the frame marker nor a side of a rewrite is empty. -/
def Settings.confirm (s : Settings) : Except Fault Settings :=
  if s.stack.specFrameMarker.isEmpty then .error .emptyMarker
  else if s.stack.functionNameRewrites.any fun r => r.1.isEmpty || r.2.isEmpty then
    .error .emptyRewrite
  else .ok s

end Stacktrace
