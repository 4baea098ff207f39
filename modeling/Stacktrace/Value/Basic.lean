import Stacktrace.Frame.Basic

/-!
# Values

The dynamic data that hosts and documents hand over: scalars, sequences, mappings, the library's own
records, and host errors of several shapes.

A mapping keeps its entries in the order in which they were first written. Keys are values because
documents may use any scalar as a key; host mappings have text keys only.
-/

namespace Stacktrace

structure CodeFrame where
  line : Int
  column : Option Int
  relativeFile : Option Text
  absoluteFile : Option Text
  frame : Text
  language : Option Text := none
deriving DecidableEq, Repr

/-- A time of day with an optional distance from universal time, in seconds. -/
structure TimeOfDay where
  hour : Nat
  minute : Nat
  second : Nat
  microsecond : Nat
  offset : Option Int
deriving DecidableEq, Repr

/-- A calendar day, with or without a time. -/
structure Moment where
  year : Nat
  month : Nat
  day : Nat
  time : Option TimeOfDay
deriving DecidableEq, Repr

/-- Data of a host or of a document. -/
inductive Value where
  | null
  | bool (b : Bool)
  | int (i : Int)
  | float (x : Float)
  | text (s : Text)
  | bytes (octets : List UInt8)
  | moment (m : Moment)
  | list (items : List Value)
  | tuple (items : List Value)
  | set (items : List Value)
  | map (entries : List (Value × Value))
  /-- A mapping that refuses changes. -/
  | frozenMap (entries : List (Value × Value))
  /-- A host object with attributes that can be written. -/
  | object (attributes : List (Text × Value))
  /-- A host object without attributes that refuses new ones. -/
  | sealed
  /-- A raised error: its kind, its arguments and the attributes added to it. -/
  | raised (kind : Text) (arguments : List Value) (attributes : List (Text × Value))
  | fields (f : FrameFields)
  | line (l : ParsedLine)
  | codeFrame (c : CodeFrame)
  | position (p : Position)
deriving Inhabited

/-- A list of attributes or entries with text keys, in order of first writing. -/
abbrev Attributes := List (Text × Value)

namespace Attributes

def get? (name : Text) : Attributes → Option Value
  | [] => none
  | (k, v) :: rest => if k = name then some v else get? name rest

/-- Writes a value under a name: in place if the name is there, else at the end. -/
def set (name : Text) (value : Value) : Attributes → Attributes
  | [] => [(name, value)]
  | (k, v) :: rest => if k = name then (k, value) :: rest else (k, v) :: set name value rest

def has (name : Text) (as : Attributes) : Bool :=
  (get? name as).isSome

theorem get?_set_self (name : Text) (value : Value) (as : Attributes) :
    get? name (set name value as) = some value := by
  induction as with
  | nil => simp [set, get?]
  | cons a as ih =>
    obtain ⟨k, v⟩ := a
    by_cases h : k = name <;> simp [set, get?, h, ih]

theorem get?_set_of_ne {name other : Text} (h : other ≠ name) (value : Value) (as : Attributes) :
    get? other (set name value as) = get? other as := by
  induction as with
  | nil => simp [set, get?, h.symm]
  | cons a as ih =>
    obtain ⟨k, v⟩ := a
    by_cases hk : k = name
    · subst hk
      simp [set, get?, h.symm]
    · by_cases hk' : k = other
      · subst hk'
        simp [set, get?, hk]
      · simp [set, get?, hk, hk', ih]

end Attributes

namespace Value

def entry? (name : Text) : List (Value × Value) → Option Value
  | [] => none
  | (.text k, v) :: rest => if k = name then some v else entry? name rest
  | _ :: rest => entry? name rest

/-- Writes a value under a text key: in place if the key is there, else at the end. -/
def setEntry (name : Text) (value : Value) : List (Value × Value) → List (Value × Value)
  | [] => [(.text name, value)]
  | (.text k, v) :: rest =>
    if k = name then (.text k, value) :: rest else (.text k, v) :: setEntry name value rest
  | e :: rest => e :: setEntry name value rest

/-- Whether a value counts as present: null, false, zeros and empty collections do not. -/
def isTruthy : Value → Bool
  | .null => false
  | .bool b => b
  | .int i => i != 0
  | .float x => !(x == 0.0)
  | .text s => !s.isEmpty
  | .bytes b => !b.isEmpty
  | .list xs | .tuple xs | .set xs => !xs.isEmpty
  | .map es | .frozenMap es => !es.isEmpty
  | _ => true

/-- The elements of a value that can be walked through: items, keys of a mapping, characters of a
text. Other values have none to offer. -/
def elements? : Value → Option (List Value)
  | .list xs | .tuple xs | .set xs => some xs
  | .map es | .frozenMap es => some (es.map Prod.fst)
  | .text s => some (s.map fun c => .text [c])
  | .bytes b => some (b.map fun o => .int o.toNat)
  | _ => none

/-- The name under which log entries report the kind of a value. -/
def kindName : Value → Text
  | .null => "NoneType".toList
  | .bool _ => "bool".toList
  | .int _ => "int".toList
  | .float _ => "float".toList
  | .text _ => "str".toList
  | .bytes _ => "bytes".toList
  | .moment m => (if m.time.isSome then "datetime" else "date").toList
  | .list _ => "list".toList
  | .tuple _ => "tuple".toList
  | .set _ => "set".toList
  | .map _ => "dict".toList
  | .frozenMap _ => "mappingproxy".toList
  | .object _ => "SimpleNamespace".toList
  | .sealed => "Sealed".toList
  | .raised kind _ _ => kind
  | .fields _ => "FrameFields".toList
  | .line (.message _) => "MessageLine".toList
  | .line (.frame _) => "FrameLine".toList
  | .codeFrame _ => "CodeFrame".toList
  | .position _ => "SourcePosition".toList

end Value

end Stacktrace
