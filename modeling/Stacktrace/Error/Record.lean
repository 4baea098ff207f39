import Stacktrace.Value.Written

/-!
# Error records

An `ErrorRecord` is the library's own, immutable view of a runtime error. A `Host` is whatever the
caller has: such a record, or a value that describes an error. `ErrorRecord.ofHost` reads a host:

* mappings, attribute objects and raised errors offer fields, other values offer none;
* a raised error is named by its kind and speaks by its arguments, whatever else it carries;
* `parsed_stack` and `code_frame` may also be spelt in camel case, which counts only where the other
  spelling is absent;
* a field of the wrong kind falls back to a default, but a parsed stack that is neither empty nor a
  sequence cannot be read at all.
-/

namespace Stacktrace

open Text

/-- An error as the library sees it. -/
structure ErrorRecord where
  name : Text := "Error".toList
  message : Text := []
  stack : Option Text := none
  parsedStack : Option (List Value) := none
  codeFrame : Option Value := none
deriving Inhabited

/-- An error as the caller has it. -/
inductive Host where
  | record (r : ErrorRecord)
  | value (v : Value)
deriving Inhabited

namespace ErrorRecord

/-- The textual form of an error, such as `TypeError: x is undefined`. -/
def toText (r : ErrorRecord) : Text :=
  if r.name.isEmpty then r.message
  else if r.message.isEmpty then r.name
  else r.name ++ [':', ' '] ++ r.message

def withStack (r : ErrorRecord) (stack : Text) : ErrorRecord :=
  { r with stack := some stack }

end ErrorRecord

/-! ## Fields of a host -/

/-- The spelling of a field that can be spelt in two ways. -/
structure FieldName where
  snake : Text
  camel : Text

def FieldName.parsedStack : FieldName := ⟨"parsed_stack".toList, "parsedStack".toList⟩

def FieldName.codeFrame : FieldName := ⟨"code_frame".toList, "codeFrame".toList⟩

def stackField : Text := "stack".toList

namespace Value

def field? (name : Text) : Value → Option Value
  | .map es | .frozenMap es => entry? name es
  | .object as => Attributes.get? name as
  | .raised _ _ as => Attributes.get? name as
  | .line (.message m) => if name = "message".toList then some (.text m.message) else none
  | _ => none

def hasField (name : Text) (v : Value) : Bool :=
  (v.field? name).isSome

/-- The field under either spelling. -/
def spelledField? (name : FieldName) (v : Value) : Option Value :=
  if v.hasField name.snake then v.field? name.snake else v.field? name.camel

/-- The spelling under which a value keeps the field: in camel case if it has only that one. -/
def spelling (name : FieldName) (v : Value) : Text :=
  if v.hasField name.camel && !v.hasField name.snake then name.camel else name.snake

def isCodeFrame : Value → Bool
  | .codeFrame _ => true
  | .map es | .frozenMap es => !es.isEmpty
  | _ => false

def errorName : Value → Text
  | .raised kind _ _ => kind
  | v =>
    match v.field? "name".toList with
    | some (.text name) => name
    | _ => "Error".toList

def errorMessage : Value → Except Fault Text
  | .raised kind args _ => writtenRaised kind args
  -- any value may be a message: it is written out
  | v =>
    match v.field? "message".toList with
    | some m => m.written
    | none => .ok []

/-- The stack of a described error, if it is a text. -/
def errorStack (v : Value) : Option Text :=
  match v.field? stackField with
  | some (.text s) => some s
  | _ => none

/-- The classified lines of a described error. What counts as absent is absent. -/
def errorParsedStack (v : Value) : Except Fault (Option (List Value)) :=
  match v.spelledField? .parsedStack with
  | none => .ok none
  | some p =>
    -- nothing, zero and empty containers are as good as absent
    if p.isTruthy then
      match p.elements? with
      | some items => .ok (some items)
      | none => .error .notASequence
    else
      .ok none

/-- The code frame of a described error, if it can serve as one. -/
def errorCodeFrame (v : Value) : Option Value :=
  (v.spelledField? .codeFrame).filter isCodeFrame

end Value

namespace ErrorRecord

def ofValue : Value → Except Fault ErrorRecord
  | .null => .ok { name := [], message := [] }
  | v => do
    let message ← v.errorMessage
    let parsedStack ← v.errorParsedStack
    return {
      name := v.errorName
      message
      stack := v.errorStack
      parsedStack
      codeFrame := v.errorCodeFrame }

def ofHost : Host → Except Fault ErrorRecord
  | .record r => .ok r
  | .value v => ofValue v

end ErrorRecord

end Stacktrace
