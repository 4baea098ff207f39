import Stacktrace.Error.Record
import Stacktrace.Run

/-!
# Writing back to a host

`ErrorRecord.applyTo` writes the stack fields of a record into a host. The stack is always written;
the classified lines and the code frame are written when the record has them, under the spelling
that the host uses. Mappings, attribute objects and raised errors accept fields; every other value
refuses them, which is logged and leaves it as it was. A record is never changed: it is replaced.
-/

namespace Stacktrace

open Text

namespace Value

/-- Writes one field, if the value accepts fields. -/
def setField? (v : Value) (name : Text) (new : Value) : Option Value :=
  match v with
  | .map es => some (.map (setEntry name new es))
  | .object as => some (.object (Attributes.set name new as))
  | .raised kind args as => some (.raised kind args (Attributes.set name new as))
  | _ => none

/-- Writes fields one after the other. -/
def setFields? (v : Value) : List (Text × Value) → Option Value
  | [] => some v
  | (name, new) :: rest => (v.setField? name new).bind fun v' => setFields? v' rest

end Value

namespace ErrorRecord

/-- The fields that a record writes into a host. -/
def updates (r : ErrorRecord) (v : Value) : List (Text × Value) :=
  -- the stack is always written, the others only if there is something to write
  [(stackField, match r.stack with | some s => .text s | none => .null)] ++
    (match r.parsedStack with
      | some items => [(v.spelling .parsedStack, .tuple items)]
      | none => []) ++
    (match r.codeFrame with
      | some c => [(v.spelling .codeFrame, c)]
      | none => [])

/-- Writes the record's stack fields into a host and returns the host. -/
def applyTo (r : ErrorRecord) : Host → Run Host
  | .record _ => return .record r
  | .value .null => return .value .null
  | .value v =>
    match v.setFields? (r.updates v) with
    | some v' => return .value v'
    -- a host that refuses the stack has taken no other field either
    | none => do
      Run.log (.writeBackSkipped v.kindName)
      return .value v

end ErrorRecord

end Stacktrace
