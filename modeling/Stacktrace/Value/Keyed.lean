import Stacktrace.Number.Shortest
import Stacktrace.Value.Calendar

/-!
# Mappings with keys of any kind

Documents may use any scalar as a key. Two keys are the same when they are equal as data, and numbers
are equal across kinds: one, one point zero and true are one key. Moments that know their distance
from universal time are equal when they are the same point in time. `mergeEntries` lays one mapping over
another and does the same to mappings that both hold under one key.
-/

namespace Stacktrace.Value

/-- The number that a value is, as a double or as an integer. -/
def asNumber : Value → Option (Int ⊕ Float)
  | .bool b => some (.inl (if b then 1 else 0))
  | .int i => some (.inl i)
  | .float x => some (.inr x)
  | _ => none

def isInteger (x : Float) (i : Int) : Bool :=
  match Number.Binary64.decode x.toBits.toNat with
  | .finite negative m q =>
    let signed : Int := if negative then -(m : Int) else m
    if q ≥ 0 then signed * Nat.pow 2 q.toNat == i else signed == i * Nat.pow 2 (-q).toNat
  | _ => false

/-- Equality of numbers across kinds. -/
def sameNumber : Int ⊕ Float → Int ⊕ Float → Bool
  | .inl i, .inl j => i == j
  | .inr x, .inr y => x == y || (x.isNaN && y.isNaN)
  | .inl i, .inr x | .inr x, .inl i => isInteger x i

/-- Equality of moments. Where both know their distance from universal time, the point in time
decides. -/
def sameMoment (s t : Moment) : Bool :=
  match s.instant?, t.instant? with
  | some i, some j => i == j
  | none, none => s == t
  | _, _ => false

/-- Whether two values are the same key. -/
def sameKey (a b : Value) : Bool :=
  match asNumber a, asNumber b with
  | some m, some n => sameNumber m n
  | none, none =>
    match a, b with
    | .null, .null => true
    | .text s, .text t => s == t
    | .bytes s, .bytes t => s == t
    | .moment s, .moment t => sameMoment s t
    | _, _ => false
  | _, _ => false

def lookupKey (key : Value) : List (Value × Value) → Option Value
  | [] => none
  | (k, v) :: rest => if sameKey k key then some v else lookupKey key rest

/-- Writes a value under a key: in place if the key is there, else at the end. -/
def putKey (key value : Value) : List (Value × Value) → List (Value × Value)
  | [] => [(key, value)]
  | (k, v) :: rest => if sameKey k key then (k, value) :: rest else (k, v) :: putKey key value rest

mutual

/-- A value laid over another: mappings are merged, other values replace what was there. -/
def mergeValue (old : Value) : Value → Value
  | .map news =>
    match old with
    | .map olds => .map (mergeEntries olds news)
    | _ => .map news
  | new => new

/-- Entries laid over others. -/
def mergeEntries (olds : List (Value × Value)) : List (Value × Value) → List (Value × Value)
  | [] => olds
  | (k, v) :: news =>
    let merged := match lookupKey k olds with
      | some old => mergeValue old v
      | none => v
    mergeEntries (putKey k merged olds) news

end

def isKey : Value → Bool
  | .null | .bool _ | .int _ | .float _ | .text _ | .bytes _ | .moment _ => true
  | _ => false

end Stacktrace.Value
