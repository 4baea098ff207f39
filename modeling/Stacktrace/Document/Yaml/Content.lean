import Stacktrace.Document.Yaml.Node
import Stacktrace.Document.Yaml.Scalar
import Stacktrace.Value.Keyed

/-!
# The values of nodes

`Node.read` turns a node into the value that it stands for. Entries of other mappings may be merged
into a mapping; its own entries win over them, and of several merged mappings the first wins.

Many nodes can be faulty at once. The fault that counts is the first one of those closest to the root
of the document. `Content` therefore keeps, beside a value, the first fault of every level.
-/

namespace Stacktrace.Yaml

/-- A value, and the first fault of each level below it. -/
structure Content where
  value : Value
  faults : List (Option Fault)

/-- The first fault of each level of two places, the first place first. -/
def overlay : List (Option Fault) → List (Option Fault) → List (Option Fault)
  | [], b => b
  | a, [] => a
  | x :: a, y :: b => (x <|> y) :: overlay a b

namespace Content

def sound (v : Value) : Content := ⟨v, []⟩

def faulty (f : Fault) : Content := ⟨.null, [some f]⟩

/-- What a reader of scalars says. -/
def ofScalar : Except Fault Value → Content
  | .ok v => sound v
  | .error f => faulty f

/-- A collection that is faulty inside. -/
def hollow (empty : Value) : Content := ⟨empty, [none, some .malformedDocument]⟩

/-- The faults of several places, one level below where they stand. -/
def below (faults : List (List (Option Fault))) : List (Option Fault) :=
  none :: faults.foldl overlay []

def ofItems (items : List Content) : Content :=
  ⟨.list (items.map Content.value), below (items.map Content.faults)⟩

/-- The faults of an entry: those of its key, its key being none, and those of its value. -/
def entryFaults (e : Content × Content) : List (Option Fault) :=
  let key := if e.1.value.isKey then [] else [some .malformedDocument]
  overlay (overlay e.1.faults key) e.2.faults

/-- The entries of a mapping, where a later entry replaces an earlier one with the same key. -/
def joinEntries (entries : List (Content × Content)) : List (Value × Value) :=
  entries.foldl (fun acc e => Value.putKey e.1.value e.2.value acc) []

def ofEntries (entries : List (Content × Content)) : Content :=
  ⟨.map (joinEntries entries), below (entries.map entryFaults)⟩

def ofKeys (entries : List (Content × Content)) : Content :=
  ⟨.set ((joinEntries entries).map Prod.fst), below (entries.map entryFaults)⟩

/-- A sequence of pairs. A member that is none is a fault. -/
def ofPairs (pairs : List (Option (Content × Content))) : Content :=
  ⟨.list (pairs.filterMap fun p => p.map fun e => .tuple [e.1.value, e.2.value]),
    below (pairs.map fun p => match p with
      | none => [some .malformedDocument]
      | some e => overlay e.1.faults e.2.faults)⟩

/-- The first fault closest to the root, or the value. -/
def outcome (c : Content) : Except Fault Value :=
  match c.faults.findSome? id with
  | some f => .error f
  | none => .ok c.value

end Content

namespace Node

/-! ## Depth -/

mutual

/-- How many nodes lie on the longest way down. -/
def depth : Node → Nat
  | scalar _ _ => 1
  | sequence _ items => depthItems items + 1
  | mapping _ entries => depthEntries entries + 1

def depthItems : List Node → Nat
  | [] => 0
  | n :: ns => max n.depth (depthItems ns)

def depthEntries : List (Node × Node) → Nat
  | [] => 0
  | (k, v) :: es => max (max k.depth v.depth) (depthEntries es)

end

/-! ## Merging -/

def mappingsOf : List Node → Option (List (List (Node × Node)))
  | [] => some []
  | mapping _ es :: ns => (mappingsOf ns).map (es :: ·)
  | _ => none

/-- The mappings whose entries a node has to offer, the one that wins last. -/
def sources? : Node → Option (List (List (Node × Node)))
  | mapping _ es => some [es]
  | sequence _ items => (mappingsOf items).map List.reverse
  | scalar _ _ => none

/-- An entry that is not merged in. A key that is the sign for a plain value is an ordinary text
here. -/
def ownEntry (e : Node × Node) : Node × Node :=
  if e.1.tag = .value then (e.1.withTag .text, e.2) else e

/-- The entries of a mapping with those that are merged into it in front, or none if something is
merged that is no mapping. The first argument bounds the depth. -/
def flatten : Nat → List (Node × Node) → Option (List (Node × Node))
  | 0, _ => none
  | fuel + 1, es => do
    let merged ← (es.filter fun e => e.1.tag = .merge).mapM fun e => do
      let sources ← sources? e.2
      return (← sources.mapM (flatten fuel)).flatten
    return merged.flatten ++ (es.filter fun e => e.1.tag ≠ .merge).map ownEntry

/-! ## Values -/

mutual

/-- The text of a scalar, or of a mapping that says which of its values is the plain one. -/
def plainText? : Node → Option Text
  | scalar _ s => some s
  | sequence _ _ => none
  | mapping _ es => plainEntry? es

/-- The text of the first entry whose key is the sign for a plain value. -/
def plainEntry? : List (Node × Node) → Option Text
  | [] => none
  | (k, v) :: es => if k.tag = .value then plainText? v else plainEntry? es

end

/-- A scalar type forced on a mapping. Moments are not read from mappings. -/
def ofPlainEntry (t : Tag) (es : List (Node × Node)) : Content :=
  match t, plainEntry? es with
  | .other, _ | .merge, _ | .value, _ | _, none => .faulty .malformedDocument
  | .timestamp, some _ => .faulty .unsuitableValue
  | t, some s => .ofScalar (Scalar.read t s)

/-- The value of a node and its faults. The first argument bounds the depth. -/
def content : Nat → Node → Content
  | 0, _ => .faulty .malformedDocument
  | fuel + 1, n =>
    let both (e : Node × Node) := (content fuel e.1, content fuel e.2)
    match n.tag, n with
    | .sequence, sequence _ items => .ofItems (items.map (content fuel))
    | .sequence, _ => .hollow (.list [])
    | .orderedMapping, sequence _ items | .pairs, sequence _ items =>
      .ofPairs (items.map fun item => match item with
        | mapping _ [e] => some (both e)
        | _ => none)
    | .orderedMapping, _ | .pairs, _ => .hollow (.list [])
    | .mapping, mapping _ es =>
      match flatten (fuel + 1) es with
      | some es => .ofEntries (es.map both)
      | none => .hollow (.map [])
    | .mapping, _ => .hollow (.map [])
    | .set, mapping _ es =>
      match flatten (fuel + 1) es with
      | some es => .ofKeys (es.map both)
      | none => .hollow (.set [])
    | .set, _ => .hollow (.set [])
    | t, scalar _ s => .ofScalar (Scalar.read t s)
    | _, sequence _ _ => .faulty .malformedDocument
    | t, mapping _ es => ofPlainEntry t es

/-- The value that a node stands for. -/
def read (n : Node) : Except Fault Value :=
  (content n.depth n).outcome

end Node

end Stacktrace.Yaml
