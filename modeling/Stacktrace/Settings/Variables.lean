import Stacktrace.Document.Json
import Stacktrace.Settings.Placeholder
import Stacktrace.Text.Case
import Stacktrace.Value.Keyed

/-!
# Settings in variables

Variables are names with texts: the environment of a process, or what a command line says. A `Naming`
tells which variable stands for which field.

* A variable named for a root field gives that field. For a section its text is JSON.
* A variable named for a section, the nesting mark and a field gives that field of the section, and
  further marks lead deeper. It wins over the same field in the section's JSON.
* A variable may say that a field has no value at all. It then gives the null value, except where
  another variable has already given something.

`Naming.entries` is everything that variables give, as entries of the root.
-/

namespace Stacktrace

open Text

/-! ## Fields -/

namespace Field

def root : Text := "project_root".toList

def sections : List Text := ["code_frame".toList, "stack".toList, "logging".toList]

def rewrites : Text := "function_name_rewrites".toList

def ofSection (name : Text) : List Text :=
  if name = "code_frame".toList then ["lines_above".toList, "lines_below".toList]
  else if name = "stack".toList then
    ["internal_origin".toList, "spec_frame_marker".toList, rewrites]
  else if name = "logging".toList then ["level".toList, "format".toList]
  else []

def isMapping (sectionName name : Text) : Bool :=
  sectionName = "stack".toList && name = rewrites

/-- The field of a section that a key names, whatever its case. -/
def named (sectionName key : Text) : Text :=
  ((ofSection sectionName).find? fun f => f = lower key).getD key

end Field

/-! ## Variables -/

/-- What a variable says. -/
inductive Content where
  | text (s : Text)
  /-- There is no value. The text is the one that says so. -/
  | nothing (written : Text)
  /-- A value that has been read already. -/
  | decoded (v : Value)

/-- Variables by name, in order. -/
abbrev Variables := List (Text × Content)

namespace Content

/-- The content of a text, where a certain text may stand for no value. -/
def ofText (noneText : Option Text) (s : Text) : Content :=
  if noneText = some s then .nothing s else .text s

/-- What a variable says, as it stands. -/
def value : Content → Value
  | .text s => .text s
  | .nothing _ => .null
  | .decoded v => v

/-- Reads what a variable says as JSON, unless it is empty. -/
def decode? : Content → Option Content
  | .text [] => some (.text [])
  | .nothing [] => some (.nothing [])
  | .text s | .nothing s => (Json.read s).map .decoded
  | .decoded v => some (.decoded v)

/-- Writes what a variable says under a key. Where it says that there is no value, only an empty
mapping gives way to it. -/
def put (key : Text) (c : Content) (es : List (Value × Value)) : List (Value × Value) :=
  match c, Value.entry? key es with
  | .nothing _, some (.map []) => Value.setEntry key .null es
  | .nothing _, some _ => es
  | c, _ => Value.setEntry key c.value es

/-- Writes what a variable says below nested keys. Where a key on the way holds something other than
a mapping, nothing is written. -/
def putBelow : List Text → Text → Content → List (Value × Value) → List (Value × Value)
  | [], last, c, es => put last c es
  | k :: ks, last, c, es =>
    match Value.entry? k es with
    | none => Value.setEntry k (.map (putBelow ks last c [])) es
    | some (.map inner) => Value.setEntry k (.map (putBelow ks last c inner)) es
    | some _ => es

end Content

/-! ## Names -/

structure Nesting where
  /-- What stands between a section and its field. -/
  mark : Text
  /-- How many cuts are made at most. -/
  cuts : Option Nat := none
  /-- Why no name can be cut, if none can. -/
  fault : Option Fault := none

/-- The keys in a piece of a name. -/
def Nesting.keys (n : Nesting) (s : Text) : List Text :=
  let pieces := splitOn n.mark s
  match n.cuts with
  | none => pieces
  | some most =>
    if pieces.length ≤ most + 1 then pieces
    else pieces.take most ++ [joinWith n.mark (pieces.drop most)]

structure Naming where
  /-- What all names start with. -/
  lead : Text
  /-- How names lead into sections, if they can. -/
  nesting : Option Nesting
  /-- Whether names have to be written in their own case. -/
  caseMatters : Bool := false

namespace Naming

/-- A name in the case in which names are compared. -/
def fold (n : Naming) (name : Text) : Text :=
  if n.caseMatters then name else lower name

/-- The name of the variable for a field. -/
def nameOf (n : Naming) (field : Text) : Text :=
  n.fold (n.lead ++ field)

/-- Variables by their names as they are compared. A later one replaces an earlier one. -/
def collect (n : Naming) (vs : Variables) : Variables :=
  vs.foldl (fun acc v => put (n.fold v.1) v.2 acc) []
where
  put (name : Text) (c : Content) : Variables → Variables
    | [] => [(name, c)]
    | (k, old) :: rest => if k = name then (k, c) :: rest else (k, old) :: put name c rest

def isMapping (n : Naming) (sectionName key : Text) : Bool :=
  (Field.ofSection sectionName).any fun f =>
    Field.isMapping sectionName f && (key = f || key = n.nameOf f)

def nestedEntries (n : Naming) (origin : Origin) (nesting : Nesting) (sectionName : Text) :
    Variables → List (Value × Value) → Except Fault (List (Value × Value))
  | [], es => .ok es
  | (name, c) :: rest, es =>
    match dropPrefix? (n.nameOf sectionName ++ nesting.mark) name, nesting.fault with
    | none, _ => nestedEntries n origin nesting sectionName rest es
    | some _, some fault => .error fault
    | some path, none =>
      let keys := nesting.keys path
      let last := (keys.getLast?).getD []
      let content :=
        if keys.length = 1 && n.isMapping sectionName last then c.decode? else some c
      match content with
      | none => .error (.source (.unreadable sectionName origin))
      | some c =>
        nestedEntries n origin nesting sectionName rest (c.putBelow keys.dropLast last es)

def nested (n : Naming) (origin : Origin) (vs : Variables) (sectionName : Text) :
    Except Fault (List (Value × Value)) :=
  match n.nesting with
  | none => .ok []
  | some nesting => nestedEntries n origin nesting sectionName vs []

/-- Entries of a section, with the names of fields in their own case. -/
def foldKeys (n : Naming) (sectionName : Text) (es : List (Value × Value)) : Value :=
  if n.caseMatters then
    .map es
  else
    .map <| es.foldl (fun acc e => match e.1 with
      | .text k => Value.setEntry (Field.named sectionName k) e.2 acc
      | k => Value.putKey k e.2 acc) []

/-- What variables give for a section, if they give anything. -/
def sectionValue (n : Naming) (origin : Origin) (vs : Variables) (name : Text) :
    Except Fault (Option Value) :=
  match vs.lookup (n.nameOf name) with
  | none => do
    let es ← n.nested origin vs name
    return if es.isEmpty then none else some (n.foldKeys name es)
  | some (.text s) =>
    match Json.read s with
    | none => .error (.source (.unreadable name origin))
    | some .null => .ok none
    | some (.map es) => do
      let inner ← n.nested origin vs name
      return some (n.foldKeys name (Value.mergeEntries es inner))
    | some v => .ok (some v)
  | some c => .ok (some c.value)

/-- What variables give for sections, one after the other. -/
def sectionEntries (n : Naming) (origin : Origin) (vs : Variables) :
    List Text → Except Fault (List (Value × Value))
  | [] => .ok []
  | name :: names => do
    let found ← n.sectionValue origin vs name
    let rest ← sectionEntries n origin vs names
    match found with
    | none => return rest
    | some v => return (.text name, v) :: rest

def entries (n : Naming) (origin : Origin) (vs : Variables) :
    Except Fault (List (Value × Value)) := do
  let folded := n.collect vs
  let fromSections ← n.sectionEntries origin folded Field.sections
  match folded.lookup (n.nameOf Field.root) with
  | none => return fromSections
  | some c => return (.text Field.root, c.value) :: fromSections

end Naming

end Stacktrace
