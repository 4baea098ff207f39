import Stacktrace.Document.Yaml.Tag
import Stacktrace.Document.Yaml.Token

/-!
# Nodes

The tree of a document: scalars, sequences and mappings, each with its type. `Node.ofTokens` reads it
from the tokens of a text, by the grammar of YAML.

An alias stands for the node of its anchor. Inside that node itself, where the node is not complete,
it stands for an empty one. A text holds one document or none.
-/

namespace Stacktrace.Yaml

inductive Node where
  | scalar (tag : Tag) (text : Text)
  | sequence (tag : Tag) (items : List Node)
  | mapping (tag : Tag) (entries : List (Node × Node))

namespace Node

def tag : Node → Tag
  | scalar t _ | sequence t _ | mapping t _ => t

def withTag (t : Tag) : Node → Node
  | scalar _ s => scalar t s
  | sequence _ items => sequence t items
  | mapping _ entries => mapping t entries

/-- The node that stands where nothing is written. -/
def absent : Node := scalar .null []

/-! ## Reading tokens -/

/-- What is left to read, the nodes that aliases stand for, and what handles of tags stand for. -/
structure Source where
  tokens : List Token
  anchors : List (Text × Node) := []
  handles : List (Text × Text) := []

abbrev Reader := StateT Source (Except Fault)

/-- What handles stand for without directives. -/
def standardHandles : List (Text × Text) :=
  [(['!'], ['!']), (['!', '!'], Tag.space)]

def peek : Reader (Option Token) := do
  return (← get).tokens.head?

def skip : Reader Unit :=
  modify fun s => { s with tokens := s.tokens.tail }

def nextIn (ts : List Token) : Reader Bool := do
  return (← peek).any ts.contains

def accept (t : Token) : Reader Bool := do
  if (← peek) = some t then
    skip
    return true
  else
    return false

def unexpected : Reader α := do
  match ← peek with
  | some (.broken f) => throw f
  | _ => throw .malformedDocument

/-- Passes over a token that has to be next. -/
def expect (t : Token) : Reader Unit := do
  unless ← accept t do unexpected

def setAnchor (anchor : Option Text) (n : Node) : Reader Unit :=
  match anchor with
  | none => pure ()
  | some name => modify fun s => { s with anchors := (name, n) :: s.anchors }

/-- Reads a collection whose anchor stands for an empty one until it is complete. -/
def anchored (anchor : Option Text) (empty : Node) (read : Reader Node) : Reader Node := do
  setAnchor anchor empty
  let n ← read
  setAnchor anchor n
  return n

def readAnchor : Reader (Option Text) := do
  match ← peek with
  | some (.anchor name) => skip; return some name
  | _ => return none

def readTag : Reader (Option TagText) := do
  match ← peek with
  | some (.tag t) => skip; return some t
  | _ => return none

/-- An anchor and a tag, in either order and each of them optional. -/
def readProperties : Reader (Option Text × Option TagText) := do
  match ← readAnchor with
  | some anchor => return (some anchor, ← readTag)
  | none =>
    match ← readTag with
    | some tag => return (← readAnchor, some tag)
    | none => return (none, none)

def tagName (t : TagText) : Reader Text := do
  match t.handle with
  | none => return t.suffix
  | some handle =>
    match (← get).handles.lookup handle with
    | some start => return start ++ t.suffix
    | none => throw .malformedDocument

def isOpen (name : Option Text) : Bool :=
  name.all (· == ['!'])

def scalarTag (name : Option Text) (text : Text) (plain : Bool) : Tag :=
  match name with
  | none => if plain then Tag.ofPlain text else .text
  | some n => if n = ['!'] then Tag.ofPlain text else Tag.ofName n

/-- The type of a collection, given the one that it has without a tag. -/
def collectionTag (name : Option Text) (usual : Tag) : Tag :=
  match name with
  | none => usual
  | some n => if n = ['!'] then usual else Tag.ofName n

def resolve (name : Text) : Reader Node := do
  match (← get).anchors.lookup name with
  | some n => return n
  | none => throw .malformedDocument

/-- Fails if an anchor is already there. -/
def checkAnchor (anchor : Option Text) : Reader Unit := do
  let known := (← get).anchors
  if anchor.any fun name => (known.lookup name).isSome then
    throw .malformedDocument

/-- Where a node stands: whether block collections may stand there, and whether a sequence may stand
there without deeper indentation. -/
structure Position where
  block : Bool
  indentless : Bool

def Position.flow : Position := ⟨false, false⟩

/-- An entry of a block sequence, or a whole document. -/
def Position.entry : Position := ⟨true, false⟩

/-- A key or a value of a block mapping. -/
def Position.member : Position := ⟨true, true⟩

mutual

/-- Reads a node. The first argument of each reader bounds the work. -/
def readNode : Nat → Position → Reader Node
  | 0, _ => throw .malformedDocument
  | fuel + 1, place => do
    if let some (.alias name) ← peek then
      skip
      resolve name
    else
      let (anchor, written) ← readProperties
      let name ← written.mapM tagName
      checkAnchor anchor
      let sequenceTag := collectionTag name .sequence
      let mappingTag := collectionTag name .mapping
      let items (read : Reader (List Node)) : Reader Node :=
        anchored anchor (.sequence sequenceTag []) (.sequence sequenceTag <$> read)
      let entries (read : Reader (List (Node × Node))) : Reader Node :=
        anchored anchor (.mapping mappingTag []) (.mapping mappingTag <$> read)
      let next ← peek
      if place.indentless && next = some .blockEntry then
        items (readHangingItems fuel)
      else
        match next with
        | some (.scalar text plain) =>
          skip
          anchored anchor absent (pure (.scalar (scalarTag name text plain) text))
        | some .flowSequenceStart =>
          skip
          items (readFlowItems fuel true)
        | some .flowMappingStart =>
          skip
          entries (readFlowEntries fuel true)
        | other =>
          if place.block && other = some .blockSequenceStart then
            skip
            items (readBlockItems fuel)
          else if place.block && other = some .blockMappingStart then
            skip
            entries (readBlockEntries fuel)
          else if anchor.isSome || name.isSome then
            anchored anchor absent (pure (.scalar (scalarTag name [] true) []))
          else
            unexpected

def readOptional : Nat → Position → List Token → Reader Node
  | 0, _, _ => throw .malformedDocument
  | fuel + 1, place, ends => do
    if ← nextIn ends then
      return absent
    else
      readNode fuel place

def readValue : Nat → Position → List Token → Reader Node
  | 0, _, _ => throw .malformedDocument
  | fuel + 1, place, ends => do
    if ← accept .value then
      readOptional fuel place ends
    else
      return absent

def readBlockItems : Nat → Reader (List Node)
  | 0 => throw .malformedDocument
  | fuel + 1 => do
    if ← accept .blockEntry then
      let item ← readOptional fuel .entry [.blockEntry, .blockEnd]
      return item :: (← readBlockItems fuel)
    else
      expect .blockEnd
      return []

/-- Reads the items of a sequence that stands at the indentation of its key. -/
def readHangingItems : Nat → Reader (List Node)
  | 0 => throw .malformedDocument
  | fuel + 1 => do
    if ← accept .blockEntry then
      let item ← readOptional fuel .entry [.blockEntry, .key, .value, .blockEnd]
      return item :: (← readHangingItems fuel)
    else
      return []

def readBlockEntries : Nat → Reader (List (Node × Node))
  | 0 => throw .malformedDocument
  | fuel + 1 => do
    if ← accept .key then
      let ends := [.key, .value, .blockEnd]
      let key ← readOptional fuel .member ends
      let value ← readValue fuel .member ends
      return (key, value) :: (← readBlockEntries fuel)
    else
      expect .blockEnd
      return []

/-- Reads the items of a flow sequence up to its end. A key makes an item a mapping of its own. -/
def readFlowItems : Nat → Bool → Reader (List Node)
  | 0, _ => throw .malformedDocument
  | fuel + 1, first => do
    if ← accept .flowSequenceEnd then
      return []
    else
      unless first do expect .flowEntry
      if ← accept .key then
        let key ← readOptional fuel .flow [.value, .flowEntry, .flowSequenceEnd]
        let value ← readValue fuel .flow [.flowEntry, .flowSequenceEnd]
        return .mapping .mapping [(key, value)] :: (← readFlowItems fuel false)
      else if ← accept .flowSequenceEnd then
        return []
      else
        let item ← readNode fuel .flow
        return item :: (← readFlowItems fuel false)

/-- Reads the entries of a flow mapping up to its end. A key may stand alone. -/
def readFlowEntries : Nat → Bool → Reader (List (Node × Node))
  | 0, _ => throw .malformedDocument
  | fuel + 1, first => do
    if ← accept .flowMappingEnd then
      return []
    else
      unless first do expect .flowEntry
      if ← accept .key then
        let key ← readOptional fuel .flow [.value, .flowEntry, .flowMappingEnd]
        let value ← readValue fuel .flow [.flowEntry, .flowMappingEnd]
        return (key, value) :: (← readFlowEntries fuel false)
      else if ← accept .flowMappingEnd then
        return []
      else
        let key ← readNode fuel .flow
        return (key, absent) :: (← readFlowEntries fuel false)

end

/-! ## Documents -/

/-- Reads directives: whether a version was given, and what handles stand for. -/
def readDirectives : List Token → Bool → List (Text × Text) →
    Except Fault (List (Text × Text) × List Token)
  | .directive (.version major _) :: ts, versioned, handles =>
    if versioned || major ≠ 1 then .error .malformedDocument else readDirectives ts true handles
  | .directive (.handle name start) :: ts, versioned, handles =>
    if (handles.lookup name).isSome then .error .malformedDocument
    else readDirectives ts versioned (handles ++ [(name, start)])
  | .directive .other :: ts, versioned, handles => readDirectives ts versioned handles
  | ts, _, handles => .ok (handles, ts)

/-- Whether a document starts with a directive or a marker. -/
def isAnnounced : List Token → Bool
  | .directive _ :: _ => true
  | .documentStart :: _ => true
  | _ => false

/-- Whether a document that was announced is empty. -/
def isBare : List Token → Bool
  | [] => true
  | .documentEnd :: _ => true
  | ts => isAnnounced ts

/-- How much work the reading of tokens is. -/
def workFor (ts : List Token) : Nat := 4 * ts.length + 4

def readDocument : Reader Node := do
  let ts := (← get).tokens
  if isAnnounced ts then
    let (handles, rest) ← readDirectives ts false []
    modify fun s => { s with tokens := rest, handles := handles ++ standardHandles }
    expect .documentStart
    if isBare (← get).tokens then
      return absent
    else
      readNode (workFor ts) .entry
  else
    modify fun s => { s with handles := standardHandles }
    readNode (workFor ts) .entry

/-- Whether nothing but ends of documents is left. -/
def isOver (ts : List Token) : Bool :=
  (ts.dropWhile (· == .documentEnd)).isEmpty

/-- The node of the only document, if there is one. -/
def ofTokens (ts : List Token) : Except Fault (Option Node) :=
  if ts.isEmpty then
    .ok none
  else
    (do
      let n ← readDocument
      if isOver (← get).tokens then
        return some n
      else
        modify fun s => { s with tokens := s.tokens.dropWhile (· == .documentEnd) }
        unexpected : Reader (Option Node)).run' { tokens := ts }

end Node

end Stacktrace.Yaml
