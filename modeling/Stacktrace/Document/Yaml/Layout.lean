import Stacktrace.Document.Yaml.Block
import Stacktrace.Document.Yaml.Plain
import Stacktrace.Document.Yaml.Quoted
import Stacktrace.Document.Yaml.Token

/-!
# Layout

How indentation and line ends turn a YAML text into tokens. A `Layout` is the state at one place of
the text: where that is, the tokens so far, the columns of the open block collections, and what may
still turn out to be a key.

* A block collection is opened by its first entry, at the entry's column, and closed by the first
  token to the left of it.
* A key without a question mark is only known as one when its colon is met. Until then the token it
  would start at is kept as a `Candidate`, one for each flow collection around the place. A candidate
  is given up at the end of its line or after `keyReach` characters; if something had to be a key
  there, that is a fault.

`tokens` is the whole way from a text to its tokens.
-/

namespace Stacktrace.Yaml

/-! ## Places in a text -/

/-- A place in a text: what is left, and how many characters, lines and columns lie before it. -/
structure Cursor where
  rest : Text
  index : Nat := 0
  line : Nat := 0
  column : Nat := 0

namespace Cursor

/-- The place behind the next character. A byte order mark takes no column. -/
def next (c : Cursor) : Cursor :=
  match c.rest with
  | [] => c
  | d :: s =>
    if isBreak d && !(d = '\r' && s.head? = some '\n') then ⟨s, c.index + 1, c.line + 1, 0⟩
    else if d = '\ufeff' then ⟨s, c.index + 1, c.line, c.column⟩
    else ⟨s, c.index + 1, c.line, c.column + 1⟩

def skip : Nat → Cursor → Cursor
  | 0, c => c
  | n + 1, c => skip n c.next

def moveTo (rest : Text) (c : Cursor) : Cursor :=
  c.skip (c.rest.length - rest.length)

end Cursor

/-- Something that may turn out to be a key: the number of tokens before it, its place, and whether
nothing else can stand there. -/
structure Candidate where
  token : Nat
  index : Nat
  line : Nat
  column : Nat
  required : Bool
deriving DecidableEq, Repr

/-- The state at a place of the text. -/
structure Layout where
  cursor : Cursor
  tokens : List Token := []
  /-- The columns of the open block collections, the innermost first. -/
  columns : List Nat := []
  /-- The candidate in the innermost collection. -/
  candidate : Option Candidate := none
  /-- The candidates outside each open flow collection, the innermost first. -/
  outer : List (Option Candidate) := []
  /-- Whether a key may start here. -/
  keyAllowed : Bool := true

namespace Layout

def keyReach : Nat := 1024

def inFlow (l : Layout) : Bool :=
  !l.outer.isEmpty

def add (l : Layout) (t : Token) : Layout :=
  { l with tokens := l.tokens ++ [t] }

/-- Adds a token in front of others, given how many tokens come before it. -/
def insert (l : Layout) (n : Nat) (t : Token) : Layout :=
  { l with tokens := l.tokens.take n ++ t :: l.tokens.drop n }

def moveTo (l : Layout) (rest : Text) : Layout :=
  { l with cursor := l.cursor.moveTo rest }

def allowKey (l : Layout) (b : Bool) : Layout :=
  { l with keyAllowed := b }

/-! ## Candidates -/

/-- Whether a candidate can no longer be a key at a place. -/
def isStale (c : Cursor) (k : Candidate) : Bool :=
  k.line ≠ c.line || c.index - k.index > keyReach

def refresh (c : Cursor) : Option Candidate → Except Fault (Option Candidate)
  | none => .ok none
  | some k =>
    if isStale c k then
      if k.required then .error .malformedDocument else .ok none
    else
      .ok (some k)

def dropStale (l : Layout) : Except Fault Layout := do
  let candidate ← refresh l.cursor l.candidate
  let outer ← l.outer.mapM (refresh l.cursor)
  return { l with candidate, outer }

def dropCandidate (l : Layout) : Except Fault Layout :=
  match l.candidate with
  | none => .ok l
  | some k =>
    if k.required then .error .malformedDocument else .ok { l with candidate := none }

/-- Makes the next token a candidate, if a key may start here. -/
def saveCandidate (l : Layout) : Except Fault Layout :=
  if l.keyAllowed then do
    let l ← l.dropCandidate
    let c := l.cursor
    let required := !l.inFlow && l.columns.head? = some c.column
    return { l with candidate := some ⟨l.tokens.length, c.index, c.line, c.column, required⟩ }
  else
    .ok l

/-! ## Block collections -/

def closeWhile (l : Layout) (p : Nat → Bool) : Layout :=
  if l.inFlow then
    l
  else
    let closed := l.columns.takeWhile p
    { l with
      tokens := l.tokens ++ closed.map fun _ => .blockEnd
      columns := l.columns.dropWhile p }

def closeBlocks (l : Layout) (column : Nat) : Layout :=
  l.closeWhile fun c => column < c

def closeAll (l : Layout) : Layout :=
  l.closeWhile fun _ => true

/-- Whether a column is to the right of all open block collections. -/
def isDeeper (l : Layout) (column : Nat) : Bool :=
  l.columns.head?.all (· < column)

/-- Opens a block collection at a column in front of its first entry, given how many tokens come
before that. Nothing is opened in a flow collection, or if the collection is already there. -/
def openBlock (l : Layout) (column : Nat) (n : Nat) (t : Token) : Layout :=
  if !l.inFlow && l.isDeeper column then
    { l.insert n t with columns := column :: l.columns }
  else
    l

/-- Checks that an entry may start here. -/
def checkEntry (l : Layout) : Except Fault Unit :=
  if l.inFlow || l.keyAllowed then .ok () else .error .malformedDocument

/-! ## Tokens -/

def readDirective (l : Layout) (s : Text) : Except Fault Layout := do
  let l ← l.closeAll.dropCandidate
  let (directive, rest) ← Word.readDirective s
  return ((l.allowKey false).moveTo rest).add (.directive directive)

def readMarker (l : Layout) (t : Token) : Except Fault Layout := do
  let l ← l.closeAll.dropCandidate
  return ((l.allowKey false).moveTo (l.cursor.rest.drop 3)).add t

def openFlow (l : Layout) (t : Token) (s : Text) : Except Fault Layout := do
  let l ← l.saveCandidate
  let opened := { l with candidate := none, outer := l.candidate :: l.outer }
  return ((opened.allowKey true).moveTo s).add t

def closeFlow (l : Layout) (t : Token) (s : Text) : Except Fault Layout := do
  let l ← l.dropCandidate
  match l.outer with
  | [] => .error .malformedDocument
  | candidate :: outer =>
    return (({ l with candidate, outer }.allowKey false).moveTo s).add t

def readFlowEntry (l : Layout) (s : Text) : Except Fault Layout := do
  let l ← l.dropCandidate
  return ((l.allowKey true).moveTo s).add .flowEntry

def readBlockEntry (l : Layout) (s : Text) : Except Fault Layout := do
  l.checkEntry
  let l := l.openBlock l.cursor.column l.tokens.length .blockSequenceStart
  let l ← l.dropCandidate
  return ((l.allowKey true).moveTo s).add .blockEntry

def readKey (l : Layout) (s : Text) : Except Fault Layout := do
  l.checkEntry
  let l := l.openBlock l.cursor.column l.tokens.length .blockMappingStart
  let l ← l.dropCandidate
  return ((l.allowKey !l.inFlow).moveTo s).add .key

/-- The colon of a value. It turns the innermost candidate into a key. -/
def readValue (l : Layout) (s : Text) : Except Fault Layout :=
  match l.candidate with
  | some k =>
    let l := { l with candidate := none }.insert k.token .key
    let l := l.openBlock k.column k.token .blockMappingStart
    .ok (((l.allowKey false).moveTo s).add .value)
  | none => do
    l.checkEntry
    let l := l.openBlock l.cursor.column l.tokens.length .blockMappingStart
    return ((l.allowKey !l.inFlow).moveTo s).add .value

/-- Something that a key may start with: the token, and the rest. -/
def readStart (l : Layout) (read : Except Fault (Token × Text)) : Except Fault Layout := do
  let l ← l.saveCandidate
  let (token, rest) ← read
  return ((l.allowKey false).moveTo rest).add token

def orMalformed (f : α → Token) : Option (α × Text) → Except Fault (Token × Text)
  | some (a, rest) => .ok (f a, rest)
  | none => .error .malformedDocument

def readBlock (l : Layout) (folded : Bool) (s : Text) : Except Fault Layout := do
  let l ← (l.allowKey true).dropCandidate
  match Block.read folded l.columns.head? s with
  | some (text, rest) => return (l.moveTo rest).add (.scalar text false)
  | none => .error .malformedDocument

def readQuoted (l : Layout) (style : Quoted.Style) (s : Text) : Except Fault Layout :=
  l.readStart ((Quoted.read style s).map fun r => (.scalar r.1 false, r.2))

/-- A plain scalar. A key may follow it on a new line. -/
def readPlain (l : Layout) : Except Fault Layout := do
  let l ← l.saveCandidate
  let scalar := Plain.read l.inFlow l.columns.head? l.cursor.rest
  return ((l.allowKey scalar.crossed).moveTo scalar.rest).add (.scalar scalar.text true)

/-- Reads the token that starts with a character, given what follows it. -/
def readToken (l : Layout) (c : Char) (s : Text) : Except Fault Layout :=
  let atMargin := l.cursor.column = 0
  if atMargin && c = '%' then l.readDirective s
  else if atMargin && isMarker (c :: s) then
    l.readMarker (if c = '-' then .documentStart else .documentEnd)
  else if c = '[' then l.openFlow .flowSequenceStart s
  else if c = '\x7b' then l.openFlow .flowMappingStart s
  else if c = ']' then l.closeFlow .flowSequenceEnd s
  else if c = '\x7d' then l.closeFlow .flowMappingEnd s
  else if c = ',' then l.readFlowEntry s
  else if c = '-' && wordEnds s then l.readBlockEntry s
  else if c = '?' && (l.inFlow || wordEnds s) then l.readKey s
  else if c = ':' && (l.inFlow || wordEnds s) then l.readValue s
  else if c = '*' then l.readStart (orMalformed .alias (Word.readName s))
  else if c = '&' then l.readStart (orMalformed .anchor (Word.readName s))
  else if c = '!' then l.readStart (orMalformed .tag (Word.readTag s))
  else if c = '|' && !l.inFlow then l.readBlock false s
  else if c = '>' && !l.inFlow then l.readBlock true s
  else if c = '\'' then l.readQuoted .single s
  else if c = '"' then l.readQuoted .double s
  else if Plain.starts l.inFlow (c :: s) then l.readPlain
  else .error .malformedDocument

/-! ## Texts -/

/-- Passes over spaces, comments and line ends: the rest, and whether line ends were passed. -/
def skipGap (s : Text) : Text × Bool :=
  match _h : cutBreak? (skipComment s) with
  | some (_, r) => ((skipGap r).1, true)
  | none => (skipComment s, false)
termination_by s.length
decreasing_by
  exact Nat.lt_of_lt_of_le (length_lt_of_cutBreak? _h) (length_skipComment_le s)

/-- Goes to the start of the next token and closes what it closes. -/
def settle (l : Layout) : Except Fault Layout := do
  let (rest, crossed) := skipGap l.cursor.rest
  let l := l.moveTo rest
  let l := if crossed && !l.inFlow then l.allowKey true else l
  let l ← l.dropStale
  return l.closeBlocks l.cursor.column

/-- The tokens of the text up to a place, if it is the end. -/
def finish (l : Layout) : Except Fault (List Token) := do
  return (← l.closeAll.dropCandidate).tokens

/-- The tokens of the text from a place on. The first argument bounds their number; the length of the
text is enough. -/
def run : Nat → Layout → List Token
  | 0, l => (l.add (.broken .malformedDocument)).tokens
  | fuel + 1, l =>
    match l.settle with
    | .error f => (l.add (.broken f)).tokens
    | .ok next =>
      match next.cursor.rest with
      | [] =>
        match next.finish with
        | .error f => (l.add (.broken f)).tokens
        | .ok ts => ts
      | c :: s =>
        match next.readToken c s with
        | .error f => (l.add (.broken f)).tokens
        | .ok after => run fuel after

end Layout

/-- The tokens of a text. A byte order mark at its start is passed over. -/
def tokens (s : Text) : List Token :=
  let start : Cursor := ⟨s, 0, 0, 0⟩
  let cursor := if s.head? = some '\ufeff' then start.next else start
  Layout.run (s.length + 1) { cursor }

end Stacktrace.Yaml
