import Stacktrace.Settings.Variables
import Stacktrace.Text.Blank
import Stacktrace.Text.Quoted

/-!
# Settings on a command line

A command line is a sequence of words. Each field has an option named for it, with a point between a
section and its field; a section has one too, whose text is JSON and may be left out for an empty
mapping. The text of an option is the next word, or what follows an equals sign in the same word. An
option that is given again replaces what was said before, except that entries of a mapping add up.

`CommandLine.toVariables` is what a command line says as variables. Words that belong to no option, and
options without their text, are out of place.
-/

namespace Stacktrace

open Text

/-- A command line and how it is to be read. -/
structure CommandLine where
  words : List Text
  /-- What the names of all options start with. -/
  lead : Text := []
  /-- The character that marks an option: twice in front of a name, or once if the name is a single
  character. -/
  mark : Char := '-'
  /-- Whether names are written with hyphens in place of underscores. -/
  hyphens : Bool := false
  /-- Whether sections have options of their own. -/
  sections : Bool := true
  /-- Whether options have to be written in their own case. -/
  caseMatters : Bool := false
  /-- The text that stands for no value. -/
  noneText : Text := "null".toList
  /-- Whether words that belong to no option are passed over. -/
  lenient : Bool := false
  /-- Whether a word out of place asks to stop. -/
  stops : Bool := true

/-- What the text of an option is like. -/
inductive OptionKind where
  | single
  | optional
  /-- Texts that add up. -/
  | repeated
deriving DecidableEq, Repr

/-- An option: how it is written, and the name of what it gives. -/
structure CommandOption where
  written : Text
  name : Text
  kind : OptionKind

/-- A word of a command line, in the part that it plays. -/
inductive Word where
  | plain (s : Text)
  /-- A name of an option with the text behind its equals sign, if any. -/
  | option (o : CommandOption) (explicit : Option Text)
  /-- A request for help, with a text that belongs elsewhere, if any. -/
  | help (explicit : Option Text)
  | unknown (s : Text)
  /-- The word that ends all options. -/
  | separator

/-- What an option gives: a text, or texts that add up. -/
inductive Given where
  | one (s : Text)
  | many (items : List Text)

namespace CommandLine

def names (c : CommandLine) : List (Text × OptionKind) :=
  (Field.root, .single) :: Field.sections.flatMap fun s =>
    (if c.sections then [(s, .optional)] else []) ++
      (Field.ofSection s).map fun f =>
        (s ++ '.' :: f, if Field.isMapping s f then .repeated else .single)

def write (c : CommandLine) (name : Text) : Text :=
  let shown := if c.hyphens then name.map fun ch => if ch = '_' then '-' else ch else name
  List.replicate (min 2 shown.length) c.mark ++ shown

def options (c : CommandLine) : List CommandOption :=
  c.names.map fun n => ⟨c.write (c.lead ++ n.1), c.lead ++ n.1, n.2⟩

/-! ## Words -/

/-- A word with the name of its option in the case in which options are compared. -/
def fold (c : CommandLine) (w : Text) : Text :=
  match w with
  | m :: d :: s =>
    if !c.caseMatters && m = c.mark && !isBlank d && d != '=' then
      let ends (ch : Char) : Bool := isBlank ch || ch = '='
      lower (m :: (d :: s).takeWhile (!ends ·)) ++
        ((d :: s).dropWhile (!ends ·)).takeWhile (· != '\n')
    else
      w
  | _ => w

def isNegative : Text → Bool
  | '-' :: s =>
    let whole := s.takeWhile Numeral.isDigit
    match s.dropWhile Numeral.isDigit with
    | [] => !whole.isEmpty
    | ['\n'] => !whole.isEmpty
    | '.' :: d => match d.dropWhile Numeral.isDigit with
      | [] => !d.isEmpty
      | ['\n'] => d != ['\n']
      | _ => false
    | _ => false
  | _ => false

/-- The name of an option in a word, and the text behind the first equals sign. -/
def cutEquals (w : Text) : Text × Option Text :=
  match w.dropWhile (· != '=') with
  | _ :: s => (w.takeWhile (· != '='), some s)
  | [] => (w, none)

def isHelp (c : CommandLine) (w : Text) : Bool :=
  w = [c.mark, 'h'] || w = c.mark :: c.mark :: "help".toList

/-- The part that a word plays. -/
def classify (c : CommandLine) (w : Text) : Word :=
  let find (s : Text) := c.options.find? fun o => o.written = s
  let (name, explicit) := cutEquals w
  if w = ['-', '-'] then .separator
  else if w.head? ≠ some c.mark || w.length = 1 then .plain w
  else if c.isHelp w then .help none
  else match find w, explicit with
    | some o, _ => .option o none
    | none, some s =>
      match find name with
      | some o => .option o (some s)
      | none => if c.isHelp name then .help (some s) else other w
    | none, none => other w
where
  /-- A word that is no option. -/
  other (w : Text) : Word :=
    match w with
    | m :: 'h' :: s =>
      if m = c.mark then .help (if s.head? = some m then some s else none) else .plain w
    | _ => if isNegative w || w.contains ' ' then .plain w else .unknown w

/-- The parts that words play. All that follows a separator is plain. -/
def parts (c : CommandLine) : List Text → List Word
  | [] => []
  | w :: ws =>
    match c.classify w with
    | .separator => .separator :: ws.map .plain
    | part => part :: c.parts ws

/-- Fails because of a word that is out of place. -/
def refuse (c : CommandLine) (reason : Text) : Fault :=
  if c.stops then .stopped else .source (.misplacedWord reason)

/-- Adds what an option gives. -/
def give (o : CommandOption) (s : Text) : List (Text × Given) → List (Text × Given)
  | [] => [(o.name, if o.kind = .repeated then .many [s] else .one s)]
  | (k, g) :: rest =>
    if k = o.name then
      match g with
      | .many items => (k, .many (items ++ [s])) :: rest
      | .one _ => (k, .one s) :: rest
    else
      (k, g) :: give o s rest

/-- The text of a section whose text is left out. -/
def emptyMapping : Text := ['\x7b', '\x7d']

/-- What options give, on top of what was given before, and the words that belong to none. -/
def gather (c : CommandLine) : List (Text × Given) → List Text → List Word →
    Except Fault (List (Text × Given) × List Text)
  | found, extra, [] => .ok (found, extra)
  | found, extra, .plain s :: rest => c.gather found (extra ++ [s]) rest
  | found, extra, .unknown s :: rest => c.gather found (extra ++ [s]) rest
  | found, extra, .separator :: rest => c.gather found (extra ++ [['-', '-']]) rest
  | _, _, .help none :: _ => .error .stopped
  | _, _, .help (some s) :: _ => .error <| c.refuse <|
      "argument ".toList ++ [c.mark, 'h', '/', c.mark, c.mark] ++
        "help: ignored explicit argument ".toList ++ Text.quoted s
  | found, extra, .option o (some s) :: rest => c.gather (give o s found) extra rest
  | found, extra, .option o none :: .plain s :: rest => c.gather (give o s found) extra rest
  | found, extra, .option o none :: rest =>
    if o.kind = .optional then
      c.gather (give o emptyMapping found) extra rest
    else
      .error <| c.refuse <|
        "argument ".toList ++ o.written ++ ": expected one argument".toList

/-! ## Entries -/

/-- Splits a bracketed text off the front, brackets in quotation marks apart. The count is that of
the brackets that are open, and the last character read is kept. -/
def cutBracketed? (closing : Char) : Int → Bool → Char → Text → Option (Text × Text)
  | _, _, _, [] => none
  | depth, inQuotes, last, ch :: s =>
    let go (depth : Int) (inQuotes : Bool) : Option (Text × Text) :=
      (cutBracketed? closing depth inQuotes ch s).map fun r => (ch :: r.1, r.2)
    if ch = '"' && last != '\\' then go depth (!inQuotes)
    else if inQuotes then go depth true
    else if ch = '\x7b' || ch = '[' then go (depth + 1) false
    else if ch = '\x7d' || ch = ']' then
      if ch = closing && depth = 1 then some ([ch], s) else go (depth - 1) false
    else go depth false

/-- Splits the text up to a comma off the front, commas in quotation marks apart. The third part
tells whether a quotation mark is left open. -/
def cutItem : Bool → Char → Text → Text × Text × Bool
  | inQuotes, _, [] => ([], [], inQuotes)
  | inQuotes, last, ch :: s =>
    let inside := if ch = '"' && last != '\\' then !inQuotes else inQuotes
    if !inside && ch = ',' then
      ([], ch :: s, inside)
    else
      let (item, rest, isOpen) := cutItem inside ch s
      (ch :: item, rest, isOpen)

def unquoted (s : Text) : Text :=
  ((s.dropWhile (· == '"')).reverse.dropWhile (· == '"')).reverse

def readPair (s : Text) : Except Text (Text × Text) :=
  match cutEquals s with
  | (_, none) => .error "not enough values to unpack (expected 2, got 1)".toList
  | (key, some value) =>
    if key.head? = some '"' && key.getLast? ≠ some '"' && value.head? ≠ some '"' &&
        value.getLast? = some '"' then
      .error ("Dictionary key=val parameter is a quoted string: ".toList ++ s)
    else
      .ok (unquoted key, unquoted value)

/-- Reads a JSON text as entries on top of those found before. -/
def readObject (s : Text) (es : List (Value × Value)) : Except Text (List (Value × Value)) :=
  match Json.read s with
  | some (.map news) => .ok (news.foldl (fun acc e => Value.putKey e.1 e.2 acc) es)
  | some (.list []) => .ok es
  | _ => .error "no entries".toList

/-- Reads entries from a text, on top of those found before: JSON objects, and keys and values with
an equals sign in between, with commas to separate them. The counter bounds how many there are. -/
def readItems : Nat → Text → List (Value × Value) → Except Text (List (Value × Value))
  | 0, _, es => .ok es
  | fuel + 1, s, es =>
    match trim s with
    | [] => .ok es
    | ch :: rest =>
      if ch = ',' then
        readItems fuel rest es
      else if ch = '\x7b' || ch = '[' then
        let closing := if ch = '\x7b' then '\x7d' else ']'
        match cutBracketed? closing 1 false ch rest with
        | none => .error ("Missing end delimiter \"".toList ++ [closing, '"'])
        | some (inner, rest) => do
          readItems fuel rest (← readObject (ch :: inner) es)
      else
        let (item, rest, isOpen) := cutItem false ' ' (ch :: rest)
        if isOpen then
          .error "Mismatched quotes".toList
        else do
          let (key, value) ← readPair (trim item)
          readItems fuel rest (Value.setEntry key (.text value) es)

/-- Reads entries from a text, which may stand in square brackets. -/
def readEntries (s : Text) (es : List (Value × Value)) : Except Text (List (Value × Value)) :=
  let inner := match trim s with
    | '[' :: r => if r.getLast? = some ']' then r.dropLast else '[' :: r
    | t => t
  readItems (inner.length + 1) inner es

def readAll : List Text → List (Value × Value) → Except Text (List (Value × Value))
  | [], es => .ok es
  | s :: rest, es => do readAll rest (← readEntries s es)

/-! ## Variables -/

def content (c : CommandLine) (name : Text) : Given → Except Fault Content
  | .one s => .ok (.ofText (some c.noneText) s)
  | .many items =>
    match readAll items [] with
    | .ok es => .ok (.decoded (.map es))
    | .error reason => .error (.source (.unreadableEntries name reason))

def contents (c : CommandLine) : List (Text × Given) → Except Fault Variables
  | [] => .ok []
  | (name, g) :: rest => do
    let said ← c.content name g
    return (name, said) :: (← c.contents rest)

def toVariables (c : CommandLine) : Except Fault Variables := do
  let (found, extra) ← c.gather [] [] (c.parts (c.words.map c.fold))
  if extra.isEmpty || c.lenient then
    c.contents found
  else
    .error <| c.refuse ("unrecognized arguments: ".toList ++ joinWith [' '] extra)

/-- How options are named for fields. -/
def naming (c : CommandLine) : Naming where
  lead := c.lead
  nesting := some { mark := ['.'] }
  caseMatters := c.caseMatters

def entries (c : CommandLine) : Except Fault (List (Value × Value)) := do
  c.naming.entries .commandLine (← c.toVariables)

end CommandLine

end Stacktrace
