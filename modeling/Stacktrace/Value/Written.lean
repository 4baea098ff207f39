import Stacktrace.Number.Notation
import Stacktrace.Text.Quoted
import Stacktrace.Value.Basic

/-!
# The text of a value

Two forms. `Value.quoted` shows a value as part of a larger one: texts in quotation marks, sequences
in brackets, mappings in braces, records by their fields. `Value.written` is the form for a message:
a text stands for itself, a raised error for its message, and all else is shown quoted.

Writing fails on an integer with more digits than are ever written.
-/

namespace Stacktrace

open Text Numeral

def commaSeparated (items : List Text) : Text :=
  joinWith [',', ' '] items

def quotedOption : Option Text → Text
  | none => "None".toList
  | some s => Text.quoted s

/-- An optional number. -/
def writtenOption : Option Int → Except Fault Text
  | none => .ok "None".toList
  | some i => Numeral.write i

def writtenBool (b : Bool) : Text :=
  (if b then "True" else "False").toList

/-- A record by its name and fields. -/
def writtenRecord (name : String) (fields : List (String × Text)) : Text :=
  name.toList ++ '(' :: commaSeparated (fields.map fun f => f.1.toList ++ '=' :: f.2) ++ [')']

def Position.written (p : Position) : Except Fault Text := do
  return writtenRecord "SourcePosition" [("file", Text.quoted p.file),
    ("line", ← Numeral.write p.line), ("column", ← Numeral.write p.column)]

def FrameFields.written (f : FrameFields) : Except Fault Text := do
  return writtenRecord "FrameFields" [("function_name", Text.quoted f.functionName),
    ("file", quotedOption f.file), ("line", ← writtenOption f.line),
    ("column", ← writtenOption f.column), ("mapped", writtenBool f.mapped)]

def ParsedLine.written : ParsedLine → Except Fault Text
  | .message m => .ok <| writtenRecord "MessageLine"
      [("message", Text.quoted m.message), ("whitespace", Text.quoted m.whitespace)]
  | .frame f => do
    return writtenRecord "FrameLine" [("function_name", Text.quoted f.functionName),
      ("file_url", quotedOption f.fileUrl), ("relative_file", quotedOption f.relativeFile),
      ("absolute_file", quotedOption f.absoluteFile), ("line", ← writtenOption f.line),
      ("column", ← writtenOption f.column), ("whitespace", Text.quoted f.whitespace)]

def CodeFrame.written (c : CodeFrame) : Except Fault Text := do
  return writtenRecord "CodeFrame" [("line", ← Numeral.write c.line),
    ("column", ← writtenOption c.column), ("relative_file", quotedOption c.relativeFile),
    ("absolute_file", quotedOption c.absoluteFile), ("frame", Text.quoted c.frame),
    ("language", quotedOption c.language)]

def writtenBytes (octets : List UInt8) : Text :=
  let chars := octets.map fun o => Char.ofNat o.toNat
  let mark := quotationMark chars
  let one (c : Char) : Text :=
    if c.toNat < 0x7f then quoteChar mark c else '\\' :: 'x' :: hexDigits 2 c.toNat
  'b' :: mark :: chars.flatMap one ++ [mark]

/-- A distance in time. -/
def writtenDistance (seconds : Int) : Text :=
  let days := seconds.fdiv 86400
  let rest := seconds.fmod 86400
  let parts := (if days = 0 then [] else [("days", ofInt days)]) ++
    (if rest = 0 then [] else [("seconds", ofInt rest)])
  if parts.isEmpty then "datetime.timedelta(0)".toList
  else writtenRecord "datetime.timedelta" parts

/-- A calendar day or a moment. -/
def Moment.written (m : Moment) : Text :=
  let day := [ofNat m.year, ofNat m.month, ofNat m.day]
  match m.time with
  | none => "datetime.date(".toList ++ commaSeparated day ++ [')']
  | some t =>
    let clock := [ofNat t.hour, ofNat t.minute] ++
      (if t.second = 0 && t.microsecond = 0 then [] else [ofNat t.second]) ++
      (if t.microsecond = 0 then [] else [ofNat t.microsecond])
    let zone := match t.offset with
      | none => []
      | some 0 => ["tzinfo=datetime.timezone.utc".toList]
      | some s => ["tzinfo=datetime.timezone(".toList ++ writtenDistance s ++ [')']]
    "datetime.datetime(".toList ++ commaSeparated (day ++ clock ++ zone) ++ [')']

namespace Value

/-- Items of a fixed sequence, in parentheses; a single item keeps its comma. -/
def parenthesised : List Text → Text
  | [item] => '(' :: item ++ [',', ')']
  | items => '(' :: commaSeparated items ++ [')']

mutual

/-- A value as part of a larger one. -/
def quoted : Value → Except Fault Text
  | .null => .ok "None".toList
  | .bool b => .ok (writtenBool b)
  | .int i => Numeral.write i
  | .float x => .ok (Number.ofFloat x)
  | .text s => .ok (Text.quoted s)
  | .bytes b => .ok (writtenBytes b)
  | .moment m => .ok m.written
  | .list xs => do return '[' :: commaSeparated (← quotedAll xs) ++ [']']
  | .tuple xs => do return parenthesised (← quotedAll xs)
  | .set [] => .ok "set()".toList
  | .set (x :: xs) => do return '\x7b' :: commaSeparated (← quotedAll (x :: xs)) ++ ['\x7d']
  | .map es => do return '\x7b' :: commaSeparated (← quotedEntries es) ++ ['\x7d']
  | .frozenMap es => do
    return "mappingproxy(\x7b".toList ++ commaSeparated (← quotedEntries es) ++ ['\x7d', ')']
  | .object as => do
    return "namespace(".toList ++ commaSeparated (← quotedAttributes as) ++ [')']
  | .sealed => .ok "Sealed()".toList
  | .raised kind args _ => do return kind ++ '(' :: commaSeparated (← quotedAll args) ++ [')']
  | .fields f => f.written
  | .line l => l.written
  | .codeFrame c => c.written
  | .position p => p.written

def quotedAll : List Value → Except Fault (List Text)
  | [] => .ok []
  | v :: vs => do
    let t ← quoted v
    let ts ← quotedAll vs
    return t :: ts

/-- Entries with a colon between key and value. -/
def quotedEntries : List (Value × Value) → Except Fault (List Text)
  | [] => .ok []
  | (k, v) :: es => do
    let key ← quoted k
    let value ← quoted v
    let ts ← quotedEntries es
    return (key ++ ':' :: ' ' :: value) :: ts

/-- Attributes with an equals sign between name and value. -/
def quotedAttributes : List (Text × Value) → Except Fault (List Text)
  | [] => .ok []
  | (k, v) :: as => do
    let value ← quoted v
    let ts ← quotedAttributes as
    return (k ++ '=' :: value) :: ts

end

/-- Whether a raised error of this kind shows its only argument quoted. Only this one kind does; kinds
that a host derives from it may show anything. -/
def quotesArgument (kind : Text) : Bool :=
  kind == "KeyError".toList

mutual

/-- A value as a message. -/
def written : Value → Except Fault Text
  | .text s => .ok s
  | .frozenMap es => do return '\x7b' :: commaSeparated (← quotedEntries es) ++ ['\x7d']
  | .raised kind args _ => writtenRaised kind args
  | v => quoted v

/-- The message of a raised error: nothing without arguments, the only argument, or all of them. This is
how errors are shown that leave it to their arguments. Errors of the operating system, of syntax and of
text encodings, groups of errors, and kinds with a text of their own that a host defines are not meant:
they put their text together from other things. -/
def writtenRaised (kind : Text) : List Value → Except Fault Text
  | [] => .ok []
  | [a] => if quotesArgument kind then quoted a else written a
  | a :: b :: rest => do return parenthesised (← quotedAll (a :: b :: rest))

end

end Value

end Stacktrace
