import Stacktrace.Log.Template
import Stacktrace.Log.Toolkit
import Stacktrace.Text.Octets

/-!
# The standard toolkit

`Log.standard` is a toolkit that can be run. Context and call are put together by name, where the
call's values win; each stage is a function of its own. The JSON form is the entry itself, with what
JSON has no form for shown quoted; the console form is one line of text.

Times, call stacks and the texts of errors differ from run to run. A fixed text stands for each.
-/

namespace Stacktrace.Log

open Text

/-! ## The context -/

def overlay (context values : Attributes) : Attributes :=
  values.foldl (fun acc a => Attributes.set a.1 a.2 acc) context

def without (name : Text) (as : Attributes) : Attributes :=
  as.filter fun a => a.1 != name

def withoutAll (names : List Text) (as : Attributes) : Attributes :=
  names.foldl (fun acc n => without n acc) as

/-! ## Stages -/

def beginEntry (call : Call) : Except Fault Entry :=
  if call.values.any fun a => ownNames.contains a.1 then
    .error .unsuitableValue
  else
    let given := Entry.setAll call.values .empty
    let supplied := match call.arguments with
      | [] => given
      | arguments => given.set "positional_args".toList (.tuple arguments)
    .ok (supplied.set "event".toList (.text call.event))

/-- Takes an entry through stages until one of them drops it or faults. -/
def runStages : List Stage → Stage
  | [], _, e => .ok (some e)
  | stage :: stages, caller, e =>
    match stage caller e with
    | .ok (some next) => runStages stages caller next
    | .ok none => .ok none
    | .error fault => .error fault

def mergeContext (context : Attributes) : Stage := fun _ e =>
  .ok (some (context.foldl (fun e a => e.setMissing a.1 a.2) e))

def filterByLevel : Stage := fun caller e =>
  .ok (if caller.root.isEnabled caller.level then some e else none)

/-- The name that a record of another logging library has. -/
def recordName : Value → Option Value
  | .object fields | .raised _ _ fields => Attributes.get? "name".toList fields
  | _ => none

/-- Names the logger, or the record's where an entry stands for a record. -/
def addLoggerName : Stage := fun caller e =>
  match e.get? "_record".toList with
  | none | some .null => .ok (some (e.set "logger".toList (.text caller.logger)))
  | some record =>
    match recordName record with
    | some name => .ok (some (e.set "logger".toList name))
    | none => .error .unsuitableValue

def addLevel : Stage := fun caller e =>
  .ok (some (e.set "level".toList (.text (lower caller.level.name))))

/-- The event with arguments put in that a value hands over. -/
def fillEvent (event : Text) : Value → Except Fault Text
  | .tuple arguments => fillTemplate event arguments
  | .list [.map (e :: es)] => fillTemplate event [.map (e :: es)]
  | .list items => fillWith event (.named [] (some (.list items)))
  | .text s => fillWith event (.listed [.text s])
  | _ => .error .unsuitableValue

def fillArguments : Stage := fun _ e =>
  match e.get? "positional_args".toList with
  | none | some .null => .ok (some e)
  | some given =>
    if given.isTruthy then
      match e.get? "event".toList with
      | some (.text event) => do
        let filled ← fillEvent event given
        return some ((e.set "event".toList (.text filled)).without "positional_args".toList)
      | _ => .error .unsuitableValue
    else
      .ok (some (e.without "positional_args".toList))

/-- Stands for the time of an entry. -/
def timeStamp : Text := "<ts>".toList

def stampTime : Stage := fun _ e =>
  .ok (some (e.set "timestamp".toList (.text timeStamp)))

/-- Stands for the call stack of a log call. -/
def callStack : Text := "<stack>".toList

def showStack : Stage := fun _ e =>
  let rest := e.without "stack_info".toList
  let asked := (e.get? "stack_info".toList).any Value.isTruthy
  .ok (some (if asked then rest.set "stack".toList (.text callStack) else rest))

/-- Stands for the text of an error. -/
def errorText : Text := "<error>".toList

/-- Shows an error. Other values ask for the error that is being handled, and there is none. -/
def showError : Stage := fun _ e =>
  let rest := e.without "exc_info".toList
  .ok (some (match e.get? "exc_info".toList with
    | some (.raised ..) => rest.set "exception".toList (.text errorText)
    | _ => rest))

/-- Octets are read as text, but not those within another value. -/
def readable : Value → Value
  | .bytes octets => .text (ofOctets octets)
  | v => v

def decodeOctets : Stage := fun _ e =>
  .ok (some (e.mapValues readable))

/-! ## The JSON form -/

/-- A key of an object in JSON. Only texts, numbers, truth values and null can be keys. -/
def jsonKey : Value → Except Fault Text
  | .text s => .ok s
  | .null => .ok "null".toList
  | .bool b => .ok (if b then "true".toList else "false".toList)
  | .int i => Numeral.write i
  | .float x => .ok <| match Number.Binary64.decode x.toBits.toNat with
    | .nan => "NaN".toList
    | .infinite negative => (if negative then "-Infinity" else "Infinity").toList
    | _ => Number.ofFloat x
  | _ => .error .unsuitableValue

mutual

/-- What is left of a value in JSON. What JSON has no form for is shown quoted. -/
def inJson : Value → Except Fault Value
  | .null => .ok .null
  | .bool b => .ok (.bool b)
  | .int i => do
    let _ ← Numeral.write i
    return .int i
  | .float x => .ok (.float x)
  | .text s => .ok (.text s)
  | .list xs | .tuple xs => do return .list (← itemsInJson xs)
  | .map es => do return .map (← entriesInJson es)
  | v => do return .text (← v.quoted)

def itemsInJson : List Value → Except Fault (List Value)
  | [] => .ok []
  | v :: vs => do
    let j ← inJson v
    let js ← itemsInJson vs
    return j :: js

def entriesInJson : List (Value × Value) → Except Fault (List (Value × Value))
  | [] => .ok []
  | (k, v) :: es => do
    let key ← jsonKey k
    let j ← inJson v
    let js ← entriesInJson es
    return (.text key, j) :: js

end

def jsonEntry : Attributes → Except Fault Attributes
  | [] => .ok []
  | (name, v) :: as => do
    let j ← inJson v
    let js ← jsonEntry as
    return (name, j) :: js

/-! ## The console form -/

def levelWidth : Nat := 9

def eventWidth : Nat := 30

/-- The fields with a place of their own on the line. -/
def placedFields : List Text :=
  ["timestamp".toList, "level".toList, "event".toList, "logger".toList, "logger_name".toList,
    "stack".toList, "exception".toList]

/-- Whether a text has to be quoted to be told apart from its neighbours. -/
def needsQuotes (s : Text) : Bool :=
  s.any fun c => c = ' ' || c = '\t' || c = '=' || c = '\r' || c = '\n' || c = '"' || c = '\''

/-- The value of a field on the line. -/
def showValue : Value → Except Fault Text
  | .text s => .ok (if needsQuotes s then Text.quoted s else s)
  | v => v.quoted

/-- Whether one name comes before another, by code points. -/
def precedes : Text → Text → Bool
  | [], _ => true
  | _ :: _, [] => false
  | a :: as, b :: bs => if a = b then precedes as bs else a.toNat < b.toNat

/-- The fields that are written as name and value, sorted by name. -/
def listedFields (entry : Attributes) : Attributes :=
  (entry.filter fun a => !placedFields.contains a.1).mergeSort fun a b => precedes a.1 b.1

def showFields : Attributes → Except Fault (List Text)
  | [] => .ok []
  | (name, value) :: rest => do
    let t ← showValue value
    let ts ← showFields rest
    return (name ++ '=' :: t) :: ts

/-- The field of a name at its own place on the line, in front of all others. -/
def placed (entry : Attributes) (name : String) (f : Text → Text) : Except Fault (List Text) :=
  match Attributes.get? name.toList entry with
  | none => .ok []
  | some v => do return [f (← v.written)]

/-- A stack or an exception that was handed over. Only a text can be appended to the line. -/
def appended (entry : Attributes) (name : String) : Except Fault (List Text) :=
  match Attributes.get? name.toList entry with
  | none | some .null => .ok []
  | some (.text s) => .ok ['\n' :: s]
  | some _ => .error .unsuitableValue

/-- What follows the line: a stack and an exception, with a rule between them. -/
def appendix (entry : Attributes) : Except Fault Text := do
  let stack ← appended entry "stack"
  let error ← appended entry "exception"
  let rule := if stack.isEmpty || error.isEmpty then []
    else '\n' :: '\n' :: List.replicate 79 '=' ++ ['\n']
  return stack.flatten ++ rule ++ error.flatten

def consoleLine (entry : Attributes) : Except Fault Text := do
  let time ← placed entry "timestamp" id
  let level ← placed entry "level" fun l => '[' :: padRight levelWidth l ++ [']']
  let event ← placed entry "event" (padRight eventWidth)
  let logger ← placed entry "logger" fun l => '[' :: l ++ [']']
  let named ← placed entry "logger_name" fun l => '[' :: l ++ [']']
  let fields ← showFields (listedFields entry)
  let parts := time ++ level ++ event ++ logger ++ named ++ fields
  let line := joinWith [' '] parts
  let line := (line.reverse.dropWhile (· == ' ')).reverse
  return line ++ (← appendix entry) ++ ['\n']

/-! ## The toolkit -/

/-- The line that a call prints while nothing is configured. It has no service and no logger. -/
def printedLine (context : Attributes) (call : Call) : Except Fault Text := do
  let event ← fillTemplate call.event call.arguments
  let begun ← beginEntry { call with event, arguments := [] }
  let stages := [mergeContext context, addLevel, showStack, showError, stampTime]
  match ← runStages stages { logger := call.logger, level := call.level, root := {} } begun with
  | some e => consoleLine e.fields
  | none => return []

def standard : Toolkit where
  bind := overlay
  unbind context names := withoutAll names context
  clear _ := []
  begin := beginEntry
  run := runStages
  mergeContext := mergeContext
  filterByLevel := filterByLevel
  addLoggerName := addLoggerName
  addLevel := addLevel
  fillArguments := fillArguments
  stampTime := stampTime
  showStack := showStack
  showError := showError
  decodeOctets := decodeOctets
  decoded := readable
  inJson e := jsonEntry e.fields
  toJson := inJson
  onConsole e := consoleLine e.fields
  printed := printedLine

end Stacktrace.Log
