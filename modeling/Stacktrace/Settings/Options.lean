import Stacktrace.Settings.Arguments
import Stacktrace.Value.Written

/-!
# Options on where settings come from

Given values may hold, beside fields, options that tell how settings are gathered: how variables are
named, whether a command line is read, whether sections start from their defaults. Their names start
with an underscore. `Options.split` takes them out of the given values; the functions below it say
what they mean. An option without a value is as good as none, and an option that cannot mean anything
is a fault.
-/

namespace Stacktrace

open Text

structure Options where
  given : List (Value × Value) := []

namespace Options

def names : List Text :=
  ["_case_sensitive", "_nested_model_default_partial_update", "_env_prefix", "_env_prefix_target",
    "_env_file", "_env_file_encoding", "_env_ignore_empty", "_env_nested_delimiter",
    "_env_nested_max_split", "_env_parse_none_str", "_env_parse_enums", "_cli_prog_name",
    "_cli_parse_args", "_cli_settings_source", "_cli_parse_none_str", "_cli_hide_none_type",
    "_cli_avoid_json", "_cli_enforce_required", "_cli_use_class_docs_for_groups",
    "_cli_exit_on_error", "_cli_prefix", "_cli_flag_prefix_char", "_cli_implicit_flags",
    "_cli_ignore_unknown_args", "_cli_kebab_case", "_cli_shortcuts", "_secrets_dir"].map
    String.toList

def isOption : Value × Value → Bool
  | (.text k, _) => names.contains k
  | _ => false

/-- Takes the options out of given values. -/
def split (given : List (Value × Value)) : Options × List (Value × Value) :=
  let (options, fields) := given.partition isOption
  (⟨options⟩, fields)

def get (o : Options) (name : String) : Value :=
  (Value.entry? name.toList o.given).getD .null

/-- Whether an option is on. Without a value it is as it is by default. -/
def isOn (o : Options) (name : String) (default : Bool) : Bool :=
  match o.get name with
  | .null => default
  | v => v.isTruthy

/-! ## Names of variables -/

/-- What the names of variables start with where nothing else is said. -/
def standardLead : Text := "STACK_MAPPER_".toList

/-- What stands between a section and its field where nothing else is said. -/
def standardMark : Text := ['_', '_']

def lead (o : Options) : Except Fault (Option Text) :=
  match o.get "_env_prefix" with
  | .null => .ok (some standardLead)
  | .text s => .ok (some s)
  | .bytes _ | .list _ | .tuple _ | .set _ | .map _ | .frozenMap _ => .ok none
  | _ => .error .unsuitableValue

/-- The largest count of cuts. -/
def mostCuts : Int := Nat.pow 2 63

/-- How many cuts a limit on pieces allows, and why names cannot be cut, if they cannot. -/
def cutsFor : Value → Except Fault (Option Nat × Option Fault)
  | .int i =>
    if i > mostCuts || i ≤ -mostCuts then .ok (none, some .numberOutOfRange)
    else if 0 < i then .ok (some (i - 1).toNat, none)
    else .ok (none, none)
  | .bool true => .ok (some 0, none)
  | v =>
    if !v.isTruthy then .ok (none, none)
    else match v with
      | .float _ => .ok (none, some .unsuitableValue)
      | _ => .error .unsuitableValue

/-- How names of variables lead into sections. A mark that is no text still marks names, but they
cannot be cut at it. -/
def nesting (o : Options) : Except Fault (Option Nesting) := do
  let (cuts, fault) ← cutsFor (o.get "_env_nested_max_split")
  match o.get "_env_nested_delimiter" with
  | .null => return some { mark := standardMark, cuts, fault }
  | .text [] => return none
  | .text mark => return some { mark, cuts, fault }
  | v =>
    if v.isTruthy then return some { mark := ← v.written, fault := some .unsuitableValue }
    else return none

/-- Whether names have to be written in their own case. -/
def caseMatters (o : Options) : Bool :=
  o.isOn "_case_sensitive" false

def text? (o : Options) (name : String) : Option Text :=
  match o.get name with
  | .text s => some s
  | _ => none

def toVariables (o : Options) (environment : Environment) : Variables :=
  let kept := if o.isOn "_env_ignore_empty" false then environment.filter (!·.2.isEmpty)
    else environment
  kept.map fun v => (v.1, Content.ofText (o.text? "_env_parse_none_str") v.2)

/-! ## Files -/

def allTexts (items : List Value) : Bool :=
  items.all fun
    | .text _ => true
    | _ => false

/-- Checks that an option names a file, or files. There are none to be read. -/
def checkFiles (o : Options) (name : String) : Except Fault Unit :=
  match o.get name with
  | .null | .text _ | .bytes [] => .ok ()
  | v =>
    match v, v.elements? with
    | .bytes _, _ | _, none => .error .unsuitableValue
    | _, some items => if allTexts items then .ok () else .error .unsuitableValue

/-! ## Command line -/

/-- Whether a text can be a name: ASCII letters, underscores and digits, and all beyond ASCII. -/
def isName : Text → Bool
  | [] => false
  | c :: s =>
    let starts (c : Char) : Bool := c.isAlpha || c = '_' || c.toNat ≥ 128
    starts c && s.all fun c => starts c || c.isDigit

/-- What the names of all options on a command line start with. -/
def commandLead (o : Options) : Except Fault Text :=
  match o.get "_cli_prefix" with
  | .null | .text [] => .ok []
  | .text s =>
    if s.head? = some '.' || s.getLast? = some '.' || !isName (s.filter (· != '.')) then
      .error (.source (.unsuitableLead s))
    else
      .ok (s ++ ['.'])
  | _ => .error .unsuitableValue

/-- Whether a value says that no command line is to be read. -/
def isOff : Value → Bool
  | .bool b => !b
  | .int i => i == 0
  | .float x => x == 0.0
  | _ => false

/-- The name of a kind of values with the module that it belongs to. -/
def fullKindName (v : Value) : Text :=
  match v with
  | .moment _ => "datetime.".toList ++ v.kindName
  | v => v.kindName

def words : Value → Except Fault (List Text)
  | .bool true => .ok []
  | .list items | .tuple items =>
    if allTexts items then
      .ok (items.filterMap fun
        | .text s => some s
        | _ => none)
    else
      .error .unsuitableValue
  | v => .error (.source (.notWords (fullKindName v)))

def commandLine (o : Options) : Except Fault (Option CommandLine) :=
  match o.get "_cli_parse_args" with
  | .null => .ok none
  | v => do
    let lead ← o.commandLead
    if isOff v then
      return none
    else
      let sections := !o.isOn "_cli_avoid_json" false
      let noneText := match o.text? "_cli_parse_none_str" with
        | some (c :: s) => c :: s
        | _ => (if sections then "null" else "None").toList
      return some {
        words := ← words v, lead, sections, noneText
        mark := ((o.text? "_cli_flag_prefix_char").bind List.head?).getD '-'
        hyphens := o.isOn "_cli_kebab_case" false
        caseMatters := o.caseMatters
        lenient := o.isOn "_cli_ignore_unknown_args" false
        stops := o.isOn "_cli_exit_on_error" true }

/-! ## Defaults -/

/-- Whether sections start from their defaults. -/
def fromDefaults (o : Options) : Bool :=
  o.isOn "_nested_model_default_partial_update" false

end Options

end Stacktrace
