import Stacktrace.Frame.Basic
import Stacktrace.Value.Basic

/-!
# Log events and resolver queries

What a run of the library leaves behind besides its result. An `Event` is a log entry before it is
filtered and written: every event of the library is a debug entry with a name and a few fields. A
`Query` is a question that was put to the position resolver.
-/

namespace Stacktrace

/-- The log entries of the library. -/
inductive Event where
  | frameUnparseable (dialect : Dialect)
  | positionUnresolved (file : Text) (line : Int) (column : Option Int)
  | positionUnmapped (generatedFile : Text) (line column : Int)
  | stackBuilt (errorName : Text) (frames : Nat) (hasCodeFrame : Bool)
  | stackSkipped (stackKind : Text)
  | codeFrameUnavailable (file : Option Text) (reason : Text)
  | contentsUnavailable (fileUrl : Text) (relativeFile : Option Text)
  | stackNormalized (errorName : Text)
  | replaceSkipped (errorName : Text)
  | writeBackSkipped (hostKind : Text)
  | configLoaded

/-- A question to the position resolver. -/
inductive Query where
  | position (generatedFile : Text) (place : Position)
  | contents (fileUrl : Text) (relativeFile : Option Text)
deriving DecidableEq, Repr

/-- The name of a dialect in log entries. -/
def Dialect.name : Dialect → Text
  | .chromium => "chromium".toList
  | .firefox => "firefox".toList

namespace Event

def optionalText : Option Text → Value
  | none => .null
  | some s => .text s

def optionalInt : Option Int → Value
  | none => .null
  | some i => .int i

def name : Event → String
  | frameUnparseable _ => "frame_unparseable"
  | positionUnresolved _ _ _ => "source_position_unresolved"
  | positionUnmapped _ _ _ => "source_position_unmapped"
  | stackBuilt _ _ _ => "source_stack_built"
  | stackSkipped _ => "source_stack_skipped"
  | codeFrameUnavailable _ _ => "code_frame_unavailable"
  | contentsUnavailable _ _ => "code_frame_unavailable"
  | stackNormalized _ => "stack_normalized"
  | replaceSkipped _ => "stack_replace_skipped"
  | writeBackSkipped _ => "stack_writeback_skipped"
  | configLoaded => "config_loaded"

def fields : Event → List (String × Value)
  | frameUnparseable d => [("dialect", .text d.name)]
  | positionUnresolved file line column =>
    [("file", .text file), ("line", .int line), ("column", optionalInt column)]
  | positionUnmapped file line column =>
    [("generated_file", .text file), ("line", .int line), ("column", .int column)]
  | stackBuilt name frames hasCodeFrame =>
    [("error_name", .text name), ("frames", .int frames), ("has_code_frame", .bool hasCodeFrame)]
  | stackSkipped kind => [("stack_type", .text kind)]
  | codeFrameUnavailable file reason =>
    [("file", optionalText file), ("reason", .text reason)]
  | contentsUnavailable fileUrl relativeFile =>
    [("file_url", .text fileUrl), ("relative_file", optionalText relativeFile),
      ("reason", .text "no source contents".toList)]
  | stackNormalized name => [("error_name", .text name)]
  | replaceSkipped name => [("error_name", .text name)]
  | writeBackSkipped kind => [("error_type", .text kind)]
  | configLoaded => []

end Event

end Stacktrace
