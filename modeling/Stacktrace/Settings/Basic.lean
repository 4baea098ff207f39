import Stacktrace.Error.CodeFrame
import Stacktrace.Error.Stack
import Stacktrace.Stack.SourceStack

/-!
# Settings

What a mapper can be told: the project's root, how much context a code frame shows, how stacks are
read and rewritten, and what is logged in which form.
-/

namespace Stacktrace

inductive Level where
  | debug
  | info
  | warning
  | error
  | critical
deriving DecidableEq, Repr

inductive LogFormat where
  | json
  | console
deriving DecidableEq, Repr

namespace Level

def all : List Level := [.debug, .info, .warning, .error, .critical]

def name : Level → Text
  | .debug => "DEBUG".toList
  | .info => "INFO".toList
  | .warning => "WARNING".toList
  | .error => "ERROR".toList
  | .critical => "CRITICAL".toList

/-- The number by which severities are compared. -/
def number : Level → Nat
  | .debug => 10
  | .info => 20
  | .warning => 30
  | .error => 40
  | .critical => 50

def ofName? (s : Text) : Option Level :=
  all.find? fun l => l.name = s

end Level

namespace LogFormat

def all : List LogFormat := [.json, .console]

def name : LogFormat → Text
  | .json => "json".toList
  | .console => "console".toList

def ofName? (s : Text) : Option LogFormat :=
  all.find? fun f => f.name = s

end LogFormat

structure StackSettings where
  internalOrigin : Text := standardInternalOrigin
  specFrameMarker : Text := standardFrameMarker
  functionNameRewrites : Rewrites := Rewrites.standard
deriving DecidableEq, Repr

structure LogSettings where
  level : Level := .warning
  format : LogFormat := .console
deriving DecidableEq, Repr

structure Settings where
  projectRoot : Text := ['.']
  codeFrame : ContextLines := {}
  stack : StackSettings := {}
  logging : LogSettings := {}
deriving DecidableEq, Repr

end Stacktrace
