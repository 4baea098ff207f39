import Stacktrace.Frame.Reader
import Stacktrace.Resolver
import Stacktrace.Text.Path
import Stacktrace.Value.Written

/-!
# Source stacks

A stack with its frames mapped back to the sources. `SourceStack.buildIn` goes through the lines of
a stack: a line that is no frame stays as it is, a frame that the resolver knows gets its source
location, and other frames keep the location that the engine reported. `reconstruct` writes the
result in one uniform syntax.

A stack is built in a session, in which the resolver's answers may change from question to question;
`SourceStack.build` and `SourceStack.ofValue` do so with one resolver for all questions.

Resolvers count columns from zero and readers of a stack from one, so the column of a mapped frame
grows by one on the way; the column of an unmapped frame is left alone.
-/

namespace Stacktrace

open Text

/-- Names to show in place of the engine's names, for mapped frames. -/
abbrev Rewrites := List (Text × Text)

def Rewrites.apply (rewrites : Rewrites) (name : Text) : Text :=
  (rewrites.lookup name).getD name

/-- The evaluator that stands for running a test body. -/
def Rewrites.standard : Rewrites :=
  [("Context.eval".toList, "Test.run".toList)]

def unknownFile : Text := "<unknown>".toList

/-- Maps a frame to its source. A frame without a file or a line is not asked about. -/
def mapToSource (resolver : Resolver) (rewrites : Rewrites) (generated : FrameFields) :
    Run FrameFields :=
  match generated.file, generated.line with
  | some (c :: cs), some line => do
    let file := c :: cs
    -- an unknown column is asked about as column zero
    match ← resolver.askPosition file ⟨file, line, generated.column.getD 0⟩ with
    | none =>
      Run.log (.positionUnresolved file line generated.column)
      return generated
    | some source =>
      return {
        functionName := rewrites.apply generated.functionName
        file := source.file
        line := source.line
        column := source.column
        mapped := true }
  | _, _ => return generated

/-- The path of a source file under the project's root. -/
def absoluteFile (projectRoot : Text) : Option Text → Option Text
  | some (c :: cs) => some (Path.normalized (Path.joined projectRoot (c :: cs)))
  | _ => none

/-- The frame to display for a generated frame and what it was mapped to. -/
def displayFrame (projectRoot whitespace : Text) (generated source : FrameFields) : FrameLine :=
  { functionName := source.functionName
    fileUrl := generated.file
    relativeFile := source.file
    absoluteFile := absoluteFile projectRoot source.file
    line := source.line
    -- sources count columns from zero, displayed frames from one
    column := if source.mapped then source.column.map (· + 1) else source.column
    whitespace }

def readFrame (line : Text) : Run (Option FrameFields) := do
  match ← Run.lift (Frame.read line) with
  | .message => return none
  | .placeless dialect =>
    Run.log (.frameUnparseable dialect)
    return none
  | .frame fields => return some fields

/-- Reads one line of a stack and maps it to its source. -/
def sourceLine (resolver : Resolver) (projectRoot : Text) (rewrites : Rewrites) (line : Text) :
    Run ParsedLine := do
  let whitespace := indentation line
  match ← readFrame line with
  -- the whitespace is kept apart and put in front again when the line is rebuilt
  | none => return .message { message := trimStart line, whitespace }
  | some generated =>
    let source ← mapToSource resolver rewrites generated
    return .frame (displayFrame projectRoot whitespace generated source)

def ParsedLine.reconstruct : ParsedLine → Except Fault Text
  | .message m => .ok (m.whitespace ++ m.message)
  | .frame f => do
    let file := match f.relativeFile with
      | some (c :: cs) => c :: cs
      | _ => unknownFile
    let line ← writtenOption f.line
    let column ← writtenOption f.column
    return f.whitespace ++ ['a', 't', ' '] ++ f.functionName ++ [' ', '('] ++ file ++ ':' :: line ++
      ':' :: column ++ [')']

def reconstructLines : List ParsedLine → Except Fault (List Text)
  | [] => .ok []
  | l :: ls => do
    let t ← l.reconstruct
    let ts ← reconstructLines ls
    return t :: ts

def reconstruct (parsed : List ParsedLine) : Except Fault Text :=
  (reconstructLines parsed).map joinLines

structure SourceStack where
  parsed : List ParsedLine
  sourceMapped : Text
deriving DecidableEq, Repr

namespace SourceStack

def frames (s : SourceStack) : List FrameLine :=
  s.parsed.filterMap ParsedLine.frame?

/-- Reads lines one after the other. The first list holds what was asked so far. -/
def readLinesIn (session : Session) (projectRoot : Text) (rewrites : Rewrites) :
    List Query → List Text → Run (List ParsedLine)
  | _, [] => return []
  | asked, l :: ls => do
    let first := sourceLine (session asked) projectRoot rewrites l
    let p ← first
    -- the next line is read by the resolver as it is after this line's questions
    let ps ← readLinesIn session projectRoot rewrites (asked ++ first.queries) ls
    return p :: ps

def buildIn (session : Session) (projectRoot : Text) (rewrites : Rewrites) (stack : Text) :
    Run SourceStack := do
  let parsed ← readLinesIn session projectRoot rewrites [] (lines stack)
  let sourceMapped ← Run.lift (reconstruct parsed)
  return { parsed, sourceMapped }

/-- Builds the source stack of a value that should be a stack. Other values are passed over. -/
def ofValueIn (session : Session) (projectRoot : Text) (rewrites : Rewrites) :
    Value → Run (Option SourceStack)
  | .text stack => do return some (← buildIn session projectRoot rewrites stack)
  | other => do
    Run.log (.stackSkipped other.kindName)
    return none

/-! ## One resolver -/

def readLines (resolver : Resolver) (projectRoot : Text) (rewrites : Rewrites) :
    List Text → Run (List ParsedLine) :=
  readLinesIn (fun _ => resolver) projectRoot rewrites []

def build (resolver : Resolver) : Text → Rewrites → Text → Run SourceStack :=
  buildIn fun _ => resolver

def ofValue (resolver : Resolver) : Text → Rewrites → Value → Run (Option SourceStack) :=
  ofValueIn fun _ => resolver

/-- A resolver does not care what was asked before. -/
theorem readLinesIn_const (resolver : Resolver) (projectRoot : Text) (rewrites : Rewrites)
    (asked : List Query) (ls : List Text) :
    readLinesIn (fun _ => resolver) projectRoot rewrites asked ls
      = readLines resolver projectRoot rewrites ls := by
  unfold readLines
  -- What was asked is only handed on, so that two lists of it never come to matter.
  suffices h : ∀ asked', readLinesIn (fun _ => resolver) projectRoot rewrites asked ls
      = readLinesIn (fun _ => resolver) projectRoot rewrites asked' ls from h []
  induction ls generalizing asked with
  | nil => exact fun _ => rfl
  | cons l ls ih =>
    intro asked'
    let first := sourceLine resolver projectRoot rewrites l
    rw [readLinesIn, readLinesIn, ih (asked ++ first.queries) (asked' ++ first.queries)]

theorem readLines_nil (resolver : Resolver) (projectRoot : Text) (rewrites : Rewrites) :
    readLines resolver projectRoot rewrites [] = pure [] := rfl

theorem readLines_cons (resolver : Resolver) (projectRoot : Text) (rewrites : Rewrites) (l : Text)
    (ls : List Text) :
    readLines resolver projectRoot rewrites (l :: ls) = (do
      let p ← sourceLine resolver projectRoot rewrites l
      let ps ← readLines resolver projectRoot rewrites ls
      return p :: ps) := by
  show readLinesIn (fun _ => resolver) projectRoot rewrites [] (l :: ls) = _
  rw [readLinesIn, readLinesIn_const]

end SourceStack

end Stacktrace
