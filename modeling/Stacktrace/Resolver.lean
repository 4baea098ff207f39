import Stacktrace.Run

/-!
# Position resolvers

A resolver answers two questions about generated code: which source position a generated position
comes from, and what the text of a source file is. It may log and it may fail, but equal questions
get equal answers; a `Session` may answer the same question differently later on.
`Resolver.askPosition` and `Resolver.askContents` put a question and leave a record of it in the
trace.

`PositionTables` is the resolver that hosts fill by hand: a history of registrations. A position is
answered by the registration for it, or else by the one for the greatest column that is not to the
right of it on its line, and of several registrations for the same place by the latest.
-/

namespace Stacktrace

/-- What a resolver says to one question. -/
structure Answer (α : Type) where
  events : List Event
  outcome : Except Fault α

structure Resolver where
  position : Text → Position → Answer (Option SourceLocation)
  contents : Text → Option Text → Answer (Option Text)

namespace Resolver

/-- Asks for the source position of a generated one. -/
def askPosition (r : Resolver) (file : Text) (p : Position) : Run (Option SourceLocation) :=
  let a := r.position file p
  ⟨[.position file p], a.events, a.outcome⟩

def askContents (r : Resolver) (fileUrl : Text) (relativeFile : Option Text) :
    Run (Option Text) :=
  let a := r.contents fileUrl relativeFile
  ⟨[.contents fileUrl relativeFile], a.events, a.outcome⟩

/-- A resolver that always fails, with its own words. -/
def failing (reason : Text) : Resolver where
  position _ _ := ⟨[], .error (.resolverFailed reason)⟩
  contents _ _ := ⟨[], .error (.resolverFailed reason)⟩

end Resolver

/-- A resolver whose answers may depend on the questions before: a host's own resolver may keep a
cache, count its calls or change its mind. -/
abbrev Session := List Query → Resolver

/-- One registered pair of a generated place and the source location it comes from, if any. -/
structure Registration where
  file : Text
  line : Int
  column : Int
  original : Option SourceLocation
deriving DecidableEq, Repr

/-- Registered positions and source texts, the latest first. -/
structure PositionTables where
  registrations : List Registration
  sources : List ((Text × Text) × Text)
deriving DecidableEq, Repr

namespace PositionTables

def empty : PositionTables := ⟨[], []⟩

def addMapping (t : PositionTables) (r : Registration) : PositionTables :=
  { t with registrations := r :: t.registrations }

def addSource (t : PositionTables) (fileUrl relativeFile contents : Text) : PositionTables :=
  { t with sources := ((fileUrl, relativeFile), contents) :: t.sources }

/-- The latest registration for exactly this place. -/
def at? (t : PositionTables) (file : Text) (line column : Int) : Option Registration :=
  t.registrations.find? fun r => r.file = file && r.line = line && r.column = column

/-- The columns registered on a line of a file, as far right as a given one. -/
def columnsUpTo (t : PositionTables) (file : Text) (line column : Int) : List Int :=
  (t.registrations.filter fun r => r.file = file && r.line = line && r.column ≤ column).map
    Registration.column

/-- Whether anything is registered for a file. -/
def knows (t : PositionTables) (file : Text) : Bool :=
  t.registrations.any fun r => r.file = file

/-- The place itself is looked up first. Where it has no original, the closest column that is not to
the right of it answers. -/
def position (t : PositionTables) (file : Text) (p : Position) :
    Answer (Option SourceLocation) :=
  if t.knows file then
    match (t.at? file p.line p.column).bind Registration.original with
    | some exact => ⟨[], .ok (some exact)⟩
    | none =>
      -- a place without an original may itself be the closest column, and then there is no answer
      match (t.columnsUpTo file p.line p.column).max? with
      | some column => ⟨[], .ok ((t.at? file p.line column).bind Registration.original)⟩
      | none => ⟨[.positionUnmapped file p.line p.column], .ok none⟩
  else
    ⟨[], .ok none⟩

def contents (t : PositionTables) (fileUrl : Text) (relativeFile : Option Text) :
    Answer (Option Text) :=
  ⟨[], .ok (relativeFile.bind fun relative => t.sources.lookup (fileUrl, relative))⟩

def resolver (t : PositionTables) : Resolver where
  position := t.position
  contents := t.contents

end PositionTables

end Stacktrace
