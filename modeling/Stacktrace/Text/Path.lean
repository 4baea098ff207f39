import Stacktrace.Text.Case

/-!
# Paths

Paths with slashes, taken as texts. `joined` puts a relative path behind a directory, `normalized`
resolves `.` and `..` without looking at any file, `tidied` removes only what never matters, and
`extension` is the part of the last component from its last dot on.

Exactly two leading slashes are kept apart from one; three or more count as one.
-/

namespace Stacktrace.Path

open Text

def components (path : Text) : List Text :=
  splitAtChar '/' path

/-- The leading slashes that matter. -/
def root : Text → Text
  | '/' :: '/' :: '/' :: _ => ['/']
  | '/' :: '/' :: _ => ['/', '/']
  | '/' :: _ => ['/']
  | _ => []

def joined (directory path : Text) : Text :=
  if path.head? = some '/' then path
  else if directory.isEmpty || directory.getLast? = some '/' then directory ++ path
  else directory ++ '/' :: path

def parent : Text := ['.', '.']

/-- Takes one component to a list of components, the last one first, from which no step up can be
taken any more. Above an absolute root there is nothing; above a relative start there may be. -/
def descend (absolute : Bool) (reversed : List Text) (component : Text) : List Text :=
  if component = [] || component = ['.'] then reversed
  else if component = parent then
    match reversed with
    | [] => if absolute then [] else [parent]
    | last :: rest => if last = parent then parent :: last :: rest else rest
  else component :: reversed

/-- The path without `.` components, empty components and the `..` that can be resolved. -/
def normalized (path : Text) : Text :=
  let start := root path
  let reversed := (components path).foldl (descend (!start.isEmpty)) []
  let result := start ++ joinWith ['/'] reversed.reverse
  if result.isEmpty then ['.'] else result

/-- The path without `.` components and empty components. Steps up stay. -/
def tidied (path : Text) : Text :=
  let kept := (components path).filter fun c => !(c = [] || c = ['.'])
  let result := root path ++ joinWith ['/'] kept
  if result.isEmpty then ['.'] else result

def fileName (path : Text) : Text :=
  (path.reverse.takeWhile (· != '/')).reverse

/-- The part of a file name from its last dot on. Dots that the name starts with do not count. -/
def extension (path : Text) : Text :=
  let stem := (fileName path).dropWhile (· == '.')
  if stem.contains '.' then '.' :: (stem.reverse.takeWhile (· != '.')).reverse else []

/-- The language that a file name suggests: its extension in lower case and without the dot. -/
def language : Option Text → Option Text
  | none => none
  | some path =>
    let name := replaceFirst ['.'] [] (lower (extension path))
    if name.isEmpty then none else some name

end Stacktrace.Path
