/-!
# Texts as lists of code points

Everything this library reads or writes is a `Text`, a list of code points. Positions count code
points, so a list is the exact view, and every reader below is a recursion on it.

Two families of operations live here:

* **lines** — `lines` cuts at every line feed and never returns the empty list; `joinLines` glues
  lines back together with line feeds in between.
* **search and replacement** — `occursIn`, `replaceAll`, `replaceFirst` look for a literal piece,
  always at the leftmost place that is still free.
-/

namespace Stacktrace

/-- A text is a list of code points. -/
abbrev Text := List Char

namespace Text

/-! ## Lines -/

/-- The lines of a text: cut at every line feed. A text without line feeds is its own only line. -/
def lines : Text → List Text
  | [] => [[]]
  | c :: s =>
    if c = '\n' then
      [] :: lines s
    else
      match lines s with
      | [] => [[c]]
      | l :: ls => (c :: l) :: ls

def joinLines : List Text → Text
  | [] => []
  | [l] => l
  | l :: ls => l ++ '\n' :: joinLines ls

def firstLine (s : Text) : Text :=
  s.takeWhile (· != '\n')

/-- Splits off one line feed at the very end: what stands before it, and the line feed if any. -/
def cutFinalNewline : Text → Text × Text
  | [] => ([], [])
  | ['\n'] => ([], ['\n'])
  | c :: s => let r := cutFinalNewline s; (c :: r.1, r.2)

def splitAtChar (sep : Char) : Text → List Text
  | [] => [[]]
  | c :: s =>
    if c = sep then
      [] :: splitAtChar sep s
    else
      match splitAtChar sep s with
      | [] => [[c]]
      | l :: ls => (c :: l) :: ls

/-! ## Search and replacement -/

/-- Whether `piece` stands somewhere in the text. The empty piece stands everywhere. -/
def occursIn (piece : Text) : Text → Bool
  | [] => piece.isEmpty
  | c :: s => piece.isPrefixOf (c :: s) || occursIn piece s

def endsWith (piece s : Text) : Bool :=
  piece.isSuffixOf s

def dropPrefix? : Text → Text → Option Text
  | [], s => some s
  | _ :: _, [] => none
  | p :: ps, c :: s => if p = c then dropPrefix? ps s else none

/--
Replacement of every occurrence of a non-empty piece, from the left and without overlaps. The
counter holds how many code points of the occurrence just replaced are still to be passed over.
-/
def replaceFrom (old new : Text) : Nat → Text → Text
  | _, [] => []
  | k + 1, _ :: s => replaceFrom old new k s
  | 0, c :: s =>
    if old.isPrefixOf (c :: s) then
      new ++ replaceFrom old new (old.length - 1) s
    else
      c :: replaceFrom old new 0 s

/-- Replaces every occurrence of the non-empty piece `old` by `new`. -/
def replaceAll (old new s : Text) : Text :=
  replaceFrom old new 0 s

/-- Replaces the leftmost occurrence of the non-empty piece `old` by `new`. -/
def replaceFirst (old new : Text) : Text → Text
  | [] => []
  | c :: s =>
    if old.isPrefixOf (c :: s) then
      new ++ (c :: s).drop old.length
    else
      c :: replaceFirst old new s

/--
Cuts a text at every occurrence of a non-empty separator, from the left and without overlaps.
-/
def splitFrom (sep : Text) : Nat → Text → List Text
  | _, [] => [[]]
  | k + 1, _ :: s => splitFrom sep k s
  | 0, c :: s =>
    if sep.isPrefixOf (c :: s) then
      [] :: splitFrom sep (sep.length - 1) s
    else
      match splitFrom sep 0 s with
      | [] => [[c]]
      | l :: ls => (c :: l) :: ls

/-- The pieces between the occurrences of a non-empty separator. -/
def splitOn (sep s : Text) : List Text :=
  splitFrom sep 0 s

/-- Writes pieces one after the other with a separator between neighbours. -/
def joinWith (sep : Text) : List Text → Text
  | [] => []
  | [p] => p
  | p :: ps => p ++ sep ++ joinWith sep ps

def padLeft (width : Nat) (s : Text) : Text :=
  List.replicate (width - s.length) ' ' ++ s

def padRight (width : Nat) (s : Text) : Text :=
  s ++ List.replicate (width - s.length) ' '

end Text

end Stacktrace
