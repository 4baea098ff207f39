import Stacktrace.Fault

/-!
# Placeholders for environment variables

A placeholder is `${NAME}`: a dollar sign, an opening brace, one or more characters other than a
closing brace, and a closing brace. `pieces` cuts a text into placeholders and other characters in
one pass from the left; `substitute` puts the variables' values in, taken literally. The first
placeholder whose variable is not set is a fault. `${}` and a placeholder that is never closed stay
as they are.
-/

namespace Stacktrace

/-- The variables of a process, in order. -/
abbrev Environment := List (Text × Text)

namespace Placeholder

inductive Piece where
  | literal (c : Char)
  | variable (name : Text)
deriving DecidableEq, Repr

/-- The name in a placeholder, if one starts behind this dollar sign. -/
def name? : Text → Option Text
  | '\x7b' :: s =>
    let name := s.takeWhile (· != '\x7d')
    -- a placeholder has a name and is closed; anything else is text
    if name.isEmpty || !s.contains '\x7d' then none else some name
  | _ => none

/-- Cuts a text into pieces. The counter holds how many characters of the placeholder just found are
still to be passed over. -/
def piecesFrom : Nat → Text → List Piece
  | _, [] => []
  | k + 1, _ :: s => piecesFrom k s
  | 0, c :: s =>
    match if c = '$' then name? s else none with
    | some name => .variable name :: piecesFrom (name.length + 2) s
    | none => .literal c :: piecesFrom 0 s

def pieces (s : Text) : List Piece :=
  piecesFrom 0 s

/-- The text of one piece in an environment. -/
def Piece.value (environment : Environment) : Piece → Except Fault Text
  | .literal c => .ok [c]
  | .variable name =>
    match environment.lookup name with
    | some value => .ok value
    | none => .error (.missingVariable name)

def join (environment : Environment) : List Piece → Except Fault Text
  | [] => .ok []
  | p :: ps => do
    let t ← p.value environment
    let ts ← join environment ps
    return t ++ ts

/-- Replaces every placeholder by the value of its variable. -/
def substitute (environment : Environment) (s : Text) : Except Fault Text :=
  join environment (pieces s)

end Placeholder

end Stacktrace
