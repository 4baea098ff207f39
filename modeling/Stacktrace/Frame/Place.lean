import Stacktrace.Text.Numeral

/-!
# Places: `file:line:column`

`Place.read` splits the text of a location into a file and up to two numbers. Parentheses are
dropped first. The file is the *shortest* non-empty beginning whose remainder is nothing, one colon
numeral or two of them, so that `a:1:2:3` has the file `a:1`, and a column never comes without a
line. Numerals longer than `Fault.digitLimit` are a fault, the line's before the column's.
-/

namespace Stacktrace

open Text Numeral

/-- Where a frame says that it is. -/
structure Place where
  file : Option Text
  line : Option Nat
  column : Option Nat
deriving DecidableEq, Repr

namespace Place

def unknown : Place := ⟨none, none, none⟩

def colonNumeral? : Text → Option (Text × Text)
  | ':' :: s => cutDigits? s
  | _ => none

/-- Reads a whole text as nothing, one colon numeral or two. -/
def numerals? (s : Text) : Option (Option Text × Option Text) :=
  if s.isEmpty then
    some (none, none)
  else
    match colonNumeral? s with
    | none => none
    | some (first, rest) =>
      if rest.isEmpty then
        some (some first, none)
      else
        match colonNumeral? rest with
        | some (second, []) => some (some first, some second)
        | _ => none

/-- Splits a text at its shortest non-empty beginning that numerals, or nothing, follow. -/
def cut : Text → Text × Option Text × Option Text
  | [] => ([], none, none)
  | c :: s =>
    match numerals? s with
    | some (line, column) => ([c], line, column)
    | none => let r := cut s; (c :: r.1, r.2)

def dropParentheses (s : Text) : Text :=
  s.filter fun c => c != '(' && c != ')'

def readNumeral? : Option Text → Except Fault (Option Nat)
  | none => .ok none
  | some digits => (Numeral.read digits).map some

/-- Reads the text of a location. Without a colon all of it is the file; a line feed before the
very end makes it no location at all. -/
def read (s : Text) : Except Fault Place :=
  if !s.contains ':' then
    .ok ⟨if s.isEmpty then none else some s, none, none⟩
  else
    -- all parentheses go, those of the file too
    let body := (cutFinalNewline (dropParentheses s)).1
    if body.isEmpty || body.contains '\n' then
      .ok unknown
    else do
      let (file, line, column) := cut body
      let line ← readNumeral? line
      let column ← readNumeral? column
      return ⟨some file, line, column⟩

end Place

end Stacktrace
