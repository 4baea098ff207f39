import Stacktrace.Text.Basic

/-!
# Characters of YAML texts

The character classes that the readers of YAML share, and the two shapes that end a line of text: a
line break, which `cutBreak?` takes off the front, and a document marker, three hyphens or three dots
alone at the start of a line.

Main statement: `cutBreak?` leaves a shorter text, so readers that go from line to line end.
-/

namespace Stacktrace.Yaml

def isBreak (c : Char) : Bool :=
  c = '\n' || c = '\r' || c = '\x85' || c = '\u2028' || c = '\u2029'

def isWhite (c : Char) : Bool :=
  c = ' ' || c = '\t'

def isGap (c : Char) : Bool :=
  isWhite c || isBreak c

/-- Whether the text is at its end or a character of the class comes next. -/
def atEndOr (p : Char → Bool) : Text → Bool
  | [] => true
  | c :: _ => p c

def wordEnds (s : Text) : Bool :=
  atEndOr isGap s

/-- Whether a word ends here and no tab follows. -/
def lineOrSpace (s : Text) : Bool :=
  atEndOr (fun c => c = ' ' || isBreak c) s

def lineEnds (s : Text) : Bool :=
  atEndOr isBreak s

def isNameChar (c : Char) : Bool :=
  c.isAlphanum || c = '-' || c = '_'

/-- Whether a document may hold the character. -/
def isAllowed (c : Char) : Bool :=
  let n := c.toNat
  n = 0x9 || n = 0xa || n = 0xd || (0x20 ≤ n && n ≤ 0x7e) || n = 0x85 ||
    (0xa0 ≤ n && n ≤ 0xfffd) || 0x10000 ≤ n

/-- What a line break is worth: itself for the two separators of Unicode, else a line feed. -/
def breakWorth? (c : Char) : Option Char :=
  if c = '\u2028' || c = '\u2029' then some c
  else if isBreak c then some '\n'
  else none

/-- Takes a line break off the front: what it is worth, and the rest. A carriage return with a line
feed is one break. -/
def cutBreak? : Text → Option (Char × Text)
  | '\r' :: '\n' :: s => some ('\n', s)
  | c :: s => (breakWorth? c).map fun b => (b, s)
  | [] => none

/-- Behind a line break the text is shorter. -/
theorem length_lt_of_cutBreak? {s r : Text} {b : Char} (h : cutBreak? s = some (b, r)) :
    r.length < s.length := by
  unfold cutBreak? at h
  split at h
  · cases h
    simp +arith
  · obtain ⟨_, _, he⟩ := Option.map_eq_some_iff.1 h
    cases he
    simp
  · cases h

/-- What line ends inside a scalar are worth: one is worth a space, and of several the first is
dropped. The first one stays if it is a separator of Unicode. -/
def fold (first : Char) (others : Text) : Text :=
  if first ≠ '\n' then first :: others
  else if others.isEmpty then [' ']
  else others

/-- Whether a document marker stands here: three hyphens or three dots, and a word's end. -/
def isMarker : Text → Bool
  | '-' :: '-' :: '-' :: s => wordEnds s
  | '.' :: '.' :: '.' :: s => wordEnds s
  | _ => false

/-- The text behind its leading spaces, and behind a comment if one follows. -/
def skipComment (s : Text) : Text :=
  match s.dropWhile (· == ' ') with
  | '#' :: r => r.dropWhile fun c => !isBreak c
  | r => r

theorem length_skipComment_le (s : Text) : (skipComment s).length ≤ s.length := by
  have h := List.IsSuffix.length_le (List.dropWhile_suffix (l := s) (· == ' '))
  unfold skipComment
  split
  · rename_i r he
    have h' := List.IsSuffix.length_le (List.dropWhile_suffix (l := r) fun c => !isBreak c)
    rw [he] at h
    simp only [List.length_cons] at h
    omega
  · exact h

/-- The rest of a line that holds nothing but a comment, with its line break. -/
def skipLine? (s : Text) : Option Text :=
  let r := skipComment s
  match cutBreak? r with
  | some (_, rest) => some rest
  | none => if r.isEmpty then some [] else none

end Stacktrace.Yaml
