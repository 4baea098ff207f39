import Stacktrace.Document.Yaml.Character

/-!
# Plain scalars

`Plain.read` takes a scalar without quotation marks: words with single spaces, more spaces or folded
line ends between them. A colon with a blank behind it, a comment, and inside a flow collection also
its punctuation end the scalar; so does a line that does not stand deep enough.

Main statement: a word and what follows it are together the text (`cutWord_append`).
-/

namespace Stacktrace.Yaml.Plain

def isFlowMark (c : Char) : Bool :=
  c = ',' || c = '[' || c = ']' || c = '\x7b' || c = '\x7d'

def starts (inFlow : Bool) : Text → Bool
  | [] => false
  | c :: s =>
    !(isGap c || isFlowMark c || ['-', '?', ':', '#', '&', '*', '!', '|', '>', '\'', '"', '%', '@',
        '\x60'].contains c) ||
      (!wordEnds s && (c = '-' || (!inFlow && (c = '?' || c = ':'))))

def stops (inFlow : Bool) : Text → Bool
  | [] => true
  | c :: s =>
    isGap c || (c = ':' && atEndOr (fun d => isGap d || (inFlow && isFlowMark d)) s) ||
      (inFlow && (c = '?' || isFlowMark c))

def cutWord (inFlow : Bool) : Text → Text × Text
  | [] => ([], [])
  | c :: s =>
    if stops inFlow (c :: s) then ([], c :: s)
    else let r := cutWord inFlow s; (c :: r.1, r.2)

/-- A word and what follows it are the text. -/
theorem cutWord_append (inFlow : Bool) (s : Text) :
    (cutWord inFlow s).1 ++ (cutWord inFlow s).2 = s := by
  fun_induction cutWord inFlow s with
  | case1 => rfl
  | case2 => rfl
  | case3 c s _ r ih => simpa using ih

/-- What stands behind a word: what it is worth before another word, the column that it reaches if it
crosses a line end, and the rest. It is worth nothing if the scalar ends there. -/
structure Gap where
  text : Text
  column : Option Nat
  rest : Text

/-- Where a scalar may go on behind line ends: the line ends, or none if a document marker was met, the
column reached, and the rest. -/
structure Crossing where
  breaks : Option Text
  column : Nat
  rest : Text

/-- The same with one more line end in front. -/
def Crossing.after (b : Char) (x : Crossing) : Crossing :=
  { x with breaks := x.breaks.map (b :: ·) }

/-- Passes over spaces and line ends behind a first line end, up to a document marker. -/
def skipLines : Nat → Text → Crossing
  | column, [] => ⟨some [], column, []⟩
  | _, '\r' :: '\n' :: s =>
    if isMarker s then ⟨none, 0, s⟩ else (skipLines 0 s).after '\n'
  | column, c :: s =>
    if c = ' ' then
      skipLines (column + 1) s
    else
      match breakWorth? c with
      | some b => if isMarker s then ⟨none, 0, s⟩ else (skipLines 0 s).after b
      | none => ⟨some [], column, c :: s⟩

theorem length_skipLines_le (column : Nat) (s : Text) :
    (skipLines column s).rest.length ≤ s.length := by
  fun_induction skipLines column s with
  | case1 => simp
  | case2 => simp +arith
  | case3 column s _ ih => simp only [Crossing.after, List.length_cons]; omega
  | case4 column s _ ih => simp only [List.length_cons]; omega
  | case5 => simp +arith
  | case6 column c s _ b _ _ ih => simp only [Crossing.after, List.length_cons]; omega
  | case7 => simp

def readGap (s : Text) : Gap :=
  let white := s.takeWhile (· == ' ')
  let line := s.dropWhile (· == ' ')
  match cutBreak? line with
  | none => ⟨white, none, line⟩
  | some (b, r) =>
    if isMarker r then
      ⟨[], some 0, r⟩
    else
      let crossing := skipLines 0 r
      ⟨(crossing.breaks.map (fold b)).getD [], some crossing.column, crossing.rest⟩

theorem length_readGap_le (s : Text) : (readGap s).rest.length ≤ s.length := by
  have h := List.IsSuffix.length_le (List.dropWhile_suffix (l := s) (· == ' '))
  unfold readGap
  simp only
  split
  · exact h
  · rename_i b r hb
    have h1 := length_lt_of_cutBreak? hb
    have h2 := length_skipLines_le 0 r
    split <;> (simp only; omega)

/-- A scalar that was read: its text, whether line ends stand behind it, and the rest. -/
structure Reading where
  text : Text
  crossed : Bool
  rest : Text

/-- Reads words, given what stands before the first one, and whether that crosses a line end. Words
must not stand left of a column, unless they are in a flow collection. -/
def readWords (inFlow : Bool) (indent : Nat) (lead : Text) (crossed : Bool) (s : Text) : Reading :=
  match _hw : cutWord inFlow s with
  | ([], _) => ⟨[], crossed, s⟩
  | (c :: word, r) =>
    let gap := readGap r
    let here := lead ++ c :: word
    if gap.text.isEmpty || gap.rest.head? = some '#' ||
        (!inFlow && gap.column.any (· < indent)) then
      ⟨here, gap.column.isSome, gap.rest⟩
    else
      let more := readWords inFlow indent gap.text gap.column.isSome gap.rest
      { more with text := here ++ more.text }
termination_by s.length
decreasing_by
  have h1 := length_readGap_le r
  have h2 := congrArg List.length (cutWord_append inFlow s)
  rw [_hw] at h2
  simp only [List.length_append, List.length_cons] at h2
  omega

/-- Reads a scalar inside something that stands at a column, if any. -/
def read (inFlow : Bool) (parent : Option Nat) (s : Text) : Reading :=
  readWords inFlow ((parent.map (· + 1)).getD 0) [] false s

end Stacktrace.Yaml.Plain
