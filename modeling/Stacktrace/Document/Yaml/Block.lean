import Stacktrace.Document.Yaml.Character

/-!
# Block scalars

`Block.read` takes a scalar that is written as an indented block, from behind its vertical bar or
angle bracket. Its header may say how the block ends and how deep it stands; else its first line that
is not blank shows the depth. A block lasts as long as its lines start at that depth.

* A literal block keeps its line ends.
* In a folded block the line end between two lines is worth a space, unless one of them starts with
  white space or blank lines stand between.
* The line end of the last line is kept, and those of the blank lines behind it are not, unless the
  header says to strip all of them or to keep all of them.
-/

namespace Stacktrace.Yaml.Block

/-- What happens to the line ends at the end of a block. -/
inductive Ending where
  | clip
  | strip
  | keep
deriving DecidableEq, Repr

/-- What a header says: how the block ends, and how much deeper it stands than what holds it. -/
structure Header where
  ending : Ending
  depth : Option Nat
deriving DecidableEq, Repr

/-- The ending that a sign stands for. -/
def ending? : Char → Option Ending
  | '+' => some .keep
  | '-' => some .strip
  | _ => none

def readEnding : Text → Ending × Text
  | [] => (.clip, [])
  | c :: s =>
    match ending? c with
    | some e => (e, s)
    | none => (.clip, c :: s)

/-- Reads the digit of a depth, if there is one. A block cannot stand at depth zero. -/
def readDepth : Text → Option (Option Nat × Text)
  | [] => some (none, [])
  | c :: s =>
    if c = '0' then none
    else if c.isDigit then some (some (c.toNat - '0'.toNat), s)
    else some (none, c :: s)

/-- Reads a header to the end of its line. -/
def readHeader (s : Text) : Option (Header × Text) := do
  let (ending, depth, rest) ← match s with
    | c :: r =>
      if (ending? c).isSome then
        let (ending, r) := readEnding (c :: r)
        let (depth, r) ← readDepth r
        pure (ending, depth, r)
      else
        let (depth, r) ← readDepth (c :: r)
        let (ending, r) := if depth.isSome then readEnding r else (.clip, r)
        pure (ending, depth, r)
    | [] => pure (.clip, none, [])
  if lineOrSpace rest then
    return (⟨ending, depth⟩, ← skipLine? rest)
  else
    none

/-! ## Blank lines -/

/-- Where a block goes on: the line ends passed over, the column reached, and the rest. -/
structure Margin where
  breaks : Text
  column : Nat
  rest : Text

def skipBlank (indent : Nat) : Nat → Text → Margin
  | column, [] => ⟨[], column, []⟩
  | _, '\r' :: '\n' :: s =>
    let m := skipBlank indent 0 s
    { m with breaks := '\n' :: m.breaks }
  | column, c :: s =>
    if c = ' ' && column < indent then
      skipBlank indent (column + 1) s
    else
      match breakWorth? c with
      | some b =>
        let m := skipBlank indent 0 s
        { m with breaks := b :: m.breaks }
      | none => ⟨[], column, c :: s⟩

/-- Passes over blank lines and over all spaces, and finds the greatest column that spaces reach. -/
def findDepth : Nat → Nat → Text → Nat × Margin
  | column, deepest, [] => (deepest, ⟨[], column, []⟩)
  | _, deepest, '\r' :: '\n' :: s =>
    let (d, m) := findDepth 0 deepest s
    (d, { m with breaks := '\n' :: m.breaks })
  | column, deepest, c :: s =>
    if c = ' ' then
      findDepth (column + 1) (max deepest (column + 1)) s
    else
      match breakWorth? c with
      | some b =>
        let (d, m) := findDepth 0 deepest s
        (d, { m with breaks := b :: m.breaks })
      | none => (deepest, ⟨[], column, c :: s⟩)

theorem length_skipBlank_le (indent column : Nat) (s : Text) :
    (skipBlank indent column s).rest.length ≤ s.length := by
  fun_induction skipBlank indent column s with
  | case1 => simp
  | case2 column s m ih =>
    have : m.rest.length ≤ s.length := ih
    simp only [List.length_cons]
    omega
  | case3 column c s _ _ ih => simp only [List.length_cons]; omega
  | case4 column c s _ _ b _ m ih =>
    have : m.rest.length ≤ s.length := ih
    simp only [List.length_cons]
    omega
  | case5 => simp

/-! ## Lines -/

/-- The lines of a block: their text, the line end of the last one, the line ends behind it, and what
follows the block. -/
structure Body where
  text : Text
  last : Text
  breaks : Text
  rest : Text

/-- What stands between two lines of a block, given the line end of the first, the blank lines
between, and whether one of them starts with white space. -/
def joint (folded : Bool) (last breaks : Text) (white : Bool) : Text :=
  if folded && last = ['\n'] && !white then
    if breaks.isEmpty then [' '] else []
  else
    last

def readBody (folded : Bool) (indent : Nat) (breaks : Text) (column : Nat) : Text → Body
  | [] => ⟨[], [], breaks, []⟩
  | c :: s =>
    if column = indent then
      let line := s.takeWhile fun d => !isBreak d
      let ended := cutBreak? (s.dropWhile fun d => !isBreak d)
      let last := (ended.map fun e => [e.1]).getD []
      let next := (ended.map Prod.snd).getD []
      let margin := skipBlank indent 0 next
      let here := breaks ++ c :: line
      match _hr : margin.rest with
      | [] => ⟨here, last, margin.breaks, []⟩
      | d :: r =>
        if margin.column = indent then
          let body := readBody folded indent margin.breaks margin.column (d :: r)
          let glue := joint folded last margin.breaks (isWhite c || isWhite d)
          { body with text := here ++ glue ++ body.text }
        else
          ⟨here, last, margin.breaks, d :: r⟩
    else
      ⟨[], [], breaks, c :: s⟩
termination_by s => s.length
decreasing_by
  have h1 := length_skipBlank_le indent 0 next
  have h2 : next.length ≤ s.length := by
    show ((ended.map Prod.snd).getD []).length ≤ s.length
    cases he : ended with
    | none => simp
    | some e =>
      have h3 := length_lt_of_cutBreak? (b := e.1) (r := e.2) he
      have h4 := List.IsSuffix.length_le (List.dropWhile_suffix (l := s) fun d => !isBreak d)
      simp only [Option.map_some, Option.getD_some]
      omega
  have h5 : (d :: r).length ≤ next.length := _hr ▸ h1
  simp only [List.length_cons] at h5 ⊢
  omega

/-- Reads a block scalar behind its first character, inside something that stands at a column, if
any: its text, and the rest. -/
def read (folded : Bool) (parent : Option Nat) (s : Text) : Option (Text × Text) := do
  let (header, s) ← readHeader s
  let least := match parent with
    | none => 1
    | some column => column + 1
  let (indent, margin) := match header.depth with
    | some depth => (least + depth - 1, skipBlank (least + depth - 1) 0 s)
    | none => let (deepest, margin) := findDepth 0 0 s; (max least deepest, margin)
  let body := readBody folded indent margin.breaks margin.column margin.rest
  let last := if header.ending = .strip then [] else body.last
  let others := if header.ending = .keep then body.breaks else []
  return (body.text ++ last ++ others, body.rest)

end Stacktrace.Yaml.Block
