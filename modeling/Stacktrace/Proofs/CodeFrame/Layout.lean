import Stacktrace.Proofs.CodeFrame.LineEndings
import Stacktrace.Proofs.CodeFrame.Marker

/-!
# The layout of a code frame

A code frame is read by its columns: numbers stand flush right in front of a bar, the code behind
it, and a caret under the character that is meant. Around a line of the source,

* `lines_render_of_hasLines` — the rows are those of the numbered lines in the window, each with its
  own text, and the caret follows its line;
* `getElem?_bar_of_mem` — every row has its bar at the same offset, whatever the numbers are;
* `render_layout` — so much for the whole frame;
* `pointsAt_caretRow`, `render_caret` — the caret stands under its column, behind the tabs of the
  line.
-/

namespace Stacktrace.CodeFrame

open Text Numeral

variable {source text : Text} {texts : List Text} {line above below : Int} {column : Option Int}
  {width number : Nat} {row : Text}

/-! ## The rows of the source lines -/

/-- The row of a source line: the mark, the number flush right in its column, a bar, and the code. -/
def sourceRow (width : Nat) (marked : Bool) (number : Nat) (text : Text) : Text :=
  (if marked then '>' else ' ') :: ' ' :: (padLeft width (ofNat number) ++ ' ' :: '|' ::
    if text = [] then [] else ' ' :: text)

/-- The row with the caret, if a column is to be marked. -/
def caretRows (width number : Nat) (text : Text) : Option Int → List Text
  | none => []
  | some column => if column = 0 then [] else [caretRow width number text column]

/-- The row of a line, and the caret under it if the frame is about this line. -/
def lineRows (width : Nat) (line : Int) (column : Option Int) (t : Text × Nat) : List Text :=
  sourceRow width (t.2 = line) t.2 t.1 ::
    if t.2 = line then caretRows width t.2 t.1 column else []

/-- The numbered source lines around a line. -/
def shown (texts : List Text) (line above below : Int) : List (Text × Nat) :=
  (texts.zipIdx 1).filter fun t =>
    max 1 (line - above) ≤ t.2 ∧ t.2 ≤ min (texts.length : Int) (line + below)

/-- The number of digits of the last line that is shown. -/
def numberWidth (texts : List Text) (line below : Int) : Nat :=
  (ofNat (min (texts.length : Int) (line + below)).toNat).length

/-- A row is its mark, its gutter and its code. -/
theorem sourceRow_eq (width : Nat) (marked : Bool) (number : Nat) (text : Text) :
    sourceRow width marked number text
      = (if marked then '>' else ' ') :: (gutter width number ++ code text) := by
  cases text <;> simp [sourceRow, gutter, code]

/-- The rows that are rendered for a line are the row of the line and its carets. -/
theorem rows_eq_lineRows (width : Nat) (line : Int) (column : Option Int) (number : Nat)
    (text : Text) :
    rows width line column number text = lineRows width line column (text, number) := by
  unfold lineRows
  by_cases h : (number : Int) = line
  · rw [rows, if_neg (by simpa using h), if_pos h, sourceRow_eq, if_pos (by simpa using h)]
    cases column with
    | none => rfl
    | some column =>
      dsimp only [caretRows]
      split <;> rfl
  · rw [rows_of_ne h, if_neg h, sourceRow_eq, if_neg (by simpa using h)]
    rfl

/-- The line itself has a marked row, and a caret below if a column is marked. -/
theorem lineRows_self (width : Nat) (text : Text) {column : Int} (hcolumn : column ≠ 0)
    (h : (number : Int) = line) :
    lineRows width line (some column) (text, number)
      = [sourceRow width true number text, caretRow width number text column] := by
  unfold lineRows
  dsimp only [caretRows]
  rw [if_pos h, if_neg hcolumn, decide_eq_true h]

/-- The rows of numbered lines are those of each line, one after the other. -/
theorem allRows_eq_flatMap (width : Nat) (line : Int) (column : Option Int) (first : Nat)
    (texts : List Text) :
    allRows width line column first texts
      = (texts.zipIdx first).flatMap (lineRows width line column) := by
  induction texts generalizing first with
  | nil => rfl
  | cons t ts ih =>
    rw [allRows, ih, rows_eq_lineRows, List.zipIdx_cons, List.flatMap_cons]

/-- The line itself is among the lines around it. -/
theorem mem_shown (htext : textAt 1 texts line = some text) (ha : 0 ≤ above) (hb : 0 ≤ below) :
    (text, line.toNat) ∈ shown texts line above below := by
  obtain ⟨hfirst, hlast⟩ := textAt_isSome_iff.mp ⟨text, htext⟩
  have hnumber : (text, line.toNat) ∈ texts.zipIdx 1 := by
    have hindex : line.toNat - 1 = (line - (1 : Nat)).toNat := by omega
    rw [textAt, if_pos (by omega)] at htext
    rw [List.mk_mem_zipIdx_iff_le_and_getElem?_sub, hindex]
    exact ⟨by omega, htext⟩
  -- the clamped window still holds the marked line, since both sides of it are at least 0
  have hbounds : max 1 (line - above) ≤ (line.toNat : Int) ∧
      (line.toNat : Int) ≤ min (texts.length : Int) (line + below) := by
    omega
  exact List.mem_filter.mpr ⟨hnumber, decide_eq_true hbounds⟩

/-- The lines with small numbers are the first ones. -/
theorem filter_zipIdx_lt (texts : List Text) (first count : Nat) :
    (texts.zipIdx first).filter (fun t => t.2 < first + count)
      = (texts.take count).zipIdx first := by
  -- by induction on how many lines there are to take
  induction count generalizing texts first with
  | zero =>
    rw [List.take_zero, List.zipIdx_nil, List.filter_eq_nil_iff]
    intro t ht
    have hle := List.le_snd_of_mem_zipIdx ht
    rw [decide_eq_true_eq]
    omega
  | succ count ih =>
    cases texts with
    | nil => rfl
    | cons t ts =>
      have hnext : first + (count + 1) = first + 1 + count := by omega
      rw [List.zipIdx_cons, List.filter_cons_of_pos (by simp), hnext, ih, List.take_succ_cons,
        List.zipIdx_cons]

/-- The lines with large numbers are the last ones. -/
theorem filter_zipIdx_le (texts : List Text) (first count : Nat) :
    (texts.zipIdx first).filter (fun t => first + count ≤ t.2)
      = (texts.drop count).zipIdx (first + count) := by
  induction count generalizing texts first with
  | zero =>
    rw [List.drop_zero, Nat.add_zero, List.filter_eq_self]
    intro t ht
    rw [decide_eq_true_eq]
    exact List.le_snd_of_mem_zipIdx ht
  | succ count ih =>
    cases texts with
    | nil => rfl
    | cons t ts =>
      -- dropping one more line shifts the first number by one
      have hnext : first + (count + 1) = first + 1 + count := by omega
      rw [List.zipIdx_cons, List.filter_cons_of_neg (by simp), hnext, ih, List.drop_succ_cons]

/-- The numbered lines between two bounds are those that a window cuts out. -/
theorem filter_zipIdx (texts : List Text) (start stop : Nat) :
    (texts.zipIdx 1).filter (fun t => start < t.2 ∧ t.2 ≤ stop)
      = ((texts.take stop).drop start).zipIdx (1 + start) := by
  rw [← filter_zipIdx_le, ← filter_zipIdx_lt, List.filter_filter]
  apply List.filter_congr
  intro t _
  rw [← Bool.decide_and, decide_eq_decide]
  omega

/-- The rows of the window are those of the lines that are shown. -/
theorem windowRows_eq_flatMap (hlines : HasLines source texts) (hfirst : 1 ≤ line)
    (hlast : line ≤ texts.length) (column : Option Int) (hb : 0 ≤ below) :
    windowRows source line column above below
      = (shown texts line above below).flatMap
          (lineRows (numberWidth texts line below) line column) := by
  have hstart : (window texts.length line above below).start = (line - (above + 1)).toNat := rfl
  have hstop : (window texts.length line above below).stop
      = (min (texts.length : Int) (line + below)).toNat := rfl
  -- the window counts from zero and leaves its end out; the bounds count from one and leave nothing
  -- out
  have hshown : shown texts line above below = (texts.zipIdx 1).filter fun t =>
      (window texts.length line above below).start < t.2 ∧
        t.2 ≤ (window texts.length line above below).stop := by
    apply List.filter_congr
    intro t ht
    have hle := List.le_snd_of_mem_zipIdx ht
    rw [decide_eq_decide]
    omega
  rw [hshown, filter_zipIdx, Nat.add_comm 1, ← allRows_eq_flatMap, windowRows,
    hlines.sourceLines_eq]
  rfl

/-- **The rows of a code frame** around a line of the source. -/
theorem lines_render_of_hasLines (hlines : HasLines source texts) (hfirst : 1 ≤ line)
    (hlast : line ≤ texts.length) (column : Option Int) (ha : 0 ≤ above) (hb : 0 ≤ below) :
    ∃ rendered, render source line column above below = .ok rendered ∧
      lines rendered = (shown texts line above below).flatMap
        (lineRows (numberWidth texts line below) line column) := by
  have hwindow : max (line - (above + 1)) 0
      < min ((sourceLines source).length : Int) (line + below) := by
    -- a line of the source lies in its own window
    rw [hlines.sourceLines_eq]
    omega
  obtain ⟨rendered, hrender⟩ : ∃ t, render source line column above below = .ok t :=
    exists_render_iff.mpr hwindow
  refine ⟨rendered, hrender, ?_⟩
  rw [lines_render hrender, windowRows_eq_flatMap hlines hfirst hlast column hb]

/-! ## The bar -/

/-- A text that fits is padded to the full width. -/
theorem length_padLeft {s : Text} (h : s.length ≤ width) : (padLeft width s).length = width := by
  rw [padLeft, List.length_append, List.length_replicate]
  omega

/-- The numbers that are shown fit into the column of the last one. -/
theorem length_ofNat_le_numberWidth {t : Text × Nat} (h : t ∈ shown texts line above below) :
    (ofNat t.2).length ≤ numberWidth texts line below := by
  obtain ⟨-, hbounds⟩ := List.mem_filter.mp h
  rw [decide_eq_true_eq] at hbounds
  have hpos : 0 < numberWidth texts line below :=
    List.length_pos_iff.mpr (isRun_ofNat _).ne_nil
  -- no number that is shown exceeds the last one, so it needs no more digits
  have hlast : (min (texts.length : Int) (line + below)).toNat
      < Nat.pow 10 (numberWidth texts line below) :=
    (length_ofNat_le_iff hpos).mp (Nat.le_refl _)
  rw [length_ofNat_le_iff hpos]
  omega

/-- A row is a front of fixed length, the bar, and the code. -/
theorem exists_sourceRow_eq (h : (ofNat number).length ≤ width) (marked : Bool) (text : Text) :
    ∃ front, sourceRow width marked number text = front ++ '|' :: code text ∧
      front.length = width + 3 := by
  refine ⟨(if marked then '>' else ' ') :: ' ' :: (padLeft width (ofNat number) ++ [' ']), ?_, ?_⟩
  · simp [sourceRow_eq, gutter]
  · simp [length_padLeft h]

/-- The number column is blank where its digits are blanked out. -/
theorem map_padLeft_ofNat (h : (ofNat number).length ≤ width) :
    (padLeft width (ofNat number)).map (fun c => if '0' ≤ c && c ≤ '9' then ' ' else c)
      = List.replicate width ' ' := by
  rw [List.eq_replicate_iff, List.length_map, length_padLeft h]
  refine ⟨rfl, fun c hc => ?_⟩
  obtain ⟨d, hd, rfl⟩ := List.mem_map.mp hc
  -- the padding is blank already and the numeral is ASCII digits, all of them blanked
  rcases List.mem_append.mp hd with hd | hd
  · rw [List.eq_of_mem_replicate hd]
    rfl
  · have hdigit := ascii_of_mem_ofNat hd
    rw [if_pos]
    simpa [Char.isDigit, Char.le_def] using hdigit

/-- In front of the bar the caret row is blank. -/
theorem caretRow_eq (h : (ofNat number).length ≤ width) (text : Text) (column : Int) :
    caretRow width number text column
      = List.replicate (width + 3) ' ' ++ '|' :: ' ' :: (caretSpacing text column ++ ['^']) := by
  -- the digits of the number are blanked out, and the bar stays
  have hgutter : blankGutter width number = ' ' :: (List.replicate width ' ' ++ [' ', '|']) := by
    rw [blankGutter, gutter, List.map_append, List.map_cons, map_padLeft_ofNat h]
    rfl
  have hblank : List.replicate (width + 3) ' ' = ' ' :: ' ' :: (List.replicate width ' ' ++ [' ']) := by
    rw [← List.replicate_succ', ← List.replicate_succ, ← List.replicate_succ]
  rw [caretRow, hgutter, hblank]
  simp

/-- Behind a front of known length stands the bar. -/
theorem getElem?_bar {front rest : Text} (h : front.length = width + 3) :
    (front ++ '|' :: rest)[width + 3]? = some '|' := by
  rw [List.getElem?_append_right (by omega), h, Nat.sub_self]
  rfl

/-- What stands behind the bar is found from there. -/
theorem getElem?_behind_bar {front rest : Text} {bar : Nat} (h : front.length = bar) (k : Nat) :
    (front ++ '|' :: rest)[bar + k + 1]? = rest[k]? := by
  have hindex : bar + k + 1 - front.length = k + 1 := by omega
  rw [List.getElem?_append_right (by omega), hindex, List.getElem?_cons_succ]

/-- **All bars stand in one column.** -/
theorem getElem?_bar_of_mem_lineRows {t : Text × Nat} (h : (ofNat t.2).length ≤ width)
    (hrow : row ∈ lineRows width line column t) : row[width + 3]? = some '|' := by
  rcases List.mem_cons.mp hrow with rfl | hrow
  · obtain ⟨front, heq, hfront⟩ := exists_sourceRow_eq h (t.2 = line) t.1
    rw [heq, getElem?_bar hfront]
  · -- a row that is not the source row is a caret row, whichever test lets it through
    obtain ⟨c, rfl⟩ : ∃ c, row = caretRow width t.2 t.1 c := by
      split at hrow
      · cases column with
        | none => cases hrow
        | some c =>
          dsimp only [caretRows] at hrow
          split at hrow
          · cases hrow
          · exact ⟨c, List.mem_singleton.mp hrow⟩
      · cases hrow
    rw [caretRow_eq h, getElem?_bar List.length_replicate]

/-- The bars of all rows stand in one column, carets included. -/
theorem getElem?_bar_of_mem
    (hrow : row ∈ (shown texts line above below).flatMap
      (lineRows (numberWidth texts line below) line column)) :
    row[numberWidth texts line below + 3]? = some '|' := by
  obtain ⟨t, ht, hrow⟩ := List.mem_flatMap.mp hrow
  exact getElem?_bar_of_mem_lineRows (length_ofNat_le_numberWidth ht) hrow

/-- **The layout of a code frame** around a line of the source: one row for each line in the window,
in order, with its number flush right; all bars in one column; and behind the row of the line itself
a caret row, unless no column is to be marked. -/
theorem render_layout (hlines : HasLines source texts) (hfirst : 1 ≤ line)
    (hlast : line ≤ texts.length) (column : Option Int) (ha : 0 ≤ above) (hb : 0 ≤ below) :
    let width := numberWidth texts line below
    ∃ rendered, render source line column above below = .ok rendered ∧
      lines rendered = (shown texts line above below).flatMap (fun (text, number) =>
        sourceRow width (number = line) number text ::
          if number = line then caretRows width number text column else []) ∧
      ∀ row ∈ lines rendered, row[width + 3]? = some '|' := by
  intro width
  obtain ⟨rendered, hrender, hrows⟩ := lines_render_of_hasLines hlines hfirst hlast column ha hb
  refine ⟨rendered, hrender, hrows, fun row hrow => ?_⟩
  rw [hrows] at hrow
  exact getElem?_bar_of_mem hrow

/-- Ten lines, of which the last two are not empty. -/
def tenLines : Text := "\n\n\n\n\n\n\n\n\tx()\r\nz".toList

/-- Where the text is cut, a carriage return belongs to the line feed behind it. -/
theorem hasLines_tenLines :
    HasLines tenLines [[], [], [], [], [], [], [], [], "\tx()".toList, ['z']] :=
  sourceLines_eq_iff.mp (by decide)

/-- The number column is as wide as the number of the tenth line. -/
theorem render_layout_tenLines :
    ∃ rendered, render tenLines 9 (some 2) 1 1 = .ok rendered ∧
      lines rendered = ["   8 |".toList, ">  9 | \tx()".toList, "     | \t^".toList,
        "  10 | z".toList] ∧
      ∀ row ∈ lines rendered, row[5]? = some '|' := by
  obtain ⟨rendered, hrender, hrows, hbars⟩ := render_layout hasLines_tenLines
    (show (1 : Int) ≤ 9 by decide) (by decide) (some 2) (show (0 : Int) ≤ 1 by decide)
    (show (0 : Int) ≤ 1 by decide)
  refine ⟨rendered, hrender, ?_, hbars⟩
  rw [hrows]
  decide

/-! ## The caret -/

/-- A row shows a text behind a bar, and a caret under it points at one of its columns, the one past
the end included. -/
structure PointsAt (caret row text : Text) (bar column : Nat) : Prop where
  row_bar : row[bar]? = some '|'
  row_text : row.drop (bar + 2) = text
  caret_bar : caret[bar]? = some '|'
  -- no number is repeated in front of the bar
  gutter : ∀ i < bar, caret[i]? = some ' '
  -- tabs are kept, so that the caret lines up however wide they are
  spacing : ∀ i, bar < i → i < bar + 1 + column →
    caret[i]? = some (if row[i]? = some '\t' then '\t' else ' ')
  caret_last : caret[bar + 1 + column]? = some '^'
  length : caret.length = bar + 1 + column + 1

/-- The caret's spacing reaches to the column, or to the end of the text. -/
theorem length_caretSpacing (text : Text) {column : Int} (h : 1 ≤ column) :
    (caretSpacing text column).length + 1 = (min column (text.length + 1)).toNat := by
  rw [caretSpacing, List.length_map, List.length_take]
  omega

/-- In the spacing tabs are kept and all else is blank. -/
theorem getElem?_caretSpacing {column : Int} {k : Nat} (h : k < (caretSpacing text column).length) :
    (caretSpacing text column)[k]? = some (if text[k]? = some '\t' then '\t' else ' ') := by
  rw [caretSpacing, List.length_map, List.length_take] at h
  have hk : k < text.length := by omega
  rw [caretSpacing, List.getElem?_map, List.getElem?_take_of_lt (by omega),
    List.getElem?_eq_getElem hk]
  simp

/-- The code of a row is its text behind one space. -/
theorem getElem?_code_succ (text : Text) (k : Nat) : (code text)[k + 1]? = text[k]? := by
  cases text <;> simp [code]

/-- **The caret stands under its column.** -/
theorem pointsAt_caretRow (h : (ofNat number).length ≤ width) (marked : Bool) (text : Text)
    {column : Int} (hcolumn : 1 ≤ column) :
    PointsAt (caretRow width number text column) (sourceRow width marked number text) text
      (width + 3) (min column (text.length + 1)).toNat := by
  obtain ⟨front, hrow, hfront⟩ := exists_sourceRow_eq h marked text
  have hblank : (List.replicate (width + 3) ' ').length = width + 3 := List.length_replicate
  rw [hrow, caretRow_eq h, ← length_caretSpacing text hcolumn]
  constructor
  case row_bar => exact getElem?_bar hfront
  case caret_bar => exact getElem?_bar hblank
  case row_text =>
    rw [List.drop_append, List.drop_of_length_le (by omega), List.nil_append, hfront]
    cases text <;> simp [code]
  case gutter =>
    intro i hi
    rw [List.getElem?_append_left (by omega), List.getElem?_replicate, if_pos hi]
  case spacing =>
    intro i hlo hhi
    obtain ⟨k, rfl⟩ := Nat.exists_eq_add_of_lt hlo
    rw [getElem?_behind_bar hblank, getElem?_behind_bar hfront]
    cases k with
    | zero =>
      -- the space between bar and code, which an empty line does not have
      cases text <;> simp [code]
    | succ k =>
      rw [List.getElem?_cons_succ, List.getElem?_append_left (by omega), getElem?_code_succ,
        getElem?_caretSpacing (by omega)]
  case caret_last =>
    have hindex : width + 3 + 1 + ((caretSpacing text column).length + 1)
        = width + 3 + ((caretSpacing text column).length + 1) + 1 := by omega
    rw [hindex, getElem?_behind_bar hblank, List.getElem?_cons_succ,
      List.getElem?_append_right (Nat.le_refl _), Nat.sub_self]
    rfl
  case length =>
    simp only [List.length_append, List.length_cons, List.length_nil, hblank]
    omega

/-- **Where the caret is**: behind the row of the line stands a row that points at the column, or at
the place behind the text if the column lies further right. Its bar is in line with all others. -/
theorem render_caret (hlines : HasLines source texts) (htext : textAt 1 texts line = some text)
    {column : Int} (hcolumn : 1 ≤ column) (ha : 0 ≤ above) (hb : 0 ≤ below) :
    let width := numberWidth texts line below
    ∃ rendered before caret after, render source line (some column) above below = .ok rendered ∧
      lines rendered = before ++ sourceRow width true line.toNat text :: caret :: after ∧
      PointsAt caret (sourceRow width true line.toNat text) text (width + 3)
        (min column (text.length + 1)).toNat ∧
      ∀ row ∈ lines rendered, row[width + 3]? = some '|' := by
  intro width
  obtain ⟨hfirst, hlast⟩ := textAt_isSome_iff.mp ⟨text, htext⟩
  obtain ⟨rendered, hrender, hrows⟩ :=
    lines_render_of_hasLines hlines hfirst hlast (some column) ha hb
  have hbars : ∀ row ∈ lines rendered, row[width + 3]? = some '|' := by
    intro row hrow
    rw [hrows] at hrow
    exact getElem?_bar_of_mem hrow
  -- the line is one of those that are shown, so its rows stand somewhere in between
  have hshown := mem_shown htext ha hb
  have hline : (line.toNat : Int) = line := by omega
  have hself := lineRows_self width text (show column ≠ 0 by omega) hline
  obtain ⟨earlier, later, hsplit⟩ := List.append_of_mem hshown
  refine ⟨rendered, earlier.flatMap (lineRows width line (some column)),
    caretRow width line.toNat text column, later.flatMap (lineRows width line (some column)),
    hrender, ?_, pointsAt_caretRow (length_ofNat_le_numberWidth hshown) true text hcolumn, hbars⟩
  rw [hrows, hsplit, List.flatMap_append, List.flatMap_cons, hself]
  rfl

/-- A column far behind the end of the line: the caret stands behind the last character. -/
theorem render_caret_tenLines :
    ∃ rendered before caret after, render tenLines 9 (some 80) 2 0 = .ok rendered ∧
      lines rendered = before ++ "> 9 | \tx()".toList :: caret :: after ∧
      PointsAt caret "> 9 | \tx()".toList "\tx()".toList 4 5 ∧
      ∀ row ∈ lines rendered, row[4]? = some '|' := by
  have htext : textAt 1 [[], [], [], [], [], [], [], [], "\tx()".toList, ['z']] 9
      = some "\tx()".toList := by decide
  have h := render_caret hasLines_tenLines htext (show (1 : Int) ≤ 80 by decide)
    (show (0 : Int) ≤ 2 by decide) (show (0 : Int) ≤ 0 by decide)
  have hwidth : numberWidth [[], [], [], [], [], [], [], [], "\tx()".toList, ['z']] 9 0 = 1 := by
    decide
  have hrow : sourceRow 1 true 9 "\tx()".toList = "> 9 | \tx()".toList := by decide
  rw [hwidth] at h
  dsimp only at h
  rw [← hrow]
  exact h

end Stacktrace.CodeFrame
