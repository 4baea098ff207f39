import Stacktrace.Proofs.CodeFrame
import Stacktrace.Proofs.CodeFrame.LineEndings
import Stacktrace.Proofs.Text.Lines
import Stacktrace.Proofs.Text.Numeral

/-!
# The marked row

The row of the error starts with `>`, and a reader finds it by that. Whether there is one depends on
the line, and whether anything is rendered depends on the window around it:

* `lines_render` — the lines of what is rendered are its rows, because no row holds a line feed;
* `filter_allRows` — of the rows of numbered texts, exactly that of the line's own text is marked;
* `textAt_window` — the window cuts no line off that it is made around;
* `render_marks_line` — a window that reaches the source is rendered, with one marked row if the
  line itself is in the source and with none if only its surroundings are.
-/

namespace Stacktrace.CodeFrame

open Text Numeral

variable {source rendered l : Text} {line above below : Int} {column : Option Int}
  {width number : Nat} {text : Text}

/-! ## Rows -/

/-- A gutter is one line. -/
theorem notMem_gutter : '\n' ∉ gutter width number := by
  have hdigits : '\n' ∉ ofNat number := fun hm => absurd (ascii_of_mem_ofNat hm) (by decide)
  simp [gutter, padLeft, hdigits]

/-- The code of a row is one line if its text is. -/
theorem notMem_code (h : '\n' ∉ text) : '\n' ∉ code text := by
  unfold code
  split <;> simp [h]

/-- A row with a caret is one line. -/
theorem notMem_caretRow {column : Int} : '\n' ∉ caretRow width number text column := by
  have hblank : '\n' ∉ blankGutter width number := by
    intro hm
    obtain ⟨c, hc, he⟩ := List.mem_map.mp hm
    split at he
    · cases he
    · exact notMem_gutter (he ▸ hc)
  -- the spacing copies tabs and turns every other character into a blank
  have hspacing : '\n' ∉ caretSpacing text column := by
    intro hm
    obtain ⟨c, -, he⟩ := List.mem_map.mp hm
    split at he <;> cases he
  simp [caretRow, hblank, hspacing]

/-- The row of the line that the frame is about. -/
def markedRow (width number : Nat) (text : Text) : Text :=
  '>' :: gutter width number ++ code text

def isMarked (row : Text) : Bool :=
  row.head? = some '>'

/-- The row of any other line starts with a blank and has no caret below. -/
theorem rows_of_ne (h : (number : Int) ≠ line) :
    rows width line column number text = [' ' :: gutter width number ++ code text] := by
  rw [rows, if_pos h]

/-- A line's own row comes first, and at most a caret follows it. -/
theorem rows_self (width : Nat) (column : Option Int) (number : Nat) (text : Text) :
    ∃ carets, rows width number column number text = markedRow width number text :: carets ∧
      ∀ row ∈ carets, ∃ c, row = caretRow width number text c := by
  rw [rows, if_neg (by simp)]
  cases column with
  | none => exact ⟨[], rfl, by simp⟩
  | some c =>
    dsimp only
    split
    · exact ⟨[], rfl, by simp⟩
    · exact ⟨[caretRow width number text c], rfl, by simp⟩

/-- Every row of a line is one line. -/
theorem notMem_of_mem_rows (h : '\n' ∉ text) (hl : l ∈ rows width line column number text) :
    '\n' ∉ l := by
  by_cases hn : (number : Int) = line
  · -- only the marked line has more than one row
    subst hn
    obtain ⟨carets, hrows, hcarets⟩ := rows_self width column number text
    rw [hrows] at hl
    rcases List.mem_cons.mp hl with rfl | hl
    · simp [markedRow, notMem_gutter, notMem_code h]
    · obtain ⟨c, rfl⟩ := hcarets l hl
      exact notMem_caretRow
  · rw [rows_of_ne hn, List.mem_singleton] at hl
    simp [hl, notMem_gutter, notMem_code h]

/-- Every row of numbered lines is one line. -/
theorem notMem_of_mem_allRows {first : Nat} {texts : List Text} (h : ∀ t ∈ texts, '\n' ∉ t)
    (hl : l ∈ allRows width line column first texts) : '\n' ∉ l := by
  induction texts generalizing first with
  | nil => cases hl
  | cons t ts ih =>
    rcases List.mem_append.mp hl with hl | hl
    · exact notMem_of_mem_rows (h t List.mem_cons_self) hl
    · exact ih (fun t ht => h t (List.mem_cons_of_mem _ ht)) hl

/-! ## Which row is marked -/

/-- The text with a line's number, where the first of the texts has a given number. -/
def textAt (first : Nat) (texts : List Text) (line : Int) : Option Text :=
  if (first : Int) ≤ line then texts[(line - first).toNat]? else none

/-- The first text has the first number. -/
theorem textAt_cons_self (first : Nat) (t : Text) (ts : List Text) :
    textAt first (t :: ts) first = some t := by
  simp [textAt]

/-- No text has a number in front of the first one. -/
theorem textAt_succ_self (first : Nat) (ts : List Text) : textAt (first + 1) ts first = none := by
  rw [textAt, if_neg (by omega)]

/-- Every other number is looked for behind the first text. -/
theorem textAt_cons_of_ne {first : Nat} (h : (first : Int) ≠ line) (t : Text) (ts : List Text) :
    textAt first (t :: ts) line = textAt (first + 1) ts line := by
  unfold textAt
  by_cases hlt : (first : Int) ≤ line
  · have hindex : (line - first).toNat = (line - (first + 1 : Nat)).toNat + 1 := by omega
    rw [if_pos hlt, if_pos (by omega), hindex, List.getElem?_cons_succ]
  · rw [if_neg hlt, if_neg (by omega)]

/-- Numbers from one on stand for the texts that there are. -/
theorem textAt_isSome_iff {texts : List Text} :
    (∃ t, textAt 1 texts line = some t) ↔ 1 ≤ line ∧ line ≤ texts.length := by
  unfold textAt
  split
  · next hle =>
    rw [← Option.isSome_iff_exists, isSome_getElem?]
    omega
  · next hlt => exact iff_of_false (by simp) (by omega)

/-- Of the rows of the line itself one is marked, since a caret's row starts with a blank. -/
theorem filter_rows_self (width : Nat) (column : Option Int) (number : Nat) (text : Text) :
    (rows width number column number text).filter isMarked = [markedRow width number text] := by
  obtain ⟨carets, hrows, hcarets⟩ := rows_self width column number text
  have hunmarked : carets.filter isMarked = [] := by
    rw [List.filter_eq_nil_iff]
    intro row hrow
    obtain ⟨c, rfl⟩ := hcarets row hrow
    simp [isMarked, caretRow]
  rw [hrows, List.filter_cons_of_pos (by simp [isMarked, markedRow]), hunmarked]

/-- Of the rows of any other line none is marked. -/
theorem filter_rows_of_ne (h : (number : Int) ≠ line) :
    (rows width line column number text).filter isMarked = [] := by
  simp [rows_of_ne h, isMarked]

/-- **One row is marked**: that of the text with the line's number. -/
theorem filter_allRows (width : Nat) (line : Int) (column : Option Int) (first : Nat)
    (texts : List Text) :
    (allRows width line column first texts).filter isMarked
      = (textAt first texts line).toList.map (markedRow width line.toNat) := by
  -- by induction on the texts, whose first number goes up with each of them
  induction texts generalizing first with
  | nil => simp [allRows, textAt]
  | cons t ts ih =>
    rw [allRows, List.filter_append, ih]
    by_cases h : (first : Int) = line
    · -- later numbers are too large, so nothing else is marked
      subst h
      rw [filter_rows_self, textAt_succ_self, textAt_cons_self]
      rfl
    · rw [filter_rows_of_ne h, textAt_cons_of_ne h]
      rfl

/-! ## The window -/

/-- The window around a line shows that line, if there is one. -/
theorem textAt_window {texts : List Text} (ha : 0 ≤ above) (hb : 0 ≤ below) :
    let w := window texts.length line above below
    textAt (w.start + 1) ((texts.take w.stop).drop w.start) line = textAt 1 texts line := by
  intro w
  have hstart : w.start = (line - (above + 1)).toNat := rfl
  have hstop : w.stop = (min (texts.length : Int) (line + below)).toNat := rfl
  unfold textAt
  by_cases hle : (1 : Int) ≤ line
  · -- what the window skips at its start is what the first number is ahead by
    have hindex : w.start + (line - (w.start + 1 : Nat)).toNat = (line - (1 : Nat)).toNat := by
      omega
    rw [if_pos (by omega), if_pos (by omega), List.getElem?_drop, hindex, List.getElem?_take]
    split
    · rfl
    · -- the window ends before the line only where the source does
      rw [eq_comm, List.getElem?_eq_none_iff]
      omega
  · rw [if_neg (by omega), if_neg (by omega)]

/-- The rows of the window around a line. -/
def windowRows (source : Text) (line : Int) (column : Option Int) (above below : Int) : List Text :=
  let texts := sourceLines source
  let w := window texts.length line above below
  allRows (ofNat w.stop).length line column (w.start + 1) ((texts.take w.stop).drop w.start)

/-- What is rendered are the rows of the window, joined. -/
theorem eq_joinLines_of_render (h : render source line column above below = .ok rendered) :
    rendered = joinLines (windowRows source line column above below) := by
  unfold render at h
  dsimp only at h
  split at h
  · obtain ⟨lineText, -, h⟩ := Outcome.bind_eq_ok_iff.mp h
    cases h
  · cases h
    rfl

/-- Every row of the window is one line. -/
theorem notMem_of_mem_windowRows (h : l ∈ windowRows source line column above below) : '\n' ∉ l := by
  refine notMem_of_mem_allRows (fun t ht => ?_) h
  exact notMem_of_mem_sourceLines (List.mem_of_mem_take (List.mem_of_mem_drop ht))

/-- **The lines of what is rendered are its rows.** -/
theorem lines_render (h : render source line column above below = .ok rendered) :
    lines rendered = windowRows source line column above below := by
  have hjoined := eq_joinLines_of_render h
  have hne : windowRows source line column above below ≠ [] := by
    intro hnil
    rw [hnil] at hjoined
    exact ne_nil_of_render h hjoined
  rw [hjoined, lines_joinLines hne fun l hl => notMem_of_mem_windowRows hl]

/-! ## The whole frame -/

/-- The fault of a window without lines. Its sentence names the line, which has to be written. -/
def outsideFault (line : Int) (count : Nat) : Fault :=
  match Numeral.write line with
  | .ok lineText => .outsideSource line lineText count
  | .error e => e

/-- With context on both sides, a window has no lines if it ends before the source or starts after
it. A source has at least one line. -/
theorem window_stop_le_start_iff {s : Text} (ha : 0 ≤ above) (hb : 0 ≤ below) :
    (window (sourceLines s).length line above below).stop
        ≤ (window (sourceLines s).length line above below).start ↔
      line + below < 1 ∨ (sourceLines s).length < line - above := by
  have hcount : 0 < (sourceLines s).length :=
    List.length_pos_iff.mpr (hasLines_sourceLines s).ne_nil
  show (min ((sourceLines s).length : Int) (line + below)).toNat ≤ (line - (above + 1)).toNat ↔ _
  omega

/-- Rendering fails for an empty window and for nothing else. -/
theorem render_eq_error_iff {e : Fault} :
    render source line column above below = .error e ↔
      (window (sourceLines source).length line above below).stop
        ≤ (window (sourceLines source).length line above below).start ∧
      e = outsideFault line (sourceLines source).length := by
  unfold render outsideFault
  dsimp only
  split
  · next hempty =>
    -- either way the fault is the one the definition names: the number written, or its refusal
    cases Numeral.write line with
    | ok lineText =>
      show Except.error _ = Except.error e ↔ _
      simp [hempty, eq_comm]
    | error e' =>
      show Except.error _ = Except.error e ↔ _
      simp [hempty, eq_comm]
  · next hwindow => exact iff_of_false (by simp) fun h => hwindow h.1

/-- **A mark for every line of the source.** Rendering fails exactly if the window around the line
misses the source. What is rendered has one marked row, which shows the line, if the line is in the
source, and else it shows the surroundings without a mark. -/
theorem render_marks_line (source : Text) (line : Int) (column : Option Int)
    (ha : 0 ≤ above) (hb : 0 ≤ below) :
    (∀ e, render source line column above below = .error e ↔
      (line + below < 1 ∨ (sourceLines source).length < line - above) ∧
        e = outsideFault line (sourceLines source).length) ∧
    ∀ rendered, render source line column above below = .ok rendered →
      (1 ≤ line ∧ line ≤ (sourceLines source).length →
        ∃ text width, textAt 1 (sourceLines source) line = some text ∧
          (lines rendered).filter isMarked = [markedRow width line.toNat text]) ∧
      (¬ (1 ≤ line ∧ line ≤ (sourceLines source).length) →
        (lines rendered).filter isMarked = []) := by
  constructor
  · intro e
    rw [render_eq_error_iff, window_stop_le_start_iff ha hb]
  · intro rendered h
    -- what is marked among the shown lines is the line itself, where the source has it
    rw [lines_render h, windowRows, filter_allRows, textAt_window ha hb]
    constructor
    · intro hin
      obtain ⟨text, htext⟩ := textAt_isSome_iff.mpr hin
      rw [htext]
      exact ⟨text, _, rfl, rfl⟩
    · intro hout
      rw [Option.eq_none_iff_forall_ne_some.mpr fun t ht => hout (textAt_isSome_iff.mp ⟨t, ht⟩)]
      rfl

/-- A source of three lines. -/
def threeLines : Text := "a\nb\nc".toList

/-- The second line is marked, the fourth only has surroundings, and nothing is left of the sixth. -/
theorem render_marks_line_threeLines :
    (∃ text width, textAt 1 (sourceLines threeLines) 2 = some text ∧
      (lines "  1 | a\n> 2 | b\n    | ^\n  3 | c".toList).filter isMarked
        = [markedRow width 2 text]) ∧
    (lines "  2 | b\n  3 | c".toList).filter isMarked = [] ∧
    render threeLines 6 none 2 3 = .error (.outsideSource 6 "6".toList 3) := by
  have hsecond : render threeLines 2 (some 1) 1 1
      = .ok "  1 | a\n> 2 | b\n    | ^\n  3 | c".toList := by decide
  have hfourth : render threeLines 4 none 2 3 = .ok "  2 | b\n  3 | c".toList := by decide
  have hone : (0 : Int) ≤ 1 := by decide
  have htwo : (0 : Int) ≤ 2 := by decide
  have hthree : (0 : Int) ≤ 3 := by decide
  refine ⟨((render_marks_line threeLines 2 (some 1) hone hone).2 _ hsecond).1 (by decide),
    ((render_marks_line threeLines 4 none htwo hthree).2 _ hfourth).2 (by decide), ?_⟩
  exact ((render_marks_line threeLines 6 none htwo hthree).1 _).mpr ⟨by decide, by decide⟩

/-- The line after the last one has surroundings, so it is rendered like a line of the source, and
no row says which line was meant. -/
theorem not_forall_render_marks :
    ¬ ∀ (source : Text) (line : Int) (column : Option Int) (above below : Int),
      0 ≤ above → 0 ≤ below →
      ((∃ lineText, render source line column above below
          = .error (.outsideSource line lineText (sourceLines source).length)) ↔
        line < 1 ∨ (sourceLines source).length < line) ∧
      ∀ rendered, render source line column above below = .ok rendered →
        ∃ text width, textAt 1 (sourceLines source) line = some text ∧
          (lines rendered).filter isMarked = [markedRow width line.toNat text] := by
  intro hall
  have hrender : render threeLines 4 none 2 3 = .ok "  2 | b\n  3 | c".toList := by decide
  obtain ⟨lineText, houtside⟩ :=
    (hall threeLines 4 none 2 3 (by decide) (by decide)).1.mpr (.inr (by decide))
  -- the line is outside of the source, but rendering gives a frame and no fault
  rw [hrender] at houtside
  cases houtside

end Stacktrace.CodeFrame
