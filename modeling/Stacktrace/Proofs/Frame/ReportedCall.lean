import Stacktrace.Proofs.Frame.Agreement

/-!
# Calls as engines report them

A function name and a full place, written in either syntax. Nothing is asked of the texts but that the
two numerals can be read: the name may be missing, and name and file may hold characters that part
them in a frame. So it is a question what the readers make of them.

* `ReportedCall.read_place` — of the file the parentheses are lost, and nothing else;
* `ReportedCall.read_firefox` — a frame whose name is cut off where it ends reports that name and what is
  read of the place.
-/

namespace Stacktrace

open Text Numeral

structure ReportedCall where
  name : Text
  file : Text
  line : Text
  column : Text
  file_ne_nil : file ≠ []
  line_run : IsRun line
  column_run : IsRun column
  line_short : line.length ≤ Fault.digitLimit
  column_short : column.length ≤ Fault.digitLimit

namespace ReportedCall

variable (c : ReportedCall)

/-- The two numerals behind some text. -/
def placed (before : Text) (closed : Bool) : Placed where
  before := before
  line := c.line
  column := c.column
  closed := closed
  line_run := c.line_run
  column_run := c.column_run

def location : Text :=
  (c.placed c.file false).text

def firefox : Text :=
  c.name ++ '@' :: c.location

def chromium : Text :=
  uniformText [] c.name c.file c.line c.column

/-- What the parts say. -/
def fields : FrameFields where
  functionName := Frame.cleanName (some c.name)
  file := some c.file
  line := some (value c.line)
  column := some (value c.column)

/-- The call in Firefox's syntax ends in its place. -/
theorem firefox_eq_placed : c.firefox = (c.placed (c.name ++ '@' :: c.file) false).text :=
  (List.append_assoc c.name ('@' :: c.file) _).symm

/-- A character that is no digit, no colon and not in the file is not in the location. -/
theorem notMem_location {x : Char} (hd : isDigit x = false) (hcolon : x ≠ ':') (hfile : x ∉ c.file) :
    x ∉ c.location := by
  simp [location, placed, Placed.text, Placed.place, Placed.closing, hfile, hcolon,
    c.line_run.notMem hd, c.column_run.notMem hd]

/-! ## The place -/

/-- The place that is read. The file has lost its parentheses, and if it had nothing else, the first
numeral is taken for the file. -/
def place : Place :=
  if Place.dropParentheses c.file = [] then ⟨some (':' :: c.line), some (value c.column), none⟩
  else ⟨some (Place.dropParentheses c.file), some (value c.line), some (value c.column)⟩

/-- **What is read of a place** whose file may hold parentheses, behind an opening one or without. -/
theorem read_place {before : Text} {closed : Bool} (hnl : '\n' ∉ (c.placed before closed).text)
    (hbefore : Place.dropParentheses before = Place.dropParentheses c.file) :
    Place.read (c.placed before closed).text = .ok c.place := by
  have hline : Numeral.read (c.placed before closed).line = .ok (value c.line) :=
    read_of_le c.line_short
  have hcolumn : Numeral.read (c.placed before closed).column = .ok (value c.column) :=
    read_of_le c.column_short
  rw [Place.read_placed _ hnl, hline, hcolumn, place, ← hbefore]
  show (if Place.dropParentheses before = [] then _ else _) = _
  split <;> rfl

/-- A file without parentheses is read as it is. -/
theorem place_of_notMem (ho : '(' ∉ c.file) (hc : ')' ∉ c.file) :
    c.place = ⟨some c.file, some (value c.line), some (value c.column)⟩ := by
  rw [place, Place.dropParentheses_of_notMem ho hc, if_neg c.file_ne_nil]

/-- The place always has a line. -/
theorem isSome_place_line : c.place.line.isSome = true := by
  unfold place
  split <;> rfl

/-! ## Frames -/

/-- **A frame whose name is cut off where it ends** reports that name and what is read of the place. -/
theorem read_firefox (hnl : '\n' ∉ c.firefox) (hname : ∀ x ∈ c.name.head?, isBlank x = false)
    (hkeyword : ¬ ['a', 't', ' '] <+: c.firefox) (hchain : ¬ Firefox.chainMark <:+: c.firefox)
    (hcut : Firefox.cutName? c.firefox = some (c.name, c.location)) :
    Frame.read c.firefox = .ok (.frame (RawFrame.fields ⟨some c.name, c.place⟩)) := by
  have htrim : trimStart c.firefox = c.firefox := Firefox.trimStart_named hname c.location
  have hdialect : Frame.dialect c.firefox = .firefox := by
    rw [Frame.dialect, Frame.speaksChromium_of_trimStart (htrim.symm ▸ hkeyword)]
    rfl
  have hcut' : Firefox.cutName? (Firefox.collapseEvals (trimStart c.firefox))
      = some (c.name, c.location) := by
    rw [htrim, Firefox.collapseEvals_eq_self hchain, hcut]
  have hlocation : '\n' ∉ c.location := fun hm =>
    hnl (List.mem_append_right _ (List.mem_cons_of_mem _ hm))
  have hplace : Place.read c.location = .ok c.place := c.read_place hlocation rfl
  -- the reader is told about the line as one that ends in a place
  rw [c.firefox_eq_placed] at hnl hdialect hcut' ⊢
  rw [Frame.read_of_cutName? hnl hdialect hcut', hplace]
  exact congrArg Except.ok (Frame.reading_eq_frame (.inr c.isSome_place_line))

end ReportedCall

end Stacktrace
