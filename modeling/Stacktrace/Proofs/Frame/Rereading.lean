import Mathlib.Data.List.Basic
import Stacktrace.Proofs.Frame.Reading
import Stacktrace.Stack.SourceStack

/-!
# Reading a rebuilt frame again

`Rebuilt` is a frame with both numbers, as reading leaves it, and `Rebuilt.text` is what it is
rebuilt as. Reading that text may give another frame: cleaning may take a second suffix off the name,
the location may seem to start inside the name, the file may be taken for none or the placeholder for
a file, and unwrapping may remove text. `Rebuilt.Rereadable` rules out just these, and
`Rebuilt.read_text_eq_iff` says that nothing else can go wrong and that each of them does.

For the second half the reader's steps are not followed. A frame without a file is told by the
placeholder at the end of its text, which no step takes away (`file_eq_of_fields_eq`). For the others
lengths are compared: no step makes a text longer, so a frame that comes back with the same fields
has lost nothing on the way (`rereadable_of_named`).
-/

namespace Stacktrace

open Text Numeral

/-- A frame with both numbers, as it was read off one line. -/
structure Rebuilt where
  indent : Text
  name : Text
  file : Option Text
  line : Nat
  column : Nat
  indent_blank : ∀ c ∈ indent, isBlank c = true
  indent_line : '\n' ∉ indent
  name_line : '\n' ∉ name
  name_solid : ∀ c ∈ name.head?, isBlank c = false
  file_line : ∀ f ∈ file, '\n' ∉ f
  file_bare : ∀ f ∈ file, f ≠ [] ∧ '(' ∉ f ∧ ')' ∉ f
  line_short : (ofNat line).length ≤ Fault.digitLimit
  column_short : (ofNat column).length ≤ Fault.digitLimit

namespace Rebuilt

variable (r : Rebuilt)

/-- The file that the text of the frame shows. -/
def shownFile : Text :=
  r.file.getD unknownFile

def text : Text :=
  uniformText r.indent r.name r.shownFile (ofNat r.line) (ofNat r.column)

def fields : FrameFields where
  functionName := r.name
  file := r.file
  line := some r.line
  column := some r.column

/-- The place of the frame and the parenthesis that closes it. -/
def closing : Text :=
  r.shownFile ++ (':' :: ofNat r.line ++ ':' :: ofNat r.column) ++ [')']

/-- What a frame needs to be read back: a name that stays as it is and does not look as if the
location started inside it, a file that the engine did not make up, and no text to unwrap. -/
structure Rereadable : Prop where
  name_ne_nil : r.name ≠ []
  name_clean : ¬ ['/', '<'] <:+ r.name
  name_whole : ¬ [' ', '('] <:+: r.name
  file_real : ∃ file, r.file = some file ∧ file ∉ Chromium.pseudoFiles
  text_kept : ¬ Chromium.LosesText r.text

/-- The file that is shown fits on the line. -/
theorem shownFile_line : '\n' ∉ r.shownFile := by
  unfold shownFile
  cases hfile : r.file with
  | none => decide
  | some file => exact r.file_line file hfile

/-- The file that is shown is not empty and has no parentheses, the placeholder included. -/
theorem shownFile_bare : r.shownFile ≠ [] ∧ '(' ∉ r.shownFile ∧ ')' ∉ r.shownFile := by
  unfold shownFile
  cases hfile : r.file with
  | none => decide
  | some file => exact r.file_bare file hfile

/-- Behind the keyword stand the name and the closing part in parentheses. -/
theorem text_eq : r.text = r.indent ++ (['a', 't', ' '] ++ (r.name ++ ' ' :: '(' :: r.closing)) := by
  simp [text, uniformText, closing]

/-- A rebuilt frame is on one line. -/
theorem newline_notMem_text : '\n' ∉ r.text :=
  newline_notMem_uniformText.mpr ⟨r.indent_line, r.name_line, r.shownFile_line,
    (isRun_ofNat r.line).notMem (by decide), (isRun_ofNat r.column).notMem (by decide)⟩

/-- Nothing opens a parenthesis behind the one in front of the file. -/
theorem open_notMem_closing : '(' ∉ r.closing := by
  have hdigit : isDigit '(' = false := by decide
  simp [closing, r.shownFile_bare.2.1, (isRun_ofNat r.line).notMem hdigit,
    (isRun_ofNat r.column).notMem hdigit]

/-- **Every frame that says a column is one of these**, once it was read off one line. -/
theorem exists_of_read {s : Text} {fields : FrameFields} (hnl : '\n' ∉ s)
    (h : Frame.read s = .ok (.frame fields)) (hcolumn : fields.column.isSome = true) :
    ∃ r : Rebuilt, r.indent = indentation s ∧ fields = r.fields := by
  obtain ⟨-, raw, hraw, rfl⟩ := Frame.of_read_frame hnl h
  obtain ⟨c, hc⟩ : ∃ c, raw.place.column = some c := by
    cases hp : raw.place.column with
    | none => simp [RawFrame.fields, hp] at hcolumn
    | some c => exact ⟨c, rfl⟩
  -- a place with a column has a line, both can be written, and the file is bare
  obtain ⟨hcshort, l, hl, hlshort⟩ := hraw.place.numbers c hc
  let r : Rebuilt := {
    indent := indentation s
    name := Frame.cleanName raw.functionName
    file := raw.place.file
    line := l
    column := c
    indent_blank := fun x hx => List.mem_takeWhile_imp hx
    indent_line := fun hm => hnl ((List.takeWhile_prefix isBlank).mem hm)
    name_line := hraw.cleanName.1
    name_solid := hraw.cleanName.2
    file_line := hraw.place.file_line
    file_bare := fun file hf => hraw.place.file_bare file hf (by rw [hc]; rfl)
    line_short := hlshort
    column_short := hcshort }
  refine ⟨r, rfl, ?_⟩
  show FrameFields.mk _ raw.place.file (raw.place.line.map Int.ofNat)
    (raw.place.column.map Int.ofNat) false = _
  rw [hl, hc]
  rfl

/-! ## Frames that come back -/

/-- What is shown for a rereadable frame is its file, and a real one. -/
theorem Rereadable.shownFile {r : Rebuilt} (h : r.Rereadable) :
    r.file = some r.shownFile ∧ r.shownFile ∉ Chromium.pseudoFiles := by
  obtain ⟨file, hfile, hreal⟩ := h.file_real
  have hshown : r.shownFile = file := by rw [Rebuilt.shownFile, hfile]; rfl
  rw [hshown]
  exact ⟨hfile, hreal⟩

def parts (h : r.Rereadable) : FrameParts where
  indent := r.indent
  name := r.name
  file := r.shownFile
  line := ofNat r.line
  column := ofNat r.column
  indent_blank := r.indent_blank
  name_ne_nil := h.name_ne_nil
  name_solid := r.name_solid
  name_whole := h.name_whole
  file_ne_nil := r.shownFile_bare.1
  file_open := r.shownFile_bare.2.1
  file_close := r.shownFile_bare.2.2
  file_real := h.shownFile.2
  line_run := isRun_ofNat r.line
  column_run := isRun_ofNat r.column
  line_short := r.line_short
  column_short := r.column_short

/-- A rereadable frame is read back with the fields that it was written from. -/
theorem read_text_of_rereadable (h : r.Rereadable) : Frame.read r.text = .ok (.frame r.fields) := by
  have hread : Frame.read r.text = .ok (.frame (r.parts h).fields) :=
    (r.parts h).read_chromium r.newline_notMem_text h.text_kept
  have hfields : (r.parts h).fields = r.fields := by
    show FrameFields.mk (Frame.cleanName (some r.name)) (some r.shownFile)
      (some (value (ofNat r.line) : Int)) (some (value (ofNat r.column) : Int)) false = r.fields
    rw [Frame.cleanName_eq_self h.name_ne_nil r.name_line h.name_clean, value_ofNat, value_ofNat,
      ← h.shownFile.1]
    rfl
  rw [hread, hfields]

/-! ## Lengths -/

/-- Nothing makes the named part longer than the name and what follows it, and unwrapping makes it
shorter. -/
theorem length_namedPart_le :
    (Chromium.namedPart r.text).length ≤ r.name.length + (r.closing.length + 2) ∧
      (Chromium.LosesText r.text →
        (Chromium.namedPart r.text).length < r.name.length + (r.closing.length + 2)) := by
  have hnl := r.newline_notMem_text
  have heq : r.text = r.indent ++ (['a', 't', ' '] ++ ([] ++ (r.name ++ ' ' :: '(' :: r.closing))) :=
    r.text_eq
  rw [heq] at hnl ⊢
  obtain ⟨hrest, hkeep, hloss⟩ :=
    Chromium.namedPart_keyword r.indent_blank Chromium.isPassed_nil hnl
  rw [← heq] at hrest hkeep hloss ⊢
  generalize Chromium.namedRest _ _ = rest at hrest hkeep hloss
  have hle : (([] ++ rest).dropWhile isBlank).length ≤ rest.length :=
    (List.dropWhile_suffix _).length_le
  simp only [List.length_append, List.length_cons] at hloss
  rw [hrest]
  refine ⟨?_, fun h => Nat.lt_of_le_of_lt hle (hloss h)⟩
  -- a line that loses nothing keeps its named part, up to blanks in front
  by_cases h : Chromium.LosesText r.text
  · exact Nat.le_trans hle (Nat.le_of_lt (hloss h))
  · have hlen := congrArg List.length (hkeep h)
    simp only [List.length_append, List.length_cons] at hlen
    exact hlen ▸ hle

/-- A location is no shorter than the place that is read off it, written anew. -/
theorem length_closing_le {rest : Text} (hnl : '\n' ∉ rest) (hlast : rest.getLast? = some ')')
    (h : Place.read ('(' :: rest) = .ok ⟨some r.shownFile, some r.line, some r.column⟩) :
    r.closing.length ≤ rest.length := by
  have hnl' : '\n' ∉ '(' :: rest := by simp [hnl]
  obtain ⟨file, l, c, hdrop, -, hl, hc, -, -, hplace⟩ := Place.of_read_column hnl' h rfl
  obtain ⟨hfile, hline, hcolumn⟩ := Place.mk.inj hplace
  obtain ⟨body, rfl⟩ := List.getLast?_eq_some_iff.mp hlast
  have hbody : Place.dropParentheses ('(' :: (body ++ [')'])) = Place.dropParentheses body := by
    show Place.dropParentheses (['('] ++ (body ++ [')'])) = _
    rw [Place.dropParentheses_append, Place.dropParentheses_append]
    exact List.append_nil _
  have hle := Place.length_dropParentheses_le body
  -- the digits that were read may have had zeros in front, but not fewer characters
  rw [← hbody, hdrop, ← Option.some.inj hfile] at hle
  have hlle := length_ofNat_value_le hl.ne_nil
  have hcle := length_ofNat_value_le hc.ne_nil
  rw [← Option.some.inj hline] at hlle
  rw [← Option.some.inj hcolumn] at hcle
  simp only [closing, List.length_cons, List.length_append, List.length_nil] at hle ⊢
  omega

/-! ## Frames that do not come back otherwise -/

/-- What it means that a raw frame has the fields of the frame. -/
theorem of_fields_eq {name : Option Text} {place : Place}
    (h : r.fields = RawFrame.fields ⟨name, Chromium.dropPseudoFile place⟩) :
    r.name = Frame.cleanName name ∧ (Chromium.dropPseudoFile place).file = r.file ∧
      place.line = some r.line ∧ place.column = some r.column := by
  obtain ⟨hname, hfile, hline, hcolumn, -⟩ := FrameFields.mk.inj h
  obtain ⟨l, hl, hlv⟩ := Option.map_eq_some_iff.mp hline.symm
  obtain ⟨c, hc, hcv⟩ := Option.map_eq_some_iff.mp hcolumn.symm
  rw [Chromium.dropPseudoFile_line] at hl
  rw [Chromium.dropPseudoFile_column] at hc
  rw [← Int.ofNat.inj hlv, ← Int.ofNat.inj hcv]
  exact ⟨hname, hfile.symm, hl, hc⟩

/-- With a file it says the whole place. -/
theorem place_eq_of_fields_eq {name : Option Text} {place : Place}
    (h : r.fields = RawFrame.fields ⟨name, Chromium.dropPseudoFile place⟩)
    (hfile : r.file = some r.shownFile) :
    place = ⟨some r.shownFile, some r.line, some r.column⟩ ∧
      r.shownFile ∉ Chromium.pseudoFiles := by
  obtain ⟨-, hkept, hline, hcolumn⟩ := r.of_fields_eq h
  rw [hfile] at hkept
  obtain ⟨hshown, hreal⟩ := Chromium.dropPseudoFile_file_eq_some_iff.mp hkept
  refine ⟨?_, hreal⟩
  rw [← hshown, ← hline, ← hcolumn]

/-- The placeholder for a file stays at the end of the line, unless a comma in the name cuts it
off. -/
theorem suffix_namedPart (hfile : r.file = none)
    (hcomma : occursIn Chromium.evalMark r.text = true → ',' ∉ r.name) :
    '(' :: r.closing <:+ Chromium.namedPart r.text := by
  -- the placeholder and the numerals hold nothing that is unwrapped or cut off
  have hclosing : Chromium.IsPassed r.closing := by
    have hshown : r.shownFile = unknownFile := by rw [shownFile, hfile]; rfl
    have hfixed : ∀ c ∈ ['e', '(', ','],
        c ∉ unknownFile ∧ c ≠ ':' ∧ c ≠ ')' ∧ isDigit c = false := by
      intro c hc
      simp only [List.mem_cons, List.not_mem_nil, or_false] at hc
      rcases hc with rfl | rfl | rfl <;> decide
    intro c hc
    obtain ⟨hunknown, hcolon, hclose, hdigit⟩ := hfixed c hc
    simp [closing, hshown, hunknown, hcolon, hclose, (isRun_ofNat r.line).notMem hdigit,
      (isRun_ofNat r.column).notMem hdigit]
  have hnl := r.newline_notMem_text
  have heq : r.text = r.indent ++ (['a', 't', ' '] ++ ([] ++ ((r.name ++ [' ']) ++
      '(' :: r.closing))) := by
    simp [r.text_eq]
  rw [heq] at hnl
  obtain ⟨hrest, -, -⟩ := Chromium.namedPart_keyword r.indent_blank Chromium.isPassed_nil hnl
  rw [← heq] at hrest
  rw [hrest, List.nil_append]
  refine suffix_dropWhile (by decide) (Chromium.suffix_namedRest ?_ hclosing)
  intro hmark hm
  exact hcomma hmark (by simpa using hm)

/-- **A frame that is found again has a file**: the placeholder for a missing one is read as one. -/
theorem file_eq_of_fields_eq {name : Option Text} {place : Place} {s : Text}
    (hname : ∀ n ∈ name, n <+: Chromium.namedPart r.text)
    (hs : '(' :: r.closing <:+ Chromium.namedPart r.text → r.closing <:+ s) (hnl : '\n' ∉ s)
    (hplace : Place.read s = .ok place)
    (h : r.fields = RawFrame.fields ⟨name, Chromium.dropPseudoFile place⟩) :
    r.file = some r.shownFile := by
  obtain ⟨hclean, hkept, -, hcolumn⟩ := r.of_fields_eq h
  cases hfile : r.file with
  | some file =>
    rw [shownFile, hfile]
    rfl
  | none =>
    exfalso
    -- the name was found on a line without commas, so it has none itself
    have hcomma : occursIn Chromium.evalMark r.text = true → ',' ∉ r.name := by
      intro hmark
      have hnl' := Chromium.notMem_namedPart r.newline_notMem_text
      have hnone := Chromium.comma_notMem_namedPart r.newline_notMem_text hmark
      rw [hclean]
      rcases Frame.cleanName_cases fun n hn hm => hnl' ((hname n hn).mem hm) with
        hunknown | ⟨n, hn, hstarts⟩
      · rw [hunknown]
        decide
      · exact fun hm => hnone ((hname n hn).mem (hstarts.mem hm))
    have hk : 'k' ∈ s := by
      refine (hs (r.suffix_namedPart hfile hcomma)).mem ?_
      rw [closing, shownFile, hfile]
      exact List.mem_append_left _ (List.mem_append_left _ (by decide))
    -- the file that is read holds a letter of the placeholder, so it is not dropped
    obtain ⟨file, l, c, hdrop, -, hl, hc, -, -, rfl⟩ := Place.of_read_column hnl hplace hcolumn
    have hkfile : 'k' ∈ file := by
      have hdigit : isDigit 'k' = false := by decide
      have hkept : 'k' ∈ Place.dropParentheses s :=
        Place.mem_dropParentheses.mpr ⟨hk, by decide, by decide⟩
      rw [hdrop] at hkept
      simpa [hl.notMem hdigit, hc.notMem hdigit] using hkept
    have hreal : file ∉ Chromium.pseudoFiles := by
      intro hm
      have hpseudo : ∀ f ∈ Chromium.pseudoFiles, 'k' ∉ f := by decide
      exact hpseudo file hm hkfile
    rw [Chromium.dropPseudoFile_of_notMem rfl hreal, hfile] at hkept
    cases hkept

/-- A frame that is found again with its location lost no text, and its name is the one found. -/
theorem rereadable_of_named {name rest : Text} {place : Place}
    (hnamed : Chromium.namedPart r.text = name ++ ' ' :: '(' :: rest) (hne : name ≠ [])
    (hwhole : ¬ [' ', '('] <:+: name) (hlast : rest.getLast? = some ')')
    (hplace : Place.read ('(' :: rest) = .ok place)
    (h : r.fields = RawFrame.fields ⟨some name, Chromium.dropPseudoFile place⟩) :
    r.Rereadable := by
  obtain ⟨hclean, -⟩ := r.of_fields_eq h
  have hnl := Chromium.notMem_namedPart r.newline_notMem_text
  rw [hnamed] at hnl
  have hnlname : '\n' ∉ name := fun hm => hnl (List.mem_append_left _ hm)
  have hnlrest : '\n' ∉ rest := fun hm => hnl (by simp [hm])
  have hprefix : ∀ n ∈ some name, n <+: Chromium.namedPart r.text := by
    rintro n ⟨⟩
    exact ⟨_, hnamed.symm⟩
  -- what was written behind the parenthesis was read behind it or behind an earlier one
  have hend : '(' :: r.closing <:+ Chromium.namedPart r.text → r.closing <:+ '(' :: rest := by
    intro hsuffix
    rw [hnamed] at hsuffix
    have hrest : '(' :: rest <:+ name ++ ' ' :: '(' :: rest := ⟨name ++ [' '], by simp⟩
    rcases List.suffix_or_suffix_of_suffix hsuffix hrest with hle | hle
    · exact (List.suffix_cons '(' r.closing).trans hle
    · rcases List.suffix_cons_iff.mp hle with heq | hle
      · rw [heq]
        exact List.suffix_cons '(' r.closing
      · exact absurd (hle.mem List.mem_cons_self) r.open_notMem_closing
  have hfile := r.file_eq_of_fields_eq hprefix hend (by simp [hnlrest]) hplace h
  obtain ⟨rfl, hreal⟩ := r.place_eq_of_fields_eq h hfile
  rw [Frame.cleanName_some hne] at hclean
  -- cleaning gives a beginning of the name, and the name is no longer than that
  have hstarts := Frame.dropWrapperSuffix_starts hnlname
  rw [← hclean] at hstarts
  obtain ⟨hle, hlt⟩ := r.length_namedPart_le
  have hclosing := r.length_closing_le hnlrest hlast hplace
  rw [hnamed] at hle hlt
  simp only [List.length_append, List.length_cons] at hle hlt
  -- what was read is as long as what was written, so there was no suffix to take off
  have hself : r.name = name := hstarts.eq_of_length_le (by omega)
  rw [← hself] at hclean hne hwhole
  refine ⟨hne, (Frame.dropWrapperSuffix_eq_self_iff r.name_line).mp hclean.symm, hwhole,
    ⟨_, hfile, hreal⟩, ?_⟩
  intro hloss
  have hlt := hlt hloss
  rw [hself] at hlt
  omega

/-- A piece can start at the only place where a text has its first character, and nowhere else. -/
theorem starts_of_infix_append {x : Char} {p a b : Text} (ha : x ∉ a) (hb : x ∉ b)
    (h : x :: p <:+: a ++ x :: b) : p <+: b := by
  obtain ⟨l, s, hsplit⟩ := h
  rw [List.append_assoc, List.cons_append] at hsplit
  obtain ⟨-, -, hb'⟩ := (List.append_cons_inj_of_notMem ha hb).mp hsplit.symm
  exact ⟨s, hb'.symm⟩

/-- Behind a name without parentheses, only the parenthesis in front of the file can start what
unwrapping looks for, and the file starts with its first letter then. -/
theorem shownFile_of_losesText (hname : '(' ∉ r.name) (h : Chromium.LosesText r.text) :
    ∃ xs, r.shownFile = 'e' :: xs := by
  have htext : r.text = (r.indent ++ (['a', 't', ' '] ++ (r.name ++ [' ']))) ++
      '(' :: r.closing := by
    simp [r.text_eq]
  have hbefore : '(' ∉ r.indent ++ (['a', 't', ' '] ++ (r.name ++ [' '])) := by
    have hindent := Chromium.isPassed_of_isBlank r.indent_blank
    simp [hindent '(' (by decide), hname]
  have hmark := h.1
  rw [htext] at hmark
  have hstart := starts_of_infix_append hbefore r.open_notMem_closing hmark
  obtain ⟨x, xs, hx⟩ := List.exists_cons_of_ne_nil r.shownFile_bare.1
  rw [closing, hx] at hstart
  have he : x = 'e' := (List.cons_prefix_cons.mp hstart).1.symm
  exact ⟨xs, by rw [hx, he]⟩

/-- Where nothing is unwrapped, the location is found where it was written. -/
theorem findLocation_name_closing (hwhole : ¬ [' ', '('] <:+: r.name) :
    Chromium.findLocation (r.name ++ ' ' :: '(' :: r.closing) = some ('(' :: r.closing) := by
  have hnl := r.newline_notMem_text
  rw [r.text_eq] at hnl
  refine Chromium.findLocation_append hwhole ?_
  refine (Chromium.closedToEnd?_eq_some_iff fun hm => hnl (by simp [hm])).mpr ⟨rfl, ?_, ?_⟩
  · simp only [closing, List.length_append, List.length_cons]
    omega
  · rw [closing, List.getLast?_concat]

/-- **A frame whose location is not found** is another frame: it has no name, so it comes back under
the name that stands for none, and behind that name the location would have been found. -/
theorem ne_fields_of_unnamed {place : Place}
    (hnone : Chromium.findLocation (Chromium.namedPart r.text) = none)
    (hplace : Place.read (Chromium.namedPart r.text) = .ok place) :
    r.fields ≠ RawFrame.fields ⟨none, Chromium.dropPseudoFile place⟩ := by
  intro h
  obtain ⟨hname, -⟩ := r.of_fields_eq h
  have hfile : r.file = some r.shownFile :=
    r.file_eq_of_fields_eq (by simp) (List.suffix_cons '(' r.closing).trans
      (Chromium.notMem_namedPart r.newline_notMem_text) hplace h
  obtain ⟨rfl, -⟩ := r.place_eq_of_fields_eq h hfile
  -- the name that stands for none holds nothing that unwrapping looks for
  have hletters : Chromium.IsPassed r.name := by
    rw [hname]
    intro c hc
    simp only [List.mem_cons, List.not_mem_nil, or_false] at hc
    rcases hc with rfl | rfl | rfl <;> decide
  have hnl := r.newline_notMem_text
  rw [r.text_eq] at hnl
  obtain ⟨hrest, hkeep, -⟩ := Chromium.namedPart_keyword r.indent_blank hletters hnl
  rw [← r.text_eq] at hrest hkeep
  generalize Chromium.namedRest _ _ = rest at hrest hkeep
  have hhead : (r.name ++ rest).dropWhile isBlank = r.name ++ rest := by
    rw [hname]
    rfl
  rw [hhead] at hrest
  rw [hrest] at hplace hnone
  by_cases hloss : Chromium.LosesText r.text
  · -- the file would start with the name that was read as part of it, and it starts otherwise
    obtain ⟨xs, hx⟩ := r.shownFile_of_losesText (hletters '(' (by decide)) hloss
    have hnl' := Chromium.notMem_namedPart r.newline_notMem_text
    rw [hrest] at hnl'
    obtain ⟨file, l, c, hdrop, -, -, -, -, -, hplace'⟩ := Place.of_read_column hnl' hplace rfl
    obtain ⟨hfile, -, -⟩ := Place.mk.inj hplace'
    rw [Place.dropParentheses_append, hname, ← Option.some.inj hfile, hx] at hdrop
    have hlt : 'e' = '<' := (List.cons.inj hdrop).1.symm
    exact absurd hlt (by decide)
  · have hwhole : ¬ [' ', '('] <:+: r.name := by
      rw [hname]
      decide
    rw [hkeep hloss, r.findLocation_name_closing hwhole] at hnone
    cases hnone

/-- **A rebuilt frame is read back exactly if it is rereadable.** -/
theorem read_text_eq_iff : Frame.read r.text = .ok (.frame r.fields) ↔ r.Rereadable := by
  constructor
  · intro h
    have hread := Frame.read_uniformText r.indent_blank r.newline_notMem_text (isRun_ofNat r.line)
      (isRun_ofNat r.column)
    change Frame.read r.text = (Chromium.read r.text).map _ at hread
    rw [hread] at h
    obtain ⟨raw, hraw, h⟩ := Outcome.map_eq_ok_iff.mp h
    obtain ⟨hfields, -⟩ := Frame.of_reading_eq_frame h
    -- a frame comes back with its location found, or under no name at all
    rcases Chromium.read_eq_ok r.newline_notMem_text hraw with
      ⟨name, rest, place, hnamed, hne, hwhole, hlast, hplace, rfl⟩ | ⟨hnone, place, hplace, rfl⟩
    · exact r.rereadable_of_named hnamed hne hwhole hlast hplace hfields
    · exact absurd hfields (r.ne_fields_of_unnamed hnone hplace)
  · exact r.read_text_of_rereadable

end Rebuilt

end Stacktrace
