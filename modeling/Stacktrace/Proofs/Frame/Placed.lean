import Stacktrace.Proofs.Frame.Grammar
import Stacktrace.Proofs.Frame.Place

/-!
# Texts that end in a full place

`Placed` is a text with two numerals at its end, and perhaps a parenthesis that closes it, taken apart
at the colons. Both the classifier and the reader of locations are about such texts:

* `isFrameText_iff_placed` — a line is a frame line exactly if it has this form;
* `isFrameText_append` — indentation in front of it changes nothing, even if it runs over line ends;
* `Place.read_placed` — reading it gives the two numerals, unless nothing but parentheses stands in
  front of them: then the first numeral is taken for the file.
-/

namespace Stacktrace

open Text Numeral

/-- A text that ends in a full place. -/
structure Placed where
  before : Text
  line : Text
  column : Text
  /-- Whether a parenthesis follows the column. -/
  closed : Bool
  line_run : IsRun line
  column_run : IsRun column

namespace Placed

def closing (p : Placed) : Text :=
  if p.closed then [')'] else []

/-- The numerals with their colons, and what follows them. -/
def place (p : Placed) : Text :=
  ':' :: (p.line ++ ':' :: (p.column ++ p.closing))

def text (p : Placed) : Text :=
  p.before ++ p.place

/-- The same place behind another text. -/
def behind (p : Placed) (a : Text) : Placed :=
  { p with before := a }

/-- The text ends in its place. -/
theorem place_suffix_text (p : Placed) : p.place <:+ p.text :=
  List.suffix_append _ _

/-- Whatever ends in the place is a text with the same place at its end. -/
theorem exists_of_suffix {p : Placed} {s : Text} (h : p.place <:+ s) : ∃ a, s = (p.behind a).text := by
  obtain ⟨a, rfl⟩ := h
  exact ⟨a, rfl⟩

/-- A place consists of digits, colons and a parenthesis. -/
theorem notMem_place (p : Placed) {c : Char} (hd : isDigit c = false) (hcolon : c ≠ ':')
    (hparen : c ≠ ')') : c ∉ p.place := by
  have hclosing : c ∉ p.closing := by
    unfold closing
    split <;> simp [hparen]
  simp [place, hcolon, hclosing, p.line_run.notMem hd, p.column_run.notMem hd]

/-- There is no blank in a place. -/
theorem blank_notMem_place (p : Placed) {c : Char} (hc : isBlank c = true) : c ∉ p.place := by
  refine p.notMem_place ?_ (ne_of_isBlank hc (by decide)) (ne_of_isBlank hc (by decide))
  rw [Bool.eq_false_iff]
  exact fun hd => ne_of_isBlank hc (isBlank_of_isDigit hd) rfl

/-- Its first colon is not blank, so blanks in front of the text do not reach it. -/
theorem place_suffix_dropWhile (p : Placed) {s : Text} (h : p.place <:+ s) :
    p.place <:+ s.dropWhile isBlank :=
  suffix_dropWhile (by decide) h

/-- Taking the indentation away leaves the place. -/
theorem place_suffix_trimStart (p : Placed) : p.place <:+ trimStart p.text :=
  p.place_suffix_dropWhile p.place_suffix_text

/-- A placed line has a colon behind its indentation. -/
theorem colon_mem_trimStart (p : Placed) : ':' ∈ trimStart p.text :=
  p.place_suffix_trimStart.mem List.mem_cons_self

/-- The line stands in the text. -/
theorem line_infix_text (p : Placed) : p.line <:+: p.text :=
  ⟨p.before ++ [':'], ':' :: (p.column ++ p.closing), by simp [text, place]⟩

/-- So does the column. -/
theorem column_infix_text (p : Placed) : p.column <:+: p.text :=
  ⟨p.before ++ (':' :: (p.line ++ [':'])), p.closing, by simp [text, place]⟩

end Placed

/-! ## The grammar -/

namespace Frame

/-- From the right, a run and the colon in front of it are taken off. -/
theorem dropColonNumeral?_eq_some_iff {s r : Text} :
    dropColonNumeral? s = some r ↔ ∃ d, IsRun d ∧ s = d ++ ':' :: r := by
  constructor
  · intro h
    unfold dropColonNumeral? at h
    split at h
    · next d rest hcut =>
      cases h
      exact ⟨d, of_cutDigits? hcut⟩
    · cases h
  · rintro ⟨d, hd, rfl⟩
    rw [dropColonNumeral?, cutDigits?_append hd (by simp [isDigit_colon])]
    rfl

/-- From the right, two numerals with their colons are found. -/
theorem endsInNumerals_iff {s : Text} :
    endsInNumerals s = true ↔
      ∃ c l a, IsRun c ∧ IsRun l ∧ s = c ++ ':' :: (l ++ ':' :: a) := by
  rw [endsInNumerals, Option.isSome_iff_exists]
  simp only [Option.bind_eq_some_iff, dropColonNumeral?_eq_some_iff]
  constructor
  · rintro ⟨a, r, ⟨c, hc, rfl⟩, l, hl, rfl⟩
    exact ⟨c, l, a, hc, hl, rfl⟩
  · rintro ⟨c, l, a, hc, hl, rfl⟩
    exact ⟨a, _, ⟨c, hc, rfl⟩, l, hl, rfl⟩

/-- The look from the right-hand end finds exactly the texts that end in a place. -/
theorem endsInPlace_reverse_iff {s : Text} :
    endsInPlace s.reverse = true ↔ ∃ p : Placed, s = p.text := by
  constructor
  · intro h
    rw [endsInPlace.eq_def] at h
    split at h
    · -- a parenthesis at the end is passed over once, so the place is a closed one
      next rest hrev =>
      obtain ⟨c, l, a, hc, hl, rfl⟩ := endsInNumerals_iff.mp h
      refine ⟨⟨a.reverse, l.reverse, c.reverse, true, hl.reverse, hc.reverse⟩, ?_⟩
      have hs := congrArg List.reverse hrev
      simpa [Placed.text, Placed.place, Placed.closing] using hs
    · obtain ⟨c, l, a, hc, hl, hrev⟩ := endsInNumerals_iff.mp h
      refine ⟨⟨a.reverse, l.reverse, c.reverse, false, hl.reverse, hc.reverse⟩, ?_⟩
      have hs := congrArg List.reverse hrev
      simpa [Placed.text, Placed.place, Placed.closing] using hs
  · rintro ⟨p, rfl⟩
    cases hclosed : p.closed with
    | true =>
      have hrev : p.text.reverse
          = ')' :: (p.before ++ (':' :: p.line ++ ':' :: p.column)).reverse := by
        simp [Placed.text, Placed.place, Placed.closing, hclosed]
      rw [hrev, endsInPlace]
      exact endsInNumerals_place p.line_run p.column_run
    | false =>
      have htext : p.text = p.before ++ (':' :: p.line ++ ':' :: p.column) := by
        simp [Placed.text, Placed.place, Placed.closing, hclosed]
      rw [htext]
      exact endsInPlace_place p.line_run p.column_run

/-- **The frame lines** are the lines that end in a place. -/
theorem isFrameText_iff_placed {s : Text} (h : '\n' ∉ s) :
    isFrameText s = true ↔ ∃ p : Placed, s = p.text := by
  rw [isFrameText_of_notMem h, endsInPlace_reverse_iff]

/-- Blanks in front of a text do not make a place of its end. -/
theorem endsInPlace_append {w s : Text} (hw : ∀ c ∈ w, isBlank c = true) :
    endsInPlace (w ++ s).reverse = endsInPlace s.reverse := by
  rw [Bool.eq_iff_iff, endsInPlace_reverse_iff, endsInPlace_reverse_iff]
  constructor
  · rintro ⟨p, hp⟩
    -- a place starts with a colon, so the leading blanks are none of it
    have hsuffix : p.place <:+ s.dropWhile isBlank := by
      rw [← List.dropWhile_append_of_pos hw, hp]
      exact p.place_suffix_dropWhile p.place_suffix_text
    obtain ⟨a, ha⟩ := Placed.exists_of_suffix (hsuffix.trans (List.dropWhile_suffix _))
    exact ⟨p.behind a, ha⟩
  · rintro ⟨p, rfl⟩
    exact ⟨p.behind (w ++ p.before), (List.append_assoc w p.before p.place).symm⟩

/-- **Indentation does not matter to the grammar**, with or without line feeds in it. -/
theorem isFrameText_append {w s : Text} (hw : ∀ c ∈ w, isBlank c = true) (hne : s ≠ [])
    (hs : '\n' ∉ s) : isFrameText (w ++ s) = isFrameText s := by
  have hall : ∀ c ∈ s.reverse, (c != '\n') = true :=
    fun c hc => bne_of_notMem hs c (List.mem_reverse.mp hc)
  -- of the indentation only its last line is looked at for a place, and the rest for blanks
  have hblank : (w.reverse.dropWhile (· != '\n')).all isBlank = true := by
    rw [List.all_eq_true]
    exact fun c hc => hw c (List.mem_reverse.mp ((List.dropWhile_suffix _).mem hc))
  have hlast : ∀ c ∈ (w.reverse.takeWhile (· != '\n')).reverse, isBlank c = true :=
    fun c hc => hw c (List.mem_reverse.mp
      ((List.takeWhile_prefix _).mem (List.mem_reverse.mp hc)))
  -- the line itself is the last one, so the place is looked for in it and in the blanks in front
  rw [isFrameText, cutFinalNewline_append_of_notMem w hne hs]
  dsimp only
  rw [List.reverse_append, List.dropWhile_append_of_pos hall, List.takeWhile_append_of_pos hall,
    hblank, Bool.true_and, isFrameText_of_notMem hs, ← endsInPlace_append hlast,
    List.reverse_append, List.reverse_reverse]

end Frame

/-! ## Reading a place -/

namespace Place

/-- The parenthesis behind a place is dropped. -/
theorem dropParentheses_closing (p : Placed) : dropParentheses p.closing = [] := by
  unfold Placed.closing
  split <;> rfl

/-- No numeral has parentheses to drop. -/
theorem dropParentheses_run {d : Text} (h : IsRun d) : dropParentheses d = d :=
  dropParentheses_of_notMem (h.notMem (by decide)) (h.notMem (by decide))

/-- Dropping parentheses leaves the numerals and what is left in front of them. -/
theorem dropParentheses_placed (p : Placed) :
    dropParentheses p.text = dropParentheses p.before ++ (':' :: p.line ++ ':' :: p.column) := by
  have hsplit : p.text = p.before ++ ([':'] ++ (p.line ++ ([':'] ++ (p.column ++ p.closing)))) := rfl
  have hcolon : dropParentheses [':'] = [':'] := rfl
  rw [hsplit]
  simp only [dropParentheses_append, dropParentheses_run p.line_run,
    dropParentheses_run p.column_run, dropParentheses_closing, hcolon, List.append_nil]
  rfl

/-- **Reading a full place.** In front of a file the two numerals are line and column. If only
parentheses stand there, the first numeral is the file and the second one the line. -/
theorem read_placed (p : Placed) (h : '\n' ∉ p.text) :
    read p.text =
      if dropParentheses p.before = [] then
        (Numeral.read p.column).map fun n => ⟨some (':' :: p.line), some n, none⟩
      else do
        let l ← Numeral.read p.line
        let c ← Numeral.read p.column
        return ⟨some (dropParentheses p.before), some l, some c⟩ := by
  have hcolon : ':' ∈ p.text := by simp [Placed.text, Placed.place]
  rw [read_of_colon h hcolon, dropParentheses_placed]
  -- with nothing before the place, the first numeral has no file and becomes one
  by_cases hbefore : dropParentheses p.before = []
  · rw [if_pos hbefore, hbefore, List.nil_append, List.cons_append,
      cut_numerals p.line_run p.column_run]
    dsimp only [readNumeral?]
    cases Numeral.read p.column <;> rfl
  · rw [if_neg hbefore, cut_place hbefore p.line_run p.column_run]
    dsimp only [readNumeral?]
    cases Numeral.read p.line with
    | error e => rfl
    | ok l => cases Numeral.read p.column <;> rfl

end Place

end Stacktrace
