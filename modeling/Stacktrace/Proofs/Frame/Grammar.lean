import Stacktrace.Frame.Grammar
import Stacktrace.Proofs.Text.Lines
import Stacktrace.Proofs.Text.Numeral
import Stacktrace.Proofs.Text.Search

/-!
# Lines that end in a place

The grammar looks at a line from its right-hand end. On a text without line feeds that is all there
is to it (`isFrameText_of_notMem`), so a line is judged by its last characters alone:

* `isFrameText_place`, `isFrameText_place_paren` — two numerals at the end make a frame line;
* `isFrameText_column_word`, `isFrameText_line_word` — a number that is not written in digits makes
  none;
* `speaksChromium_place` — a line with the keyword and a place behind it speaks Chromium.
-/

namespace Stacktrace.Frame

open Text Numeral

/-! ## The right-hand end -/

/-- On one line the grammar asks for nothing but a place at the end. -/
theorem isFrameText_of_notMem {s : Text} (h : '\n' ∉ s) :
    isFrameText s = endsInPlace s.reverse := by
  have hall : ∀ c ∈ s.reverse, (c != '\n') = true :=
    fun c hc => bne_of_notMem h c (List.mem_reverse.mp hc)
  rw [isFrameText, cutFinalNewline_of_notMem h]
  dsimp only
  rw [List.takeWhile_eq_self_iff.mpr hall, List.dropWhile_eq_nil_iff.mpr hall]
  rfl

/-- From the right, a run and its colon are taken off. -/
theorem dropColonNumeral?_run {d r : Text} (h : IsRun d) :
    dropColonNumeral? (d.reverse ++ ':' :: r) = some r := by
  rw [dropColonNumeral?, cutDigits?_append h.reverse (by simp [isDigit_colon])]
  rfl

/-- A word that ends in a character that is no digit does not end in a numeral. -/
theorem dropColonNumeral?_of_head {c : Char} {r : Text} (h : isDigit c = false) :
    dropColonNumeral? (c :: r) = none := by
  have hcut : cutDigits? (c :: r) = none := by
    rw [cutDigits?, List.takeWhile_cons_of_neg (by simp [h])]
    rfl
  rw [dropColonNumeral?, hcut]

/-- Two numerals at the end are seen from the right. -/
theorem endsInNumerals_place {a l c : Text} (hl : IsRun l) (hc : IsRun c) :
    endsInNumerals (a ++ (':' :: l ++ ':' :: c)).reverse = true := by
  have h : (a ++ (':' :: l ++ ':' :: c)).reverse
      = c.reverse ++ ':' :: (l.reverse ++ ':' :: a.reverse) := by simp
  rw [h, endsInNumerals, dropColonNumeral?_run hc, Option.bind_some, dropColonNumeral?_run hl]
  rfl

/-- So is a place that no parenthesis closes. -/
theorem endsInPlace_place {a l c : Text} (hl : IsRun l) (hc : IsRun c) :
    endsInPlace (a ++ (':' :: l ++ ':' :: c)).reverse = true := by
  rw [endsInPlace]
  · exact endsInNumerals_place hl hc
  · -- the other branch is for a parenthesis at the end, which the column does not have
    intro rest he
    have hmem : ')' ∈ c := by
      obtain ⟨x, xs, hx⟩ := List.exists_cons_of_ne_nil hc.reverse.ne_nil
      have hhead : x = ')' := by
        have h := congrArg List.head? he
        simpa [hx] using h
      rw [← hhead, ← List.mem_reverse, hx]
      exact List.mem_cons_self
    exact hc.notMem (by decide) hmem

/-- **Two numerals at the end make a frame line.** -/
theorem isFrameText_place {a l c : Text} (h : '\n' ∉ a ++ (':' :: l ++ ':' :: c)) (hl : IsRun l)
    (hc : IsRun c) : isFrameText (a ++ (':' :: l ++ ':' :: c)) = true := by
  rw [isFrameText_of_notMem h]
  exact endsInPlace_place hl hc

/-- And so is one that a parenthesis closes. -/
theorem isFrameText_place_paren {a l c : Text}
    (h : '\n' ∉ a ++ (':' :: l ++ ':' :: (c ++ [')']))) (hl : IsRun l) (hc : IsRun c) :
    isFrameText (a ++ (':' :: l ++ ':' :: (c ++ [')']))) = true := by
  have hrev : (a ++ (':' :: l ++ ':' :: (c ++ [')']))).reverse
      = ')' :: (a ++ (':' :: l ++ ':' :: c)).reverse := by simp
  rw [isFrameText_of_notMem h, hrev]
  exact endsInNumerals_place hl hc

/-- A column that is a word makes no frame line. -/
theorem isFrameText_column_word {a word : Text} {x : Char} (h : '\n' ∉ a ++ (word ++ [x, ')']))
    (hx : isDigit x = false) : isFrameText (a ++ (word ++ [x, ')'])) = false := by
  have hrev : (a ++ (word ++ [x, ')'])).reverse = ')' :: x :: (word.reverse ++ a.reverse) := by
    simp
  rw [isFrameText_of_notMem h, hrev, endsInPlace, endsInNumerals, dropColonNumeral?_of_head hx]
  rfl

/-- Neither does a line number that is a word, in front of a column that is none. -/
theorem isFrameText_line_word {a word c : Text} {x : Char}
    (h : '\n' ∉ a ++ (word ++ x :: ':' :: (c ++ [')']))) (hc : IsRun c) (hx : isDigit x = false) :
    isFrameText (a ++ (word ++ x :: ':' :: (c ++ [')']))) = false := by
  have hrev : (a ++ (word ++ x :: ':' :: (c ++ [')']))).reverse
      = ')' :: (c.reverse ++ ':' :: (x :: (word.reverse ++ a.reverse))) := by simp
  rw [isFrameText_of_notMem h, hrev, endsInPlace, endsInNumerals, dropColonNumeral?_run hc,
    Option.bind_some, dropColonNumeral?_of_head hx]
  rfl

/-! ## The keyword -/

/-- A colon between a character that is not blank and a digit is found. -/
theorem hasColonDigit_append {a r : Text} {x y : Char} (solid : Bool) (hx : isBlank x = false)
    (hy : isDigit y = true) : hasColonDigit solid (a ++ x :: ':' :: y :: r) = true := by
  induction a generalizing solid with
  | nil =>
    rw [List.nil_append, hasColonDigit, hasColonDigit, hx]
    simp [hy]
  | cons b a ih =>
    rw [List.cons_append, hasColonDigit, ih]
    exact Bool.or_true _

/-- **The keyword with a place behind it**: such a line speaks Chromium. -/
theorem speaksChromium_place {w a l c r : Text} (hw : ∀ c ∈ w, isBlank c = true)
    (h : '\n' ∉ a ++ (':' :: l ++ ':' :: (c ++ r))) (hl : IsRun l) (hc : IsRun c) :
    speaksChromium (w ++ (['a', 't', ' '] ++ (a ++ (':' :: l ++ ':' :: (c ++ r))))) = true := by
  have htrim := trimStart_append (s := ['a', 't', ' '] ++ (a ++ (':' :: l ++ ':' :: (c ++ r)))) hw
    (by simp; decide)
  rw [speaksChromium, htrim, dropPrefix?_eq_some_iff.mpr rfl]
  dsimp only
  rw [firstLine_of_notMem h, Bool.or_eq_true]
  left
  -- the colon in front of the column stands behind the last digit of the line
  obtain ⟨d, x, rfl⟩ := (List.eq_nil_or_concat l).resolve_left hl.ne_nil
  obtain ⟨y, ys, rfl⟩ := List.exists_cons_of_ne_nil hc.ne_nil
  have hx : isBlank x = false := isBlank_of_isDigit (hl.digits x (by simp))
  have hy : isDigit y = true := hc.digits y List.mem_cons_self
  have hcolon := hasColonDigit_append (a := a ++ ':' :: d) (r := ys ++ r) false hx hy
  simpa using hcolon

/-- Without the keyword a line does not speak Chromium. -/
theorem speaksChromium_of_trimStart {s : Text} (h : ¬ ['a', 't', ' '] <+: trimStart s) :
    speaksChromium s = false := by
  have hnone : dropPrefix? ['a', 't', ' '] (trimStart s) = none := by
    rw [Option.eq_none_iff_forall_ne_some]
    intro r hr
    exact h ⟨r, (dropPrefix?_eq_some_iff.mp hr).symm⟩
  rw [speaksChromium, hnone]

end Stacktrace.Frame
