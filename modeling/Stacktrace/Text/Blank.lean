import Stacktrace.Text.Basic

/-!
# Blank characters

`isBlank` is the white space of the frame grammar: the ASCII blanks and separators, the two Latin-1
blanks and the space separators, line separator and paragraph separator of Unicode. Indentation,
trimming and the grammar of a frame line all use this one class.
-/

namespace Stacktrace.Text

/-- White space: the controls from tab to carriage return, the four information separators, and
every character that Unicode gives the bidirectional class of a blank or a line break. -/
def isBlank (c : Char) : Bool :=
  let n := c.toNat
  (9 ≤ n && n ≤ 13) || (28 ≤ n && n ≤ 32) || n == 0x85 || n == 0xa0 || n == 0x1680 ||
    (0x2000 ≤ n && n ≤ 0x200a) || n == 0x2028 || n == 0x2029 || n == 0x202f || n == 0x205f ||
    n == 0x3000

/-- The longest blank beginning of a text. -/
def indentation (s : Text) : Text :=
  s.takeWhile isBlank

def trimStart (s : Text) : Text :=
  s.dropWhile isBlank

def trimEnd (s : Text) : Text :=
  (s.reverse.dropWhile isBlank).reverse

def trim (s : Text) : Text :=
  trimEnd (trimStart s)

/-- The blanks that may stand around a number: all but the four information separators. -/
def isPadding (c : Char) : Bool :=
  isBlank c && !(28 ≤ c.toNat && c.toNat ≤ 31)

def trimPadding (s : Text) : Text :=
  ((s.dropWhile isPadding).reverse.dropWhile isPadding).reverse

/-- A text is its indentation followed by the rest. -/
theorem indentation_append_trimStart (s : Text) : indentation s ++ trimStart s = s :=
  List.takeWhile_append_dropWhile

/-- Blanks in front of a text that starts with none are its indentation. -/
theorem indentation_append {w s : Text} (hw : ∀ c ∈ w, isBlank c = true)
    (hs : ∀ c ∈ s.head?, isBlank c = false) : indentation (w ++ s) = w := by
  have h : s.takeWhile isBlank = [] := by
    cases s with
    | nil => rfl
    | cons c s => rw [List.takeWhile_cons_of_neg (by simp [hs c rfl])]
  rw [indentation, List.takeWhile_append_of_pos hw, h, List.append_nil]

/-- Such blanks are what trimming takes away. -/
theorem trimStart_append {w s : Text} (hw : ∀ c ∈ w, isBlank c = true)
    (hs : ∀ c ∈ s.head?, isBlank c = false) : trimStart (w ++ s) = s := by
  have h : s.dropWhile isBlank = s := by
    cases s with
    | nil => rfl
    | cons c s => rw [List.dropWhile_cons_of_neg (by simp [hs c rfl])]
  rw [trimStart, List.dropWhile_append_of_pos hw, h]

/-- A text that ends in something solid has no blanks to lose at its end. -/
theorem trimEnd_concat (s : Text) {c : Char} (h : isBlank c = false) :
    trimEnd (s ++ [c]) = s ++ [c] := by
  rw [trimEnd, List.reverse_append, List.reverse_singleton, List.singleton_append,
    List.dropWhile_cons_of_neg (by simp [h]), List.reverse_cons, List.reverse_reverse]

/-- Line feeds are blank, so indentation may run over line ends. -/
theorem isBlank_newline : isBlank '\n' = true := by decide

theorem isBlank_space : isBlank ' ' = true := by decide

theorem ne_of_isBlank {c d : Char} (hc : isBlank c = true) (hd : isBlank d = false) : c ≠ d := by
  rintro rfl
  exact Bool.noConfusion (hc.symm.trans hd)

/-- A solid text has no blank in it. -/
theorem notMem_of_solid {s : Text} (h : ∀ c ∈ s, isBlank c = false) {c : Char}
    (hc : isBlank c = true) : c ∉ s := fun hm =>
  ne_of_isBlank hc (h c hm) rfl

end Stacktrace.Text
