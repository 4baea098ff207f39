import Mathlib.Data.List.TakeWhile
import Stacktrace.Text.Basic

/-!
# Lines of a text

Cutting a text at its line feeds and gluing the pieces back together are inverse to each other:

* `joinLines_lines` — the lines of a text, joined, are the text;
* `lines_joinLines` — lines without line feeds, joined, are cut at the same places again;
* `lines_append` — a line feed between two texts separates their lines;
* `lines_joinLines_cons` — lines below a text are cut off it again;
* `prefix_iff_lines` — the beginning of a text, up to a line feed, is the beginning of its lines.

A text without line feeds is its own only line, and nothing is cut off its end.
-/

namespace Stacktrace.Text

/-! ## Texts on one line -/

/-- The characters of a text that lacks a character pass the test for another one. -/
theorem bne_of_notMem {x : Char} {s : Text} (h : x ∉ s) : ∀ c ∈ s, (c != x) = true := by
  intro c hc
  have hne : c ≠ x := fun he => h (he ▸ hc)
  simpa using hne

/-- A text without line feeds has none to cut off. -/
theorem cutFinalNewline_of_notMem {s : Text} (h : '\n' ∉ s) : cutFinalNewline s = (s, []) := by
  induction s with
  | nil => rfl
  | cons c s ih =>
    have hc : c ≠ '\n' := fun he => h (by simp [he])
    have hs : '\n' ∉ s := fun hm => h (List.mem_cons_of_mem c hm)
    -- only a newline in last place is cut, and it is in no place here
    cases s with
    | nil =>
      rw [cutFinalNewline]
      · rfl
      · intro he
        exact absurd he hc
    | cons d s =>
      rw [cutFinalNewline, ih hs]
      intro he
      exact absurd he hc

/-- Cutting loses nothing. -/
theorem cutFinalNewline_append (s : Text) : (cutFinalNewline s).1 ++ (cutFinalNewline s).2 = s := by
  fun_induction cutFinalNewline s with
  | case1 => rfl
  | case2 => rfl
  | case3 c s _ r ih =>
    show c :: ((cutFinalNewline s).1 ++ (cutFinalNewline s).2) = c :: s
    rw [ih]

/-- Only the end of a text is looked at, so a last line without a line feed protects all of it. -/
theorem cutFinalNewline_append_of_notMem (a : Text) {s : Text} (hne : s ≠ []) (h : '\n' ∉ s) :
    cutFinalNewline (a ++ s) = (a ++ s, []) := by
  induction a with
  | nil => exact cutFinalNewline_of_notMem h
  | cons c a ih =>
    -- a line feed at the end of `a` is not the last character of the text
    rw [List.cons_append, cutFinalNewline, ih]
    intro _ he
    exact hne (List.append_eq_nil_iff.mp he).2

/-- One line feed at the end is cut off, whatever stands in front of it. -/
theorem cutFinalNewline_concat (s : Text) : cutFinalNewline (s ++ ['\n']) = (s, ['\n']) := by
  induction s with
  | nil => rfl
  | cons c s ih =>
    rw [List.cons_append, cutFinalNewline, ih]
    -- the text goes on behind its first character, so that is not the line feed at its end
    intro _ he
    simp at he

/-- At most one line feed is cut off. -/
theorem cutFinalNewline_snd_cases (s : Text) :
    (cutFinalNewline s).2 = [] ∨ (cutFinalNewline s).2 = ['\n'] := by
  fun_induction cutFinalNewline s with
  | case1 => exact .inl rfl
  | case2 => exact .inr rfl
  | case3 c s _ r ih => exact ih

/-- A text without line feeds is its own first line. -/
theorem firstLine_of_notMem {s : Text} (h : '\n' ∉ s) : firstLine s = s := by
  unfold firstLine
  rw [List.takeWhile_eq_self_iff]
  exact bne_of_notMem h

/-- The first line of a text ends where the text goes on in a new line. -/
theorem firstLine_append (s t : Text) : firstLine (s ++ '\n' :: t) = firstLine s := by
  induction s with
  | nil => rfl
  | cons c s ih =>
    unfold firstLine at ih ⊢
    rw [List.cons_append, List.takeWhile_cons, List.takeWhile_cons, ih]

/-! ## Cutting and joining -/

/-- Every text has a line, the empty one too. -/
theorem lines_ne_nil (s : Text) : lines s ≠ [] := by
  fun_induction lines s <;> simp

/-- One line feed between two texts separates their lines. -/
theorem lines_append (s t : Text) : lines (s ++ '\n' :: t) = lines s ++ lines t := by
  induction s with
  | nil => rfl
  | cons c s ih =>
    rw [List.cons_append, lines, lines]
    by_cases hc : c = '\n'
    · rw [if_pos hc, if_pos hc, ih]
      rfl
    · rw [if_neg hc, if_neg hc, ih]
      -- the first line of `s` exists and is the one that `c` goes in front of
      cases hl : lines s with
      | nil => exact absurd hl (lines_ne_nil s)
      | cons l ls => rfl

/-- A text without line feeds is its only line. -/
theorem lines_of_notMem {s : Text} (h : '\n' ∉ s) : lines s = [s] := by
  induction s with
  | nil => rfl
  | cons c s ih =>
    have hc : c ≠ '\n' := fun he => h (by simp [he])
    rw [lines, if_neg hc, ih fun hm => h (List.mem_cons_of_mem c hm)]

/-- No line holds a line feed. -/
theorem notMem_of_mem_lines {s l : Text} (h : l ∈ lines s) : '\n' ∉ l := by
  -- by induction on the text; each character joins the first line or opens a new one
  induction s generalizing l with
  | nil =>
    rw [lines, List.mem_singleton] at h
    rw [h]
    exact List.not_mem_nil
  | cons c s ih =>
    rw [lines] at h
    by_cases hc : c = '\n'
    · -- the line feed itself goes: an empty line starts in its place
      rw [if_pos hc] at h
      rcases List.mem_cons.mp h with rfl | hl
      · exact List.not_mem_nil
      · exact ih hl
    · rw [if_neg hc] at h
      cases hs : lines s with
      | nil => exact absurd hs (lines_ne_nil s)
      | cons k ks =>
        rw [hs] at h
        rcases List.mem_cons.mp h with rfl | hl
        · have hk : '\n' ∉ k := ih (by rw [hs]; exact List.mem_cons_self)
          intro hm
          rcases List.mem_cons.mp hm with he | hm
          · exact hc he.symm
          · exact hk hm
        · exact ih (by rw [hs]; exact List.mem_cons_of_mem k hl)

/-- A line in front of others is followed by a line feed. -/
theorem joinLines_cons {l : Text} {ls : List Text} (h : ls ≠ []) :
    joinLines (l :: ls) = l ++ '\n' :: joinLines ls := by
  cases ls with
  | nil => exact absurd rfl h
  | cons k ks => rfl

/-- A text with something on its first line is not empty. -/
theorem joinLines_cons_ne_nil {l : Text} (h : l ≠ []) (ls : List Text) :
    joinLines (l :: ls) ≠ [] := by
  cases ls with
  | nil => exact h
  | cons k ks => simp [joinLines]

/-- Two groups of lines are joined by one line feed. -/
theorem joinLines_append {ls ks : List Text} (hl : ls ≠ []) (hk : ks ≠ []) :
    joinLines (ls ++ ks) = joinLines ls ++ '\n' :: joinLines ks := by
  induction ls with
  | nil => exact absurd rfl hl
  | cons l ls ih =>
    rw [List.cons_append, joinLines_cons (by simp [hk])]
    cases ls with
    | nil => rfl
    | cons m ms =>
      have hcons : joinLines (l :: m :: ms) = l ++ '\n' :: joinLines (m :: ms) := rfl
      rw [ih (by simp), hcons, List.append_assoc]
      rfl

/-- **Joining undoes cutting.** -/
theorem joinLines_lines (s : Text) : joinLines (lines s) = s := by
  induction s with
  | nil => rfl
  | cons c s ih =>
    rw [lines]
    by_cases hc : c = '\n'
    · rw [if_pos hc, joinLines_cons (lines_ne_nil s), ih, hc]
      rfl
    · rw [if_neg hc]
      cases hs : lines s with
      | nil => exact absurd hs (lines_ne_nil s)
      | cons l ls =>
        rw [hs] at ih
        -- `c` goes in front of the first line, whether or not others follow it
        cases ls with
        | nil =>
          show c :: l = c :: s
          rw [← ih]
          rfl
        | cons k ks =>
          show c :: (l ++ '\n' :: joinLines (k :: ks)) = c :: s
          rw [← ih]
          rfl

/-- A line is a piece of the text that it was joined to. -/
theorem infix_joinLines {l : Text} {ls : List Text} (h : l ∈ ls) : l <:+: joinLines ls := by
  induction ls with
  | nil => cases h
  | cons k ks ih =>
    rcases List.mem_cons.mp h with rfl | h
    · cases ks with
      | nil => exact List.infix_rfl
      | cons m ms => exact (List.prefix_append l _).isInfix
    · have hcons := joinLines_cons (l := k) (List.ne_nil_of_mem h)
      have hrest : joinLines ks <:+ joinLines (k :: ks) :=
        ⟨k ++ ['\n'], by rw [hcons, List.append_assoc, List.singleton_append]⟩
      exact (ih h).trans hrest.isInfix

/-- A line is a piece of its text. -/
theorem infix_of_mem_lines {s l : Text} (h : l ∈ lines s) : l <:+: s := by
  have hin := infix_joinLines h
  rwa [joinLines_lines] at hin

/-- **Cutting undoes joining**, where no piece holds a line feed. -/
theorem lines_joinLines {ls : List Text} (hne : ls ≠ []) (h : ∀ l ∈ ls, '\n' ∉ l) :
    lines (joinLines ls) = ls := by
  induction ls with
  | nil => exact absurd rfl hne
  | cons l ls ih =>
    have hl : '\n' ∉ l := h l List.mem_cons_self
    cases ls with
    | nil => exact lines_of_notMem hl
    | cons k ks =>
      -- the line feed that joins the first line to the others is where the text is cut first
      have hks := ih (by simp) fun m hm => h m (List.mem_cons_of_mem l hm)
      rw [joinLines_cons (by simp), lines_append, hks, lines_of_notMem hl]
      rfl

/-- Lines below a text are cut off it again. -/
theorem lines_joinLines_cons (s : Text) {ls : List Text} (h : ∀ l ∈ ls, '\n' ∉ l) :
    lines (joinLines (s :: ls)) = lines s ++ ls := by
  cases ls with
  | nil => rw [joinLines, List.append_nil]
  | cons l ls => rw [joinLines_cons (by simp), lines_append, lines_joinLines (by simp) h]

/-- The first of the lines is the first line. -/
theorem head?_lines (s : Text) : (lines s).head? = some (firstLine s) := by
  induction s with
  | nil => rfl
  | cons c s ih =>
    rw [lines]
    by_cases hc : c = '\n'
    · rw [if_pos hc, hc]
      rfl
    · rw [if_neg hc, firstLine, List.takeWhile_cons_of_pos (by simpa using hc)]
      -- the character goes in front of the first line of the rest
      cases hs : lines s with
      | nil => exact absurd hs (lines_ne_nil s)
      | cons l ls =>
        rw [hs] at ih
        show some (c :: l) = some (c :: firstLine s)
        rw [Option.some.inj ih]

/-- A text that starts with another one and a line feed starts with its lines, and has more. -/
theorem prefix_iff_lines {s t : Text} :
    s ++ ['\n'] <+: t ↔ ∃ rest, rest ≠ [] ∧ lines t = lines s ++ rest := by
  constructor
  · rintro ⟨r, rfl⟩
    refine ⟨lines r, lines_ne_nil r, ?_⟩
    rw [List.append_assoc, List.singleton_append, lines_append]
  · rintro ⟨rest, hne, hlines⟩
    -- what is left of the text is its remaining lines, joined
    refine ⟨joinLines rest, ?_⟩
    rw [← joinLines_lines t, hlines, joinLines_append (lines_ne_nil s) hne, joinLines_lines,
      List.append_assoc, List.singleton_append]

end Stacktrace.Text
