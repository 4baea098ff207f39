import Stacktrace.Proofs.Frame.Agreement
import Stacktrace.Stack.Division

/-!
# The grammar as a condition on the end of a text

Spelt out from left to right, a frame line has many parts: blanks, the keyword, free text, an at sign,
an opening parenthesis, a file and the place that it ends in, then perhaps a line feed. All parts but
the place may be missing, and free text may hold what stands for the others, so the same line can be
spelt in many ways. None of that matters to the decision:

* `isFrameText_iff_suffix` — a frame line is made of blanks, one line that ends in a place, and at most
  one line feed;
* `isFrameText_iff_spelling` — it is a text that can be spelt out in some way;
* `Value.isFrameLine_iff_suffix` — of all values only such texts are frame lines.
-/

namespace Stacktrace

open Text Numeral

namespace Frame

/-! ## Suffixes -/

/-- A line feed at the end does not matter to the grammar. -/
theorem isFrameText_concat {w s : Text} (hne : s ≠ []) (hs : '\n' ∉ s) :
    isFrameText (w ++ s ++ ['\n']) = isFrameText (w ++ s) := by
  rw [isFrameText, isFrameText, cutFinalNewline_concat, cutFinalNewline_append_of_notMem w hne hs]

/-- Blanks, one line that ends in a place, and at most one line feed make a frame line. -/
theorem isFrameText_of_suffix {w e : Text} {p : Placed} (hw : ∀ c ∈ w, isBlank c = true)
    (hp : '\n' ∉ p.text) (he : e = [] ∨ e = ['\n']) : isFrameText (w ++ p.text ++ e) = true := by
  have hne : p.text ≠ [] := by simp [Placed.text, Placed.place]
  have hline : isFrameText (w ++ p.text) = true := by
    rw [isFrameText_append hw hne hp, isFrameText_text p hp]
  rcases he with rfl | rfl
  · rwa [List.append_nil]
  · rwa [isFrameText_concat hne hp]

/-- Every frame line splits in that way: at its last line feed but one at the very end. -/
theorem exists_suffix_of_isFrameText {s : Text} (h : isFrameText s = true) :
    ∃ (w e : Text) (p : Placed), s = w ++ p.text ++ e ∧ (∀ c ∈ w, isBlank c = true) ∧
      '\n' ∉ p.text ∧ (e = [] ∨ e = ['\n']) := by
  obtain ⟨hblank, hplace⟩ := Bool.and_eq_true_iff.mp h
  have hend := cutFinalNewline_snd_cases s
  have hsplit := cutFinalNewline_append s
  generalize (cutFinalNewline s).1 = body at hblank hplace hsplit
  generalize (cutFinalNewline s).2 = e at hend hsplit
  -- the text is split at its last line feed, behind which there is none
  have hlast : '\n' ∉ body.reverse.takeWhile (· != '\n') := fun hm =>
    absurd (List.mem_takeWhile_imp hm) (by simp)
  rw [← List.reverse_reverse (body.reverse.takeWhile (· != '\n'))] at hplace
  obtain ⟨p, hp⟩ := endsInPlace_reverse_iff.mp hplace
  refine ⟨(body.reverse.dropWhile (· != '\n')).reverse, e, p, ?_, ?_, ?_, hend⟩
  · rw [← hp, ← List.reverse_append, List.takeWhile_append_dropWhile, List.reverse_reverse, hsplit]
  · intro c hc
    exact List.all_eq_true.mp hblank c (List.mem_reverse.mp hc)
  · rw [← hp, List.mem_reverse]
    exact hlast

/-- **The grammar is a condition on the end of a text.** -/
theorem isFrameText_iff_suffix {s : Text} :
    isFrameText s = true ↔ ∃ (w e : Text) (p : Placed), s = w ++ p.text ++ e ∧
      (∀ c ∈ w, isBlank c = true) ∧ '\n' ∉ p.text ∧ (e = [] ∨ e = ['\n']) := by
  constructor
  · exact exists_suffix_of_isFrameText
  · rintro ⟨w, e, p, rfl, hw, hp, he⟩
    exact isFrameText_of_suffix hw hp he

/-! ## Spellings -/

/-- A text that may be missing. -/
def optional (present : Bool) (s : Text) : Text :=
  if present then s else []

/-- The parts of a frame line from left to right. -/
structure Spelling where
  blanks : Text
  /-- Whether the keyword `at` follows. -/
  keyword : Bool
  free : Text
  /-- Whether an at sign follows. -/
  atSign : Bool
  /-- Whether an opening parenthesis follows. -/
  opened : Bool
  /-- More free text, and the place that the line ends in. -/
  location : Placed
  /-- Whether a line feed follows. -/
  ended : Bool
  blanks_blank : ∀ c ∈ blanks, isBlank c = true
  free_line : '\n' ∉ free
  location_line : '\n' ∉ location.text

namespace Spelling

/-- What stands in front of the location on its line. -/
def front (g : Spelling) : Text :=
  optional g.keyword ['a', 't', ' '] ++ g.free ++ optional g.atSign ['@'] ++ optional g.opened ['(']

def text (g : Spelling) : Text :=
  g.blanks ++ (g.front ++ g.location.text) ++ optional g.ended ['\n']

/-- What stands in front of the location is on one line. -/
theorem newline_notMem_front (g : Spelling) : '\n' ∉ g.front := by
  have hoptional {present : Bool} {s : Text} (h : '\n' ∉ s) : '\n' ∉ optional present s := by
    cases present
    · exact List.not_mem_nil
    · exact h
  have hkeyword : '\n' ∉ optional g.keyword ['a', 't', ' '] := hoptional (by decide)
  have hat : '\n' ∉ optional g.atSign ['@'] := hoptional (by decide)
  have hopened : '\n' ∉ optional g.opened ['('] := hoptional (by decide)
  simp [front, hkeyword, hat, hopened, g.free_line]

end Spelling

/-- **Frame lines are the texts that can be spelt out.** All that a spelling says in front of the place
can be said in free text. -/
theorem isFrameText_iff_spelling {s : Text} : isFrameText s = true ↔ ∃ g : Spelling, s = g.text := by
  rw [isFrameText_iff_suffix]
  constructor
  · rintro ⟨w, e, p, rfl, hw, hp, he⟩
    have hend : e = optional (!e.isEmpty) ['\n'] := by
      rcases he with rfl | rfl <;> rfl
    exact ⟨⟨w, false, [], false, false, p, !e.isEmpty, hw, List.not_mem_nil, hp⟩, by
      rw [hend]; simp [Spelling.text, Spelling.front, optional]⟩
  · rintro ⟨g, rfl⟩
    -- keyword, free text, at sign and parenthesis all count as what stands before the place
    refine ⟨g.blanks, optional g.ended ['\n'], g.location.behind (g.front ++ g.location.before), ?_,
      g.blanks_blank, ?_, ?_⟩
    · rw [Spelling.text, Placed.text, ← List.append_assoc g.front]
      rfl
    · have htext : (g.location.behind (g.front ++ g.location.before)).text
          = g.front ++ g.location.text := List.append_assoc _ _ _
      rw [htext, List.mem_append, not_or]
      exact ⟨g.newline_notMem_front, g.location_line⟩
    · cases g.ended
      · exact .inl rfl
      · exact .inr rfl

end Frame

/-- Only texts are taken for lines. -/
theorem Value.isFrameLine_iff {v : Value} :
    v.isFrameLine = true ↔ ∃ s, v = .text s ∧ Frame.isFrameText s = true := by
  constructor
  · intro h
    cases v with
    | text s => exact ⟨s, rfl, h⟩
    | _ => cases h
  · rintro ⟨s, rfl, h⟩
    exact h

/-- **Of all values the frame lines** are the texts that can be spelt out, and these are the texts made
of blanks, one line that ends in a place, and at most one line feed. -/
theorem Value.isFrameLine_iff_suffix (v : Value) :
    (v.isFrameLine = true ↔ ∃ g : Frame.Spelling, v = .text g.text) ∧
    (v.isFrameLine = true ↔ ∃ (w e : Text) (p : Placed), v = .text (w ++ p.text ++ e) ∧
      (∀ c ∈ w, isBlank c = true) ∧ '\n' ∉ p.text ∧ (e = [] ∨ e = ['\n'])) := by
  rw [isFrameLine_iff]
  -- both conditions are about the text inside the value
  refine ⟨⟨?spell, ?spelt⟩, ⟨?split, ?join⟩⟩
  case spell =>
    rintro ⟨s, rfl, h⟩
    obtain ⟨g, rfl⟩ := Frame.isFrameText_iff_spelling.mp h
    exact ⟨g, rfl⟩
  case spelt =>
    rintro ⟨g, rfl⟩
    exact ⟨g.text, rfl, Frame.isFrameText_iff_spelling.mpr ⟨g, rfl⟩⟩
  case split =>
    rintro ⟨s, rfl, h⟩
    obtain ⟨w, e, p, rfl, hw, hp, he⟩ := Frame.isFrameText_iff_suffix.mp h
    exact ⟨w, e, p, rfl, hw, hp, he⟩
  case join =>
    rintro ⟨w, e, p, rfl, hw, hp, he⟩
    exact ⟨_, rfl, Frame.isFrameText_iff_suffix.mpr ⟨w, e, p, rfl, hw, hp, he⟩⟩

end Stacktrace
