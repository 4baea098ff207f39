import Stacktrace.Proofs.Frame.Placed
import Stacktrace.Proofs.Frame.Reading

/-!
# One frame in two dialects

The same frame can be written as `at name (file:line:column)` and as `name@file:line:column`. The two
readers share no step but the last, and still they say the same of it (`read_both_dialects`).

Indentation may hold line feeds here, and the readers were followed on single lines. So the
indentation is taken off first: `Frame.read_append` says that it is invisible to every stage.
-/

namespace Stacktrace

open Text Numeral

/-! ## Indentation -/

variable {w s : Text}

/-- More indentation in front makes no difference once it is trimmed. -/
theorem Text.trimStart_append_left (hw : ∀ c ∈ w, isBlank c = true) (s : Text) :
    trimStart (w ++ s) = trimStart s :=
  List.dropWhile_append_of_pos hw

/-- Indentation is passed over by unwrapping. -/
theorem Chromium.unwrapEvals_append (hw : ∀ c ∈ w, isBlank c = true) :
    unwrapEvals (w ++ s) = w ++ unwrapEvals s := by
  have hpassed := isPassed_of_isBlank hw
  have hmark : occursIn evalMark (w ++ s) = occursIn evalMark s := by
    rw [Bool.eq_iff_iff, occursIn_iff, occursIn_iff]
    exact infix_append_iff_of_notMem (hpassed '(' (by decide))
  rw [unwrapEvals_eq, unwrapEvals_eq, hmark, unwrapRest_append hpassed]

/-- Indentation is invisible to Chromium's reader. -/
theorem Chromium.read_append (hw : ∀ c ∈ w, isBlank c = true) : read (w ++ s) = read s := by
  have hnamed : namedPart (w ++ s) = namedPart s := by
    rw [namedPart, unwrapEvals_append hw, trimStart_append_left hw]
    rfl
  rw [read_eq, read_eq, hnamed]

/-- Indentation is invisible to Firefox's reader. -/
theorem Firefox.read_append (hw : ∀ c ∈ w, isBlank c = true) : read (w ++ s) = read s := by
  unfold read
  rw [trimStart_append_left hw]

/-- Indentation is invisible to the choice of the reader. -/
theorem Frame.dialect_append (hw : ∀ c ∈ w, isBlank c = true) : dialect (w ++ s) = dialect s := by
  unfold dialect speaksChromium
  rw [trimStart_append_left hw]

/-- **Indentation is invisible** to the reader of a frame line, even if it runs over line ends. -/
theorem Frame.read_append (hw : ∀ c ∈ w, isBlank c = true) (hne : s ≠ []) (hs : '\n' ∉ s) :
    Frame.read (w ++ s) = Frame.read s := by
  have hnative : Firefox.isNativeCode (trim (w ++ s)) = Firefox.isNativeCode (trim s) := by
    rw [trim, trim, trimStart_append_left hw]
  unfold Frame.read
  rw [isFrameText_append hw hne hs, dialect_append hw, Chromium.read_append hw,
    Firefox.read_append hw, hnative]

/-! ## The two forms -/

namespace FrameParts

/-- The same frame at the beginning of a line. -/
def unindented (p : FrameParts) : FrameParts :=
  { p with indent := [], indent_blank := by simp }

/-- The indentation can be split off Chromium's form. -/
theorem chromium_eq_append (p : FrameParts) : p.chromium = p.indent ++ p.unindented.chromium := by
  simp [chromium, uniformText, unindented]

/-- The indentation can be split off Firefox's form. -/
theorem firefox_eq_append (p : FrameParts) : p.firefox = p.indent ++ p.unindented.firefox := by
  simp [firefox, unindented]

/-- A plain frame is plain at the beginning of a line too. -/
theorem PlainFirefox.unindented {p : FrameParts} (h : p.PlainFirefox) :
    p.unindented.PlainFirefox := by
  have hkeyword : ¬ ['a', 't', ' '] <+: trimStart p.unindented.firefox := by
    have hsame : trimStart p.firefox = trimStart p.unindented.firefox := by
      rw [p.firefox_eq_append, trimStart_append_left p.indent_blank]
    rw [← hsame]
    exact h.keyword
  exact ⟨h.name_at, h.name_quote, h.name_chain, h.file_quote, h.file_chain, h.file_line, hkeyword⟩

/-- **The two dialects agree**: a frame on one line, behind any indentation, is read as the same
fields from either form. -/
theorem read_both_dialects (p : FrameParts) (hname : '\n' ∉ p.name) (hplain : p.PlainFirefox)
    (hmark : ¬ Chromium.evalMark <:+: p.chromium) :
    Frame.read p.chromium = .ok (.frame p.fields) ∧
      Frame.read p.firefox = .ok (.frame p.fields) := by
  have hdigit : isDigit '\n' = false := by decide
  have hline := p.line_run.notMem hdigit
  have hcolumn := p.column_run.notMem hdigit
  have hfile := hplain.file_line
  constructor
  · have hnl : '\n' ∉ p.unindented.chromium :=
      newline_notMem_uniformText.mpr ⟨List.not_mem_nil, hname, hfile, hline, hcolumn⟩
    -- without the mark of evaluated code there is nothing to lose
    have hkeep : ¬ Chromium.LosesText p.unindented.chromium := by
      intro hloss
      rw [p.chromium_eq_append] at hmark
      exact hmark (hloss.1.trans (List.suffix_append _ _).isInfix)
    rw [p.chromium_eq_append,
      Frame.read_append p.indent_blank (by simp [chromium, uniformText]) hnl]
    exact p.unindented.read_chromium hnl hkeep
  · have hnl : '\n' ∉ p.unindented.firefox := by
      simp only [firefox, unindented, List.mem_append, List.mem_cons, List.nil_append]
      simp [hname, hfile, hline, hcolumn]
    rw [p.firefox_eq_append, Frame.read_append p.indent_blank (by simp [firefox]) hnl]
    exact p.unindented.read_firefox hnl hplain.unindented

/-- A constructor of a scoped package, served from a port, behind an empty line. -/
def scopedCall : FrameParts :=
  ofTexts "\n\t ".toList "new Runner [as run]/<".toList "http://host:80/@scope/my app:2/a.js".toList
    "007".toList "42".toList (by decide)

/-- A scope and a port in the file, zeros in front of the line, and a wrapper suffix behind the
name. -/
theorem read_both_dialects_scopedCall :
    let fields : FrameFields := {
      functionName := "new Runner [as run]".toList
      file := some "http://host:80/@scope/my app:2/a.js".toList
      line := some 7
      column := some 42 }
    Frame.read "\n\t at new Runner [as run]/< (http://host:80/@scope/my app:2/a.js:007:42)".toList
        = .ok (.frame fields) ∧
      Frame.read "\n\t new Runner [as run]/<@http://host:80/@scope/my app:2/a.js:007:42".toList
        = .ok (.frame fields) := by
  intro fields
  have hfields : fields = scopedCall.fields := by decide
  have hchromium : "\n\t at new Runner [as run]/< (http://host:80/@scope/my app:2/a.js:007:42)".toList
      = scopedCall.chromium := by decide
  have hfirefox : "\n\t new Runner [as run]/<@http://host:80/@scope/my app:2/a.js:007:42".toList
      = scopedCall.firefox := by decide
  have hmark : occursIn Chromium.evalMark scopedCall.chromium = false := by decide
  rw [hfields, hchromium, hfirefox]
  exact read_both_dialects scopedCall (by decide)
    ⟨by decide, by decide, by decide, by decide, by decide, by decide, by decide⟩
    (occursIn_eq_false_iff.mp hmark)

end FrameParts

end Stacktrace
