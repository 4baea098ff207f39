import Stacktrace.Proofs.Error.Normalized

/-!
# Replacing the frames of a stack

A replacement keeps the text of an error and exchanges all that stands below it. So it forgets the
stack that was there, and with it all earlier replacements:

* `ErrorRecord.lines_reframed` — the lines of the new stack are those of the error's text and, below
  them, the frame lines that were kept;
* `replaceStack_lines` — what a replacement returns, and when the new stack divides between the two;
* `ErrorRecord.exists_outcome_replaceEach` — replacements one after the other change nothing but the
  text of the stack, and leave some text there;
* `last_replacement_wins` — so the last of them decides, and its result is normalized.
-/

namespace Stacktrace

open Text

namespace ErrorRecord

variable {r : ErrorRecord} {marker newStack : Text}

/-! ## The new stack -/

/-- A record has a stack if it is there and not empty. -/
theorem hasStackText_iff : r.hasStackText = true ↔ ∃ old, r.stack = some old ∧ old ≠ [] := by
  cases h : r.stack with
  | none => simp [hasStackText, stackText, h]
  | some old => simp [hasStackText, stackText, h]

/-- What is kept of a new stack are its lines from the first frame line on, without the marked ones.
-/
theorem keptFrames_eq (marker newStack : Text) :
    keptFrames marker newStack =
      ((lines newStack).dropWhile fun l => !Frame.isFrameText l).filter
        fun l => !occursIn marker l := by
  rw [keptFrames, divide_frames_eq]

/-- What is kept are lines. -/
theorem newline_notMem_of_mem_keptFrames {l : Text} (h : l ∈ keptFrames marker newStack) :
    '\n' ∉ l := by
  rw [keptFrames_eq] at h
  exact notMem_of_mem_lines ((List.dropWhile_subset _) (List.mem_filter.mp h).1)

/-- **The lines of the new stack** are those of the error's text and the lines that were kept. -/
theorem lines_reframed (r : ErrorRecord) (marker newStack : Text) :
    lines (joinLines (r.toText :: keptFrames marker newStack)) =
      lines r.toText ++ keptFrames marker newStack :=
  lines_joinLines_cons r.toText fun _ => newline_notMem_of_mem_keptFrames

/-- The first line of the new stack is that of the error's text. -/
theorem showsText_reframed (r : ErrorRecord) (marker newStack : Text) :
    (r.reframed marker newStack).showsText = true := by
  have hfirst : (lines (joinLines (r.toText :: keptFrames marker newStack))).head?
      = (lines r.toText).head? := by
    rw [lines_reframed, List.head?_append_of_ne_nil _ (lines_ne_nil _)]
  rw [head?_lines, head?_lines] at hfirst
  rw [reframed, showsText_withStack, Option.some.inj hfirst]

end ErrorRecord

variable {host : Host} {r : ErrorRecord} {marker newStack : Text}

/-- An error with a stack gets the new one. -/
theorem outcome_replaceStack_of_stackText (hhost : ErrorRecord.ofHost host = .ok r)
    (h : r.hasStackText = true) :
    (replaceStack host newStack marker).outcome = .ok (r.reframed marker newStack) := by
  rw [replaceStack, hhost, Run.outcome_bind_of_ok rfl, ErrorRecord.replace, if_pos h]
  rfl

/-- An error without a stack is returned as it is. -/
theorem outcome_replaceStack_of_stackless (hhost : ErrorRecord.ofHost host = .ok r)
    (h : r.hasStackText = false) : (replaceStack host newStack marker).outcome = .ok r := by
  rw [replaceStack, hhost, Run.outcome_bind_of_ok rfl, ErrorRecord.replace, h]
  rfl

/-- **What a replacement returns.** An error without a stack is left alone. Else only the stack
changes: the lines of the error's text are followed by those lines of the new stack, from its first
frame line on, that do not hold the marker. The new stack divides just there if no line of the text
is a frame line and the first line below it is one, and only then. -/
theorem replaceStack_lines (newStack marker : Text) (hhost : ErrorRecord.ofHost host = .ok r) :
    let kept := ((lines newStack).dropWhile fun l => !Frame.isFrameText l).filter
      fun l => !occursIn marker l
    (r.stack = none ∨ r.stack = some [] → (replaceStack host newStack marker).outcome = .ok r) ∧
    ∀ old, r.stack = some old → old ≠ [] → ∃ stack,
      (replaceStack host newStack marker).outcome = .ok (r.withStack stack) ∧
      lines stack = lines r.toText ++ kept ∧
      (Text.divide stack = ⟨.frames, lines r.toText, kept⟩ ↔
        (∀ l ∈ lines r.toText, Frame.isFrameText l = false) ∧
          ∃ l ∈ kept.head?, Frame.isFrameText l = true) := by
  intro kept
  have hkept : ErrorRecord.keptFrames marker newStack = kept :=
    ErrorRecord.keptFrames_eq marker newStack
  constructor
  · -- a missing stack and an empty one are both no stack
    intro hnone
    refine outcome_replaceStack_of_stackless hhost ?_
    rw [← Bool.not_eq_true, ErrorRecord.hasStackText_iff]
    rintro ⟨old, hold, hne⟩
    rw [hold] at hnone
    simp [hne] at hnone
  · intro old hold hne
    have hlines := r.lines_reframed marker newStack
    rw [hkept] at hlines
    refine ⟨joinLines (r.toText :: kept), ?_, hlines, divide_eq_frames_iff hlines⟩
    rw [outcome_replaceStack_of_stackText hhost (ErrorRecord.hasStackText_iff.mpr ⟨old, hold, hne⟩),
      ErrorRecord.reframed, hkept]

/-- Two new stacks for an error: one with a marked frame in it, one without any frame. -/
def markedStack : Text :=
  "Error\n  at __getSpecFrameStack (runner.js:1:1)\n  at spec (spec.js:3:4)\nrest".toList

def framelessStack : Text :=
  "Error: elsewhere".toList

/-- An error that was thrown in an old place. -/
def misplaced : ErrorRecord where
  message := "first\nsecond".toList
  stack := some "Error: first\nsecond\n  at old (a.js:1:1)".toList

/-- The marked frame is left out, and so is the message of the new stack. -/
theorem replaceStack_lines_misplaced : ∃ stack,
    (replaceStack (.record misplaced) markedStack standardFrameMarker).outcome =
      .ok (misplaced.withStack stack) ∧
    Text.divide stack = ⟨.frames, ["Error: first".toList, "second".toList],
      ["  at spec (spec.js:3:4)".toList, "rest".toList]⟩ := by
  obtain ⟨-, hreplaced⟩ := replaceStack_lines markedStack standardFrameMarker
    (show ErrorRecord.ofHost (.record misplaced) = .ok misplaced from rfl)
  obtain ⟨stack, houtcome, -, hdivide⟩ := hreplaced _ rfl (by decide)
  refine ⟨stack, houtcome, ?_⟩
  rw [hdivide.mpr ⟨by decide, by decide⟩]
  rfl

/-! ## One replacement after the other -/

/-- A new stack for an error, and the mark of those frames in it that are left out. -/
structure Replacement where
  newStack : Text
  marker : Text := standardFrameMarker

namespace ErrorRecord

/-- Replaces the frames of a record again and again. -/
def replaceEach (r : ErrorRecord) (replacements : List Replacement) : Run ErrorRecord :=
  replacements.foldlM (fun r p => replaceStack (.record r) p.newStack p.marker) r

/-- One replacement of any stack that is not empty. -/
theorem outcome_replaceStack_withStack {stack : Text} (hne : stack ≠ []) (p : Replacement) :
    (replaceStack (.record (r.withStack stack)) p.newStack p.marker).outcome =
      .ok (r.reframed p.marker p.newStack) := by
  have hread : ofHost (.record (r.withStack stack)) = .ok (r.withStack stack) := rfl
  rw [outcome_replaceStack_of_stackText hread (hasStackText_iff.mpr ⟨stack, rfl, hne⟩)]
  rfl

/-- **However often it is replaced**, a stack stays a stack, and nothing else changes. -/
theorem exists_outcome_replaceEach (htext : r.toText ≠ []) (replacements : List Replacement)
    {stack : Text} (hne : stack ≠ []) : ∃ stack', stack' ≠ [] ∧
      ((r.withStack stack).replaceEach replacements).outcome = .ok (r.withStack stack') := by
  induction replacements generalizing stack with
  | nil => exact ⟨stack, hne, rfl⟩
  | cons p ps ih =>
    -- the error's text is on top of the new stack, so the next replacement finds one
    obtain ⟨stack', hne', hrest⟩ := ih (joinLines_cons_ne_nil htext (keptFrames p.marker p.newStack))
    refine ⟨stack', hne', ?_⟩
    rw [replaceEach, List.foldlM_cons, Run.outcome_bind_of_ok (outcome_replaceStack_withStack hne p)]
    exact hrest

end ErrorRecord

/-- **The last replacement wins.** After any others it returns what it would have returned in their
place, and that is normalized already. -/
theorem last_replacement_wins (earlier : List Replacement) (last : Replacement) {old : Text}
    (hstack : r.stack = some old) (hne : old ≠ []) (htext : r.toText ≠ []) :
    ∃ before result, (r.replaceEach earlier).outcome = .ok before ∧
      (replaceStack (.record before) last.newStack last.marker).outcome = .ok result ∧
      (replaceStack (.record r) last.newStack last.marker).outcome = .ok result ∧
      (normalizeStack (.record result)).outcome = .ok result := by
  have hself : r = r.withStack old := by
    obtain ⟨name, message, stack, parsedStack, codeFrame⟩ := r
    cases hstack
    rfl
  -- whatever came before, there is a stack to replace, and all else is as it was
  obtain ⟨stack, hstack', hbefore⟩ := ErrorRecord.exists_outcome_replaceEach htext earlier hne
  rw [← hself] at hbefore
  refine ⟨r.withStack stack, r.reframed last.marker last.newStack, hbefore,
    ErrorRecord.outcome_replaceStack_withStack hstack' last, ?_, ?_⟩
  · exact outcome_replaceStack_of_stackText rfl (ErrorRecord.hasStackText_iff.mpr ⟨old, hstack, hne⟩)
  · have hnormalized := outcome_normalizeStack
      (show ErrorRecord.ofHost (.record (r.reframed last.marker last.newStack)) = .ok _ from rfl)
    rwa [ErrorRecord.normalized_of_showsText (r.showsText_reframed _ _)] at hnormalized

/-- Frames that were lost to a stack without any come back with the next one. -/
theorem last_replacement_wins_misplaced : ∃ first result,
    (replaceStack (.record misplaced) framelessStack standardFrameMarker).outcome = .ok first ∧
    (replaceStack (.record first) markedStack standardFrameMarker).outcome = .ok result ∧
    (replaceStack (.record misplaced) markedStack standardFrameMarker).outcome = .ok result ∧
    (normalizeStack (.record result)).outcome = .ok result := by
  obtain ⟨first, result, hfirst, hlast, halone, hnormalized⟩ :=
    last_replacement_wins (r := misplaced) [{ newStack := framelessStack }]
      { newStack := markedStack } rfl (by decide) (by decide)
  refine ⟨first, result, ?_, hlast, halone, hnormalized⟩
  -- the list of earlier replacements has one member, so its run is that replacement alone
  rw [← hfirst]
  rfl

end Stacktrace
