import Stacktrace.Proofs.Error.Normalized
import Stacktrace.Proofs.Stack.FrameLines

/-!
# Inspecting the stack of an error

A host may ask at any time whether a stack has frames and whether its error comes from internal code.
Both answers depend on one line of the stack, the first that is a frame line:

* `ErrorRecord.firstFrame?` — that line;
* `ErrorRecord.hasFrames_iff_firstFrame?`, `ErrorRecord.isInternal_iff` — the two answers;
* `ErrorRecord.firstFrame?_normalized` — a header of plain lines leaves that line the first one;
* `ErrorRecord.firstFrame?_withStack_append` — so do any lines below it;
* `inspection_stable` — what this means for a host that asks before or after.
-/

namespace Stacktrace

open Text

namespace ErrorRecord

variable {r : ErrorRecord} {origin stack l : Text}

/-- The first frame line of the stack. -/
def firstFrame? (r : ErrorRecord) : Option Text :=
  r.stack.bind fun stack => (lines stack).find? Frame.isFrameText

/-- The first frame line of a stack is looked for among its lines. -/
theorem firstFrame?_of_stack (h : r.stack = some stack) :
    r.firstFrame? = (lines stack).find? Frame.isFrameText := by
  rw [firstFrame?, h]
  rfl

/-- A missing stack has no frame line, and neither has an empty one. -/
theorem firstFrame?_eq_find?_stackText (r : ErrorRecord) :
    r.firstFrame? = (lines r.stackText).find? Frame.isFrameText := by
  cases h : r.stack with
  | none =>
    rw [firstFrame?, stackText, h]
    rfl
  | some stack => rw [firstFrame?_of_stack h, stackText, h, Option.getD_some]

/-- The frames of a stack start with its first frame line. -/
theorem head?_frames_eq (r : ErrorRecord) :
    (divideStack r.stack).frames.head? = r.firstFrame? := by
  cases h : r.stack with
  | none =>
    rw [firstFrame?, h]
    rfl
  | some stack =>
    rw [divideStack, divide_frames_eq, firstFrame?_of_stack h, List.find?_eq_head?_dropWhile_not]

/-! ## The two answers -/

/-- An error has frames if there is a first frame line. -/
theorem hasFrames_iff_firstFrame? : r.hasFrames = true ↔ ∃ l, r.firstFrame? = some l := by
  rw [← head?_frames_eq, hasFrames_eq]
  cases (divideStack r.stack).frames <;> simp

/-- An error is internal if its first frame line mentions the origin. -/
theorem isInternal_iff :
    r.isInternal origin = true ↔ ∃ l, r.firstFrame? = some l ∧ origin <:+: l := by
  rw [← head?_frames_eq, isInternal]
  cases (divideStack r.stack).frames with
  | nil => simp
  | cons l ls => simp [occursIn_iff]

/-- **The answers follow the first frame line**: where it is the same, so are they. -/
theorem answers_congr {s : ErrorRecord} (h : s.firstFrame? = r.firstFrame?) (origin : Text) :
    s.hasFrames = r.hasFrames ∧ s.isInternal origin = r.isInternal origin := by
  constructor
  · rw [Bool.eq_iff_iff, hasFrames_iff_firstFrame?, hasFrames_iff_firstFrame?, h]
  · rw [Bool.eq_iff_iff, isInternal_iff, isInternal_iff, h]

/-! ## Lines above and below -/

/-- **Normalization puts plain lines on top**, so the first frame line stays the first. -/
theorem firstFrame?_normalized (h : ∀ l ∈ lines r.toText, Frame.isFrameText l = false) :
    r.normalized.firstFrame? = r.firstFrame? := by
  unfold normalized
  split
  · rfl
  · -- none of the lines on top is a frame line, so the search passes over them
    have hplain : (lines r.toText).find? Frame.isFrameText = none := by
      rw [List.find?_eq_none]
      intro l hl
      rw [h l hl]
      decide
    have hstack : r.headed.stack = some (r.toText ++ '\n' :: r.stackText) := rfl
    rw [firstFrame?_of_stack hstack, lines_append, List.find?_append, hplain, Option.none_or,
      firstFrame?_eq_find?_stackText]

/-- **Lines below the first frame line** do not come before it. -/
theorem firstFrame?_withStack_append (hstack : r.stack = some stack)
    (h : ∃ l ∈ lines stack, Frame.isFrameText l = true) (t : Text) :
    (r.withStack (stack ++ '\n' :: t)).firstFrame? = r.firstFrame? := by
  have hgrown : (r.withStack (stack ++ '\n' :: t)).stack = some (stack ++ '\n' :: t) := rfl
  rw [firstFrame?_of_stack hgrown, lines_append, List.find?_append,
    Option.or_of_isSome (List.find?_isSome.mpr h), firstFrame?_of_stack hstack]

end ErrorRecord

/-- A host that can be read is internal exactly if its record is. -/
theorem outcome_isInternal {host : Host} {r : ErrorRecord} (h : ErrorRecord.ofHost host = .ok r)
    (origin : Text) : (isInternal host origin).outcome = .ok (r.isInternal origin) := by
  unfold isInternal
  rw [h]
  rfl

/-- What a host is told about an error: whether it has frames, and whether it is internal. -/
structure Tells (host : Host) (origin : Text) (found internal : Bool) : Prop where
  hasStack : (hasStack host).outcome = .ok found
  isInternal : (isInternal host origin).outcome = .ok internal

/-- A host that can be read is told what its record says. -/
theorem tells_of_ofHost {host : Host} {r : ErrorRecord} (h : ErrorRecord.ofHost host = .ok r)
    (origin : Text) : Tells host origin r.hasFrames (r.isInternal origin) :=
  ⟨outcome_hasStack h, outcome_isInternal h origin⟩

/-- A record with the same first frame line is told the same. -/
theorem tells_of_firstFrame? {r s : ErrorRecord} (h : s.firstFrame? = r.firstFrame?)
    (origin : Text) : Tells (.record s) origin r.hasFrames (r.isInternal origin) := by
  obtain ⟨hframes, hinternal⟩ := ErrorRecord.answers_congr h origin
  rw [← hframes, ← hinternal]
  exact tells_of_ofHost rfl origin

/-- **It does not matter when a host asks.** Both questions are answered, by the first frame line of
the stack: there is one, or it mentions the origin. So no error is internal without a frame. The
answers stay the same when the error is normalized, unless its text holds frame lines, and when
anything is appended to a stack that has a frame line. -/
theorem inspection_stable {host : Host} {r : ErrorRecord} (hhost : ErrorRecord.ofHost host = .ok r)
    (origin : Text) :
    ∃ found internal, Tells host origin found internal ∧
      (found = true ↔ ∃ l, r.firstFrame? = some l) ∧
      (internal = true ↔ ∃ l, r.firstFrame? = some l ∧ origin <:+: l) ∧
      (internal = true → found = true) ∧
      ((∀ l ∈ lines r.toText, Frame.isFrameText l = false) →
        ∃ normal, (normalizeStack host).outcome = .ok normal ∧
          Tells (.record normal) origin found internal) ∧
      ∀ stack, r.stack = some stack → (∃ l ∈ lines stack, Frame.isFrameText l = true) →
        ∀ t, Tells (.record (r.withStack (stack ++ '\n' :: t))) origin found internal := by
  refine ⟨r.hasFrames, r.isInternal origin, tells_of_ofHost hhost origin,
    ErrorRecord.hasFrames_iff_firstFrame?, ErrorRecord.isInternal_iff, ?_, ?_, ?_⟩
  · -- what is internal mentions the origin in a frame line, so there is one
    intro hinternal
    obtain ⟨l, hl, -⟩ := ErrorRecord.isInternal_iff.mp hinternal
    exact ErrorRecord.hasFrames_iff_firstFrame?.mpr ⟨l, hl⟩
  · intro hplain
    exact ⟨r.normalized, outcome_normalizeStack hhost,
      tells_of_firstFrame? (ErrorRecord.firstFrame?_normalized hplain) origin⟩
  · intro stack hstack hframe t
    exact tells_of_firstFrame? (ErrorRecord.firstFrame?_withStack_append hstack hframe t) origin

/-- An error of the runner's own code, in an engine that shows frames only. -/
def runnerError : ErrorRecord where
  message := "first\nsecond".toList
  stack := some "run@cypress://runner.js:1:2\nspec@spec.js:3:4".toList

/-- An error of two lines whose first frame is the runner's own: it stays internal with its text on
top and a frame below. -/
theorem inspection_stable_runnerError :
    (∃ normal, (normalizeStack (.record runnerError)).outcome = .ok normal ∧
      Tells (.record normal) standardInternalOrigin true true) ∧
    Tells (.record (runnerError.withStack
        "run@cypress://runner.js:1:2\nspec@spec.js:3:4\nmore@app.js:5:6\n".toList))
      standardInternalOrigin true true := by
  have hhost : ErrorRecord.ofHost (.record runnerError) = .ok runnerError := rfl
  obtain ⟨found, internal, -, hfound, hinternal, -, hnormal, hgrown⟩ :=
    inspection_stable hhost standardInternalOrigin
  have hfirst : runnerError.firstFrame? = some "run@cypress://runner.js:1:2".toList := by decide
  have horigin : occursIn standardInternalOrigin "run@cypress://runner.js:1:2".toList = true := by
    decide
  obtain rfl : found = true := hfound.mpr ⟨_, hfirst⟩
  obtain rfl : internal = true := hinternal.mpr ⟨_, hfirst, occursIn_iff.mp horigin⟩
  exact ⟨hnormal (by decide), hgrown _ rfl (by decide) "more@app.js:5:6\n".toList⟩

end Stacktrace
