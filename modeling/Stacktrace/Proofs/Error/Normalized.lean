import Stacktrace.Error.Stack
import Stacktrace.Proofs.Stack.Division
import Stacktrace.Proofs.Text.Lines
import Stacktrace.Proofs.Text.Search

/-!
# Normalized records

A record is normalized by its own text above its stack, unless the stack shows that text already.
What counts as showing it is a matter of two lines, the first of the text and the first of the stack:

* `ErrorRecord.normalized` — what normalization gives; it is about the stack only
  (`ErrorRecord.normalized_eq`);
* `ErrorRecord.normalized_normalized` — a normalized record shows its text and stays as it is;
* `normalizeStack_of_messageless` — a stack without a message gets one in this way, unless its first
  frame line happens to hold the first line of the error's text.
-/

namespace Stacktrace

open Text

namespace ErrorRecord

variable {r : ErrorRecord}

/-- The record that `normalize` gives, without its log. -/
def normalized (r : ErrorRecord) : ErrorRecord :=
  if r.showsText then r else r.headed

/-- Normalizing never fails, and gives the normalized record. -/
theorem outcome_normalize (r : ErrorRecord) : r.normalize.outcome = .ok r.normalized := by
  unfold normalize normalized
  split <;> rfl

/-- Normalizing asks the resolver nothing. -/
theorem queries_normalize (r : ErrorRecord) : r.normalize.queries = [] := by
  unfold normalize
  split <;> rfl

/-- Normalization is about the stack only. -/
theorem normalized_eq (r : ErrorRecord) :
    r.normalized = { r with stack := r.normalized.stack } := by
  unfold normalized
  split <;> rfl

/-- Normalization keeps the name. -/
@[simp] theorem normalized_name (r : ErrorRecord) : r.normalized.name = r.name := by
  rw [normalized_eq]

/-- Normalization keeps the message. -/
@[simp] theorem normalized_message (r : ErrorRecord) : r.normalized.message = r.message := by
  rw [normalized_eq]

/-- Normalization keeps the code frame. -/
@[simp] theorem normalized_codeFrame (r : ErrorRecord) : r.normalized.codeFrame = r.codeFrame := by
  rw [normalized_eq]

/-- Normalization keeps the parsed stack. -/
theorem normalized_parsedStack (r : ErrorRecord) : r.normalized.parsedStack = r.parsedStack := by
  rw [normalized_eq]

/-! ## Showing the text -/

/-- A stack shows the text of its error if its first line holds the first line of that text. -/
theorem showsText_iff {stack : Text} (h : r.stack = some stack) :
    r.showsText = true ↔ firstLine r.toText <:+: firstLine stack := by
  rw [showsText, occursIn_iff, stackText, h, Option.getD_some]

/-- The text of an error is the same over any stack. -/
theorem showsText_withStack (r : ErrorRecord) (stack : Text) :
    (r.withStack stack).showsText = true ↔ firstLine r.toText <:+: firstLine stack :=
  showsText_iff rfl

/-- With the text on top of it, a stack shows the text. -/
theorem showsText_headed (r : ErrorRecord) : r.headed.showsText = true := by
  rw [headed, showsText_withStack, firstLine_append]

/-- A normalized record shows its text. -/
theorem showsText_normalized (r : ErrorRecord) : r.normalized.showsText = true := by
  unfold normalized
  split
  · next hshows => exact hshows
  · exact r.showsText_headed

/-- A record that shows its text is normalized already. -/
theorem normalized_of_showsText (h : r.showsText = true) : r.normalized = r :=
  if_pos h

/-- **A normalized record stays as it is.** -/
theorem normalized_normalized (r : ErrorRecord) : r.normalized.normalized = r.normalized :=
  normalized_of_showsText r.showsText_normalized

end ErrorRecord

variable {host : Host} {r : ErrorRecord}

/-- A host that can be read is normalized as the record that it is read as. -/
theorem outcome_normalizeStack (hhost : ErrorRecord.ofHost host = .ok r) :
    (normalizeStack host).outcome = .ok r.normalized := by
  rw [normalizeStack, hhost]
  exact (Run.outcome_bind_of_ok rfl).trans r.outcome_normalize

/-- Normalizing a host asks the resolver nothing. -/
theorem queries_normalizeStack (hhost : ErrorRecord.ofHost host = .ok r) :
    (normalizeStack host).queries = [] := by
  rw [normalizeStack, hhost]
  exact (Run.queries_bind_of_ok rfl).trans r.queries_normalize

/-! ## Stacks without a message -/

/-- A text on top of a stack makes its first line a message, unless that line is a frame line. -/
theorem head?_messages_append {text : Text} (h : Frame.isFrameText (firstLine text) = false)
    (stack : Text) :
    (Text.divide (text ++ '\n' :: stack)).messages.head? = some (firstLine text) := by
  have hhead : (lines (text ++ '\n' :: stack)).head? = some (firstLine text) := by
    rw [head?_lines, firstLine_append]
  obtain ⟨rest, hlines⟩ := List.head?_eq_some_iff.mp hhead
  rw [divide_messages_eq, hlines, List.takeWhile_cons_of_pos (by simp [h])]
  rfl

/-- **A stack without a message gets the text of its error**, unless its first frame line holds the
first line of that text. Then the record stays as it is, and its stack goes on without a message. -/
theorem normalizeStack_of_messageless {stack : Text} (hhost : ErrorRecord.ofHost host = .ok r)
    (hstack : r.stack = some stack) (hmessageless : (Text.divide stack).messages = [])
    (hfirst : Frame.isFrameText (firstLine r.toText) = false) :
    ∃ result, (normalizeStack host).outcome = .ok result ∧
      (¬ firstLine r.toText <:+: firstLine stack →
        result = r.withStack (r.toText ++ '\n' :: stack)) ∧
      (firstLine r.toText <:+: firstLine stack → result = r) ∧
      ((divideStack result.stack).messages.head? = some (firstLine r.toText) ↔
        ¬ firstLine r.toText <:+: firstLine stack) := by
  refine ⟨r.normalized, outcome_normalizeStack hhost, ?_⟩
  have hiff := ErrorRecord.showsText_iff hstack
  -- the record stays and its stack has no message, or the text comes on top as the first message
  by_cases hshows : firstLine r.toText <:+: firstLine stack
  · rw [ErrorRecord.normalized_of_showsText (hiff.mpr hshows), hstack, divideStack, hmessageless]
    exact ⟨fun h => absurd hshows h, fun _ => rfl, by simp [hshows]⟩
  · have hheaded : r.normalized = r.withStack (r.toText ++ '\n' :: stack) := by
      rw [ErrorRecord.normalized, if_neg (fun h => hshows (hiff.mp h)), ErrorRecord.headed,
        ErrorRecord.stackText, hstack, Option.getD_some]
    rw [hheaded]
    exact ⟨fun _ => rfl, fun h => absurd h hshows,
      iff_of_true (head?_messages_append hfirst stack) hshows⟩

/-- An error whose stack holds only frames, as in Firefox. -/
def framesOnly : ErrorRecord where
  name := "TypeError".toList
  message := "x is undefined".toList
  stack := some "run@app.js:3:4".toList

/-- A stack of frames only is headed by name and message. -/
theorem normalizeStack_of_messageless_framesOnly :
    (Text.divide "run@app.js:3:4".toList).messages = [] ∧
      (normalizeStack (.record framesOnly)).outcome = .ok
        (framesOnly.withStack "TypeError: x is undefined\nrun@app.js:3:4".toList) := by
  have hmessageless : (Text.divide "run@app.js:3:4".toList).messages = [] := by decide
  obtain ⟨result, houtcome, hheaded, -⟩ := normalizeStack_of_messageless
    (show ErrorRecord.ofHost (.record framesOnly) = .ok framesOnly from rfl) rfl hmessageless
    (by decide)
  rw [houtcome, hheaded (by decide)]
  exact ⟨hmessageless, rfl⟩

/-- An error without a message, thrown by a function that is named after it. -/
def namesake : ErrorRecord where
  name := "Error".toList
  stack := some "throwError@app.js:3:4".toList

/-- The name of the function is taken for the text of the error. -/
theorem not_forall_normalizeStack_headed :
    ¬ ∀ (r : ErrorRecord) (stack : Text), r.stack = some stack →
      (Text.divide stack).messages = [] → firstLine r.toText ≠ [] →
      Frame.isFrameText (firstLine r.toText) = false →
      (normalizeStack (.record r)).outcome = .ok (r.withStack (r.toText ++ '\n' :: stack)) := by
  intro hall
  have hheaded := hall namesake _ rfl (by decide) (by decide) (by decide)
  have hkept : (normalizeStack (.record namesake)).outcome = .ok namesake := by rfl
  have hstack := congrArg ErrorRecord.stack (Except.ok.inj (hkept.symm.trans hheaded))
  exact absurd hstack (by decide)

end Stacktrace
