import Mathlib.Data.List.TakeWhile
import Stacktrace.Stack.Division

/-!
# What the division of a stack keeps

The automaton that divides a stack never goes back to the message. `IsDivision` is the invariant of
its runs: nothing of what was fed is lost, and the cut is in front of the first frame line.

* `IsDivision.feed`, `IsDivision.feedAll` — one step keeps it, and so does every run;
* `IsDivision.messages_eq`, `IsDivision.frames_eq` — the closed form of the two parts, so that there
  is only one such division (`IsDivision.unique`);
* `divides_every_run` — what that means for runs over values of any kind and for stacks;
* `divide_eq_frames_iff` — so a stack divides where its first frame line stands;
* `divide_frames_ne_nil_iff` — a stack has frames exactly if it has a frame line at all.
-/

namespace Stacktrace

namespace Division

variable {isFrame : α → Bool} {d : Division α}

/-- The step on a line that ends the message or comes after its end. -/
theorem feed_frames {line : α} (h : d.state = .frames ∨ isFrame line = true) :
    feed isFrame d line = ⟨.frames, d.messages, d.frames ++ [line]⟩ := by
  have hstate : (if (decide (d.state = .message) && isFrame line) = true then Section.frames
      else d.state) = .frames := by
    split
    · rfl
    · next hno =>
      rcases h with h | h
      · exact h
      · cases hs : d.state with
        | frames => rfl
        | message => simp [hs, h] at hno
  unfold feed
  dsimp only
  -- past the test the line is added to the frames whichever reason put it there
  rw [hstate]

/-- The step on a line of the message. -/
theorem feed_message {line : α} (h : d.state = .message) (hline : isFrame line = false) :
    feed isFrame d line = ⟨.message, d.messages ++ [line], d.frames⟩ := by
  unfold feed
  rw [h, hline]
  rfl

/-! ## The invariant of a run -/

/-- A division of what was fed so far: all of it, in order, cut in front of the first frame line. -/
structure IsDivision (isFrame : α → Bool) (fed : List α) (d : Division α) : Prop where
  whole : d.messages ++ d.frames = fed
  messages_plain : ∀ l ∈ d.messages, isFrame l = false
  frames_head : ∀ l ∈ d.frames.head?, isFrame l = true
  state_iff : d.state = .frames ↔ d.frames ≠ []

/-- The division of nothing. -/
theorem isDivision_empty : IsDivision isFrame [] (empty : Division α) where
  whole := rfl
  messages_plain := by simp [empty]
  frames_head := by simp [empty]
  state_iff := by simp [empty]

/-- As long as the automaton is in the message there are no frames. -/
theorem IsDivision.frames_of_message {fed : List α} (h : IsDivision isFrame fed d)
    (hstate : d.state = .message) : d.frames = [] := by
  by_contra hne
  have hframes := h.state_iff.mpr hne
  rw [hstate] at hframes
  cases hframes

/-- **One step keeps the invariant.** -/
theorem IsDivision.feed {fed : List α} (h : IsDivision isFrame fed d) (line : α) :
    IsDivision isFrame (fed ++ [line]) (feed isFrame d line) := by
  -- the line goes to the frames if they have begun or begin with it, and to the messages otherwise
  by_cases hframes : d.state = .frames ∨ isFrame line = true
  · rw [feed_frames hframes]
    refine ⟨?_, h.messages_plain, ?_, by simp⟩
    · show d.messages ++ (d.frames ++ [line]) = fed ++ [line]
      rw [← List.append_assoc, h.whole]
    · intro l hl
      cases hd : d.frames with
      | cons f fs =>
        -- the head was there before
        rw [hd] at hl
        exact h.frames_head l (by rw [hd]; exact hl)
      | nil =>
        rw [hd] at hl
        obtain rfl : line = l := Option.some.inj hl
        have hstate : d.state ≠ .frames := fun hs => h.state_iff.mp hs hd
        exact hframes.resolve_left hstate
  · rw [not_or, Bool.not_eq_true] at hframes
    have hstate : d.state = .message := by
      cases hs : d.state with
      | message => rfl
      | frames => exact absurd hs hframes.1
    have hnil := h.frames_of_message hstate
    rw [feed_message hstate hframes.2, hnil]
    refine ⟨?_, ?_, by simp, by simp⟩
    · have hwhole := h.whole
      rw [hnil, List.append_nil] at hwhole
      show (d.messages ++ [line]) ++ [] = fed ++ [line]
      rw [List.append_nil, hwhole]
    · intro l hl
      rcases List.mem_append.mp hl with hl | hl
      · exact h.messages_plain l hl
      · rw [List.mem_singleton.mp hl]
        exact hframes.2

/-- **Every run keeps the invariant.** -/
theorem IsDivision.feedAll {fed : List α} (h : IsDivision isFrame fed d) (ls : List α) :
    IsDivision isFrame (fed ++ ls) (d.feedAll isFrame ls) := by
  induction ls generalizing fed d with
  | nil =>
    rw [List.append_nil]
    exact h
  | cons l ls ih =>
    have hrest := ih (h.feed l)
    rw [List.append_assoc, List.singleton_append] at hrest
    exact hrest

/-- A run from the start divides what it was fed. -/
theorem isDivision_feedAll (isFrame : α → Bool) (ls : List α) :
    IsDivision isFrame ls ((empty : Division α).feedAll isFrame ls) :=
  isDivision_empty.feedAll ls

/-- The messages of a division are what stands in front of the first frame line. -/
theorem IsDivision.messages_eq {fed : List α} (h : IsDivision isFrame fed d) :
    d.messages = fed.takeWhile fun l => !isFrame l := by
  have hplain : ∀ l ∈ d.messages, (!isFrame l) = true := by
    intro l hl
    rw [h.messages_plain l hl]
    rfl
  have hhead : (d.frames.takeWhile fun l => !isFrame l) = [] := by
    cases hd : d.frames with
    | nil => rfl
    | cons f fs =>
      have hf := h.frames_head f (by rw [hd]; rfl)
      exact List.takeWhile_cons_of_neg (by simp [hf])
  -- the messages are plain and the frames start with a frame, so the longest plain prefix is theirs
  rw [← h.whole, List.takeWhile_append_of_pos hplain, hhead, List.append_nil]

/-- The frames of a division are what stands from the first frame line on. -/
theorem IsDivision.frames_eq {fed : List α} (h : IsDivision isFrame fed d) :
    d.frames = fed.dropWhile fun l => !isFrame l := by
  have hsplit : (fed.takeWhile fun l => !isFrame l) ++ d.frames
      = (fed.takeWhile fun l => !isFrame l) ++ fed.dropWhile fun l => !isFrame l := by
    rw [List.takeWhile_append_dropWhile, ← h.messages_eq]
    exact h.whole
  exact List.append_cancel_left hsplit

/-- **There is only one division** of a sequence. -/
theorem IsDivision.unique {fed : List α} {e : Division α} (h : IsDivision isFrame fed d)
    (h' : IsDivision isFrame fed e) : d = e := by
  have hmessages : d.messages = e.messages := h.messages_eq.trans h'.messages_eq.symm
  have hframes : d.frames = e.frames := h.frames_eq.trans h'.frames_eq.symm
  have hstate : d.state = e.state := by
    -- both states say whether there are frames, and the frames are the same
    have hiff : d.state = .frames ↔ e.state = .frames := by
      rw [h.state_iff, h'.state_iff, hframes]
    cases hd : d.state with
    | frames => exact (hiff.mp hd).symm
    | message =>
      cases he : e.state with
      | message => rfl
      | frames =>
        rw [hiff.mpr he] at hd
        cases hd
  obtain ⟨state, messages, frames⟩ := d
  cases hmessages
  cases hframes
  cases hstate
  rfl

/-- Behind the message every line is filed under the frames. -/
theorem feedAll_of_frames (h : d.state = .frames) (ls : List α) :
    d.feedAll isFrame ls = ⟨.frames, d.messages, d.frames ++ ls⟩ := by
  induction ls generalizing d with
  | nil =>
    rw [List.append_nil, ← h]
    rfl
  | cons l ls ih =>
    show (feed isFrame d l).feedAll isFrame ls = _
    rw [feed_frames (.inl h), ih rfl]
    simp

/-- A run over two sequences is a run over the first and then one over the second. -/
theorem feedAll_append (ls ks : List α) :
    d.feedAll isFrame (ls ++ ks) = (d.feedAll isFrame ls).feedAll isFrame ks :=
  List.foldl_append

/-! ## Runs over values and over the lines of a stack -/

/-- **What the automaton keeps at every moment of every run.** Values of any kind may be fed. After
each of them the parts hold all values so far in their order, cut in front of the first frame line,
and the automaton stays behind the message once it is there. So the lines of a stack are divided in
the one way in which they can be. -/
theorem divides_every_run :
    (∀ (values : List Value) (n : Nat),
      IsDivision Value.isFrameLine (values.take n)
        (empty.feedAll Value.isFrameLine (values.take n))) ∧
    (∀ (values : List Value) (m n : Nat), m ≤ n →
      (empty.feedAll Value.isFrameLine (values.take m)).state = .frames →
      (empty.feedAll Value.isFrameLine (values.take n)).state = .frames) ∧
    ∀ (stack : Text) (d : Division Text),
      IsDivision Frame.isFrameText (Text.lines stack) d ↔ d = Text.divide stack := by
  refine ⟨fun values n => isDivision_feedAll _ _, ?_, ?_⟩
  · intro values m n hle hstate
    obtain ⟨k, rfl⟩ := Nat.exists_eq_add_of_le hle
    -- the longer run goes on from the shorter one, which is already among the frames
    rw [List.take_add, feedAll_append, feedAll_of_frames hstate]
  · intro stack d
    have hdivide : IsDivision Frame.isFrameText (Text.lines stack) (Text.divide stack) :=
      isDivision_feedAll _ _
    constructor
    · exact fun h => h.unique hdivide
    · rintro rfl
      exact hdivide

/-- Two messages, one of them no text, and a frame with something else behind it. -/
def mixedValues : List Value :=
  [.text "Error: boom".toList, .int 5, .text "run@app.js:1:2".toList, .null]

/-- The two first values are a message; from the frame on everything is a frame. -/
theorem divides_every_run_mixedValues :
    (empty.feedAll Value.isFrameLine (mixedValues.take 2)).state = .message ∧
      (empty.feedAll Value.isFrameLine (mixedValues.take 4)).state = .frames ∧
      Text.divide "boom\nrun@app.js:1:2\n".toList
        = ⟨.frames, ["boom".toList], ["run@app.js:1:2".toList, []]⟩ := by
  obtain ⟨-, hstays, hstack⟩ := divides_every_run
  refine ⟨rfl, hstays mixedValues 3 4 (by decide) rfl, ?_⟩
  exact ((hstack _ _).mp ⟨by decide, by decide, by decide, by decide⟩).symm

end Division

/-! ## The two parts of a stack -/

/-- Dividing a stack divides its lines. -/
theorem isDivision_divide (stack : Text) :
    Division.IsDivision Frame.isFrameText (Text.lines stack) (Text.divide stack) :=
  Division.isDivision_feedAll _ _

/-- The messages of a stack are its lines in front of the first frame line. -/
theorem divide_messages_eq (stack : Text) :
    (Text.divide stack).messages = (Text.lines stack).takeWhile fun l => !Frame.isFrameText l :=
  (isDivision_divide stack).messages_eq

/-- The frames of a stack are its lines from the first frame line on. -/
theorem divide_frames_eq (stack : Text) :
    (Text.divide stack).frames = (Text.lines stack).dropWhile fun l => !Frame.isFrameText l :=
  (isDivision_divide stack).frames_eq

/-- A stack divides at a given place exactly if its first frame line stands there. -/
theorem divide_eq_frames_iff {stack : Text} {messages frames : List Text}
    (h : Text.lines stack = messages ++ frames) :
    Text.divide stack = ⟨.frames, messages, frames⟩ ↔
      (∀ l ∈ messages, Frame.isFrameText l = false) ∧
        ∃ l ∈ frames.head?, Frame.isFrameText l = true := by
  have hdivision := isDivision_divide stack
  rw [h] at hdivision
  constructor
  · intro hdivide
    rw [hdivide] at hdivision
    have hhead := List.head?_eq_some_head (hdivision.state_iff.mp rfl)
    exact ⟨hdivision.messages_plain, _, hhead, hdivision.frames_head _ hhead⟩
  · rintro ⟨hplain, l, hl, hframe⟩
    refine hdivision.unique ⟨rfl, hplain, ?_, ?_⟩
    · intro k hk
      rw [Option.mem_unique hk hl]
      exact hframe
    · exact iff_of_true rfl (List.ne_nil_of_mem (List.mem_of_mem_head? hl))

/-- **A stack has frames** exactly if one of its lines is a frame line. -/
theorem divide_frames_ne_nil_iff {stack : Text} :
    (Text.divide stack).frames ≠ [] ↔ ∃ l ∈ Text.lines stack, Frame.isFrameText l = true := by
  rw [divide_frames_eq, Ne, List.dropWhile_eq_nil_iff]
  simp

end Stacktrace
