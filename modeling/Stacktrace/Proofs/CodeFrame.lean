import Stacktrace.Error.CodeFrame
import Stacktrace.Proofs.Outcome
import Stacktrace.Proofs.Text.Lines
import Stacktrace.Stack.SourceStack

/-!
# When an error gets a code frame

A code frame is rendered from the source of the first frame with a file, and much may be missing on
the way: such a frame, its line, the source, or lines of the source around it. Nothing else stands
in the way:

* `CodeFrame.exists_render_iff` — rendering fails only if the window around the line is empty, and
  what is rendered is never empty (`CodeFrame.ne_nil_of_render`);
* `Shows` — a code frame that shows a frame in a source;
* `outcome_codeFrameFromSource_eq_ok_iff` — the code frames that are made of a frame and a source;
* `SourceStack.Offers` — a stack has a frame to show, and there is a source for it;
* `ErrorRecord.outcome_findCodeFrame_eq_ok_iff` — the code frames that are found for a record
  without one;
* `ErrorRecord.queries_findCodeFrame`, `ErrorRecord.outcome_findCodeFrame_of_fails` — what is asked
  on the way, and what becomes of it if nobody answers;
* `ErrorRecord.exists_outcome_findCodeFrame` — finding a code frame is no fault if everybody does.
-/

namespace Stacktrace

open Text

namespace CodeFrame

variable {source rendered : Text} {line above below : Int} {column : Option Int}

/-! ## Rendering -/

/-- The window is bounded from below by the first line and from above by the last. -/
theorem window_start_lt_stop_iff {count : Nat} :
    (window count line above below).start < (window count line above below).stop ↔
      max (line - (above + 1)) 0 < min (count : Int) (line + below) := by
  show (line - (above + 1)).toNat < (min (count : Int) (line + below)).toNat ↔ _
  omega

/-- **Rendering succeeds exactly if some line of the source lies in the window.** -/
theorem exists_render_iff :
    (∃ t, render source line column above below = .ok t) ↔
      max (line - (above + 1)) 0 < min ((sourceLines source).length : Int) (line + below) := by
  rw [← window_start_lt_stop_iff]
  unfold render
  dsimp only
  split
  · -- an empty window leaves only the fault, whose number may itself refuse to be written
    next hempty =>
    refine iff_of_false ?_ (Nat.not_lt.mpr hempty)
    rintro ⟨t, ht⟩
    obtain ⟨lineText, -, ht⟩ := Outcome.bind_eq_ok_iff.mp ht
    cases ht
  · next hwindow => exact iff_of_true ⟨_, rfl⟩ (Nat.not_le.mp hwindow)

/-- A line that can be written is rendered, or lies outside the source. -/
theorem render_of_write (source : Text) (column : Option Int) (above below : Int)
    {lineText : Text} (h : Numeral.write line = .ok lineText) :
    (∃ t, render source line column above below = .ok t) ∨
      render source line column above below
        = .error (.outsideSource line lineText (sourceLines source).length) := by
  unfold render
  dsimp only
  split
  · right
    rw [h]
    rfl
  · exact .inl ⟨_, rfl⟩

/-- Every source line gives a row, and the row starts with its mark. -/
theorem exists_rows_eq (width : Nat) (line : Int) (column : Option Int) (number : Nat)
    (text : Text) :
    ∃ mark row rest, rows width line column number text = (mark :: row) :: rest := by
  unfold rows
  split
  · exact ⟨' ', _, _, rfl⟩
  · cases column with
    | none => exact ⟨'>', _, _, rfl⟩
    | some column =>
      dsimp only
      split
      · exact ⟨'>', _, _, rfl⟩
      · exact ⟨'>', _, _, rfl⟩

/-- **What is rendered is not empty.** -/
theorem ne_nil_of_render (h : render source line column above below = .ok rendered) :
    rendered ≠ [] := by
  unfold render at h
  dsimp only at h
  split at h
  · obtain ⟨lineText, -, h⟩ := Outcome.bind_eq_ok_iff.mp h
    cases h
  · next hwindow =>
    cases h
    generalize hw : window (sourceLines source).length line above below = w at hwindow ⊢
    -- the window lies inside the source, so a first line is shown
    have hstop : w.stop ≤ (sourceLines source).length := by
      rw [← hw]
      show (min ((sourceLines source).length : Int) (line + below)).toNat ≤ _
      omega
    have hlength : 0 < (((sourceLines source).take w.stop).drop w.start).length := by
      rw [List.length_drop, List.length_take]
      omega
    obtain ⟨text, texts, hshown⟩ := List.exists_cons_of_length_pos hlength
    obtain ⟨mark, row, rest, hrows⟩ :=
      exists_rows_eq (Numeral.ofNat w.stop).length line column (w.start + 1) text
    rw [hshown, allRows, hrows, List.cons_append]
    exact joinLines_cons_ne_nil (by simp) _

end CodeFrame

/-! ## From a frame and a source -/

variable {f : FrameLine} {context : ContextLines} {resolver : Resolver}

/-- A code frame that shows a frame in a source: it has the frame's place and files, and its text is
the rendered source around that place. -/
structure Shows (c : CodeFrame) (f : FrameLine) (source : Text) (context : ContextLines) :
    Prop where
  line : f.line = some c.line
  column : c.column = f.column
  relativeFile : c.relativeFile = f.relativeFile
  absoluteFile : c.absoluteFile = f.absoluteFile
  language : c.language = Path.language f.relativeFile
  frame : CodeFrame.render source c.line f.column context.above context.below = .ok c.frame

/-- What is made of a source is a code frame that shows the frame in it, if there is anything in the
source. -/
theorem outcome_codeFrameFromSource_eq_ok_iff {source : Text} {c : CodeFrame} :
    (codeFrameFromSource (some source) f context).outcome = .ok (some c) ↔
      source ≠ [] ∧ Shows c f source context := by
  constructor
  · intro h
    unfold codeFrameFromSource at h
    split at h
    · next a text line hsource hline =>
      cases hsource
      split at h
      · cases h
      · next rendered _ hrender =>
        cases h
        exact ⟨by simp, hline, rfl, rfl, rfl, rfl, hrender⟩
      · -- a fault of rendering is noted, and then there is no code frame
        obtain ⟨-, -, h⟩ := Run.outcome_bind_eq_ok_iff.mp h
        cases h
      · cases h
    · cases h
  · rintro ⟨hne, hshows⟩
    obtain ⟨a, text, rfl⟩ := List.exists_cons_of_ne_nil hne
    -- what is rendered is not empty, so it is not taken for a failure
    obtain ⟨b, rendered, hframe⟩ :=
      List.exists_cons_of_ne_nil (CodeFrame.ne_nil_of_render hshows.frame)
    have hrender := hshows.frame
    rw [hframe] at hrender
    unfold codeFrameFromSource
    rw [hshows.line]
    dsimp only
    rw [hrender]
    obtain ⟨line, column, relativeFile, absoluteFile, frame, language⟩ := c
    obtain ⟨-, rfl, rfl, rfl, rfl, -⟩ := hshows
    subst hframe
    rfl

/-- A code frame can be made exactly if the frame's line and lines of the source around it are
there. -/
theorem exists_shows_iff {source : Text} :
    (∃ c, Shows c f source context) ↔ ∃ line, f.line = some line ∧
      max (line - (context.above + 1)) 0
        < min ((CodeFrame.sourceLines source).length : Int) (line + context.below) := by
  constructor
  · rintro ⟨c, hc⟩
    exact ⟨c.line, hc.line, CodeFrame.exists_render_iff.mp ⟨_, hc.frame⟩⟩
  · rintro ⟨line, hline, hwindow⟩
    -- everything but the rendered text is copied from the frame, so the window alone decides
    obtain ⟨rendered, hrendered⟩ : ∃ t,
        CodeFrame.render source line f.column context.above context.below = .ok t :=
      CodeFrame.exists_render_iff.mpr hwindow
    exact ⟨⟨line, f.column, f.relativeFile, f.absoluteFile, rendered, Path.language f.relativeFile⟩,
      hline, rfl, rfl, rfl, rfl, hrendered⟩

/-- A frame with a line that can be written gets a code frame or none, and no fault. -/
theorem exists_outcome_codeFrameFromSource (source : Option Text) (context : ContextLines)
    (hline : ∀ i ∈ f.line, ∃ t, Numeral.write i = .ok t) :
    ∃ found, (codeFrameFromSource source f context).outcome = .ok found := by
  unfold codeFrameFromSource
  split
  · next a text line hline' =>
    obtain ⟨lineText, hwrite⟩ := hline line hline'
    -- the line is rendered, or it is outside of the source, which is no fault of its own
    rcases CodeFrame.render_of_write (a :: text) f.column context.above context.below hwrite
      with ⟨rendered, hrender⟩ | houtside
    · rw [hrender]
      cases rendered with
      | nil => exact ⟨_, rfl⟩
      | cons c cs => exact ⟨_, rfl⟩
    · rw [houtside]
      exact ⟨_, rfl⟩
  · exact ⟨_, rfl⟩

/-- Making a code frame of a source asks nothing. -/
theorem queries_codeFrameFromSource {source : Option Text} :
    (codeFrameFromSource source f context).queries = [] := by
  unfold codeFrameFromSource
  split
  · split <;> rfl
  · rfl

/-! ## From a record -/

/-- A frame has a file if the address it was reported with is not empty. -/
theorem FrameLine.hasFile_iff {f : FrameLine} :
    f.hasFile = true ↔ ∃ c cs, f.fileUrl = some (c :: cs) := by
  unfold hasFile
  split
  · next c cs hurl => exact iff_of_true rfl ⟨c, cs, hurl⟩
  · next hother => exact iff_of_false (by simp) fun ⟨c, cs, hurl⟩ => hother c cs hurl

/-- The question for the source of a frame, if the frame names a generated file. -/
def FrameLine.contentsQuestion? (f : FrameLine) : Option Query :=
  f.fileUrl.map fun url => .contents url f.relativeFile

/-- The frame that a code frame is made of: the first one with a generated file. -/
def SourceStack.shownFrame? (s : SourceStack) : Option FrameLine :=
  s.frames.find? FrameLine.hasFile

/-- The stack has a frame to show, and a resolver has its source. -/
structure SourceStack.Offers (s : SourceStack) (resolver : Resolver) (f : FrameLine)
    (source : Text) : Prop where
  shown : s.shownFrame? = some f
  contents : ∃ url, f.fileUrl = some url ∧
    (resolver.contents url f.relativeFile).outcome = .ok (some source)
  ne_nil : source ≠ []

/-- The first frame with a file is found among the lines, messages between them or not. -/
theorem firstFrameWithFile_lines (ps : List ParsedLine) :
    firstFrameWithFile (ps.map Value.line)
      = (ps.filterMap ParsedLine.frame?).find? FrameLine.hasFile := by
  induction ps with
  | nil => rfl
  | cons p ps ih =>
    cases p with
    | message m => exact ih
    | frame f =>
      have hcons : (ParsedLine.frame f :: ps).filterMap ParsedLine.frame?
          = f :: ps.filterMap ParsedLine.frame? := rfl
      rw [List.map_cons, firstFrameWithFile, hcons, List.find?_cons, ih]
      cases f.hasFile <;> rfl

namespace ErrorRecord

variable {r : ErrorRecord} {s : SourceStack}

/-- In a record that was mapped, the frame to show is that of its source stack. -/
theorem firstFrameWithFile_of_parsedStack (h : r.parsedStack = some (s.parsed.map Value.line)) :
    firstFrameWithFile (r.parsedStack.getD []) = s.shownFrame? := by
  rw [h]
  exact firstFrameWithFile_lines s.parsed

/-- A code frame that is there already is found without a question. -/
theorem findCodeFrame_of_some {v : Value} (h : r.codeFrame = some v) :
    r.findCodeFrame resolver context = pure (some v) := by
  rw [findCodeFrame, h]

/-- The question for the source of the frame to show, unless the record has a code frame. -/
def contentsQuestions (r : ErrorRecord) (s : SourceStack) : List Query :=
  match r.codeFrame with
  | some _ => []
  | none => (s.shownFrame?.bind FrameLine.contentsQuestion?).toList

/-- **Finding a code frame** puts one question or none. -/
theorem queries_findCodeFrame (hparsed : r.parsedStack = some (s.parsed.map Value.line)) :
    (r.findCodeFrame resolver context).queries = r.contentsQuestions s := by
  unfold findCodeFrame contentsQuestions
  rw [firstFrameWithFile_of_parsedStack hparsed]
  cases r.codeFrame with
  | some v => rfl
  | none =>
    cases s.shownFrame? with
    | none => rfl
    | some f =>
      cases hurl : f.fileUrl with
      | none => simp [FrameLine.contentsQuestion?, hurl, Run.pure_eq]
      | some url =>
        dsimp only
        rw [hurl]
        dsimp only
        -- the only question is the one for the source; the rest is silent
        rw [Run.queries_bind_of_silent]
        · simp [FrameLine.contentsQuestion?, hurl, Resolver.askContents]
        · intro source
          cases source with
          | none => rfl
          | some source =>
            dsimp only
            rw [Run.queries_bind_of_silent fun _ => rfl]
            exact queries_codeFrameFromSource

/-- The frame to show leads to a question, because it has a file. -/
theorem contentsQuestions_ne_nil_iff :
    r.contentsQuestions s ≠ [] ↔ r.codeFrame = none ∧ ∃ f, s.shownFrame? = some f := by
  unfold contentsQuestions
  cases r.codeFrame with
  | some v => simp
  | none =>
    cases hshown : s.shownFrame? with
    | none => simp
    | some f =>
      -- the shown frame has a file, so there is an address to ask about
      obtain ⟨c, cs, hurl⟩ := FrameLine.hasFile_iff.mp (List.find?_some hshown)
      simp [FrameLine.contentsQuestion?, hurl]

/-- **If the resolver always fails**, finding a code frame fails exactly if it asks. -/
theorem outcome_findCodeFrame_of_fails {e : Fault}
    (hparsed : r.parsedStack = some (s.parsed.map Value.line))
    (hfails : ∀ url relative, (resolver.contents url relative).outcome = .error e) :
    (r.contentsQuestions s ≠ [] → (r.findCodeFrame resolver context).outcome = .error e) ∧
      (r.contentsQuestions s = [] →
        ∃ found, (r.findCodeFrame resolver context).outcome = .ok found) := by
  have hne := contentsQuestions_ne_nil_iff (r := r) (s := s)
  unfold findCodeFrame
  rw [firstFrameWithFile_of_parsedStack hparsed]
  -- where there is a question, its failure is the run's; where there is none, nothing can fail
  constructor
  · intro hasks
    obtain ⟨hnone, f, hshown⟩ := hne.mp hasks
    obtain ⟨c, cs, hurl⟩ := FrameLine.hasFile_iff.mp (List.find?_some hshown)
    rw [hnone, hshown]
    dsimp only
    rw [hurl]
    exact Run.outcome_bind_of_error (hfails _ _)
  · intro hsilent
    cases hcode : r.codeFrame with
    | some v => exact ⟨_, rfl⟩
    | none =>
      cases hshown : s.shownFrame? with
      | none => exact ⟨_, rfl⟩
      | some f => exact absurd hsilent (hne.mpr ⟨hcode, f, hshown⟩)

/-- **If the resolver always has an answer**, finding a code frame succeeds, provided that the frame
to show has a line that can be written. -/
theorem exists_outcome_findCodeFrame (context : ContextLines)
    (hparsed : r.parsedStack = some (s.parsed.map Value.line))
    (hcontents : ∀ url relative, ∃ source, (resolver.contents url relative).outcome = .ok source)
    (hline : ∀ f, s.shownFrame? = some f → ∀ i ∈ f.line, ∃ t, Numeral.write i = .ok t) :
    ∃ found, (r.findCodeFrame resolver context).outcome = .ok found := by
  unfold findCodeFrame
  rw [firstFrameWithFile_of_parsedStack hparsed]
  cases r.codeFrame with
  | some v => exact ⟨_, rfl⟩
  | none =>
    cases hshown : s.shownFrame? with
    | none => exact ⟨_, rfl⟩
    | some f =>
      obtain ⟨c, cs, hurl⟩ := FrameLine.hasFile_iff.mp (List.find?_some hshown)
      dsimp only
      rw [hurl]
      dsimp only
      obtain ⟨source, hsource⟩ := hcontents (c :: cs) f.relativeFile
      have hask : (resolver.askContents (c :: cs) f.relativeFile).outcome = .ok source := hsource
      rw [Run.outcome_bind_of_ok hask]
      -- no source is an answer too, and then there is no code frame
      cases source with
      | none => exact ⟨_, rfl⟩
      | some source =>
        obtain ⟨found, hfound⟩ :=
          exists_outcome_codeFrameFromSource (some source) context (hline f hshown)
        dsimp only
        rw [Run.outcome_bind_of_ok hfound]
        exact ⟨_, rfl⟩

/-- **Which code frame is found** for a record that has none: one that shows the first frame with a
file in its source. -/
theorem outcome_findCodeFrame_eq_ok_iff (hnone : r.codeFrame = none)
    (hparsed : r.parsedStack = some (s.parsed.map Value.line)) {v : Value} :
    (r.findCodeFrame resolver context).outcome = .ok (some v) ↔
      ∃ f source c, s.Offers resolver f source ∧ Shows c f source context ∧ v = .codeFrame c := by
  unfold findCodeFrame
  rw [hnone, firstFrameWithFile_of_parsedStack hparsed]
  dsimp only
  constructor
  · -- backwards through the steps: a frame to show, its source, and what was made of it
    intro h
    split at h
    · cases h
    · next f hshown =>
      split at h
      · cases h
      · next url hurl =>
        obtain ⟨source, hcontents, h⟩ := Run.outcome_bind_eq_ok_iff.mp h
        cases source with
        | none =>
          obtain ⟨-, -, h⟩ := Run.outcome_bind_eq_ok_iff.mp h
          cases h
        | some source =>
          obtain ⟨found, hfound, h⟩ := Run.outcome_bind_eq_ok_iff.mp h
          have hv := Run.outcome_pure_eq_ok_iff.mp h
          obtain ⟨c, rfl, rfl⟩ := Option.map_eq_some_iff.mp hv
          obtain ⟨hne, hshows⟩ := outcome_codeFrameFromSource_eq_ok_iff.mp hfound
          exact ⟨f, source, c, ⟨hshown, ⟨url, hurl, hcontents⟩, hne⟩, hshows, rfl⟩
  · rintro ⟨f, source, c, ⟨hshown, ⟨url, hurl, hcontents⟩, hne⟩, hshows, rfl⟩
    rw [hshown]
    dsimp only
    rw [hurl]
    have hfound := outcome_codeFrameFromSource_eq_ok_iff.mpr ⟨hne, hshows⟩
    exact Run.outcome_bind_eq_ok_iff.mpr ⟨some source, hcontents,
      Run.outcome_bind_eq_ok_iff.mpr ⟨some c, hfound, rfl⟩⟩

end ErrorRecord

end Stacktrace
