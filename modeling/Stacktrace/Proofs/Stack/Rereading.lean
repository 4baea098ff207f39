import Stacktrace.Proofs.Frame.Rereading
import Stacktrace.Proofs.Stack.Building

/-!
# Reading a rebuilt stack again

With a resolver that knows nothing, a frame keeps the location that the engine reported, and what it
is rebuilt as can be given to the same reader again. `sourceLine_reconstruct_iff` says which frames
come back unchanged; the work is done in `Rebuilt.read_text_eq_iff`.
-/

namespace Stacktrace

open Text Numeral

variable {resolver : Resolver} {root : Text} {rewrites : Rewrites}

/-- A resolver that has no answer to any question. -/
def Resolver.KnowsNothing (resolver : Resolver) : Prop :=
  ∀ file p, (resolver.position file p).outcome = .ok none

theorem mapsTo_iff_of_knowsNothing (hresolver : resolver.KnowsNothing)
    {generated source : FrameFields} :
    MapsTo resolver rewrites generated source ↔ source = generated := by
  constructor
  · intro h
    cases h with
    | unasked _ => rfl
    | unresolved _ _ _ _ => rfl
    | resolved _ _ _ h =>
      -- such a resolver never answers with a position
      rw [hresolver] at h
      cases h
  · rintro rfl
    by_cases h : source.file = none ∨ source.file = some [] ∨ source.line = none
    · exact .unasked h
    · push Not at h
      obtain ⟨hfile, hne, hline⟩ := h
      obtain ⟨file, hfile⟩ := Option.ne_none_iff_exists'.mp hfile
      obtain ⟨line, hline⟩ := Option.ne_none_iff_exists'.mp hline
      exact .unresolved hfile (fun he => hne (he ▸ hfile)) hline (hresolver _ _)

/-- A frame that nobody maps is displayed as it was read. -/
theorem readsAs_frame_iff_of_knowsNothing (hresolver : resolver.KnowsNothing) {line : Text}
    {f : FrameLine} :
    ReadsAs resolver root rewrites line (.frame f) ↔
      ∃ fields, Frame.read line = .ok (.frame fields) ∧
        f = displayFrame root (indentation line) fields fields := by
  constructor
  · intro h
    cases h with
    | @frame generated source hread hmap =>
      rw [(mapsTo_iff_of_knowsNothing hresolver).mp hmap]
      exact ⟨generated, hread, rfl⟩
  · rintro ⟨fields, hread, rfl⟩
    exact .frame hread ((mapsTo_iff_of_knowsNothing hresolver).mpr rfl)

/-- What was displayed without mapping determines what was read. -/
theorem displayFrame_inj {w w' : Text} {fields fields' : FrameFields}
    (hmapped : fields.mapped = false) (hmapped' : fields'.mapped = false)
    (h : displayFrame root w fields fields = displayFrame root w' fields' fields') :
    fields = fields' := by
  obtain ⟨name, file, line, column, mapped⟩ := fields
  obtain ⟨name', file', line', column', mapped'⟩ := fields'
  cases hmapped
  cases hmapped'
  -- the column is displayed as it is, since neither frame was mapped
  obtain ⟨rfl, rfl, -, -, rfl, hcolumn, -⟩ := FrameLine.mk.inj h
  change column = column' at hcolumn
  rw [hcolumn]

/-- A frame that is displayed as it was read is written as its text. -/
theorem reconstruct_displayFrame (root : Text) (r : Rebuilt) :
    (ParsedLine.frame (displayFrame root r.indent r.fields r.fields)).reconstruct = .ok r.text := by
  refine FrameLine.reconstruct_eq_ok_iff.mpr
    ⟨_, _, write_natCast r.line_short, write_natCast r.column_short, ?_⟩
  -- a file that was read is shown as it is, an absent one by its placeholder
  have hshown : (displayFrame root r.indent r.fields r.fields).shownFile = r.shownFile := by
    unfold Rebuilt.shownFile
    cases hfile : r.file with
    | none => rw [FrameLine.shownFile_of_none hfile]; rfl
    | some file => exact FrameLine.shownFile_eq hfile (r.file_bare file hfile).1
  rw [hshown]
  rfl

theorem reconstruct_rebuilt (r : Rebuilt) :
    reconstruct [.frame (displayFrame root r.indent r.fields r.fields)] = .ok r.text := by
  have hwrite := reconstruct_displayFrame root r
  exact Outcome.map_eq_ok_iff.mpr ⟨_, reconstructLines_eq_ok_iff.mpr (.cons hwrite .nil), rfl⟩

theorem Rebuilt.indentation_text (r : Rebuilt) : indentation r.text = r.indent :=
  indentation_uniformText r.indent_blank _ _ _ _

/-- The text is classified as the same frame exactly if it is read as the same fields. -/
theorem readsAs_text_iff (hresolver : resolver.KnowsNothing) (r : Rebuilt) :
    ReadsAs resolver root rewrites r.text
      (.frame (displayFrame root r.indent r.fields r.fields)) ↔
        Frame.read r.text = .ok (.frame r.fields) := by
  rw [readsAs_frame_iff_of_knowsNothing hresolver, r.indentation_text]
  constructor
  · rintro ⟨fields, hread, hdisplay⟩
    obtain ⟨-, raw, -, rfl⟩ := Frame.of_read_frame r.newline_notMem_text hread
    -- two frames read from lines that display alike are the same frame
    rw [← displayFrame_inj rfl rfl hdisplay] at hread
    exact hread
  · exact fun hread => ⟨r.fields, hread, rfl⟩

/-- **Which frames come back unchanged.** A frame with a column, and so with a line, read without
mapping, is rebuilt as a text. Reading that text the same way gives an equal frame if and only if the
function has a name, the name neither ends in a wrapper suffix nor has a space with a parenthesis
after it, the frame has a file that the engine did not make up, and the text loses nothing to
unwrapping. -/
theorem sourceLine_reconstruct_iff (hresolver : resolver.KnowsNothing) {line : Text}
    {f : FrameLine} (hnl : '\n' ∉ line)
    (h : (sourceLine resolver root rewrites line).outcome = .ok (.frame f))
    (hcolumn : f.column.isSome = true) :
    ∃ text, reconstruct [.frame f] = .ok text ∧
      ((sourceLine resolver root rewrites text).outcome = .ok (.frame f) ↔
        f.functionName ≠ [] ∧ ¬ ['/', '<'] <:+ f.functionName ∧
          ¬ [' ', '('] <:+: f.functionName ∧
          (∃ file, f.relativeFile = some file ∧ file ∉ Chromium.pseudoFiles) ∧
          ¬ Chromium.LosesText text) := by
  have hreads := outcome_sourceLine_eq_ok_iff.mp h
  obtain ⟨fields, hread, rfl⟩ := (readsAs_frame_iff_of_knowsNothing hresolver).mp hreads
  have hcolumn' : fields.column.isSome = true := by
    obtain ⟨-, raw, -, rfl⟩ := Frame.of_read_frame hnl hread
    exact hcolumn
  obtain ⟨r, hindent, rfl⟩ := Rebuilt.exists_of_read hnl hread hcolumn'
  rw [← hindent]
  refine ⟨r.text, reconstruct_rebuilt r, ?_⟩
  rw [outcome_sourceLine_eq_ok_iff, readsAs_text_iff hresolver, r.read_text_eq_iff]
  constructor
  · rintro ⟨h1, h2, h3, h4, h5⟩
    exact ⟨h1, h2, h3, h4, h5⟩
  · rintro ⟨h1, h2, h3, h4, h5⟩
    exact ⟨h1, h2, h3, h4, h5⟩

theorem PositionTables.knowsNothing_empty : PositionTables.empty.resolver.KnowsNothing :=
  fun _ _ => rfl

/-- A frame as Firefox writes it, displayed without a source. -/
def runFrame : FrameLine where
  functionName := "run".toList
  fileUrl := some "app.js".toList
  relativeFile := some "app.js".toList
  absoluteFile := some "/srv/app.js".toList
  line := some 3
  column := some 4

theorem sourceLine_reconstruct_iff_run :
    (sourceLine PositionTables.empty.resolver "/srv".toList .standard
      "at run (app.js:3:4)".toList).outcome = .ok (.frame runFrame) := by
  have hread : (sourceLine PositionTables.empty.resolver "/srv".toList .standard
      "run@app.js:3:4".toList).outcome = .ok (.frame runFrame) := by rfl
  have hbuilt : reconstruct [.frame runFrame] = .ok "at run (app.js:3:4)".toList := by rfl
  have hmark : occursIn Chromium.evalMark "at run (app.js:3:4)".toList = false := by decide
  obtain ⟨text, htext, hiff⟩ := sourceLine_reconstruct_iff PositionTables.knowsNothing_empty
    (by decide) hread rfl
  rw [hbuilt] at htext
  cases htext
  exact hiff.mpr ⟨by decide, by decide, by decide, ⟨_, rfl, by decide⟩,
    fun hloss => occursIn_eq_false_iff.mp hmark hloss.1⟩

/-- A frame of code without a file, which the engine calls anonymous. -/
def anonymousFrame : FrameLine where
  functionName := "foo".toList
  fileUrl := none
  relativeFile := none
  absoluteFile := none
  line := some 1
  column := some 2

/-- Not every frame comes back: one without a file is shown with a placeholder, and that is read as
a file. -/
theorem not_forall_sourceLine_reconstruct :
    ¬ ∀ (resolver : Resolver) (root : Text) (rewrites : Rewrites) (line text : Text) (f : FrameLine),
      resolver.KnowsNothing → '\n' ∉ line →
      (sourceLine resolver root rewrites line).outcome = .ok (.frame f) →
      f.line.isSome = true → f.column.isSome = true → reconstruct [.frame f] = .ok text →
      (sourceLine resolver root rewrites text).outcome = .ok (.frame f) := by
  intro h
  have hback := h PositionTables.empty.resolver "/srv".toList .standard
    "at foo (<anonymous>:1:2)".toList "at foo (<unknown>:1:2)".toList anonymousFrame
    PositionTables.knowsNothing_empty (by decide) rfl rfl rfl rfl
  -- the placeholder written for an anonymous file is read back as a file of that name
  have hplaceholder : (sourceLine PositionTables.empty.resolver "/srv".toList .standard
      "at foo (<unknown>:1:2)".toList).outcome = .ok (.frame { anonymousFrame with
        fileUrl := some "<unknown>".toList
        relativeFile := some "<unknown>".toList
        absoluteFile := some "/srv/<unknown>".toList }) := by rfl
  rw [hplaceholder] at hback
  exact absurd (ParsedLine.frame.inj (Except.ok.inj hback)) (by decide)

end Stacktrace
