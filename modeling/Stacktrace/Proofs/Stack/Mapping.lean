import Mathlib.Tactic.Choose
import Stacktrace.Proofs.Resolver
import Stacktrace.Proofs.Stack.Building

/-!
# Mapped frames from end to end

A line in either syntax, a table of positions and a table of names decide together what the line is
mapped to. `FrameParts.mapped` and `FrameParts.mappedText` write the result down, and
`mapped_of_isPreceding` says that it is what a whole stack has in place of the line.
-/

namespace Stacktrace

open Text Numeral

namespace FrameParts

/-- The frame to display for a source position, whose column counts from zero. -/
def mapped (p : FrameParts) (root : Text) (rewrites : Rewrites) (source : Position) :
    FrameLine where
  functionName := rewrites.apply (Frame.cleanName (some p.name))
  fileUrl := some p.file
  relativeFile := some source.file
  absoluteFile := absoluteFile root (some source.file)
  line := some source.line
  column := some (source.column + 1)
  whitespace := p.indent

def mappedText (p : FrameParts) (rewrites : Rewrites) (source : Position) : Text :=
  uniformText p.indent (rewrites.apply (Frame.cleanName (some p.name))) source.file
    (ofInt source.line) (ofInt (source.column + 1))

variable {p : FrameParts} {tables : PositionTables} {root : Text} {rewrites : Rewrites}
  {line : Text} {r : Registration} {source : Position}

/-- **One line** is mapped to what the preceding registration says. -/
theorem readsAs_mapped (hspelt : p.IsSpelt line) (hnl : '\n' ∉ line)
    (hr : tables.IsPreceding p.file (value p.line) (value p.column) r)
    (hsource : r.original = some source.toLocation) :
    ReadsAs tables.resolver root rewrites line (.frame (p.mapped root rewrites source)) := by
  -- the entry that precedes the position is what the table answers
  have hanswer := PositionTables.outcome_position_of_isPreceding
    (p := ⟨p.file, value p.line, value p.column⟩) hr
  rw [hsource] at hanswer
  have hmap : MapsTo tables.resolver rewrites p.fields _ :=
    .resolved rfl p.file_ne_nil rfl hanswer
  have hread : ReadsAs tables.resolver root rewrites line _ := .frame (hspelt.read hnl) hmap
  rw [hspelt.indentation] at hread
  exact hread

/-- The only text that the mapped frame can be written as. -/
theorem reconstruct_mapped (hfile : source.file ≠ []) {t : Text}
    (h : (ParsedLine.frame (p.mapped root rewrites source)).reconstruct = .ok t) :
    t = p.mappedText rewrites source := by
  obtain ⟨l, c, hl, hc, rfl⟩ := FrameLine.reconstruct_eq_ok_iff.mp h
  rw [FrameLine.shownFile_eq rfl hfile, (write_eq_ok_iff.mp hl).2, (write_eq_ok_iff.mp hc).2]
  rfl

/-- It is written as that text if its numbers do not have too many digits. -/
theorem reconstruct_mapped_of_short (hfile : source.file ≠ [])
    (hline : (ofNat source.line.natAbs).length ≤ Fault.digitLimit)
    (hcolumn : (ofNat (source.column + 1).natAbs).length ≤ Fault.digitLimit) :
    (ParsedLine.frame (p.mapped root rewrites source)).reconstruct
      = .ok (p.mappedText rewrites source) := by
  refine FrameLine.reconstruct_eq_ok_iff.mpr
    ⟨_, _, write_eq_ok_iff.mpr ⟨hline, rfl⟩, write_eq_ok_iff.mpr ⟨hcolumn, rfl⟩, ?_⟩
  rw [FrameLine.shownFile_eq rfl hfile]
  rfl

end FrameParts

/-- **Mapped frames, end to end.** Let a line of a stack spell out a frame, and let the registration
that precedes its place know a source position in a named file. Whenever the stack is returned, its
entry for the line is the mapped frame and its text has the mapped frame's text in that place. The
line never keeps the stack from being returned if its source position can be written. -/
theorem mapped_of_isPreceding {tables : PositionTables} {root : Text} {rewrites : Rewrites}
    {stack line : Text} {i : Nat} {p : FrameParts} {r : Registration} {source : Position}
    (hi : (lines stack)[i]? = some line) (hspelt : p.IsSpelt line)
    (hr : tables.IsPreceding p.file (value p.line) (value p.column) r)
    (hsource : r.original = some source.toLocation) (hfile : source.file ≠ []) :
    (∀ s, (SourceStack.ofValue tables.resolver root rewrites (.text stack)).outcome = .ok (some s) →
      s.parsed[i]? = some (.frame (p.mapped root rewrites source)) ∧
      ∃ pieces, reconstructLines s.parsed = .ok pieces ∧ s.sourceMapped = joinLines pieces ∧
        pieces[i]? = some (p.mappedText rewrites source)) ∧
    ((ofNat source.line.natAbs).length ≤ Fault.digitLimit →
      (ofNat (source.column + 1).natAbs).length ≤ Fault.digitLimit →
      (∀ other ∈ lines stack, other ≠ line → ∃ q t,
        (sourceLine tables.resolver root rewrites other).outcome = .ok q ∧ q.reconstruct = .ok t) →
      ∃ s, (SourceStack.ofValue tables.resolver root rewrites (.text stack)).outcome
        = .ok (some s)) := by
  have hnl : '\n' ∉ line := notMem_of_mem_lines (List.mem_of_getElem? hi)
  have hread : ReadsAs tables.resolver root rewrites line _ :=
    FrameParts.readsAs_mapped hspelt hnl hr hsource
  constructor
  · intro s hs
    obtain ⟨q, pieces, t, hq, hparsed, hpieces, hmapped, ht, hpiece⟩ := SourceStack.exists_entry hs hi
    rw [← hread.unique hq] at hparsed ht
    rw [FrameParts.reconstruct_mapped hfile ht] at hpiece
    exact ⟨hparsed, pieces, hpieces, hmapped, hpiece⟩
  · intro hline hcolumn hothers
    -- the line itself is mapped and written, and the others are so by assumption
    have hall : ∀ other ∈ lines stack, ∃ t q, ReadsAs tables.resolver root rewrites other q ∧
        q.reconstruct = .ok t := by
      intro other hmem
      by_cases he : other = line
      · rw [he]
        exact ⟨_, _, hread, FrameParts.reconstruct_mapped_of_short hfile hline hcolumn⟩
      · obtain ⟨q, t, hq, ht⟩ := hothers other hmem he
        exact ⟨t, q, outcome_sourceLine_eq_ok_iff.mp hq, ht⟩
    choose! piece hpiece using hall
    obtain ⟨s, hs, -⟩ := SourceStack.exists_outcome_ofValue hpiece
    exact ⟨s, hs⟩

/-- Two positions on one line of the bundle. -/
def PositionTables.bundle : PositionTables where
  registrations := [
    ⟨"http://localhost:8080/bundle.js".toList, 10, 5, some ⟨some "late.js".toList, some 9, some 0⟩⟩,
    ⟨"http://localhost:8080/bundle.js".toList, 10, 0, some ⟨some "spec.js".toList, some 5, some 1⟩⟩]
  sources := []

/-- A message and a frame, as Firefox writes them. -/
def bundleStack : Text :=
  "Error: boom\n    Context.eval@http://localhost:8080/bundle.js:10:3".toList

theorem mapped_of_isPreceding_testCall :
    ∃ s, (SourceStack.ofValue PositionTables.bundle.resolver "/srv".toList .standard
        (.text bundleStack)).outcome = .ok (some s) ∧
      s.parsed[1]? = some (.frame {
        functionName := "Test.run".toList
        fileUrl := some "http://localhost:8080/bundle.js".toList
        relativeFile := some "spec.js".toList
        absoluteFile := some "/srv/spec.js".toList
        line := some 5
        column := some 2
        whitespace := "    ".toList }) := by
  have hlines : lines bundleStack
      = ["Error: boom".toList, FrameParts.testCall.firefox] := by decide
  have hplain : FrameParts.testCall.PlainFirefox :=
    ⟨by decide, by decide, by decide, by decide, by decide, by decide, by decide⟩
  have hr : PositionTables.bundle.IsPreceding FrameParts.testCall.file
      (value FrameParts.testCall.line) (value FrameParts.testCall.column)
      ⟨"http://localhost:8080/bundle.js".toList, 10, 0, some (Position.mk "spec.js".toList 5 1).toLocation⟩ :=
    ⟨by decide, by decide, by decide⟩
  -- the only other line is the header, a message
  have hothers : ∀ other ∈ lines bundleStack,
      other ≠ FrameParts.testCall.firefox → ∃ q t,
        (sourceLine PositionTables.bundle.resolver "/srv".toList .standard other).outcome = .ok q ∧
          q.reconstruct = .ok t := by
    intro other hother hne
    rw [hlines] at hother
    rcases List.mem_pair.mp hother with rfl | rfl
    · exact ⟨_, _, outcome_sourceLine_eq_ok_iff.mpr (.message (by decide)), rfl⟩
    · exact absurd rfl hne
  obtain ⟨hentry, hreturns⟩ := @mapped_of_isPreceding PositionTables.bundle "/srv".toList .standard
    _ _ 1 _ _ ⟨"spec.js".toList, 5, 1⟩ (by rw [hlines]; rfl) (.firefox hplain) hr rfl (by decide)
  obtain ⟨s, hs⟩ := hreturns (by decide) (by decide) hothers
  exact ⟨s, hs, (hentry s hs).1⟩

end Stacktrace
