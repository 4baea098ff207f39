import Stacktrace.Proofs.Stack.Building

/-!
# Stacks that come back unchanged

Rebuilding is not the identity: frames are put into one syntax, names are cleaned and numbers are
written anew. `Untouched` collects the lines that all of this leaves alone, and
`sourceMapped_of_untouched` says that a stack of such lines comes back as it was.

The work is done line by line: a line is untouched if classifying and writing it gives the line
(`Untouched.exists_readsAs`), and cutting a stack into lines loses nothing (`joinLines_lines`).
-/

namespace Stacktrace

open Text Numeral

variable {resolver : Resolver}

/-- The lines that a stack keeps: those that are no frame at a place, and frames in the uniform
syntax that the resolver does not know and that are written as the library would write them. -/
inductive Untouched (resolver : Resolver) : Text → Prop where
  | message {line : Text} (h : Frame.read line = .ok .message) : Untouched resolver line
  | placeless {line : Text} {d : Dialect} (h : Frame.read line = .ok (.placeless d)) :
      Untouched resolver line
  | frame (p : FrameParts) (hmark : ¬ Chromium.evalMark <:+: p.chromium)
      (hname : ¬ ['/', '<'] <:+ p.name) (hline : IsCanonical p.line)
      (hcolumn : IsCanonical p.column)
      (h : (resolver.position p.file ⟨p.file, value p.line, value p.column⟩).outcome = .ok none) :
      Untouched resolver p.chromium

/-- A numeral in the canonical form is written as it was read. -/
theorem writtenOption_value {s : Text} (h : IsCanonical s) (hs : s.length ≤ Fault.digitLimit) :
    writtenOption (some (value s : Int)) = .ok s := by
  have hvalue := ofNat_value h
  have hwrite := write_natCast (n := value s) (by rw [hvalue]; exact hs)
  rw [hvalue] at hwrite
  exact hwrite

/-- **One untouched line** is classified and written back. -/
theorem Untouched.exists_readsAs (root : Text) (rewrites : Rewrites) {line : Text}
    (h : Untouched resolver line) (hnl : '\n' ∉ line) :
    ∃ p, ReadsAs resolver root rewrites line p ∧ p.reconstruct = .ok line := by
  cases h with
  | message h => exact ⟨_, .message h, reconstruct_message line⟩
  | placeless h => exact ⟨_, .placeless h, reconstruct_message line⟩
  | frame p hmark hname hline hcolumn h =>
    have hread := p.read_chromium hnl fun hloss => hmark hloss.1
    have hmap : MapsTo resolver rewrites p.fields p.fields :=
      .unresolved rfl p.file_ne_nil rfl h
    refine ⟨_, .frame hread hmap, FrameLine.reconstruct_eq_ok_iff.mpr
      ⟨p.line, p.column, writtenOption_value hline p.line_short,
        writtenOption_value hcolumn p.column_short, ?_⟩⟩
    -- what is left is that no part of the text changed
    have hnlname : '\n' ∉ p.name := (newline_notMem_uniformText.mp hnl).2.1
    have hfile : (displayFrame root (indentation p.chromium) p.fields p.fields).shownFile = p.file :=
      FrameLine.shownFile_eq rfl p.file_ne_nil
    rw [hfile]
    show p.chromium = uniformText (indentation p.chromium) (Frame.cleanName (some p.name)) p.file
      p.line p.column
    rw [p.indentation_chromium, Frame.cleanName_eq_self p.name_ne_nil hnlname hname]
    rfl

/-- **A stack of untouched lines comes back unchanged**, for every resolver, root and table of
names. -/
theorem sourceMapped_of_untouched (root : Text) (rewrites : Rewrites) {stack : Text}
    (h : ∀ line ∈ lines stack, Untouched resolver line) :
    ∃ s, (SourceStack.ofValue resolver root rewrites (.text stack)).outcome = .ok (some s) ∧
      s.sourceMapped = stack := by
  -- each untouched line is written back as itself
  have hlines : ∀ line ∈ lines stack, ∃ p, ReadsAs resolver root rewrites line p ∧
      p.reconstruct = .ok (id line) := by
    intro line hline
    exact (h line hline).exists_readsAs root rewrites (notMem_of_mem_lines hline)
  obtain ⟨s, hs, hmapped⟩ := SourceStack.exists_outcome_ofValue hlines
  refine ⟨s, hs, ?_⟩
  rw [hmapped, List.map_id, joinLines_lines]

/-- A message and a frame, as an engine writes them. -/
def testCallStack : Text :=
  "Error: boom\n    at Context.eval (http://localhost:8080/bundle.js:10:3)".toList

theorem sourceMapped_of_untouched_testCall :
    ∃ s, (SourceStack.ofValue PositionTables.empty.resolver "/srv".toList .standard
        (.text testCallStack)).outcome = .ok (some s) ∧ s.sourceMapped = testCallStack := by
  refine sourceMapped_of_untouched _ _ ?_
  have hlines : lines testCallStack = ["Error: boom".toList, FrameParts.testCall.chromium] := by
    decide
  rw [hlines]
  intro line hline
  rcases List.mem_pair.mp hline with rfl | rfl
  · exact .message (by decide)
  · have hmark : occursIn Chromium.evalMark FrameParts.testCall.chromium = false := by decide
    exact .frame FrameParts.testCall (occursIn_eq_false_iff.mp hmark) (by decide) (by decide)
      (by decide) rfl

end Stacktrace
