import Stacktrace.Proofs.CodeFrame
import Stacktrace.Proofs.Mapper.Process

/-!
# Stack and code frame of one error

The pipeline maps the stack of an error and then looks for a code frame. `stack_and_codeFrame_agree`
says that the two fit together: the rebuilt stack is the text of its entries, and the code frame
shows the first of these entries that names a generated file. An error that brings a code frame
keeps it.
-/

namespace Stacktrace.Mapper

open Text

variable {session : Session} {settings : Settings} {host : Host} {r result : ErrorRecord}

/-- A rebuilt stack is the text of its entries. -/
theorem reconstruct_of_sourceStackIn {stack : Text} {s : SourceStack}
    (h : (sourceStackIn session settings stack).outcome = .ok (some s)) :
    reconstruct s.parsed = .ok s.sourceMapped := by
  obtain ⟨-, pieces, hpieces, hmapped⟩ := SourceStack.forall₂_of_outcome_ofValueIn h
  rw [hmapped]
  exact Outcome.map_eq_ok_iff.mpr ⟨pieces, hpieces, rfl⟩

/-- **Stack and code frame agree.** A record with a stack has it rebuilt, as the text of its entries.
For an error without a code frame of its own, one is found exactly if the first entry with a
generated file knows its line, there is a source for it, and some line of the source lies in the
window; it then shows that entry in that source. -/
theorem stack_and_codeFrame_agree (hhost : ErrorRecord.ofHost host = .ok r)
    (h : (processIn session settings host).outcome = .ok result) :
    result.name = r.name ∧ result.message = r.message ∧
    (∀ v, r.codeFrame = some v → result.codeFrame = some v) ∧
    (r.normalized.stack = none → result = r.normalized) ∧
    ∀ stack, r.normalized.stack = some stack → ∃ s text,
      (sourceStackIn session settings stack).outcome = .ok (some s) ∧
      result.stack = some text ∧ result.parsedStack = some (s.parsed.map Value.line) ∧
      reconstruct s.parsed = .ok text ∧
      (r.codeFrame = none →
        (result.codeFrame.isSome = true ↔
          ∃ f source line, s.Offers (session (SourceStack.questions stack)) f source ∧
            f.line = some line ∧
            max (line - (settings.codeFrame.above + 1)) 0
              < min ((CodeFrame.sourceLines source).length : Int)
                (line + settings.codeFrame.below)) ∧
        ∀ v, result.codeFrame = some v →
          ∃ f source c, s.Offers (session (SourceStack.questions stack)) f source ∧
            Shows c f source settings.codeFrame ∧ v = .codeFrame c) := by
  obtain ⟨r', hr', hreturns⟩ := outcome_processIn_eq_ok_iff.mp h
  cases hhost.symm.trans hr'
  cases hreturns with
  | stackless hnone =>
    refine ⟨r.normalized_name, r.normalized_message, fun v hv => ?_, fun _ => rfl,
      fun stack hstack => ?_⟩
    · rw [r.normalized_codeFrame, hv]
    · cases hnone.symm.trans hstack
  | @mapped stack s codeFrame hstack hs hframe =>
    -- the mapping leaves the frame field alone, so its own frame is the one it came with
    have hown : (withSourceStack r.normalized s).codeFrame = r.codeFrame := r.normalized_codeFrame
    refine ⟨r.normalized_name, r.normalized_message, fun v hv => ?_, fun hnone => ?_,
      fun _ hstack' => ?_⟩
    · rw [ErrorRecord.findCodeFrame_of_some (hown.trans hv)] at hframe
      exact (Except.ok.inj hframe).symm
    · cases hstack.symm.trans hnone
    · cases hstack.symm.trans hstack'
      refine ⟨s, s.sourceMapped, hs, rfl, rfl, reconstruct_of_sourceStackIn hs, fun hnone => ?_⟩
      -- without a frame of its own the record gets the first one the source can show
      have hfound (v : Value) : codeFrame = some v ↔
          ∃ f source c, s.Offers (session (SourceStack.questions stack)) f source ∧
            Shows c f source settings.codeFrame ∧ v = .codeFrame c := by
        rw [← ErrorRecord.outcome_findCodeFrame_eq_ok_iff (hown.trans hnone) rfl, hframe,
          Except.ok.injEq]
      refine ⟨?_, fun v => (hfound v).mp⟩
      show codeFrame.isSome = true ↔ _
      rw [Option.isSome_iff_exists]
      constructor
      · rintro ⟨v, hv⟩
        obtain ⟨f, source, c, hoffers, hshows, -⟩ := (hfound v).mp hv
        obtain ⟨line, hline, hwindow⟩ := exists_shows_iff.mp ⟨c, hshows⟩
        exact ⟨f, source, line, hoffers, hline, hwindow⟩
      · rintro ⟨f, source, line, hoffers, hline, hwindow⟩
        obtain ⟨c, hshows⟩ := exists_shows_iff.mpr ⟨line, hline, hwindow⟩
        exact ⟨.codeFrame c, (hfound _).mpr ⟨f, source, c, hoffers, hshows, rfl⟩⟩

/-- A mapper that knows one position and the source there. -/
def sourced : Mapper where
  resolver := PositionTables.resolver {
    registrations := [⟨"app.js".toList, 3, 4, some ⟨some "src/app.ts".toList, some 2, some 0⟩⟩]
    sources := [(("app.js".toList, "src/app.ts".toList), "const a = 1\nboom()".toList)] }

/-- An error whose second frame is that position. The first one has no file. -/
def thrown : ErrorRecord where
  message := "boom".toList
  stack := some "Error: boom\n    at eval (<anonymous>:1:1)\n    at run (app.js:3:4)".toList

def thrownFrame : FrameLine where
  functionName := "run".toList
  fileUrl := some "app.js".toList
  relativeFile := some "src/app.ts".toList
  absoluteFile := some "src/app.ts".toList
  line := some 2
  column := some 1
  whitespace := "    ".toList

theorem stack_and_codeFrame_agree_thrown :
    ∃ result c, (sourced.process (.record thrown)).outcome = .ok result ∧
      result.stack = some ("Error: boom\n    at eval (<unknown>:1:1)\n".toList ++
        "    at run (src/app.ts:2:1)".toList) ∧
      result.codeFrame = some (.codeFrame c) ∧
      Shows c thrownFrame "const a = 1\nboom()".toList sourced.settings.codeFrame := by
  obtain ⟨result, h⟩ : ∃ result, (sourced.process (.record thrown)).outcome = .ok result := ⟨_, rfl⟩
  have hsession := h
  rw [← processIn_const] at hsession
  obtain ⟨-, -, -, -, hagree⟩ := stack_and_codeFrame_agree
    (show ErrorRecord.ofHost (.record thrown) = .ok thrown from rfl) hsession
  obtain ⟨s, text, hs, hstack, -, htext, hframe⟩ := hagree _ rfl
  obtain ⟨hset, hshown⟩ := hframe rfl
  -- the evaluated frame before it has no file, so it is passed over
  have hfirst : s.shownFrame? = some thrownFrame := by
    cases hs
    decide
  have hrebuilt : reconstruct s.parsed = .ok ("Error: boom\n    at eval (<unknown>:1:1)\n".toList ++
      "    at run (src/app.ts:2:1)".toList) := by
    cases hs
    rfl
  cases htext.symm.trans hrebuilt
  have hcontents : (sourced.resolver.contents "app.js".toList (some "src/app.ts".toList)).outcome
      = .ok (some "const a = 1\nboom()".toList) := by rfl
  have hoffers : s.Offers sourced.resolver thrownFrame "const a = 1\nboom()".toList :=
    ⟨hfirst, ⟨_, rfl, hcontents⟩, by decide⟩
  obtain ⟨v, hv⟩ := Option.isSome_iff_exists.mp (hset.mpr ⟨_, _, 2, hoffers, rfl, by decide⟩)
  obtain ⟨f, source, c, hoffers', hshows, rfl⟩ := hshown v hv
  obtain rfl : thrownFrame = f := Option.some.inj (hfirst.symm.trans hoffers'.shown)
  obtain ⟨url, hurl, hsource⟩ := hoffers'.contents
  cases hurl
  obtain rfl : "const a = 1\nboom()".toList = source :=
    Option.some.inj (Except.ok.inj (hcontents.symm.trans hsource))
  exact ⟨result, c, h, hstack, hv, hshows⟩

end Stacktrace.Mapper
