import Stacktrace.Proofs.Mapper.Process
import Stacktrace.Proofs.Stack.FrameLines
import Stacktrace.Proofs.Stack.Rereading

/-!
# The text of the error above its stack

Engines that leave the text of an error out of its stack get it put there by normalization. The
pipeline then classifies all lines of the stack again and does not know which of them are that text.
So the text stays exactly if each of its lines would stay anywhere:

* `KeptLine` — a line that is no frame at a place, or that is the text of a frame that comes back
  unchanged;
* `eq_self_iff_keptLine` — with a resolver that knows nothing, these are the lines that come out as
  they went in;
* `Mapper.toText_prefix_iff` — the pipeline keeps the error's text exactly if all its lines are such.
-/

namespace Stacktrace

open Text Numeral

variable {resolver : Resolver} {root : Text} {rewrites : Rewrites}

/-! ## One line -/

/-- A line that is no frame at a place, or the text of a frame that comes back unchanged. -/
inductive KeptLine (line : Text) : Prop where
  | other (h : ∀ fields, Frame.read line ≠ .ok (.frame fields))
  | frame (r : Rebuilt) (hback : r.Rereadable) (h : line = r.text)

theorem keptLine_of_not_isFrameText {line : Text} (h : Frame.isFrameText line = false) :
    KeptLine line := by
  refine .other fun fields hread => ?_
  rw [Frame.read, h] at hread
  cases hread

theorem Resolver.KnowsNothing.filesOneLine (h : resolver.KnowsNothing) :
    resolver.FilesOneLine := by
  intro file p source hsource
  rw [h file p] at hsource
  cases hsource

/-- A table of names plays no part when nothing is mapped. -/
theorem readsAs_of_knowsNothing (hresolver : resolver.KnowsNothing) {line : Text} {p : ParsedLine}
    (h : ReadsAs resolver root rewrites line p) : ReadsAs resolver root [] line p := by
  cases p with
  | message m =>
    cases h with
    | message hread => exact .message hread
    | placeless hread => exact .placeless hread
  | frame f =>
    -- a line that was never resolved is never rewritten, so the rewrites play no part
    rw [readsAs_frame_iff_of_knowsNothing hresolver] at h ⊢
    exact h

/-- **Which lines come out as they went in.** -/
theorem eq_self_iff_keptLine (hresolver : resolver.KnowsNothing) {line t : Text} {p : ParsedLine}
    (hnl : '\n' ∉ line) (hreads : ReadsAs resolver root rewrites line p)
    (hwrites : p.reconstruct = .ok t) : t = line ↔ KeptLine line := by
  have hreads' := readsAs_of_knowsNothing hresolver hreads
  obtain ⟨hnlt, hmessage⟩ := of_reconstruct hresolver.filesOneLine (by simp [Rewrites.OneLine]) hnl
    hreads' hwrites
  cases p with
  | message m =>
    refine iff_of_true (hmessage m rfl) (.other fun fields hread => ?_)
    cases hreads with
    | message h =>
      rw [h] at hread
      cases hread
    | placeless h =>
      rw [h] at hread
      cases hread
  | frame f =>
    obtain ⟨fields, hread, rfl⟩ := (readsAs_frame_iff_of_knowsNothing hresolver).mp hreads
    -- a frame that has both numbers is written as its text
    have htext (r : Rebuilt) (hindent : r.indent = indentation line) (hfields : fields = r.fields) :
        t = r.text := by
      subst hfields
      rw [← hindent, reconstruct_displayFrame] at hwrites
      exact (Except.ok.inj hwrites).symm
    constructor
    · rintro rfl
      obtain ⟨hframe, raw, -, rfl⟩ := Frame.of_read_frame hnl hread
      obtain ⟨l, c, hl, hc, huniform⟩ := FrameLine.reconstruct_eq_ok_iff.mp hwrites
      rw [huniform] at hframe hnl
      have hknown := (isFrameText_uniformText_iff hnl nonneg_map_ofNat nonneg_map_ofNat hl hc).mp
        hframe
      rw [← huniform] at hnl
      obtain ⟨r, hindent, hfields⟩ := Rebuilt.exists_of_read hnl hread hknown.2
      have ht := htext r hindent hfields
      rw [hfields, ht] at hread
      exact .frame r (r.read_text_eq_iff.mp hread) ht
    · intro hkept
      cases hkept with
      | other h => exact absurd hread (h fields)
      | frame r hback hline =>
        subst hline
        rw [r.read_text_eq_iff.mpr hback] at hread
        cases hread
        exact htext r r.indentation_text.symm rfl

/-! ## The whole text -/

/-- What becomes of a line, as text. -/
def ComesOutAs (resolver : Resolver) (root : Text) (rewrites : Rewrites) (line t : Text) : Prop :=
  ∃ p, ReadsAs resolver root rewrites line p ∧ p.reconstruct = .ok t

theorem forall₂_comesOutAs (hresolver : resolver.KnowsNothing) {stack : Text} {s : SourceStack}
    (h : (SourceStack.ofValue resolver root rewrites (.text stack)).outcome = .ok (some s)) :
    List.Forall₂ (ComesOutAs resolver root rewrites) (lines stack) (lines s.sourceMapped) := by
  obtain ⟨hread, hrest⟩ := SourceStack.outcome_ofValue_text_eq_ok_iff.mp h
  -- without names from outside, no line of the result holds a line feed
  have hbare : (SourceStack.ofValue resolver root [] (.text stack)).outcome = .ok (some s) :=
    SourceStack.outcome_ofValue_text_eq_ok_iff.mpr
      ⟨hread.imp fun _ _ => readsAs_of_knowsNothing hresolver, hrest⟩
  rw [← SourceStack.ofValueIn_const] at hbare
  have hwrite := SourceStack.reconstructLines_linesIn (fun _ => hresolver.filesOneLine)
    (by simp [Rewrites.OneLine]) hbare
  exact forall₂_comp hread (reconstructLines_eq_ok_iff.mp hwrite)

theorem eq_of_forall₂ {R : α → α → Prop} {xs ys : List α} (h : List.Forall₂ R xs ys)
    (hR : ∀ x ∈ xs, ∀ y, R x y → y = x) : ys = xs := by
  induction h with
  | nil => rfl
  | cons hr _ ih =>
    rw [hR _ List.mem_cons_self _ hr, ih fun x hx => hR x (List.mem_cons_of_mem _ hx)]

namespace Mapper

variable {m : Mapper} {host : Host} {r result : ErrorRecord}

/-- **The pipeline keeps the error's text** exactly if each of its lines is kept. The engine left the
text out of the stack, and the resolver knows nothing. -/
theorem toText_prefix_iff (hresolver : m.resolver.KnowsNothing)
    (hhost : ErrorRecord.ofHost host = .ok r) (hshows : r.showsText = false)
    (h : (m.process host).outcome = .ok result) :
    ∃ text, result.stack = some text ∧
      (r.toText ++ ['\n'] <+: text ↔ ∀ line ∈ lines r.toText, KeptLine line) := by
  obtain ⟨r', hr', hreturns⟩ := outcome_process_eq_ok_iff.mp h
  cases hhost.symm.trans hr'
  have hnormalized : r.normalized.stack = some (r.toText ++ '\n' :: r.stackText) := by
    rw [ErrorRecord.normalized, hshows]
    rfl
  cases hreturns with
  | stackless hnone =>
    rw [hnormalized] at hnone
    cases hnone
  | @mapped stack s codeFrame hstack hs hframe =>
    cases hnormalized.symm.trans hstack
    refine ⟨s.sourceMapped, rfl, ?_⟩
    -- the lines of the result are those of the error's text and those of the stack, made over
    have hlines := (forall₂_comesOutAs hresolver hs).flip
    rw [lines_append] at hlines
    have htext := (List.forall₂_take_append _ _ _ hlines).flip
    have hbelow := List.forall₂_drop_append _ _ _ hlines
    have hself {line t : Text} (hline : line ∈ lines r.toText)
        (hout : ComesOutAs m.resolver m.settings.projectRoot
          m.settings.stack.functionNameRewrites line t) : t = line ↔ KeptLine line := by
      obtain ⟨p, hreads, hwrites⟩ := hout
      exact eq_self_iff_keptLine hresolver (notMem_of_mem_lines hline) hreads hwrites
    rw [prefix_iff_lines]
    constructor
    · rintro ⟨rest, -, hsplit⟩ line hline
      rw [hsplit, List.take_left] at htext
      exact (hself hline (List.forall₂_same.mp htext line hline)).mp rfl
    · intro hkept
      have hfirst := eq_of_forall₂ htext fun line hline t hout =>
        (hself hline hout).mpr (hkept line hline)
      refine ⟨(lines s.sourceMapped).drop (lines r.toText).length, ?_, ?_⟩
      · intro hnil
        rw [hnil] at hbelow
        exact lines_ne_nil r.stackText (List.forall₂_nil_left_iff.mp hbelow)
      · calc lines s.sourceMapped
            = (lines s.sourceMapped).take (lines r.toText).length
                ++ (lines s.sourceMapped).drop (lines r.toText).length :=
              (List.take_append_drop _ _).symm
          _ = _ := by rw [hfirst]

/-- A mapper that resolves nothing. -/
def bare : Mapper :=
  ⟨PositionTables.empty.resolver, {}⟩

/-- An error whose stack comes without its text, as in Firefox. -/
def boom : ErrorRecord where
  message := "boom".toList
  stack := some "run@app.js:3:4".toList

theorem toText_prefix_iff_boom :
    ∃ result text, (bare.process (.record boom)).outcome = .ok result ∧
      result.stack = some text ∧ "Error: boom\n".toList <+: text := by
  obtain ⟨result, h⟩ : ∃ result, (bare.process (.record boom)).outcome = .ok result := ⟨_, rfl⟩
  obtain ⟨text, hstack, hiff⟩ := toText_prefix_iff PositionTables.knowsNothing_empty
    (show ErrorRecord.ofHost (.record boom) = .ok boom from rfl) (by decide) h
  refine ⟨result, text, h, hstack, hiff.mpr ?_⟩
  have hlines : lines boom.toText = ["Error: boom".toList] := by decide
  rw [hlines]
  intro line hline
  rw [List.mem_singleton.mp hline]
  exact keptLine_of_not_isFrameText (by decide)

/-- An error whose message ends in a place. -/
def unexpected : ErrorRecord where
  name := "SyntaxError".toList
  message := "Unexpected token at http://localhost/app.js:10:5".toList
  stack := some "run@bundle.js:1:2".toList

/-- Such a message is taken for a frame and made over. -/
theorem not_forall_toText_prefix :
    ¬ ∀ (m : Mapper) (host : Host) (r result : ErrorRecord), m.resolver.KnowsNothing →
      ErrorRecord.ofHost host = .ok r → r.showsText = false →
      (m.process host).outcome = .ok result →
      ∃ text, result.stack = some text ∧ r.toText ++ ['\n'] <+: text := by
  intro hall
  -- the message ends in a place, so its header line is read as a frame and rewritten
  have hprocess : (bare.process (.record unexpected)).outcome = .ok {
      name := "SyntaxError".toList
      message := "Unexpected token at http://localhost/app.js:10:5".toList
      stack := some ("at <unknown> (SyntaxError: Unexpected token at ".toList ++
        "http://localhost/app.js:10:5)\nat run (bundle.js:1:2)".toList)
      parsedStack := some [
        .line (.frame {
          functionName := "<unknown>".toList
          fileUrl := some "SyntaxError: Unexpected token at http://localhost/app.js".toList
          relativeFile := some "SyntaxError: Unexpected token at http://localhost/app.js".toList
          absoluteFile := some "SyntaxError: Unexpected token at http:/localhost/app.js".toList
          line := some 10
          column := some 5 }),
        .line (.frame {
          functionName := "run".toList
          fileUrl := some "bundle.js".toList
          relativeFile := some "bundle.js".toList
          absoluteFile := some "bundle.js".toList
          line := some 1
          column := some 2 })] } := by rfl
  obtain ⟨text, hstack, hprefix⟩ := hall bare (.record unexpected) unexpected _
    PositionTables.knowsNothing_empty rfl (by decide) hprocess
  cases hstack
  exact absurd hprefix (by decide)

end Mapper

end Stacktrace
