import Mathlib.Data.List.Forall2
import Stacktrace.Proofs.Frame.Reading
import Stacktrace.Stack.SourceStack

/-!
# What a built stack consists of

Building a stack is a pass over its lines that may stop at any of them. Here the pass is taken
apart into relations between one line and what becomes of it:

* `MapsTo` — what a resolver may make of a generated frame;
* `ReadsAs` — what a line of a stack may be classified as;
* `outcome_readLines_eq_ok_iff`, `reconstructLines_eq_ok_iff` — a pass succeeds exactly if every
  line does, and its result is the list of their results;
* `outcome_ofValue_text_eq_ok_iff` — the same for the whole stack, from text to text.

Later statements about stacks speak about single lines and get the whole from these.
-/

namespace Stacktrace

open Text

variable {resolver : Resolver} {root : Text} {rewrites : Rewrites}

/-! ## One line -/

/-- What a frame may be mapped to: itself, if nobody is asked or the resolver knows no source, and
otherwise what the resolver answered. -/
inductive MapsTo (resolver : Resolver) (rewrites : Rewrites) (generated : FrameFields) :
    FrameFields → Prop where
  | unasked (h : generated.file = none ∨ generated.file = some [] ∨ generated.line = none) :
      MapsTo resolver rewrites generated generated
  | unresolved {file : Text} {line : Int} (hfile : generated.file = some file) (hne : file ≠ [])
      (hline : generated.line = some line)
      (h : (resolver.position file ⟨file, line, generated.column.getD 0⟩).outcome = .ok none) :
      MapsTo resolver rewrites generated generated
  | resolved {file : Text} {line : Int} {source : SourceLocation}
      (hfile : generated.file = some file) (hne : file ≠ []) (hline : generated.line = some line)
      (h : (resolver.position file ⟨file, line, generated.column.getD 0⟩).outcome
        = .ok (some source)) :
      MapsTo resolver rewrites generated
        ⟨rewrites.apply generated.functionName, source.file, source.line, source.column, true⟩

/-- Mapping a frame is putting one question or none. -/
theorem outcome_mapToSource_eq_ok_iff {generated source : FrameFields} :
    (mapToSource resolver rewrites generated).outcome = .ok source ↔
      MapsTo resolver rewrites generated source := by
  constructor
  · intro h
    unfold mapToSource at h
    split at h
    · next c cs line hfile hline =>
      obtain ⟨answer, hanswer, h⟩ := Run.outcome_bind_eq_ok_iff.mp h
      cases answer with
      | none =>
        -- the entry in the log does not change the outcome
        obtain ⟨-, -, h⟩ := Run.outcome_bind_eq_ok_iff.mp h
        rw [← Run.outcome_pure_eq_ok_iff.mp h]
        exact .unresolved hfile (by simp) hline hanswer
      | some source =>
        rw [← Run.outcome_pure_eq_ok_iff.mp h]
        exact .resolved hfile (by simp) hline hanswer
    · -- no question: the file or the line is missing
      next hother =>
      rw [← Run.outcome_pure_eq_ok_iff.mp h]
      refine .unasked ?_
      cases hfile : generated.file with
      | none => exact .inl rfl
      | some file =>
        cases file with
        | nil => exact .inr (.inl rfl)
        | cons c cs =>
          cases hline : generated.line with
          | none => exact .inr (.inr rfl)
          | some line => exact absurd hline (hother c cs line hfile)
  · intro h
    cases h with
    | unasked h =>
      unfold mapToSource
      split
      · next c cs line hfile hline =>
        rw [hfile, hline] at h
        simp at h
      · rfl
    | unresolved hfile hne hline h =>
      obtain ⟨c, cs, rfl⟩ := List.exists_cons_of_ne_nil hne
      unfold mapToSource
      rw [hfile, hline]
      dsimp only
      exact Run.outcome_bind_eq_ok_iff.mpr ⟨none, h, rfl⟩
    | resolved hfile hne hline h =>
      obtain ⟨c, cs, rfl⟩ := List.exists_cons_of_ne_nil hne
      unfold mapToSource
      rw [hfile, hline]
      dsimp only
      exact Run.outcome_bind_eq_ok_iff.mpr ⟨_, h, rfl⟩

/-- What a line of a stack may be classified as. -/
inductive ReadsAs (resolver : Resolver) (root : Text) (rewrites : Rewrites) (line : Text) :
    ParsedLine → Prop where
  | message (h : Frame.read line = .ok .message) :
      ReadsAs resolver root rewrites line (.message ⟨trimStart line, indentation line⟩)
  | placeless {d : Dialect} (h : Frame.read line = .ok (.placeless d)) :
      ReadsAs resolver root rewrites line (.message ⟨trimStart line, indentation line⟩)
  | frame {generated source : FrameFields} (hread : Frame.read line = .ok (.frame generated))
      (hmap : MapsTo resolver rewrites generated source) :
      ReadsAs resolver root rewrites line
        (.frame (displayFrame root (indentation line) generated source))

/-- Classifying a line is reading it and, if it is a frame, mapping it. -/
theorem outcome_sourceLine_eq_ok_iff {line : Text} {parsed : ParsedLine} :
    (sourceLine resolver root rewrites line).outcome = .ok parsed ↔
      ReadsAs resolver root rewrites line parsed := by
  constructor
  · intro h
    obtain ⟨fields, hfields, h⟩ := Run.outcome_bind_eq_ok_iff.mp h
    obtain ⟨reading, hread, hfields⟩ := Run.outcome_bind_eq_ok_iff.mp hfields
    change Frame.read line = .ok reading at hread
    cases reading with
    | message =>
      rw [← Run.outcome_pure_eq_ok_iff.mp hfields] at h
      rw [← Run.outcome_pure_eq_ok_iff.mp h]
      exact .message hread
    -- a frame form without a place is logged, then kept as a message
    | placeless d =>
      obtain ⟨-, -, hfields⟩ := Run.outcome_bind_eq_ok_iff.mp hfields
      rw [← Run.outcome_pure_eq_ok_iff.mp hfields] at h
      rw [← Run.outcome_pure_eq_ok_iff.mp h]
      exact .placeless hread
    | frame generated =>
      rw [← Run.outcome_pure_eq_ok_iff.mp hfields] at h
      obtain ⟨source, hmap, h⟩ := Run.outcome_bind_eq_ok_iff.mp h
      rw [← Run.outcome_pure_eq_ok_iff.mp h]
      exact .frame hread (outcome_mapToSource_eq_ok_iff.mp hmap)
  · intro h
    refine Run.outcome_bind_eq_ok_iff.mpr ?_
    cases h with
    | message hread =>
      exact ⟨none, Run.outcome_bind_eq_ok_iff.mpr ⟨.message, hread, rfl⟩, rfl⟩
    | @placeless d hread =>
      exact ⟨none, Run.outcome_bind_eq_ok_iff.mpr ⟨.placeless d, hread, rfl⟩, rfl⟩
    | @frame generated source hread hmap =>
      refine ⟨some generated, Run.outcome_bind_eq_ok_iff.mpr ⟨.frame generated, hread, rfl⟩, ?_⟩
      exact Run.outcome_bind_eq_ok_iff.mpr ⟨source, outcome_mapToSource_eq_ok_iff.mpr hmap, rfl⟩

/-- A line is classified in one way only. -/
theorem ReadsAs.unique {line : Text} {p q : ParsedLine} (hp : ReadsAs resolver root rewrites line p)
    (hq : ReadsAs resolver root rewrites line q) : p = q := by
  rw [← outcome_sourceLine_eq_ok_iff] at hp hq
  exact Except.ok.inj (hp.symm.trans hq)

/-! ## The text of one line -/

/-- A message line is put together again from its indentation and the rest. -/
theorem reconstruct_message (line : Text) :
    (ParsedLine.message ⟨trimStart line, indentation line⟩).reconstruct = .ok line := by
  show Except.ok (indentation line ++ trimStart line) = _
  rw [indentation_append_trimStart]

/-- The file that a rebuilt frame shows. -/
def FrameLine.shownFile (f : FrameLine) : Text :=
  match f.relativeFile with
  | some (c :: cs) => c :: cs
  | _ => unknownFile

theorem FrameLine.shownFile_eq {f : FrameLine} {file : Text} (h : f.relativeFile = some file)
    (hne : file ≠ []) : f.shownFile = file := by
  obtain ⟨c, cs, rfl⟩ := List.exists_cons_of_ne_nil hne
  rw [shownFile, h]

theorem FrameLine.shownFile_of_none {f : FrameLine} (h : f.relativeFile = none) :
    f.shownFile = unknownFile := by
  rw [shownFile, h]

/-- Rebuilding a frame is writing its two numbers. -/
theorem FrameLine.reconstruct_eq_ok_iff {f : FrameLine} {t : Text} :
    (ParsedLine.frame f).reconstruct = .ok t ↔
      ∃ l c, writtenOption f.line = .ok l ∧ writtenOption f.column = .ok c ∧
        t = uniformText f.whitespace f.functionName f.shownFile l c := by
  have heq : (ParsedLine.frame f).reconstruct = (do
      let l ← writtenOption f.line
      let c ← writtenOption f.column
      return uniformText f.whitespace f.functionName f.shownFile l c) := rfl
  rw [heq]
  constructor
  · intro h
    obtain ⟨l, hl, h⟩ := Outcome.bind_eq_ok_iff.mp h
    obtain ⟨c, hc, h⟩ := Outcome.bind_eq_ok_iff.mp h
    cases h
    exact ⟨l, c, hl, hc, rfl⟩
  · rintro ⟨l, c, hl, hc, rfl⟩
    exact Outcome.bind_eq_ok_iff.mpr ⟨l, hl, Outcome.bind_eq_ok_iff.mpr ⟨c, hc, rfl⟩⟩

/-! ## All lines -/

theorem exists_getElem?_of_forall₂ {R : α → β → Prop} {xs : List α} {ys : List β}
    (h : List.Forall₂ R xs ys) {i : Nat} {x : α} (hx : xs[i]? = some x) :
    ∃ y, ys[i]? = some y ∧ R x y := by
  induction h generalizing i with
  | nil => cases hx
  | cons hr _ ih =>
    cases i with
    | zero =>
      cases hx
      exact ⟨_, rfl, hr⟩
    | succ i => exact ih hx

theorem forall₂_comp {R : α → β → Prop} {S : β → γ → Prop} {xs : List α} {ys : List β}
    {zs : List γ} (h : List.Forall₂ R xs ys) (k : List.Forall₂ S ys zs) :
    List.Forall₂ (fun x z => ∃ y, R x y ∧ S y z) xs zs := by
  induction h generalizing zs with
  | nil =>
    rw [List.forall₂_nil_left_iff.mp k]
    exact .nil
  | cons hr _ ih =>
    obtain ⟨z, zs, hs, hrest, rfl⟩ := List.forall₂_cons_left_iff.mp k
    exact .cons ⟨_, hr, hs⟩ (ih hrest)

namespace SourceStack

/-- **The pass over the lines**: it succeeds exactly if every line can be classified. -/
theorem outcome_readLines_eq_ok_iff {ls : List Text} {ps : List ParsedLine} :
    (readLines resolver root rewrites ls).outcome = .ok ps ↔
      List.Forall₂ (ReadsAs resolver root rewrites) ls ps := by
  induction ls generalizing ps with
  | nil =>
    rw [List.forall₂_nil_left_iff, readLines_nil, Run.outcome_pure_eq_ok_iff]
    exact eq_comm
  | cons l ls ih =>
    rw [List.forall₂_cons_left_iff, readLines_cons]
    -- the resolver is one function here, so no line depends on the ones before it
    constructor
    · intro h
      obtain ⟨p, hp, h⟩ := Run.outcome_bind_eq_ok_iff.mp h
      obtain ⟨ps', hps, h⟩ := Run.outcome_bind_eq_ok_iff.mp h
      exact ⟨p, ps', outcome_sourceLine_eq_ok_iff.mp hp, ih.mp hps,
        (Run.outcome_pure_eq_ok_iff.mp h).symm⟩
    · rintro ⟨p, ps', hp, hps, rfl⟩
      refine Run.outcome_bind_eq_ok_iff.mpr ⟨p, outcome_sourceLine_eq_ok_iff.mpr hp, ?_⟩
      exact Run.outcome_bind_eq_ok_iff.mpr ⟨ps', ih.mpr hps, rfl⟩

end SourceStack

/-- **The pass back to text** succeeds exactly if every line can be written. -/
theorem reconstructLines_eq_ok_iff {ps : List ParsedLine} {ts : List Text} :
    reconstructLines ps = .ok ts ↔ List.Forall₂ (fun p t => p.reconstruct = .ok t) ps ts := by
  induction ps generalizing ts with
  | nil =>
    rw [List.forall₂_nil_left_iff, reconstructLines, Except.ok.injEq]
    exact eq_comm
  | cons p ps ih =>
    rw [List.forall₂_cons_left_iff, reconstructLines]
    constructor
    · intro h
      obtain ⟨t, hp, h⟩ := Outcome.bind_eq_ok_iff.mp h
      obtain ⟨ts', hps, h⟩ := Outcome.bind_eq_ok_iff.mp h
      cases h
      exact ⟨t, ts', hp, ih.mp hps, rfl⟩
    · rintro ⟨t, ts', hp, hps, rfl⟩
      exact Outcome.bind_eq_ok_iff.mpr ⟨t, hp, Outcome.bind_eq_ok_iff.mpr ⟨ts', ih.mpr hps, rfl⟩⟩

namespace SourceStack

/-- **From text to text**: a stack is built exactly if its lines can be classified and written, and
it consists of what the lines became. -/
theorem outcome_ofValue_text_eq_ok_iff {stack : Text} {s : SourceStack} :
    (ofValue resolver root rewrites (.text stack)).outcome = .ok (some s) ↔
      List.Forall₂ (ReadsAs resolver root rewrites) (lines stack) s.parsed ∧
        ∃ pieces, reconstructLines s.parsed = .ok pieces ∧ s.sourceMapped = joinLines pieces := by
  constructor
  · intro h
    obtain ⟨s', hbuild, h⟩ := Run.outcome_bind_eq_ok_iff.mp h
    cases Run.outcome_pure_eq_ok_iff.mp h
    obtain ⟨parsed, hparsed, hbuild⟩ := Run.outcome_bind_eq_ok_iff.mp hbuild
    obtain ⟨text, htext, hbuild⟩ := Run.outcome_bind_eq_ok_iff.mp hbuild
    cases Run.outcome_pure_eq_ok_iff.mp hbuild
    obtain ⟨pieces, hpieces, rfl⟩ := Outcome.map_eq_ok_iff.mp htext
    exact ⟨outcome_readLines_eq_ok_iff.mp hparsed, pieces, hpieces, rfl⟩
  · obtain ⟨parsed, sourceMapped⟩ := s
    rintro ⟨hread, pieces, hpieces, rfl⟩
    refine Run.outcome_bind_eq_ok_iff.mpr ⟨_, Run.outcome_bind_eq_ok_iff.mpr ⟨parsed,
      outcome_readLines_eq_ok_iff.mpr hread, Run.outcome_bind_eq_ok_iff.mpr
        ⟨joinLines pieces, Outcome.map_eq_ok_iff.mpr ⟨pieces, hpieces, rfl⟩, rfl⟩⟩, rfl⟩

theorem exists_line_of_mem {stack : Text} {s : SourceStack} {p : ParsedLine}
    (h : (ofValue resolver root rewrites (.text stack)).outcome = .ok (some s))
    (hp : p ∈ s.parsed) : ∃ line ∈ lines stack, ReadsAs resolver root rewrites line p := by
  obtain ⟨hread, -⟩ := outcome_ofValue_text_eq_ok_iff.mp h
  obtain ⟨i, hi⟩ := List.getElem?_of_mem hp
  obtain ⟨line, hline, hreads⟩ := exists_getElem?_of_forall₂ hread.flip hi
  exact ⟨line, List.mem_of_getElem? hline, hreads⟩

/-- **The entry for a line** of the stack, and the piece of text that it is written as. -/
theorem exists_entry {stack line : Text} {s : SourceStack} {i : Nat}
    (h : (ofValue resolver root rewrites (.text stack)).outcome = .ok (some s))
    (hi : (lines stack)[i]? = some line) :
    ∃ p pieces t, ReadsAs resolver root rewrites line p ∧ s.parsed[i]? = some p ∧
      reconstructLines s.parsed = .ok pieces ∧ s.sourceMapped = joinLines pieces ∧
      p.reconstruct = .ok t ∧ pieces[i]? = some t := by
  obtain ⟨hread, pieces, hpieces, hmapped⟩ := outcome_ofValue_text_eq_ok_iff.mp h
  obtain ⟨p, hp, hreads⟩ := exists_getElem?_of_forall₂ hread hi
  obtain ⟨t, ht, hwrites⟩ :=
    exists_getElem?_of_forall₂ (reconstructLines_eq_ok_iff.mp hpieces) hp
  exact ⟨p, pieces, t, hreads, hp, hpieces, hmapped, hwrites, ht⟩

/-- **A stack is returned** if each of its lines is classified and written, and its text is made of
the lines' texts. -/
theorem exists_outcome_ofValue {stack : Text} {piece : Text → Text}
    (h : ∀ line ∈ lines stack, ∃ p, ReadsAs resolver root rewrites line p ∧
      p.reconstruct = .ok (piece line)) :
    ∃ s, (ofValue resolver root rewrites (.text stack)).outcome = .ok (some s) ∧
      s.sourceMapped = joinLines ((lines stack).map piece) := by
  -- the two passes succeed on any list of such lines, by induction on the list
  have hall : ∀ ls : List Text, (∀ line ∈ ls, ∃ p, ReadsAs resolver root rewrites line p ∧
      p.reconstruct = .ok (piece line)) → ∃ ps, List.Forall₂ (ReadsAs resolver root rewrites) ls ps ∧
      List.Forall₂ (fun p t => p.reconstruct = .ok t) ps (ls.map piece) := by
    intro ls hls
    induction ls with
    | nil => exact ⟨[], .nil, .nil⟩
    | cons l ls ih =>
      obtain ⟨p, hread, hwrite⟩ := hls l List.mem_cons_self
      obtain ⟨ps, hreads, hwrites⟩ := ih fun k hk => hls k (List.mem_cons_of_mem l hk)
      exact ⟨p :: ps, .cons hread hreads, .cons hwrite hwrites⟩
  obtain ⟨ps, hreads, hwrites⟩ := hall (lines stack) h
  exact ⟨⟨ps, _⟩, outcome_ofValue_text_eq_ok_iff.mpr
    ⟨hreads, _, reconstructLines_eq_ok_iff.mpr hwrites, rfl⟩, rfl⟩

end SourceStack

end Stacktrace
