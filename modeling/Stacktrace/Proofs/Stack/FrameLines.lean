import Stacktrace.Error.Stack
import Stacktrace.Proofs.Stack.Division
import Stacktrace.Proofs.Stack.LineStructure

/-!
# Which rebuilt frames are frame lines

A rebuilt stack is looked at again: `hasStack` divides it anew. A frame is written in the uniform
syntax, and a number that is not known is written as a word, which no frame line ends in. So:

* `FrameLine.OneLine` — what reading guarantees of every frame, provided that the resolver and the
  table of names bring no line feeds in (`oneLine_of_readsAs`);
* `isFrameText_uniformText_iff` — a rebuilt frame is a frame line if and only if both of its numbers
  are known;
* `SourceStack.isFrameText_frame_iff` — the same for the frames of a whole stack, and what it means
  for `hasStack`.
-/

namespace Stacktrace

open Text Numeral

/-! ## Staying on one line -/

/-- A source location that is a whole place on one line. -/
structure SourceLocation.OneLine (source : SourceLocation) : Prop where
  file_line : ∀ file ∈ source.file, '\n' ∉ file
  line_known : ∃ i, source.line = some i ∧ 0 ≤ i
  column_known : ∃ i, source.column = some i ∧ 0 ≤ i

/-- A resolver that gives such locations. -/
def Resolver.OneLine (resolver : Resolver) : Prop :=
  ∀ file p source, (resolver.position file p).outcome = .ok (some source) → source.OneLine

/-- A frame whose texts fit on one line and whose numbers have no sign. -/
structure FrameLine.OneLine (f : FrameLine) : Prop where
  whitespace_line : '\n' ∉ f.whitespace
  name_line : '\n' ∉ f.functionName
  file_line : ∀ file ∈ f.relativeFile, '\n' ∉ file
  line_nonneg : ∀ i ∈ f.line, 0 ≤ i
  column_nonneg : ∀ i ∈ f.column, 0 ≤ i

theorem Resolver.OneLine.filesOneLine {resolver : Resolver} (h : resolver.OneLine) :
    resolver.FilesOneLine :=
  fun file p source hsource => (h file p source hsource).file_line

theorem nonneg_map_ofNat {o : Option Nat} : ∀ i ∈ o.map Int.ofNat, 0 ≤ i := by
  intro i hi
  obtain ⟨n, -, rfl⟩ := Option.map_eq_some_iff.mp hi
  exact Int.natCast_nonneg n

variable {resolver : Resolver} {root : Text} {rewrites : Rewrites}

/-- **Every frame that was read fits on one line**, mapped or not. -/
theorem oneLine_of_readsAs (hresolver : resolver.OneLine) (hrewrites : rewrites.OneLine)
    {line : Text} {f : FrameLine} (hnl : '\n' ∉ line)
    (h : ReadsAs resolver root rewrites line (.frame f)) : f.OneLine := by
  obtain ⟨hindent, hname, hfile⟩ :=
    textsOneLine_of_readsAs hresolver.filesOneLine hrewrites hnl h
  suffices hnumbers : (∀ i ∈ f.line, 0 ≤ i) ∧ ∀ i ∈ f.column, 0 ≤ i from
    ⟨hindent, hname, hfile, hnumbers.1, hnumbers.2⟩
  cases h with
  | frame hread hmap =>
    obtain ⟨-, raw, -, rfl⟩ := Frame.of_read_frame hnl hread
    cases hmap with
    | unasked _ => exact ⟨nonneg_map_ofNat, nonneg_map_ofNat⟩
    | unresolved _ _ _ _ => exact ⟨nonneg_map_ofNat, nonneg_map_ofNat⟩
    | resolved _ _ _ hsource =>
      -- these numbers are the resolver's
      obtain ⟨-, ⟨l, hl, hlpos⟩, ⟨c, hc, hcpos⟩⟩ := hresolver _ _ _ hsource
      constructor
      · intro i hi
        change _ = some i at hi
        rw [show _ = some l from hl] at hi
        cases hi
        exact hlpos
      · intro i hi
        change Option.map (· + 1) _ = some i at hi
        rw [hc] at hi
        cases hi
        exact Int.add_nonneg hcpos (by decide)

/-! ## Both numbers make the frame line -/

/-- A number without a sign is written as digits, and a missing one as a word. -/
theorem writtenOption_cases {o : Option Int} {t : Text} (ho : ∀ i ∈ o, 0 ≤ i)
    (h : writtenOption o = .ok t) :
    (o.isSome = true ∧ IsRun t) ∨ (o.isSome = false ∧ t = "None".toList) := by
  cases o with
  | none =>
    cases h
    exact .inr ⟨rfl, rfl⟩
  | some i => exact .inl ⟨rfl, isRun_of_write (ho i rfl) h⟩

/-- **A rebuilt frame is a frame line** if and only if both of its numbers are known. -/
theorem isFrameText_uniformText_iff {indent name file l c : Text} {line column : Option Int}
    (hnl : '\n' ∉ uniformText indent name file l c) (hline : ∀ i ∈ line, 0 ≤ i)
    (hcolumn : ∀ i ∈ column, 0 ≤ i) (hl : writtenOption line = .ok l)
    (hc : writtenOption column = .ok c) :
    Frame.isFrameText (uniformText indent name file l c) = true ↔
      line.isSome = true ∧ column.isSome = true := by
  generalize ha : indent ++ ['a', 't', ' '] ++ name ++ [' ', '('] ++ file = a
  have heq : uniformText indent name file l c = a ++ (':' :: l ++ ':' :: (c ++ [')'])) := by
    simp [uniformText, ← ha]
  rw [heq] at hnl ⊢
  rcases writtenOption_cases hcolumn hc with ⟨hsome, hcrun⟩ | ⟨hnone, rfl⟩
  · rcases writtenOption_cases hline hl with ⟨hlsome, hlrun⟩ | ⟨hlnone, rfl⟩
    · rw [Frame.isFrameText_place_paren hnl hlrun hcrun, hsome, hlsome]
      decide
    · -- the word stands where the digits of the line should be
      have hword : a ++ (':' :: "None".toList ++ ':' :: (c ++ [')']))
          = (a ++ [':']) ++ ("Non".toList ++ 'e' :: ':' :: (c ++ [')'])) := by simp
      rw [hword] at hnl ⊢
      rw [Frame.isFrameText_line_word hnl hcrun (by decide), hlnone]
      simp
  · have hword : a ++ (':' :: l ++ ':' :: ("None".toList ++ [')']))
        = (a ++ (':' :: l ++ [':'])) ++ ("Non".toList ++ ['e', ')']) := by simp
    rw [hword] at hnl ⊢
    rw [Frame.isFrameText_column_word hnl (by decide), hnone]
    simp

/-! ## Whole stacks -/

/-- What an entry needs to be rebuilt as a frame line. -/
def ParsedLine.ShowsFrame : ParsedLine → Prop
  | .message m => Frame.isFrameText (m.whitespace ++ m.message) = true
  | .frame f => f.line.isSome = true ∧ f.column.isSome = true

theorem outcome_hasStack {host : Host} {r : ErrorRecord} (h : ErrorRecord.ofHost host = .ok r) :
    (hasStack host).outcome = .ok r.hasFrames := by
  unfold hasStack
  rw [h]
  rfl

/-- A record has frames if and only if its stack has a frame line. -/
theorem hasFrames_iff {r : ErrorRecord} {stack : Text} (h : r.stack = some stack) :
    r.hasFrames = true ↔ ∃ l ∈ lines stack, Frame.isFrameText l = true := by
  rw [← divide_frames_ne_nil_iff, ErrorRecord.hasFrames_eq, h]
  simp [divideStack]

namespace SourceStack

theorem mem_frames_iff {s : SourceStack} {f : FrameLine} :
    f ∈ s.frames ↔ .frame f ∈ s.parsed := by
  unfold frames
  rw [List.mem_filterMap]
  constructor
  · rintro ⟨p, hp, hf⟩
    cases p with
    | message m => cases hf
    | frame g =>
      cases hf
      exact hp
  · intro h
    exact ⟨.frame f, h, rfl⟩

variable {stack : Text} {s : SourceStack}

theorem reconstructLines_lines (hresolver : resolver.OneLine) (hrewrites : rewrites.OneLine)
    (h : (ofValue resolver root rewrites (.text stack)).outcome = .ok (some s)) :
    reconstructLines s.parsed = .ok (lines s.sourceMapped) := by
  rw [← ofValueIn_const] at h
  exact reconstructLines_linesIn (fun _ => hresolver.filesOneLine) hrewrites h

theorem exists_line_of_getElem? (hresolver : resolver.OneLine) (hrewrites : rewrites.OneLine)
    (h : (ofValue resolver root rewrites (.text stack)).outcome = .ok (some s)) {i : Nat}
    {p : ParsedLine} (hp : s.parsed[i]? = some p) :
    ∃ l, (lines s.sourceMapped)[i]? = some l ∧ p.reconstruct = .ok l :=
  exists_getElem?_of_forall₂
    (reconstructLines_eq_ok_iff.mp (reconstructLines_lines hresolver hrewrites h)) hp

/-- An entry's line is a frame line if and only if the entry shows one. -/
theorem isFrameText_iff_showsFrame (hresolver : resolver.OneLine) (hrewrites : rewrites.OneLine)
    (h : (ofValue resolver root rewrites (.text stack)).outcome = .ok (some s)) {p : ParsedLine}
    {l : Text} (hp : p ∈ s.parsed) (hwrites : p.reconstruct = .ok l)
    (hl : l ∈ lines s.sourceMapped) : Frame.isFrameText l = true ↔ p.ShowsFrame := by
  cases p with
  | message m =>
    -- a message is written as it was read, so the two sides say the same of it
    cases hwrites
    exact Iff.rfl
  | frame f =>
    obtain ⟨line, hline, hreads⟩ := exists_line_of_mem h hp
    have hf := oneLine_of_readsAs hresolver hrewrites (notMem_of_mem_lines hline) hreads
    obtain ⟨lt, ct, hlt, hct, rfl⟩ := FrameLine.reconstruct_eq_ok_iff.mp hwrites
    exact isFrameText_uniformText_iff (notMem_of_mem_lines hl) hf.line_nonneg hf.column_nonneg
      hlt hct

/-- A rebuilt stack has a frame line if and only if one of its entries shows one. -/
theorem exists_isFrameText_iff (hresolver : resolver.OneLine) (hrewrites : rewrites.OneLine)
    (h : (ofValue resolver root rewrites (.text stack)).outcome = .ok (some s)) :
    (∃ l ∈ lines s.sourceMapped, Frame.isFrameText l = true) ↔ ∃ p ∈ s.parsed, p.ShowsFrame := by
  -- the pieces are the lines of the text, so lines and entries are matched by position
  constructor
  · rintro ⟨l, hl, hframe⟩
    have hwrite := reconstructLines_eq_ok_iff.mp (reconstructLines_lines hresolver hrewrites h)
    obtain ⟨i, hi⟩ := List.getElem?_of_mem hl
    obtain ⟨p, hp, hwrites⟩ := exists_getElem?_of_forall₂ hwrite.flip hi
    have hmem := List.mem_of_getElem? hp
    exact ⟨p, hmem, (isFrameText_iff_showsFrame hresolver hrewrites h hmem hwrites hl).mp hframe⟩
  · rintro ⟨p, hp, hshows⟩
    obtain ⟨i, hi⟩ := List.getElem?_of_mem hp
    obtain ⟨l, hl, hwrites⟩ := exists_line_of_getElem? hresolver hrewrites h hi
    have hmem := List.mem_of_getElem? hl
    exact ⟨l, hmem, (isFrameText_iff_showsFrame hresolver hrewrites h hp hwrites hmem).mpr hshows⟩

/-- **Frames stay frame lines exactly if both of their numbers are known.** A rebuilt stack has
frames for `hasStack` if one of its frames does so, or if a line that was no frame at a place is a
frame line all the same. -/
theorem isFrameText_frame_iff (hresolver : resolver.OneLine) (hrewrites : rewrites.OneLine)
    (h : (ofValue resolver root rewrites (.text stack)).outcome = .ok (some s)) :
    (∀ (i : Nat) (f : FrameLine), s.parsed[i]? = some (.frame f) →
      ∃ l, (lines s.sourceMapped)[i]? = some l ∧
        (Frame.isFrameText l = true ↔ f.line.isSome = true ∧ f.column.isSome = true)) ∧
    ∀ r : ErrorRecord, (hasStack (.record (r.withStack s.sourceMapped))).outcome = .ok true ↔
      (∃ f ∈ s.frames, f.line.isSome = true ∧ f.column.isSome = true) ∨
      ∃ m, .message m ∈ s.parsed ∧ Frame.isFrameText (m.whitespace ++ m.message) = true := by
  constructor
  · intro i f hi
    obtain ⟨l, hl, hwrites⟩ := exists_line_of_getElem? hresolver hrewrites h hi
    exact ⟨l, hl, isFrameText_iff_showsFrame hresolver hrewrites h (List.mem_of_getElem? hi) hwrites
      (List.mem_of_getElem? hl)⟩
  · intro r
    rw [outcome_hasStack rfl, Except.ok.injEq, hasFrames_iff rfl,
      exists_isFrameText_iff hresolver hrewrites h]
    constructor
    · rintro ⟨p, hp, hshows⟩
      cases p with
      | message m => exact .inr ⟨m, hp, hshows⟩
      | frame f => exact .inl ⟨f, mem_frames_iff.mpr hp, hshows⟩
    · rintro (⟨f, hf, hknown⟩ | ⟨m, hm, hframe⟩)
      · exact ⟨.frame f, mem_frames_iff.mp hf, hknown⟩
      · exact ⟨.message m, hm, hframe⟩

end SourceStack

theorem PositionTables.oneLine_empty : PositionTables.empty.resolver.OneLine := by
  intro file p source h
  cases h

/-- A frame of evaluated code, as Firefox writes it: the column belongs to the code and not to the
file that evaluated it. -/
def evalChainStack : Text :=
  "Error: boom\nrun@bundle.js line 12 > eval:1:5".toList

/-- What that stack is rebuilt as. -/
def evalChain : SourceStack where
  parsed := [
    .message { message := "Error: boom".toList },
    .frame {
      functionName := "run".toList
      fileUrl := some "bundle.js".toList
      relativeFile := some "bundle.js".toList
      absoluteFile := some "/srv/bundle.js".toList
      line := some 12
      column := none }]
  sourceMapped := "Error: boom\nat run (bundle.js:12:None)".toList

theorem outcome_evalChainStack :
    (SourceStack.ofValue PositionTables.empty.resolver "/srv".toList .standard
      (.text evalChainStack)).outcome = .ok (some evalChain) := by
  rfl

theorem isFrameText_frame_iff_evalChain :
    ∃ l, (lines evalChain.sourceMapped)[1]? = some l ∧ ¬ Frame.isFrameText l = true := by
  obtain ⟨hframe, -⟩ := SourceStack.isFrameText_frame_iff PositionTables.oneLine_empty
    Rewrites.oneLine_standard outcome_evalChainStack
  obtain ⟨l, hl, hiff⟩ := hframe 1 _ rfl
  exact ⟨l, hl, hiff.not.mpr (by decide)⟩

/-- The stack has a frame, and no frame is left in the text that is rebuilt from it. -/
theorem not_hasStack_evalChain :
    PositionTables.empty.resolver.OneLine ∧ Rewrites.standard.OneLine ∧
      (SourceStack.ofValue PositionTables.empty.resolver "/srv".toList .standard
        (.text evalChainStack)).outcome = .ok (some evalChain) ∧
      evalChain.frames.length = 1 ∧
      Frame.isFrameText "at run (bundle.js:12:None)".toList = false ∧
      (hasStack (.record { stack := some evalChain.sourceMapped })).outcome = .ok false :=
  ⟨PositionTables.oneLine_empty, Rewrites.oneLine_standard, outcome_evalChainStack, by decide,
    by decide, rfl⟩

end Stacktrace
