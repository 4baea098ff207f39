import Stacktrace.Proofs.Stack.Session

/-!
# The lines of a source stack

A source stack has an entry and a line of text for every line of the stack that it was built from.
That holds as long as no text from outside brings in line feeds: the files that a resolver returns
and the targets of the table of names. Everything else comes from the line itself or is written by
this library.

* `SourceStack.reconstructLines_linesIn` — the lines of the rebuilt text are the texts of the entries;
* `SourceStack.outcome_ofValue_append` — a stack of two parts is built part by part;
* `SourceStack.keeps_lines` — what both mean for every line of every stack.
-/

namespace Stacktrace

open Text Numeral

/-! ## Indentation -/

/-- The longest blank beginning of a line. -/
structure IsIndentation (w line : Text) : Prop where
  starts : w <+: line
  blank : ∀ c ∈ w, isBlank c = true
  longest : ∀ v, v <+: line → (∀ c ∈ v, isBlank c = true) → v <+: w

theorem isIndentation_indentation (line : Text) : IsIndentation (indentation line) line where
  starts := List.takeWhile_prefix isBlank
  blank _ hc := List.mem_takeWhile_imp hc
  longest := by
    rintro v ⟨r, rfl⟩ hv
    rw [indentation, List.takeWhile_append_of_pos hv]
    exact List.prefix_append v _

/-! ## Staying on one line -/

/-- A resolver that returns no file with a line feed in its name. -/
def Resolver.FilesOneLine (resolver : Resolver) : Prop :=
  ∀ file p source, (resolver.position file p).outcome = .ok (some source) →
    ∀ file ∈ source.file, '\n' ∉ file

/-- A session that never returns such a file. -/
def Session.FilesOneLine (session : Session) : Prop :=
  ∀ asked, (session asked).FilesOneLine

/-- A table of names that brings in no line feeds. -/
def Rewrites.OneLine (rewrites : Rewrites) : Prop :=
  ∀ entry ∈ rewrites, '\n' ∉ entry.2

theorem Rewrites.OneLine.apply {rewrites : Rewrites} (h : rewrites.OneLine) {name : Text}
    (hname : '\n' ∉ name) : '\n' ∉ rewrites.apply name := by
  unfold Rewrites.apply
  cases hlookup : rewrites.lookup name with
  | none => exact hname
  | some target =>
    obtain ⟨l₁, l₂, rfl, -⟩ := List.lookup_eq_some_iff.mp hlookup
    exact h (name, target) (by simp)

/-- A frame whose texts hold no line feed. -/
structure FrameLine.TextsOneLine (f : FrameLine) : Prop where
  whitespace_line : '\n' ∉ f.whitespace
  name_line : '\n' ∉ f.functionName
  file_line : ∀ file ∈ f.relativeFile, '\n' ∉ file

theorem FrameLine.TextsOneLine.shownFile {f : FrameLine} (h : f.TextsOneLine) :
    '\n' ∉ f.shownFile := by
  unfold FrameLine.shownFile
  split
  · next c cs hfile => exact h.file_line _ hfile
  · decide

variable {resolver : Resolver} {session : Session} {root : Text} {rewrites : Rewrites}

/-- **Every frame that was read has its texts on one line**, mapped or not. -/
theorem textsOneLine_of_readsAs (hresolver : resolver.FilesOneLine) (hrewrites : rewrites.OneLine)
    {line : Text} {f : FrameLine} (hnl : '\n' ∉ line)
    (h : ReadsAs resolver root rewrites line (.frame f)) : f.TextsOneLine := by
  have hindent : '\n' ∉ indentation line := fun hm =>
    hnl ((List.takeWhile_prefix isBlank).mem hm)
  cases h with
  | frame hread hmap =>
    obtain ⟨-, raw, hraw, rfl⟩ := Frame.of_read_frame hnl hread
    have hname := hraw.cleanName.1
    -- only a frame that the resolver knows says anything new
    cases hmap with
    | unasked _ => exact ⟨hindent, hname, hraw.place.file_line⟩
    | unresolved _ _ _ _ => exact ⟨hindent, hname, hraw.place.file_line⟩
    | resolved _ _ _ hsource =>
      exact ⟨hindent, hrewrites.apply hname, hresolver _ _ _ hsource⟩

/-- A number is written without line feeds, with or without a sign, and so is a missing one. -/
theorem newline_notMem_of_writtenOption {o : Option Int} {t : Text}
    (h : writtenOption o = .ok t) : '\n' ∉ t := by
  cases o with
  | none =>
    cases h
    decide
  | some i =>
    -- an absent number is written as a word, a present one as digits with a sign
    rw [(write_eq_ok_iff.mp h).2]
    cases i with
    | ofNat n => exact (isRun_ofNat n).notMem (by decide)
    | negSucc n => simp [ofInt, (isRun_ofNat (n + 1)).notMem (show isDigit '\n' = false by decide)]

/-- **What an entry is written as** holds no line feed, and for a message it is the line. -/
theorem of_reconstruct (hresolver : resolver.FilesOneLine) (hrewrites : rewrites.OneLine)
    {line t : Text} {p : ParsedLine} (hnl : '\n' ∉ line)
    (hreads : ReadsAs resolver root rewrites line p) (hwrites : p.reconstruct = .ok t) :
    '\n' ∉ t ∧ ∀ m, p = .message m → t = line := by
  cases p with
  | message m =>
    -- both readings that keep a message keep the whole line
    have hself : (ParsedLine.message m).reconstruct = .ok line := by
      cases hreads <;> exact reconstruct_message line
    rw [hself] at hwrites
    cases hwrites
    exact ⟨hnl, fun _ _ => rfl⟩
  | frame f =>
    have hf := textsOneLine_of_readsAs hresolver hrewrites hnl hreads
    obtain ⟨l, c, hl, hc, rfl⟩ := FrameLine.reconstruct_eq_ok_iff.mp hwrites
    refine ⟨newline_notMem_uniformText.mpr ⟨hf.whitespace_line, hf.name_line, hf.shownFile,
      newline_notMem_of_writtenOption hl, newline_notMem_of_writtenOption hc⟩, ?_⟩
    intro m hm
    cases hm

theorem whitespace_of_readsAs {line : Text} {p : ParsedLine}
    (h : ReadsAs resolver root rewrites line p) : p.whitespace = indentation line := by
  cases h <;> rfl

/-! ## Whole stacks -/

namespace SourceStack

variable {stack : Text} {s : SourceStack}

/-- A text has at least one line, and so has what it is rebuilt as. -/
theorem ne_nil_of_forall₂ {R : Text → ParsedLine → Prop} {S : ParsedLine → Text → Prop}
    {ps : List ParsedLine} {pieces : List Text} (h : List.Forall₂ R (lines stack) ps)
    (k : List.Forall₂ S ps pieces) : pieces ≠ [] := by
  rintro rfl
  rw [List.forall₂_nil_right_iff.mp k] at h
  exact lines_ne_nil stack (List.forall₂_nil_right_iff.mp h)

/-- **The lines of a rebuilt stack are the texts of its entries**: none of them holds a line
feed. -/
theorem reconstructLines_linesIn (hsession : session.FilesOneLine) (hrewrites : rewrites.OneLine)
    (h : (ofValueIn session root rewrites (.text stack)).outcome = .ok (some s)) :
    reconstructLines s.parsed = .ok (lines s.sourceMapped) := by
  obtain ⟨hread, pieces, hpieces, hmapped⟩ := forall₂_of_outcome_ofValueIn h
  have hwrite := reconstructLines_eq_ok_iff.mp hpieces
  -- no piece holds a newline, so joining and splitting give the pieces back
  have hpiece : ∀ t ∈ pieces, '\n' ∉ t := by
    intro t ht
    obtain ⟨i, hi⟩ := List.getElem?_of_mem ht
    obtain ⟨p, hp, hwrites⟩ := exists_getElem?_of_forall₂ hwrite.flip hi
    obtain ⟨line, hline, asked, hreads⟩ := exists_getElem?_of_forall₂ hread.flip hp
    have hnl := notMem_of_mem_lines (List.mem_of_getElem? hline)
    exact (of_reconstruct (hsession asked) hrewrites hnl hreads hwrites).1
  rw [hmapped, lines_joinLines (ne_nil_of_forall₂ hread hwrite) hpiece, hpieces]

/-- **A stack of two parts is built part by part.** -/
theorem outcome_ofValue_append {t : Text} {a b : SourceStack}
    (ha : (ofValue resolver root rewrites (.text stack)).outcome = .ok (some a))
    (hb : (ofValue resolver root rewrites (.text t)).outcome = .ok (some b)) :
    (ofValue resolver root rewrites (.text (stack ++ '\n' :: t))).outcome
      = .ok (some ⟨a.parsed ++ b.parsed, a.sourceMapped ++ '\n' :: b.sourceMapped⟩) := by
  obtain ⟨hreada, piecesa, hpiecesa, hmappeda⟩ := outcome_ofValue_text_eq_ok_iff.mp ha
  obtain ⟨hreadb, piecesb, hpiecesb, hmappedb⟩ := outcome_ofValue_text_eq_ok_iff.mp hb
  have hwritea := reconstructLines_eq_ok_iff.mp hpiecesa
  have hwriteb := reconstructLines_eq_ok_iff.mp hpiecesb
  refine outcome_ofValue_text_eq_ok_iff.mpr ⟨?_, piecesa ++ piecesb, ?_, ?_⟩
  · rw [lines_append]
    exact List.rel_append hreada hreadb
  · exact reconstructLines_eq_ok_iff.mpr (List.rel_append hwritea hwriteb)
  · -- a text has at least one line, so neither side of the join is empty
    rw [joinLines_append (ne_nil_of_forall₂ hreada hwritea) (ne_nil_of_forall₂ hreadb hwriteb),
      hmappeda, hmappedb]

/-- **A source stack keeps the lines of its stack.** In every session that brings in no line feeds,
each line has its entry, which knows the longest blank beginning of the line, and its line of text,
which is the same line if the entry is a message. With a resolver that does not change its mind, two
stacks can be built apart. -/
theorem keeps_lines :
    (∀ (session : Session) (root : Text) (rewrites : Rewrites) (stack : Text) (s : SourceStack),
      session.FilesOneLine → rewrites.OneLine →
      (ofValueIn session root rewrites (.text stack)).outcome = .ok (some s) →
      s.parsed.length = (lines stack).length ∧
      (lines s.sourceMapped).length = (lines stack).length ∧
      ∀ (i : Nat) (line : Text), (lines stack)[i]? = some line →
        ∃ p, s.parsed[i]? = some p ∧ ReadsAsIn session root rewrites line p ∧
          IsIndentation p.whitespace line ∧
          ∀ m, p = .message m → (lines s.sourceMapped)[i]? = some line) ∧
    ∀ (resolver : Resolver) (root : Text) (rewrites : Rewrites) (stack t : Text)
      (a b : SourceStack),
      (ofValue resolver root rewrites (.text stack)).outcome = .ok (some a) →
      (ofValue resolver root rewrites (.text t)).outcome = .ok (some b) →
      (ofValue resolver root rewrites (.text (stack ++ '\n' :: t))).outcome
        = .ok (some ⟨a.parsed ++ b.parsed, a.sourceMapped ++ '\n' :: b.sourceMapped⟩) := by
  refine ⟨?_, fun resolver root rewrites stack t a b => outcome_ofValue_append⟩
  intro session root rewrites stack s hsession hrewrites h
  obtain ⟨hread, -⟩ := forall₂_of_outcome_ofValueIn h
  have hwrite := reconstructLines_eq_ok_iff.mp (reconstructLines_linesIn hsession hrewrites h)
  refine ⟨hread.length_eq.symm, (hread.length_eq.trans hwrite.length_eq).symm, ?_⟩
  intro i line hi
  obtain ⟨p, hp, asked, hreads⟩ := exists_getElem?_of_forall₂ hread hi
  obtain ⟨t, ht, hwrites⟩ := exists_getElem?_of_forall₂ hwrite hp
  refine ⟨p, hp, ⟨asked, hreads⟩, ?_, ?_⟩
  · -- whatever the reading, the whitespace kept is that of the line
    rw [whitespace_of_readsAs hreads]
    exact isIndentation_indentation line
  · intro m hm
    have hnl := notMem_of_mem_lines (List.mem_of_getElem? hi)
    rw [← (of_reconstruct (hsession asked) hrewrites hnl hreads hwrites).2 m hm]
    exact ht

end SourceStack

/-! ## A resolver that forgets -/

/-- A session that knows one position and answers one question only. -/
def Session.once : Session
  | [] => {
      position := fun _ _ => ⟨[], .ok (some ⟨some "spec.js".toList, some 5, some 1⟩)⟩
      contents := fun _ _ => ⟨[], .ok none⟩ }
  | _ :: _ => PositionTables.empty.resolver

/-- One frame twice, the second time with a tab in front. -/
def twiceStack : Text :=
  "Error: boom\n  run@app.js:1:2\n\trun@app.js:1:2\n".toList

def twice : SourceStack where
  parsed := [
    .message { message := "Error: boom".toList },
    .frame {
      functionName := "run".toList
      fileUrl := some "app.js".toList
      relativeFile := some "spec.js".toList
      absoluteFile := some "/srv/spec.js".toList
      line := some 5
      column := some 2
      whitespace := "  ".toList },
    .frame {
      functionName := "run".toList
      fileUrl := some "app.js".toList
      relativeFile := some "app.js".toList
      absoluteFile := some "/srv/app.js".toList
      line := some 1
      column := some 2
      whitespace := "\t".toList },
    .message { message := [] }]
  sourceMapped := "Error: boom\n  at run (spec.js:5:2)\n\tat run (app.js:1:2)\n".toList

theorem SourceStack.outcome_twiceStack :
    (SourceStack.ofValueIn Session.once "/srv".toList .standard (.text twiceStack)).outcome
      = .ok (some twice) := by
  rfl

theorem Session.filesOneLine_once : Session.once.FilesOneLine := by
  intro asked file p source h
  cases asked with
  | nil =>
    cases h
    decide
  | cons _ _ => cases h

theorem Rewrites.oneLine_standard : Rewrites.standard.OneLine := by
  unfold Rewrites.OneLine Rewrites.standard
  decide

theorem SourceStack.keeps_lines_twice :
    (lines twice.sourceMapped).length = 4 ∧
      (lines twice.sourceMapped)[0]? = some "Error: boom".toList ∧
      (SourceStack.ofValue PositionTables.empty.resolver "/srv".toList .standard
        (.text "boom\nrun@app.js:1:2".toList)).outcome = .ok (some {
          parsed := [.message { message := "boom".toList }, .frame {
            functionName := "run".toList
            fileUrl := some "app.js".toList
            relativeFile := some "app.js".toList
            absoluteFile := some "/srv/app.js".toList
            line := some 1
            column := some 2 }]
          sourceMapped := "boom\nat run (app.js:1:2)".toList }) := by
  obtain ⟨hlines, happend⟩ := SourceStack.keeps_lines
  obtain ⟨-, hlength, hentry⟩ := hlines _ _ _ _ _ Session.filesOneLine_once
    Rewrites.oneLine_standard SourceStack.outcome_twiceStack
  obtain ⟨p, hp, -, -, hmessage⟩ := hentry 0 "Error: boom".toList (by decide)
  refine ⟨hlength, hmessage _ (Option.some.inj hp).symm, ?_⟩
  exact happend PositionTables.empty.resolver "/srv".toList .standard "boom".toList
    "run@app.js:1:2".toList ⟨[_], _⟩ ⟨[_], _⟩ rfl rfl

end Stacktrace
