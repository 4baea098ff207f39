import Stacktrace.Proofs.Mapper.Questions
import Stacktrace.Proofs.Stack.Mapping
import Stacktrace.Proofs.Value.Written

/-!
# When the pipeline returns

An error comes with any text for a stack, and reporting it should not depend on that text. With a
resolver that has an answer to every question, only one thing can go wrong: a numeral in the place
of a frame line that has too many digits to be read.

* `Resolver.Answers` — a resolver that always has an answer, with numbers that can be written;
* `PositionTables.Moderate.answers` — tables with moderate numbers are such a resolver;
* `SourceStack.exists_outcome_ofValue_iff`, `SourceStack.exists_read_eq_error` — with it, a stack is
  built exactly if all its lines are read, and else fails as one of them does;
* `Mapper.exists_outcome_process_iff`, `Mapper.outcome_sourceStackOf_of_error` — the pipeline
  returns or fails as the normalized stack does, because no code frame is in its way;
* `Mapper.returns_iff_legible` — both together, from the host to the fault.

One long numeral in a stack is enough: see `Mapper.not_forall_exists_outcome_process`.
-/

namespace Stacktrace

open Text Numeral

variable {resolver : Resolver} {root : Text} {rewrites : Rewrites} {line stack : Text} {e : Fault}

/-! ## Numbers with room to grow -/

namespace Numeral

theorem length_ofNat_le_of_le_succ {m n k : Nat} (hm : m ≤ n + 1) (h : (ofNat n).length ≤ k) :
    (ofNat m).length ≤ k + 1 := by
  have hk : 0 < k := (List.length_pos_iff.mpr (isRun_ofNat n).ne_nil).trans_le h
  have hpow : Nat.pow 10 (k + 1) = Nat.pow 10 k * 10 := rfl
  rw [length_ofNat_le_iff hk] at h
  rw [length_ofNat_le_iff k.succ_pos, hpow]
  omega

/-- An integer of at most a thousand digits. -/
def IsModerate (i : Int) : Prop :=
  (ofNat i.natAbs).length ≤ 1000

instance (i : Int) : Decidable (IsModerate i) :=
  inferInstanceAs (Decidable (_ ≤ _))

theorem IsModerate.isShort {i : Int} (h : IsModerate i) : IsShort i :=
  h.trans (by decide)

/-- The next integer has at most a digit more. -/
theorem IsModerate.isShort_succ {i : Int} (h : IsModerate i) : IsShort (i + 1) :=
  (length_ofNat_le_of_le_succ (by omega) h).trans (by decide)

end Numeral

/-! ## Resolvers that always have an answer -/

/-- A source location that a frame can show, with its column counted from one. -/
structure SourceLocation.Showable (s : SourceLocation) : Prop where
  line : ∀ i ∈ s.line, IsShort i
  column : ∀ i ∈ s.column, IsShort (i + 1)

/-- A resolver with an answer to every question. -/
structure Resolver.Answers (resolver : Resolver) : Prop where
  position : ∀ file p, ∃ answer, (resolver.position file p).outcome = .ok answer ∧
    ∀ source ∈ answer, source.Showable
  contents : ∀ url relative, ∃ source, (resolver.contents url relative).outcome = .ok source

/-- All numbers of a registration are moderate. -/
structure Registration.Moderate (r : Registration) : Prop where
  line : IsModerate r.line
  column : IsModerate r.column
  original : ∀ s ∈ r.original, (∀ i ∈ s.line, IsModerate i) ∧ ∀ i ∈ s.column, IsModerate i

instance (r : Registration) : Decidable r.Moderate :=
  decidable_of_iff
    (IsModerate r.line ∧ IsModerate r.column ∧
      ∀ s ∈ r.original, (∀ i ∈ s.line, IsModerate i) ∧ ∀ i ∈ s.column, IsModerate i)
    ⟨fun h => ⟨h.1, h.2.1, h.2.2⟩, fun h => ⟨h.line, h.column, h.original⟩⟩

namespace PositionTables

variable {t : PositionTables}

/-- All registered positions have moderate numbers. -/
def Moderate (t : PositionTables) : Prop :=
  ∀ r ∈ t.registrations, r.Moderate

instance (t : PositionTables) : Decidable t.Moderate :=
  inferInstanceAs (Decidable (∀ r ∈ t.registrations, r.Moderate))

/-- **Tables always have an answer**: the source location of a registration, or none. -/
theorem Moderate.answers (ht : t.Moderate) : t.resolver.Answers where
  position file p := by
    rcases t.isPreceding_or_right file p.line p.column with ⟨r, hr⟩ | hright
    · refine ⟨r.original, outcome_position_of_isPreceding hr, fun s hs => ?_⟩
      obtain ⟨hmem, -⟩ := of_at? hr.latest
      obtain ⟨hline, hcolumn⟩ := (ht r hmem).original s hs
      exact ⟨fun i hi => (hline i hi).isShort, fun i hi => (hcolumn i hi).isShort_succ⟩
    · exact ⟨none, outcome_position_of_right hright, by simp⟩
  contents _ _ := ⟨_, rfl⟩

end PositionTables

/-! ## Lines and stacks -/

/-- **A line that is read** is classified and written: whatever its frame is mapped to, the numbers
can be written. -/
theorem exists_readsAs_of_answers (root : Text) (rewrites : Rewrites) (hanswers : resolver.Answers)
    (hnl : '\n' ∉ line) {reading : Frame.Reading} (hread : Frame.read line = .ok reading) :
    ∃ p t, ReadsAs resolver root rewrites line p ∧ p.reconstruct = .ok t := by
  cases hq : Frame.question? line with
  | none =>
    obtain ⟨p, t, hp, ht⟩ := exists_readsAs_of_unasked root rewrites hnl hread hq
    exact ⟨p, t, hp resolver, ht⟩
  | some q =>
    obtain ⟨generated, hframe, hq⟩ := Frame.question?_eq_some_iff.mp hq
    obtain ⟨c, cs, l, hfile, hline, -⟩ := FrameFields.question?_eq_some_iff.mp hq
    obtain ⟨answer, hanswer, hshowable⟩ :=
      hanswers.position (c :: cs) ⟨c :: cs, l, generated.column.getD 0⟩
    cases answer with
    | none =>
      obtain ⟨t, ht⟩ := exists_reconstruct_of_read root (indentation line) hnl hframe
      exact ⟨_, t, .frame hframe (.unresolved hfile (List.cons_ne_nil c cs) hline hanswer), ht⟩
    | some source =>
      obtain ⟨hsline, hscolumn⟩ := hshowable source rfl
      -- the column is written one higher than it was answered
      have hcolumn : ∀ i ∈ source.column.map (· + 1), IsShort i := by
        intro i hi
        obtain ⟨j, hj, rfl⟩ := Option.map_eq_some_iff.mp hi
        exact hscolumn j hj
      obtain ⟨lt, hlt⟩ := exists_writtenOption_iff.mpr hsline
      obtain ⟨ct, hct⟩ := exists_writtenOption_iff.mpr hcolumn
      exact ⟨_, _, .frame hframe (.resolved hfile (List.cons_ne_nil c cs) hline hanswer),
        FrameLine.reconstruct_eq_ok_iff.mpr ⟨lt, ct, hlt, hct, rfl⟩⟩

theorem ReadsAs.exists_read {p : ParsedLine} (h : ReadsAs resolver root rewrites line p) :
    ∃ reading, Frame.read line = .ok reading := by
  cases h with
  | message hread => exact ⟨_, hread⟩
  | placeless hread => exact ⟨_, hread⟩
  | frame hread _ => exact ⟨_, hread⟩

namespace SourceStack

variable {s : SourceStack}

/-- **A stack is built** exactly if all its lines are read. -/
theorem exists_outcome_ofValue_iff (hanswers : resolver.Answers) :
    (∃ s, (ofValue resolver root rewrites (.text stack)).outcome = .ok (some s)) ↔
      ∀ line ∈ lines stack, ∃ reading, Frame.read line = .ok reading := by
  constructor
  · rintro ⟨s, hs⟩ line hline
    obtain ⟨i, hi⟩ := List.getElem?_of_mem hline
    obtain ⟨p, -, -, hreads, -⟩ := exists_entry hs hi
    exact hreads.exists_read
  · intro hread
    have hall : ∀ line ∈ lines stack, ∃ t p, ReadsAs resolver root rewrites line p ∧
        p.reconstruct = .ok t := by
      intro line hline
      obtain ⟨reading, hreading⟩ := hread line hline
      obtain ⟨p, t, hp, ht⟩ := exists_readsAs_of_answers root rewrites hanswers
        (notMem_of_mem_lines hline) hreading
      exact ⟨t, p, hp, ht⟩
    -- a text for every line at once, which is what the building asks for
    choose! piece hpiece using hall
    obtain ⟨s, hs, -⟩ := exists_outcome_ofValue hpiece
    exact ⟨s, hs⟩

/-- The first line that is not read ends the pass over the lines. -/
theorem exists_read_eq_error_of_readLines (hanswers : resolver.Answers) {ls : List Text}
    (hnl : ∀ line ∈ ls, '\n' ∉ line)
    (h : (readLines resolver root rewrites ls).outcome = .error e) :
    ∃ line ∈ ls, Frame.read line = .error e := by
  induction ls with
  | nil => cases h
  | cons l ls ih =>
    rw [readLines_cons] at h
    cases hl : Frame.read l with
    -- the resolver answers, so the only fault of a line is its reading
    | error e' =>
      rw [Run.outcome_bind_of_error (outcome_sourceLine_of_error hl)] at h
      cases h
      exact ⟨l, List.mem_cons_self, hl⟩
    | ok reading =>
      obtain ⟨p, -, hp, -⟩ :=
        exists_readsAs_of_answers root rewrites hanswers (hnl l List.mem_cons_self) hl
      rw [Run.outcome_bind_of_ok (outcome_sourceLine_eq_ok_iff.mpr hp)] at h
      cases hrest : (readLines resolver root rewrites ls).outcome with
      | error e' =>
        rw [Run.outcome_bind_of_error hrest] at h
        cases h
        obtain ⟨line, hline, hread⟩ := ih (fun k hk => hnl k (List.mem_cons_of_mem l hk)) hrest
        exact ⟨line, List.mem_cons_of_mem l hline, hread⟩
      | ok ps =>
        rw [Run.outcome_bind_of_ok hrest] at h
        cases h

/-- **A stack that is not built** fails as one of its lines does. -/
theorem exists_read_eq_error (hanswers : resolver.Answers)
    (h : (ofValue resolver root rewrites (.text stack)).outcome = .error e) :
    ∃ line ∈ lines stack, Frame.read line = .error e := by
  cases hpass : (readLines resolver root rewrites (lines stack)).outcome with
  | error e' =>
    have hfails : (ofValue resolver root rewrites (.text stack)).outcome = .error e' :=
      Run.outcome_bind_of_error (Run.outcome_bind_of_error hpass)
    rw [hfails] at h
    cases h
    exact exists_read_eq_error_of_readLines hanswers (fun _ => notMem_of_mem_lines) hpass
  | ok ps =>
    -- with all lines read the stack would have been built
    have hread : ∀ line ∈ lines stack, ∃ reading, Frame.read line = .ok reading := by
      intro line hline
      obtain ⟨i, hi⟩ := List.getElem?_of_mem hline
      obtain ⟨p, -, hp⟩ := exists_getElem?_of_forall₂ (outcome_readLines_eq_ok_iff.mp hpass) hi
      exact hp.exists_read
    obtain ⟨s, hs⟩ := (exists_outcome_ofValue_iff hanswers).mpr hread
    cases h.symm.trans hs

/-- The frames of a stack that was built have lines that can be written, for they were. -/
theorem exists_write_line
    (hs : (ofValue resolver root rewrites (.text stack)).outcome = .ok (some s))
    {f : FrameLine} (hf : f ∈ s.frames) : ∀ i ∈ f.line, ∃ t, Numeral.write i = .ok t := by
  obtain ⟨-, pieces, hpieces, -⟩ := outcome_ofValue_text_eq_ok_iff.mp hs
  obtain ⟨i, hi⟩ := List.getElem?_of_mem (mem_frames_iff.mp hf)
  obtain ⟨t, -, ht⟩ := exists_getElem?_of_forall₂ (reconstructLines_eq_ok_iff.mp hpieces) hi
  obtain ⟨l, c, hl, -⟩ := FrameLine.reconstruct_eq_ok_iff.mp ht
  intro i hi
  exact exists_write_iff.mpr (exists_writtenOption_iff.mp ⟨l, hl⟩ i hi)

end SourceStack

/-! ## The pipeline -/

namespace Mapper

variable {m : Mapper} {host : Host} {r : ErrorRecord} {t : PositionTables}

/-- A stack that was built gets its code frame, or none. -/
theorem exists_codeFrame (hanswers : m.resolver.Answers) {s : SourceStack}
    (hs : (m.sourceStackOf stack).outcome = .ok (some s)) :
    ∃ codeFrame, ((withSourceStack r s).findCodeFrame m.resolver m.settings.codeFrame).outcome
      = .ok codeFrame :=
  ErrorRecord.exists_outcome_findCodeFrame m.settings.codeFrame rfl hanswers.contents fun _ hf =>
    SourceStack.exists_write_line hs (List.mem_of_find?_eq_some hf)

/-- **The pipeline returns** exactly if every frame line of the normalized stack is placed by short
numerals. -/
theorem exists_outcome_process_iff (hanswers : m.resolver.Answers)
    (hhost : ErrorRecord.ofHost host = .ok r) :
    (∃ result, (m.process host).outcome = .ok result) ↔
      ∀ stack, r.normalized.stack = some stack → ∀ line ∈ lines stack,
        Frame.isFrameText line = true → Place.Legible (Frame.location line) := by
  constructor
  · rintro ⟨result, h⟩ stack hstack line hline
    obtain ⟨r', hr', hreturns⟩ := outcome_process_eq_ok_iff.mp h
    cases hhost.symm.trans hr'
    cases hreturns with
    | stackless hnone => cases hnone.symm.trans hstack
    | mapped hstack' hs hframe =>
      cases hstack.symm.trans hstack'
      have hread := (SourceStack.exists_outcome_ofValue_iff hanswers).mp ⟨_, hs⟩
      exact (Frame.exists_read_iff (notMem_of_mem_lines hline)).mp (hread line hline)
  · intro hlegible
    cases hstack : r.normalized.stack with
    | none => exact ⟨_, outcome_process_eq_ok_iff.mpr ⟨r, hhost, .stackless hstack⟩⟩
    | some stack =>
      have hread : ∀ line ∈ lines stack, ∃ reading, Frame.read line = .ok reading := by
        intro line hline
        rw [Frame.exists_read_iff (notMem_of_mem_lines hline)]
        exact hlegible stack hstack line hline
      obtain ⟨s, hs⟩ : ∃ s, (m.sourceStackOf stack).outcome = .ok (some s) :=
        (SourceStack.exists_outcome_ofValue_iff hanswers).mpr hread
      -- after the stack nothing can fail: contents are answered and the frame is optional
      obtain ⟨codeFrame, hframe⟩ := exists_codeFrame hanswers hs
      exact ⟨_, outcome_process_eq_ok_iff.mpr ⟨r, hhost, .mapped hstack hs hframe⟩⟩

/-- **A run that fails** fails as the stack does. -/
theorem outcome_sourceStackOf_of_error (hanswers : m.resolver.Answers)
    (hhost : ErrorRecord.ofHost host = .ok r) (h : (m.process host).outcome = .error e) :
    ∃ stack, r.normalized.stack = some stack ∧ (m.sourceStackOf stack).outcome = .error e := by
  have hrun := h
  rw [← processIn_const, outcome_processIn hhost] at hrun
  cases hstack : r.normalized.stack with
  | none => cases hrun.symm.trans (mapRecordIn_of_stackless hstack).1
  | some stack =>
    refine ⟨stack, rfl, ?_⟩
    cases hs : (m.sourceStackOf stack).outcome with
    | error e' =>
      have hs' := hs
      rw [← sourceStackIn_const] at hs'
      rw [mapRecordIn_of_stack hstack, Run.outcome_bind_of_error hs'] at hrun
      cases hrun
      rfl
    | ok found =>
      cases found with
      | none => exact absurd (sourceStackIn_const m stack ▸ hs) outcome_sourceStackIn_ne_none
      | some s =>
        obtain ⟨codeFrame, hframe⟩ := exists_codeFrame hanswers hs
        -- a stack that was read gets a code frame or none, so the fault was in its reading
        have hreturns := outcome_process_eq_ok_iff.mpr ⟨r, hhost, .mapped hstack hs hframe⟩
        cases h.symm.trans hreturns

/-- **Which errors are reported.** With moderate tables, nothing but a numeral that is too long to
be read, at the end of the location of a frame line, keeps the pipeline from returning; and then it
fails on such a numeral. -/
theorem returns_iff_legible (settings : Settings) (ht : t.Moderate)
    (hhost : ErrorRecord.ofHost host = .ok r) :
    ((∃ result, (process ⟨t.resolver, settings⟩ host).outcome = .ok result) ↔
      ∀ stack, r.normalized.stack = some stack → ∀ line ∈ lines stack,
        Frame.isFrameText line = true → Place.Legible (Frame.location line)) ∧
    ∀ e, (process ⟨t.resolver, settings⟩ host).outcome = .error e → e.IsLongNumeral := by
  constructor
  · exact exists_outcome_process_iff ht.answers hhost
  · intro e h
    obtain ⟨stack, -, hs⟩ := outcome_sourceStackOf_of_error ht.answers hhost h
    obtain ⟨line, hline, hread⟩ := SourceStack.exists_read_eq_error ht.answers hs
    exact Frame.isLongNumeral_of_read (notMem_of_mem_lines hline) hread

/-- A host with three fields. -/
def described (name message stack : Text) : Host :=
  .value (.map [(.text "name".toList, .text name), (.text "message".toList, .text message),
    (.text "stack".toList, .text stack)])

theorem ofHost_described (name message stack : Text) :
    ErrorRecord.ofHost (described name message stack)
      = .ok { name := name, message := message, stack := some stack } := rfl

theorem returns_iff_legible_bundle : ∃ result,
    (process ⟨PositionTables.bundle.resolver, {}⟩
      (described "Error".toList "boom".toList bundleStack)).outcome = .ok result := by
  have hmoderate : PositionTables.bundle.Moderate := by decide
  have hhost := ofHost_described "Error".toList "boom".toList bundleStack
  have hlegible : ∀ line ∈ lines bundleStack, Frame.isFrameText line = true →
      Place.Legible (Frame.location line) := by decide
  obtain ⟨hreturns, -⟩ := returns_iff_legible {} hmoderate hhost
  refine hreturns.mpr ?_
  rintro stack ⟨⟩
  exact hlegible

end Mapper

/-! ## A numeral that is too long -/

namespace Frame

/-- A frame line with a numeral of any length for its line. -/
def longLine (d : Text) : Text :=
  "f@x:".toList ++ (d ++ ":1".toList)

variable {d : Text}

theorem newline_notMem_longLine (hd : IsRun d) : '\n' ∉ longLine d := by
  have hn : isDigit '\n' = false := by decide
  simp [longLine, hd.notMem hn]

theorem isFrameText_longLine (hd : IsRun d) : isFrameText (longLine d) = true := by
  let p : Placed := ⟨"f@x".toList, d, ['1'], false, hd, by decide⟩
  have htext : longLine d = p.text := by
    simp [p, longLine, Placed.text, Placed.place, Placed.closing]
  rw [htext]
  exact isFrameText_text p (htext ▸ newline_notMem_longLine hd)

theorem location_longLine (hd : IsRun d) :
    location (longLine d) = "x:".toList ++ (d ++ ":1".toList) := by
  have hblank : isDigit ' ' = false := by decide
  have hquote : isDigit '"' = false := by decide
  have htrim : trimStart (longLine d) = longLine d := rfl
  have hsplit : longLine d = ['f'] ++ '@' :: ("x:".toList ++ (d ++ ":1".toList)) := rfl
  -- there is no chain to collapse without a blank
  have hcollapsed : Firefox.collapseEvals (longLine d) = longLine d := by
    have hspace : ' ' ∉ longLine d := by simp [longLine, hd.notMem hblank]
    rw [Firefox.collapseEvals, if_neg]
    rw [occursIn_iff]
    exact fun hin => hspace (hin.mem List.mem_cons_self)
  have hcut := Firefox.cutName?_append
    (show '"' ∉ ['f'] ++ '@' :: ("x:".toList ++ (d ++ ":1".toList)) by
      simp [hd.notMem hquote]) (by decide)
  show Firefox.location (longLine d) = _
  rw [Firefox.location, htrim, hcollapsed, hsplit, hcut]

/-- The line is placed by its numeral. -/
theorem length_le_of_legible_longLine (hd : IsRun d) (h : Place.Legible (location (longLine d))) :
    d.length ≤ Fault.digitLimit := by
  -- the line as a place behind one character, so that its cut is the one of a place
  let p : Placed := ⟨['x'], d, ['1'], false, hd, by decide⟩
  have htext : location (longLine d) = p.text := by
    rw [location_longLine hd]
    simp [p, Placed.text, Placed.place, Placed.closing]
  have hbefore : Place.dropParentheses p.before ≠ [] := (by decide : ['x'] ≠ [])
  rw [htext, Place.Legible, Place.dropParentheses_placed,
    Place.cut_place hbefore hd p.column_run] at h
  exact h.1 d rfl

end Frame

namespace Mapper

/-- The stack of an error with one frame, in that line. -/
def longStack (d : Text) : Text :=
  "Error: boom".toList ++ '\n' :: Frame.longLine d

section

variable {d : Text} {t : PositionTables} {settings : Settings}

theorem longLine_mem_lines (hd : IsRun d) : Frame.longLine d ∈ lines (longStack d) := by
  have hlines := lines_of_notMem (Frame.newline_notMem_longLine hd)
  unfold longStack
  rw [lines_append, hlines]
  exact List.mem_append_right _ List.mem_cons_self

/-- The error is reported only if the numeral can be read. -/
theorem length_le_of_outcome_process (hd : IsRun d) (ht : t.Moderate)
    (h : ∃ result, (process ⟨t.resolver, settings⟩
      (described "Error".toList "boom".toList (longStack d))).outcome = .ok result) :
    d.length ≤ Fault.digitLimit := by
  have hhost := ofHost_described "Error".toList "boom".toList (longStack d)
  have hlegible := (exists_outcome_process_iff ht.answers hhost).mp h (longStack d) rfl _
    (longLine_mem_lines hd) (Frame.isFrameText_longLine hd)
  exact Frame.length_le_of_legible_longLine hd hlegible

end

/-- A numeral with one digit more than are ever read. -/
def tooManyOnes : Text := List.replicate 4301 '1'

/-- A long numeral in the stack of an error keeps the error from being reported. -/
theorem not_forall_exists_outcome_process :
    ¬ ∀ (t : PositionTables) (settings : Settings) (name message stack : Text), t.Moderate →
      ∃ result, (process ⟨t.resolver, settings⟩ (described name message stack)).outcome
        = .ok result := by
  intro hall
  have hrun : IsRun tooManyOnes := isRun_replicate (by decide) (by decide)
  have hempty : PositionTables.empty.Moderate := List.forall_mem_nil _
  have hreturns := hall .empty {} "Error".toList "boom".toList (longStack tooManyOnes) hempty
  have hshort : tooManyOnes.length ≤ Fault.digitLimit :=
    length_le_of_outcome_process hrun hempty hreturns
  rw [tooManyOnes, List.length_replicate] at hshort
  exact absurd hshort (by decide)

end Mapper

end Stacktrace
