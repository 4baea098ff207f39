import Stacktrace.Proofs.Frame.Legible
import Stacktrace.Proofs.Stack.FrameLines

/-!
# Classifier and source stacks agree

Two paths through the library decide what a frame is. The classifier divides stacks and answers
`hasStack`; the readers fill the entries of a source stack. `SourceStack.agrees_with_classifier`
says that the two paths agree on every stack without eval wrappers: on single lines this is
`Frame.exists_fields_iff_legible` with `Frame.fields_eq_of_read`.

Two short numerals may meet when a chain of evaluated code is collapsed and parentheses are dropped,
and the reader then refuses what they become: see `Frame.joinedLine`.
-/

namespace Stacktrace

open Text Numeral

variable {resolver : Resolver} {root : Text} {rewrites : Rewrites}

/-- **One line**: it becomes a frame if the classifier takes it for one. -/
theorem isSome_frame?_iff_of_readsAs {line : Text} {p : ParsedLine} (hnl : '\n' ∉ line)
    (hmark : ¬ Chromium.evalMark <:+: line) (h : ReadsAs resolver root rewrites line p) :
    p.frame?.isSome = true ↔ Frame.isFrameText line = true := by
  -- a line the classifier takes is read as fields, so no other reading is left for it
  have hframe {reading : Frame.Reading} (hread : Frame.read line = .ok reading)
      (hne : ∀ fields, reading ≠ .frame fields) : ¬ Frame.isFrameText line = true := by
    intro hline
    obtain ⟨fields, hfields⟩ := Frame.exists_fields hnl hline hmark hread
    exact hne fields hfields
  cases h with
  | message hread => exact iff_of_false (by simp [ParsedLine.frame?]) (hframe hread (by simp))
  | placeless hread => exact iff_of_false (by simp [ParsedLine.frame?]) (hframe hread (by simp))
  | frame hread _ => exact iff_of_true rfl (Frame.of_read_frame hnl hread).1

namespace SourceStack

variable {session : Session} {stack : Text} {s : SourceStack}

theorem frames_ne_nil_iff :
    s.frames ≠ [] ↔ ∃ p ∈ s.parsed, p.frame?.isSome = true := by
  constructor
  · intro h
    obtain ⟨f, hf⟩ := List.exists_mem_of_ne_nil _ h
    exact ⟨_, mem_frames_iff.mp hf, rfl⟩
  · rintro ⟨p, hp, hsome⟩
    obtain ⟨f, hf⟩ := Option.isSome_iff_exists.mp hsome
    exact List.ne_nil_of_mem (List.mem_filterMap.mpr ⟨p, hp, hf⟩)

/-- **Line by line**: an entry is a frame if and only if the classifier takes its line for one. What
a resolver answered does not matter, since it only ever fills a frame that was read. -/
theorem forall₂_isFrameText (hmark : ∀ line ∈ lines stack, ¬ Chromium.evalMark <:+: line)
    (h : (ofValueIn session root rewrites (.text stack)).outcome = .ok (some s)) :
    List.Forall₂ (fun line p => p.frame?.isSome = true ↔ Frame.isFrameText line = true)
      (lines stack) s.parsed := by
  obtain ⟨hread, -⟩ := forall₂_of_outcome_ofValueIn h
  have hlines : ∀ line ∈ lines stack, '\n' ∉ line ∧ ¬ Chromium.evalMark <:+: line :=
    fun line hline => ⟨notMem_of_mem_lines hline, hmark line hline⟩
  refine ((List.forall₂_and_left _ _).mpr ⟨hlines, hread⟩).imp ?_
  rintro line p ⟨⟨hnl, hmark⟩, asked, hreads⟩
  exact isSome_frame?_iff_of_readsAs hnl hmark hreads

/-- **The whole stack**: there are frames exactly if there are frame lines. -/
theorem frames_ne_nil_iff_exists_line
    (h : List.Forall₂ (fun line p => p.frame?.isSome = true ↔ Frame.isFrameText line = true)
      (lines stack) s.parsed) :
    s.frames ≠ [] ↔ ∃ line ∈ lines stack, Frame.isFrameText line = true := by
  rw [frames_ne_nil_iff]
  constructor
  · rintro ⟨p, hp, hsome⟩
    obtain ⟨i, hi⟩ := List.getElem?_of_mem hp
    obtain ⟨line, hline, hiff⟩ := exists_getElem?_of_forall₂ h.flip hi
    exact ⟨line, List.mem_of_getElem? hline, hiff.mp hsome⟩
  · rintro ⟨line, hline, hframe⟩
    obtain ⟨i, hi⟩ := List.getElem?_of_mem hline
    obtain ⟨p, hp, hiff⟩ := exists_getElem?_of_forall₂ h hi
    exact ⟨p, List.mem_of_getElem? hp, hiff.mpr hframe⟩

/-- **Classifier and readers agree** on lines without eval wrappers. A line is read as a frame if it
is a frame line and its numerals are legible, and the frame's numbers are those at the end of the
line if nothing was collapsed and a file stands in front of them. So the frames of a source stack are
the frame lines of its stack, and `hasStack` tells whether there are any. -/
theorem agrees_with_classifier (session : Session) (root : Text) (rewrites : Rewrites)
    (line stack : Text) :
    ('\n' ∉ line →
      (Frame.isFrameText line = false → Frame.read line = .ok .message) ∧
      (Frame.isFrameText line = true → ¬ Chromium.evalMark <:+: line →
        ((∃ fields, Frame.read line = .ok (.frame fields)) ↔
          Place.Legible (Frame.location line)) ∧
        (Frame.NumeralsReadable line → Place.Legible (Frame.location line)) ∧
        ∀ fields, Frame.read line = .ok (.frame fields) → ¬ Firefox.chainMark <:+: line →
          ∀ p : Placed, line = p.text →
            ∃ a, Frame.location line = (p.behind a).text ∧
              ((∃ c ∈ a, c ≠ '(' ∧ c ≠ ')') →
                fields.line = some (value p.line : Int) ∧
                fields.column = some (value p.column : Int)))) ∧
    ∀ s, (∀ line ∈ lines stack, ¬ Chromium.evalMark <:+: line) →
      (ofValueIn session root rewrites (.text stack)).outcome = .ok (some s) →
      (∀ (i : Nat) (line : Text), (lines stack)[i]? = some line →
        ∃ p, s.parsed[i]? = some p ∧
          (p.frame?.isSome = true ↔ Frame.isFrameText line = true)) ∧
      ∀ (host : Host) (r : ErrorRecord), ErrorRecord.ofHost host = .ok r → r.stack = some stack →
        ∃ found, (hasStack host).outcome = .ok found ∧ (found = true ↔ s.frames ≠ []) := by
  constructor
  · intro hnl
    constructor
    · intro hframe
      rw [Frame.read, hframe]
      rfl
    · intro hframe hmark
      refine ⟨Frame.exists_fields_iff_legible hnl hframe hmark, fun hshort => ?_, ?_⟩
      · exact (Frame.exists_read_iff_legible hnl hframe).mp (Frame.exists_read hnl hframe hmark hshort)
      · rintro fields hread hchain p rfl
        exact Frame.fields_eq_of_read hnl hmark hchain hread
  · intro s hmark h
    have hentries := forall₂_isFrameText hmark h
    refine ⟨fun i line hi => exists_getElem?_of_forall₂ hentries hi, fun host r hhost hr => ?_⟩
    refine ⟨_, outcome_hasStack hhost, ?_⟩
    rw [hasFrames_iff hr, frames_ne_nil_iff_exists_line hentries]

end SourceStack

theorem agrees_with_classifier_twice :
    (∃ fields, Frame.read "  run@app.js:1:2".toList = .ok (.frame fields) ∧
      fields.line = some 1 ∧ fields.column = some 2) ∧
    ∃ found, (hasStack (.record { stack := some twiceStack })).outcome = .ok found ∧
      found = true := by
  obtain ⟨hline, hstack⟩ := SourceStack.agrees_with_classifier Session.once "/srv".toList .standard
    "  run@app.js:1:2".toList twiceStack
  constructor
  · have hmark : occursIn Chromium.evalMark "  run@app.js:1:2".toList = false := by decide
    have hchain : occursIn Firefox.chainMark "  run@app.js:1:2".toList = false := by decide
    rw [occursIn_eq_false_iff] at hmark hchain
    have hshort : ShortRuns "  run@app.js:1:2".toList := fun d _ hin =>
      hin.length_le.trans (by decide)
    obtain ⟨hreads, hlegible, hnumbers⟩ := (hline (by decide)).2 (by decide) hmark
    obtain ⟨fields, hread⟩ :=
      hreads.mpr (hlegible ⟨hshort, fun _ hin => absurd hin hchain⟩)
    -- the indentation belongs to what stands before the place
    let p : Placed :=
      ⟨"  run@app.js".toList, ['1'], ['2'], false, by decide, by decide⟩
    obtain ⟨a, ha, hnumbers⟩ := hnumbers fields hread hchain p (by decide)
    have hlocation : Frame.location "  run@app.js:1:2".toList
        = (p.behind "app.js".toList).text := by decide
    obtain rfl : "app.js".toList = a := List.append_cancel_right (hlocation.symm.trans ha)
    obtain ⟨hl, hc⟩ := hnumbers ⟨'a', by decide, by decide⟩
    exact ⟨fields, hread, hl, hc⟩
  · have hmark : ∀ line ∈ lines twiceStack, occursIn Chromium.evalMark line = false := by decide
    obtain ⟨-, hhost⟩ := hstack twice
      (fun line hmem => occursIn_eq_false_iff.mp (hmark line hmem)) SourceStack.outcome_twiceStack
    obtain ⟨found, hfound, hiff⟩ := hhost (.record { stack := some twiceStack }) _ rfl rfl
    exact ⟨found, hfound, hiff.mpr (by decide)⟩

/-! ## Numerals that meet -/

namespace Frame

/-- A frame line with a chain of evaluated code. Two numerals stand in front of the chain with
nothing but a parenthesis between them. -/
def joinedLine (d₁ d₂ : Text) : Text :=
  "f@x:".toList ++ (d₁ ++ '(' :: (d₂ ++ " line 1 > eval:1:5".toList))

variable {d₁ d₂ : Text}

/-- The same line as a text that ends in a place. -/
def joinedPlaced (d₁ d₂ : Text) : Placed where
  before := "f@x:".toList ++ (d₁ ++ '(' :: (d₂ ++ " line 1 > eval".toList))
  line := ['1']
  column := ['5']
  closed := false
  line_run := by decide
  column_run := by decide

theorem text_joinedPlaced (d₁ d₂ : Text) : (joinedPlaced d₁ d₂).text = joinedLine d₁ d₂ := by
  simp [joinedPlaced, joinedLine, Placed.text, Placed.place, Placed.closing]

theorem newline_notMem_joinedLine (h₁ : IsRun d₁) (h₂ : IsRun d₂) : '\n' ∉ joinedLine d₁ d₂ := by
  have hn : isDigit '\n' = false := by decide
  simp [joinedLine, h₁.notMem hn, h₂.notMem hn]

/-- Colons, the parenthesis and the space keep the runs of digits apart. -/
theorem shortRuns_joinedLine (hl₁ : d₁.length ≤ Fault.digitLimit)
    (hl₂ : d₂.length ≤ Fault.digitLimit) : ShortRuns (joinedLine d₁ d₂) := by
  intro d hd hin
  have hsplit : joinedLine d₁ d₂ =
      "f@x".toList ++ ':' :: (d₁ ++ '(' :: (d₂ ++ ' ' :: "line 1 > eval:1:5".toList)) := rfl
  -- a run lies in one of the pieces between characters that are no digits
  rw [hsplit] at hin
  rcases infix_append_cons (hd.notMem isDigit_colon) hin with hin | hin
  · exact hin.length_le.trans (by decide)
  · rcases infix_append_cons (hd.notMem (by decide)) hin with hin | hin
    · exact hin.length_le.trans hl₁
    · rcases infix_append_cons (hd.notMem (by decide)) hin with hin | hin
      · exact hin.length_le.trans hl₂
      · exact hin.length_le.trans (by decide)

theorem isFrameText_joinedLine (h₁ : IsRun d₁) (h₂ : IsRun d₂) :
    isFrameText (joinedLine d₁ d₂) = true := by
  have hnl := newline_notMem_joinedLine h₁ h₂
  rw [← text_joinedPlaced] at hnl ⊢
  exact isFrameText_text _ hnl

/-- A digit follows the only parenthesis. -/
theorem not_evalMark_infix_joinedLine (h₁ : IsRun d₁) (h₂ : IsRun d₂) :
    ¬ Chromium.evalMark <:+: joinedLine d₁ d₂ := by
  have hmark : Chromium.evalMark = '(' :: "eval ".toList := rfl
  have hparen : isDigit '(' = false := by decide
  intro h
  rw [joinedLine, hmark, infix_append_iff_of_notMem (by decide),
    infix_append_iff_of_notMem (h₁.notMem hparen), List.infix_cons_iff] at h
  -- at the only parenthesis the mark would go on with a letter, and a digit stands there
  rcases h with h | h
  · obtain ⟨c, d₂, rfl⟩ := List.exists_cons_of_ne_nil h₂.ne_nil
    obtain ⟨rfl, -⟩ := List.cons_prefix_cons.mp (List.cons_prefix_cons.mp h).2
    exact absurd (h₂.digits 'e' List.mem_cons_self) (by decide)
  · rw [infix_append_iff_of_notMem (h₂.notMem hparen)] at h
    exact absurd (h.mem List.mem_cons_self) (by decide)

theorem location_joinedLine (h₁ : IsRun d₁) (h₂ : IsRun d₂) :
    location (joinedLine d₁ d₂) = "x:".toList ++ (d₁ ++ '(' :: (d₂ ++ ":1".toList)) := by
  have hblank : isDigit ' ' = false := by decide
  have hquote : isDigit '"' = false := by decide
  -- nothing in front of the chain is touched, and the chain gives way to its line
  have hcollapsed : Firefox.collapseEvals (joinedLine d₁ d₂)
      = ['f'] ++ '@' :: ("x:".toList ++ (d₁ ++ '(' :: (d₂ ++ ":1".toList))) := by
    have hfront : ' ' ∉ "f@x:".toList ++ (d₁ ++ '(' :: d₂) := by
      simp [h₁.notMem hblank, h₂.notMem hblank]
    have hsplit : joinedLine d₁ d₂
        = ("f@x:".toList ++ (d₁ ++ '(' :: d₂)) ++ " line 1 > eval:1:5".toList := by
      simp [joinedLine]
    have hchain : " > eval".toList <:+: joinedLine d₁ d₂ := by
      rw [hsplit]
      exact (show " > eval".toList <:+: " line 1 > eval:1:5".toList from
        occursIn_iff.mp (by decide)).trans (List.suffix_append _ _).isInfix
    rw [Firefox.collapseEvals, if_pos (occursIn_iff.mpr hchain), hsplit,
      Firefox.collapseFrom_append hfront]
    have htail : Firefox.collapseFrom 0 " line 1 > eval:1:5".toList = ":1".toList := by decide
    rw [htail]
    simp
  have htrim : trimStart (joinedLine d₁ d₂) = joinedLine d₁ d₂ := rfl
  have hcut := Firefox.cutName?_append
    (show '"' ∉ ['f'] ++ '@' :: ("x:".toList ++ (d₁ ++ '(' :: (d₂ ++ ":1".toList))) by
      simp [h₁.notMem hquote, h₂.notMem hquote]) (by decide)
  show Firefox.location (joinedLine d₁ d₂) = _
  rw [Firefox.location, htrim, hcollapsed, hcut]

/-- **The two numerals become one**, and that one is not read if it is too long. -/
theorem read_joinedLine (h₁ : IsRun d₁) (h₂ : IsRun d₂)
    (h : Fault.digitLimit < (d₁ ++ d₂).length) :
    Frame.read (joinedLine d₁ d₂) = .error (.numeralTooLong (d₁ ++ d₂).length) := by
  have hnl := newline_notMem_joinedLine h₁ h₂
  rw [← text_joinedPlaced] at hnl ⊢
  have hd : dialect (joinedPlaced d₁ d₂).text = .firefox := rfl
  obtain ⟨name, heq⟩ := read_of_firefox hnl hd
  rw [heq, text_joinedPlaced, location_joinedLine h₁ h₂]
  have hlocation : '\n' ∉ "x:".toList ++ (d₁ ++ '(' :: (d₂ ++ ":1".toList)) := by
    have hn : isDigit '\n' = false := by decide
    simp [h₁.notMem hn, h₂.notMem hn]
  -- deleting the parenthesis joins the two runs
  have hdropped : Place.dropParentheses ("x:".toList ++ (d₁ ++ '(' :: (d₂ ++ ":1".toList)))
      = ['x'] ++ (':' :: (d₁ ++ d₂) ++ ':' :: ['1']) := by
    have hd₁ := Place.dropParentheses_run h₁
    have hd₂ := Place.dropParentheses_run h₂
    have hsplit : "x:".toList ++ (d₁ ++ '(' :: (d₂ ++ ":1".toList))
        = "x:".toList ++ (d₁ ++ (['('] ++ (d₂ ++ ":1".toList))) := rfl
    rw [hsplit]
    simp only [Place.dropParentheses_append, hd₁, hd₂]
    simp [Place.dropParentheses]
  have hjoined : IsRun (d₁ ++ d₂) :=
    ⟨by simp [h₁.ne_nil], fun c hc => (List.mem_append.mp hc).elim (h₁.digits c) (h₂.digits c)⟩
  have hline : Place.readNumeral? (some (d₁ ++ d₂))
      = .error (.numeralTooLong (d₁ ++ d₂).length) := by
    rw [Place.readNumeral?, Numeral.read, if_neg (Nat.not_le.mpr h)]
    rfl
  rw [Place.read_of_colon hlocation (by simp), hdropped,
    Place.cut_place (by simp) hjoined (by decide)]
  dsimp only
  rw [hline]
  rfl

theorem read_joinedLine_ne_ok (h₁ : IsRun d₁) (h₂ : IsRun d₂)
    (h : Fault.digitLimit < (d₁ ++ d₂).length) (reading : Reading) :
    Frame.read (joinedLine d₁ d₂) ≠ .ok reading := by
  rw [read_joinedLine h₁ h₂ h]
  simp

/-- Short runs of digits do not make a frame line readable. -/
theorem not_forall_exists_read :
    ¬ ∀ line : Text, '\n' ∉ line → ShortRuns line → isFrameText line = true →
      ¬ Chromium.evalMark <:+: line → ∃ fields, Frame.read line = .ok (.frame fields) := by
  intro hall
  have hrun : IsRun (List.replicate 2200 '1') := by
    refine ⟨List.length_pos_iff.mp ?_, fun c hc => ?_⟩
    · rw [List.length_replicate]
      decide
    · rw [List.eq_of_mem_replicate hc]
      decide
  have hshort : (List.replicate 2200 '1').length ≤ Fault.digitLimit := by
    rw [List.length_replicate]
    decide
  obtain ⟨fields, hread⟩ := hall _ (newline_notMem_joinedLine hrun hrun)
    (shortRuns_joinedLine hshort hshort) (isFrameText_joinedLine hrun hrun)
    (not_evalMark_infix_joinedLine hrun hrun)
  refine read_joinedLine_ne_ok hrun hrun ?_ _ hread
  rw [List.length_append, List.length_replicate]
  decide

end Frame

end Stacktrace
