import Stacktrace.Proofs.CodeFrame
import Stacktrace.Proofs.Mapper.Process
import Stacktrace.Proofs.Stack.Agreement

/-!
# What the pipeline asks

The pipeline puts the questions of the stack first, in the order of its lines, and then at most one
more for the source of the frame that the code frame shows. Whether there is any question at all can
be told from the normalized record alone, and with a resolver that always fails this decides what
becomes of the error.

* `ErrorRecord.Asks` — a record whose lines lead to some question;
* `queries_mapRecordIn` — the questions of a run that returns;
* `ErrorRecord.LegibleUntilAsked` — a record whose numerals can be read as far as the first question,
  so that the resolver is the only one who can fail before it;
* `Mapper.asks_in_order` — both together: the questions of every run that returns, and the outcome
  of every run with a resolver that always fails.

Numerals that meet when evaluated code is cut out are too long although no run of digits in the
error is: see `Mapper.not_forall_outcome_of_fails`.
-/

namespace Stacktrace

open Text Numeral

variable {session : Session} {settings : Settings} {host : Host} {r result : ErrorRecord}
variable {resolver : Resolver} {root : Text} {rewrites : Rewrites} {line stack : Text} {e : Fault}
variable {s : SourceStack}

/-! ## Lines that ask -/

/-- A line that is read as a frame with a generated file. -/
structure Frame.NamesFile (line : Text) (generated : FrameFields) : Prop where
  read : Frame.read line = .ok (.frame generated)
  file : ∃ c cs, generated.file = some (c :: cs)

/-- A line asks if it names a file and its frame knows the line there. -/
theorem Frame.exists_question?_iff :
    (∃ q, question? line = some q) ↔
      ∃ generated, NamesFile line generated ∧ generated.line.isSome = true := by
  constructor
  · rintro ⟨q, hq⟩
    obtain ⟨generated, hread, hq⟩ := question?_eq_some_iff.mp hq
    obtain ⟨c, cs, l, hfile, hline, -⟩ := FrameFields.question?_eq_some_iff.mp hq
    exact ⟨generated, ⟨hread, c, cs, hfile⟩, by rw [hline]; rfl⟩
  · rintro ⟨generated, ⟨hread, c, cs, hfile⟩, hline⟩
    obtain ⟨l, hl⟩ := Option.isSome_iff_exists.mp hline
    exact ⟨_, question?_eq_some_iff.mpr
      ⟨generated, hread, FrameFields.question?_eq_some_iff.mpr ⟨c, cs, l, hfile, hl, rfl⟩⟩⟩

/-- The entry of a line shows the generated file that the line names. -/
theorem exists_hasFile_iff_of_readsAs {p : ParsedLine} (h : ReadsAs resolver root rewrites line p) :
    (∃ f, p = .frame f ∧ f.hasFile = true) ↔ ∃ generated, Frame.NamesFile line generated := by
  -- of the three ways to read a line only a frame can name a file
  cases h with
  | message hread =>
    refine iff_of_false (by simp) ?_
    rintro ⟨generated, hnames⟩
    cases hread.symm.trans hnames.read
  | placeless hread =>
    refine iff_of_false (by simp) ?_
    rintro ⟨generated, hnames⟩
    cases hread.symm.trans hnames.read
  | @frame generated source hread hmap =>
    constructor
    · rintro ⟨f, hf, hfile⟩
      cases hf
      exact ⟨generated, hread, FrameLine.hasFile_iff.mp hfile⟩
    · rintro ⟨generated', hnames⟩
      cases hread.symm.trans hnames.read
      exact ⟨_, rfl, FrameLine.hasFile_iff.mpr hnames.file⟩

namespace SourceStack

/-- A stack asks if one of its lines names a file and knows the line there. -/
theorem questions_ne_nil_iff :
    questions stack ≠ [] ↔ ∃ line ∈ lines stack, ∃ generated,
      Frame.NamesFile line generated ∧ generated.line.isSome = true := by
  simp only [← Frame.exists_question?_iff]
  constructor
  · intro h
    obtain ⟨q, hq⟩ := List.exists_mem_of_ne_nil _ h
    obtain ⟨line, hline, hq⟩ := List.mem_filterMap.mp hq
    exact ⟨line, hline, q, hq⟩
  · rintro ⟨line, hline, q, hq⟩
    exact List.ne_nil_of_mem (List.mem_filterMap.mpr ⟨line, hline, hq⟩)

/-- A stack has a frame to show exactly if one of its lines names a file. -/
theorem exists_shownFrame?_iff
    (h : List.Forall₂ (ReadsAsIn session root rewrites) (lines stack) s.parsed) :
    (∃ f, s.shownFrame? = some f) ↔
      ∃ line ∈ lines stack, ∃ generated, Frame.NamesFile line generated := by
  rw [shownFrame?, ← Option.isSome_iff_exists, List.find?_isSome]
  -- the lines and their readings go together, so a frame with a file comes from a line naming one
  constructor
  · rintro ⟨f, hf, hfile⟩
    obtain ⟨i, hi⟩ := List.getElem?_of_mem (mem_frames_iff.mp hf)
    obtain ⟨line, hline, asked, hreads⟩ := exists_getElem?_of_forall₂ h.flip hi
    exact ⟨line, List.mem_of_getElem? hline,
      (exists_hasFile_iff_of_readsAs hreads).mp ⟨f, rfl, hfile⟩⟩
  · rintro ⟨line, hline, hnames⟩
    obtain ⟨i, hi⟩ := List.getElem?_of_mem hline
    obtain ⟨p, hp, asked, hreads⟩ := exists_getElem?_of_forall₂ h hi
    obtain ⟨f, rfl, hfile⟩ := (exists_hasFile_iff_of_readsAs hreads).mpr hnames
    exact ⟨f, mem_frames_iff.mpr (List.mem_of_getElem? hp), hfile⟩

end SourceStack

/-! ## Records that ask -/

namespace ErrorRecord

/-- A record that leads to a question: a line of its stack names a generated file, and either its
frame knows the line there or the record still lacks a code frame. -/
def Asks (r : ErrorRecord) : Prop :=
  ∃ stack, r.stack = some stack ∧ ∃ line ∈ lines stack, ∃ generated,
    Frame.NamesFile line generated ∧ (generated.line.isSome = true ∨ r.codeFrame = none)

/-- Whether a record asks can be seen at its lines or at the entries of its source stack. -/
theorem asks_iff (hstack : r.stack = some stack)
    (h : List.Forall₂ (SourceStack.ReadsAsIn session root rewrites) (lines stack) s.parsed) :
    r.Asks ↔ SourceStack.questions stack ≠ [] ∨ r.contentsQuestions s ≠ [] := by
  rw [SourceStack.questions_ne_nil_iff, contentsQuestions_ne_nil_iff,
    SourceStack.exists_shownFrame?_iff h]
  constructor
  · rintro ⟨stack', hstack', line, hline, generated, hnames, hwhy⟩
    cases hstack.symm.trans hstack'
    -- a known line asks for its position; without a frame of its own the record asks for contents
    rcases hwhy with hknown | hnone
    · exact .inl ⟨line, hline, generated, hnames, hknown⟩
    · exact .inr ⟨hnone, line, hline, generated, hnames⟩
  · rintro (⟨line, hline, generated, hnames, hknown⟩ | ⟨hnone, line, hline, generated, hnames⟩)
    · exact ⟨stack, hstack, line, hline, generated, hnames, .inl hknown⟩
    · exact ⟨stack, hstack, line, hline, generated, hnames, .inr hnone⟩

/-- No run of digits in the name, the message or the stack of the error is too long to be read. -/
structure HasShortRuns (r : ErrorRecord) : Prop where
  name : ShortRuns r.name
  message : ShortRuns r.message
  stack : ∀ stack ∈ r.stack, ShortRuns stack

/-- All numerals in the stack of the error can be read. Where evaluated code is cut out of a line,
this is asked of what is left of it. -/
structure Legible (r : ErrorRecord) : Prop extends HasShortRuns r where
  evaluated : ∀ stack ∈ r.normalized.stack, ∀ line ∈ lines stack, Frame.isFrameText line = true →
    Frame.IsEvaluated line → Place.Legible (Frame.location line)

/-- The text of an error has no longer runs than its parts, which a colon and a space keep apart. -/
theorem HasShortRuns.toText (h : r.HasShortRuns) : ShortRuns r.toText := by
  have hblank : isDigit ' ' = false := by decide
  have hmessage : ShortRuns ([] ++ ' ' :: r.message) :=
    (ShortRuns.of_length_le (Nat.zero_le _)).append_cons hblank h.message
  unfold ErrorRecord.toText
  split
  · exact h.message
  · split
    · exact h.name
    · -- the colon and the blank between name and message join no two runs of digits
      rw [List.append_assoc]
      exact h.name.append_cons isDigit_colon hmessage

/-- Nor has the normalized stack, where a line feed stands between. -/
theorem HasShortRuns.normalized (h : r.HasShortRuns) (hstack : r.normalized.stack = some stack) :
    ShortRuns stack := by
  unfold ErrorRecord.normalized at hstack
  split at hstack
  · exact h.stack stack hstack
  · cases hstack
    -- the header is joined by a newline, which is no digit
    refine h.toText.append_cons (by decide) ?_
    unfold stackText
    cases hown : r.stack with
    | none => exact .of_length_le (Nat.zero_le _)
    | some own => exact h.stack own hown

/-- The numerals of every frame line that stands behind no question can be read. -/
def LegibleUntilAsked (r : ErrorRecord) : Prop :=
  ∀ stack ∈ r.stack, ∀ earlier line later, lines stack = earlier ++ line :: later →
    (∀ l ∈ earlier, Frame.question? l = none) → Frame.isFrameText line = true →
    Place.Legible (Frame.location line)

/-- These are the records whose stacks are read as far as the first question. -/
theorem legibleUntilAsked_iff :
    r.LegibleUntilAsked ↔ ∀ stack ∈ r.stack, SourceStack.ReadUntilAsked (lines stack) := by
  have hread {stack line : Text} {earlier later : List Text}
      (hlines : lines stack = earlier ++ line :: later) :
      (∃ reading, Frame.read line = .ok reading) ↔
        (Frame.isFrameText line = true → Place.Legible (Frame.location line)) := by
    have hline : line ∈ lines stack := hlines ▸ List.mem_append_cons_self
    exact Frame.exists_read_iff (notMem_of_mem_lines hline)
  constructor
  · intro h stack hstack earlier line later hlines hearlier
    exact (hread hlines).mpr (h stack hstack earlier line later hlines hearlier)
  · intro h stack hstack earlier line later hlines hearlier
    exact (hread hlines).mp (h stack hstack earlier line later hlines hearlier)

/-- **Every line of a legible record is read**, those behind a question too. -/
theorem Legible.legibleUntilAsked (h : r.Legible) : r.normalized.LegibleUntilAsked := by
  refine legibleUntilAsked_iff.mpr fun stack hstack earlier line later hlines _ => ?_
  have hline : line ∈ lines stack := hlines ▸ List.mem_append_cons_self
  -- a line has no longer runs than its stack, and what chains and wrappers leave is assumed to be
  -- legible
  have hshort := (h.toHasShortRuns.normalized hstack).of_mem_lines hline
  exact Frame.exists_read_of_legible (notMem_of_mem_lines hline) hshort
    (h.evaluated stack hstack line hline)

end ErrorRecord

/-! ## The pipeline -/

namespace Mapper

/-- **The questions of a run that returns**: those of the stack, and then the one for the source of
the frame to show. -/
theorem queries_mapRecordIn (hstack : r.stack = some stack)
    (h : (mapRecordIn session settings r).outcome = .ok result) :
    ∃ s : SourceStack, (sourceStackIn session settings stack).outcome = .ok (some s) ∧
      result.parsedStack = some (s.parsed.map Value.line) ∧
      (mapRecordIn session settings r).queries
        = SourceStack.questions stack ++ r.contentsQuestions s := by
  have hreturns := outcome_mapRecordIn_eq_ok_iff.mp h
  -- a run returns at once without a stack, and otherwise with a mapped one
  cases hreturns with
  | stackless hnone => cases hnone.symm.trans hstack
  | @mapped stack' s codeFrame hstack' hs hframe =>
    cases hstack.symm.trans hstack'
    refine ⟨s, hs, rfl, ?_⟩
    rw [(mapRecordIn_of_sourceStack hstack hs).2, queries_addCodeFrame,
      ErrorRecord.queries_findCodeFrame rfl]
    rfl

/-- A run that returns has asked exactly if its record asks. -/
theorem queries_mapRecordIn_ne_nil_iff (h : (mapRecordIn session settings r).outcome = .ok result) :
    (mapRecordIn session settings r).queries ≠ [] ↔ r.Asks := by
  cases hstack : r.stack with
  | none =>
    rw [(mapRecordIn_of_stackless hstack).2]
    refine iff_of_false (by simp) ?_
    rintro ⟨stack, hsome, -⟩
    cases hstack.symm.trans hsome
  | some stack =>
    obtain ⟨s, hs, -, hqueries⟩ := queries_mapRecordIn hstack h
    rw [hqueries, ErrorRecord.asks_iff hstack (SourceStack.forall₂_of_outcome_ofValueIn hs).1,
      ne_eq, List.append_eq_nil_iff, not_and_or]

/-- **If the resolver always fails** and the lines in front of the first question can be read, a
record that asks fails as the resolver does, and another one is returned. -/
theorem outcome_mapRecordIn_of_fails (hfails : session.Fails e)
    (hread : ∀ stack ∈ r.stack, SourceStack.ReadUntilAsked (lines stack)) :
    (r.Asks → (mapRecordIn session settings r).outcome = .error e) ∧
      (¬ r.Asks → ∃ result, (mapRecordIn session settings r).outcome = .ok result) := by
  cases hstack : r.stack with
  | none =>
    refine ⟨?_, fun _ => ⟨r, (mapRecordIn_of_stackless hstack).1⟩⟩
    rintro ⟨stack, hsome, -⟩
    cases hstack.symm.trans hsome
  | some stack =>
    by_cases hsilent : SourceStack.questions stack = []
    · -- the stack is built in silence, so the code frame decides
      obtain ⟨s, hs⟩ := SourceStack.exists_outcome_ofValueIn session settings.projectRoot
        settings.stack.functionNameRewrites (hread stack hstack) hsilent
      have hparsed : (withSourceStack r s).parsedStack = some (s.parsed.map Value.line) := rfl
      obtain ⟨herror, hfound⟩ :=
        ErrorRecord.outcome_findCodeFrame_of_fails hparsed (hfails.contents _)
      rw [ErrorRecord.asks_iff hstack (SourceStack.forall₂_of_outcome_ofValueIn hs).1,
        (mapRecordIn_of_sourceStack hstack hs).1]
      constructor
      · intro hasks
        exact Run.outcome_bind_of_error (herror (hasks.resolve_left (not_not_intro hsilent)))
      · intro hno
        obtain ⟨found, hframe⟩ := hfound (Classical.not_not.mp fun hne => hno (.inr hne))
        exact ⟨_, outcome_addCodeFrame_eq_ok_iff.mpr ⟨found, hframe, rfl⟩⟩
    · have hasks : r.Asks := by
        obtain ⟨line, hline, generated, hnames, hknown⟩ :=
          SourceStack.questions_ne_nil_iff.mp hsilent
        exact ⟨stack, hstack, line, hline, generated, hnames, .inl hknown⟩
      refine ⟨fun _ => ?_, fun hno => absurd hasks hno⟩
      rw [mapRecordIn_of_stack hstack]
      exact Run.outcome_bind_of_error
        (SourceStack.outcome_ofValueIn_of_fails hfails (hread stack hstack) hsilent)

/-- **If a line in front of the first question cannot be read**, the run fails on a numeral, whoever
is there to be asked. -/
theorem exists_outcome_mapRecordIn_eq_error (session : Session) (settings : Settings)
    (hread : ¬ ∀ stack ∈ r.stack, SourceStack.ReadUntilAsked (lines stack)) :
    ∃ e, (mapRecordIn session settings r).outcome = .error e ∧ e.IsLongNumeral := by
  obtain ⟨stack, hread⟩ := Classical.not_forall.mp hread
  obtain ⟨hstack, hread⟩ := Classical.not_imp.mp hread
  obtain ⟨e, he, hlong⟩ := SourceStack.exists_outcome_ofValueIn_eq_error session
    settings.projectRoot settings.stack.functionNameRewrites hread
  rw [mapRecordIn_of_stack hstack]
  exact ⟨e, Run.outcome_bind_of_error he, hlong⟩

/-- **The pipeline asks in order and hears every failure.** A run that returns has put one question
for each line that is a frame with a file and a line, in the order of the lines, and then, unless
the error has a code frame, one for the source of the first entry with a file. If the resolver
always fails and the numerals in front of the first question can be read, the run fails as the
resolver does if there is anything to ask, and returns if there is not. If they cannot be read, it
fails on one of them; but this does not happen to legible records. -/
theorem asks_in_order (session : Session) (settings : Settings)
    (hhost : ErrorRecord.ofHost host = .ok r) :
    (∀ result, (processIn session settings host).outcome = .ok result →
      (r.normalized.stack = none → (processIn session settings host).queries = []) ∧
      (∀ stack, r.normalized.stack = some stack → ∃ s : SourceStack,
        result.parsedStack = some (s.parsed.map Value.line) ∧
        (processIn session settings host).queries
          = SourceStack.questions stack ++ r.contentsQuestions s) ∧
      ((processIn session settings host).queries ≠ [] ↔ r.normalized.Asks)) ∧
    (∀ e, session.Fails e → r.normalized.LegibleUntilAsked →
      (r.normalized.Asks → (processIn session settings host).outcome = .error e) ∧
      (¬ r.normalized.Asks → ∃ result, (processIn session settings host).outcome = .ok result)) ∧
    (¬ r.normalized.LegibleUntilAsked →
      ∃ e, (processIn session settings host).outcome = .error e ∧ e.IsLongNumeral) ∧
    (r.Legible → r.normalized.LegibleUntilAsked) := by
  rw [outcome_processIn hhost, queries_processIn hhost]
  refine ⟨fun result h => ⟨fun hnone => (mapRecordIn_of_stackless hnone).2, fun stack hstack => ?_,
    queries_mapRecordIn_ne_nil_iff h⟩, fun e hfails hlegible => ?_, fun hillegible => ?_,
    ErrorRecord.Legible.legibleUntilAsked⟩
  · obtain ⟨s, -, hparsed, hqueries⟩ := queries_mapRecordIn hstack h
    refine ⟨s, hparsed, ?_⟩
    rw [hqueries, ErrorRecord.contentsQuestions, r.normalized_codeFrame]
    rfl
  · exact outcome_mapRecordIn_of_fails hfails (ErrorRecord.legibleUntilAsked_iff.mp hlegible)
  · exact exists_outcome_mapRecordIn_eq_error session settings
      (mt ErrorRecord.legibleUntilAsked_iff.mpr hillegible)

/-- A session with a resolver that has one excuse. -/
theorem fails_failing (reason : Text) :
    Session.Fails (fun _ => Resolver.failing reason) (.resolverFailed reason) :=
  ⟨fun _ _ _ => rfl, fun _ _ _ => rfl⟩

/-- The stack of an error with one frame that can be looked up and one that cannot. -/
def lookedUpStack : Text :=
  "Error: boom\n    at eval (<anonymous>:1:1)\nrun@app.js:3:4".toList

def lookedUp : ErrorRecord where
  message := "boom".toList
  stack := some lookedUpStack

/-- The error's stack shows its text already. -/
theorem normalized_lookedUp : lookedUp.normalized = lookedUp :=
  if_pos (by decide)

/-- None of its lines holds a long numeral, and none is of evaluated code. -/
theorem legible_lookedUp : lookedUp.Legible := by
  refine ⟨⟨.of_length_le (by decide), .of_length_le (by decide), ?_⟩, ?_⟩
  · rintro stack ⟨⟩
    exact .of_length_le (by decide)
  · rw [normalized_lookedUp]
    rintro stack ⟨⟩ line hline - heval
    have hplain : ∀ line ∈ lines lookedUpStack, occursIn Chromium.evalMark line = false ∧
        occursIn Firefox.chainMark line = false := by decide
    obtain ⟨hmark, hchain⟩ := hplain line hline
    -- no line of this stack is evaluated code in either dialect
    unfold Frame.IsEvaluated at heval
    split at heval
    · exact absurd heval (occursIn_eq_false_iff.mp hmark)
    · exact absurd heval (occursIn_eq_false_iff.mp hchain)

/-- The one frame that can be looked up is asked about first, and a failing resolver is heard. -/
theorem asks_in_order_lookedUp :
    (∃ asked, (process ⟨PositionTables.empty.resolver, {}⟩ (.record lookedUp)).queries
      = .position "app.js".toList ⟨"app.js".toList, 3, 4⟩ :: asked) ∧
    (process ⟨.failing "down".toList, {}⟩ (.record lookedUp)).outcome
      = .error (.resolverFailed "down".toList) := by
  have hhost : ErrorRecord.ofHost (.record lookedUp) = .ok lookedUp := rfl
  have hquestions : SourceStack.questions lookedUpStack
      = [.position "app.js".toList ⟨"app.js".toList, 3, 4⟩] := by decide
  constructor
  · obtain ⟨result, h⟩ : ∃ result,
        (process ⟨PositionTables.empty.resolver, {}⟩ (.record lookedUp)).outcome = .ok result :=
      ⟨_, rfl⟩
    rw [← processIn_const] at h ⊢
    obtain ⟨hasked, -⟩ := asks_in_order _ _ hhost
    obtain ⟨-, horder, -⟩ := hasked _ h
    rw [normalized_lookedUp] at horder
    obtain ⟨s, -, hqueries⟩ := horder lookedUpStack rfl
    rw [hqueries, hquestions]
    exact ⟨_, rfl⟩
  · rw [← processIn_const]
    obtain ⟨-, hfails, -, hlegible⟩ := asks_in_order (fun _ => .failing "down".toList) {} hhost
    refine (hfails _ (fails_failing _) (hlegible legible_lookedUp)).1 ?_
    rw [normalized_lookedUp]
    -- there is a question, so there is a line that asks
    obtain ⟨line, hline, generated, hnames, hknown⟩ :=
      SourceStack.questions_ne_nil_iff.mp (hquestions ▸ List.cons_ne_nil _ _)
    exact ⟨lookedUpStack, rfl, line, hline, generated, hnames, .inl hknown⟩

/-! ## Numerals that meet -/

/-- The stack of an error with two frames. In the first of them two numerals meet. -/
def joinedStack (d₁ d₂ : Text) : Text :=
  "Error: boom".toList ++ '\n' :: (Frame.joinedLine d₁ d₂ ++ '\n' :: "run@app.js:3:4".toList)

def joined (d₁ d₂ : Text) : ErrorRecord where
  message := "boom".toList
  stack := some (joinedStack d₁ d₂)

section

variable {d₁ d₂ : Text}

/-- The error's stack shows its text already. -/
theorem normalized_joined : (joined d₁ d₂).normalized = joined d₁ d₂ :=
  if_pos rfl

/-- The stack has three lines, whatever the numerals are. -/
theorem lines_joinedStack (h₁ : IsRun d₁) (h₂ : IsRun d₂) : lines (joinedStack d₁ d₂)
    = ["Error: boom".toList, Frame.joinedLine d₁ d₂, "run@app.js:3:4".toList] := by
  have hfirst : lines "Error: boom".toList = ["Error: boom".toList] := by decide
  have hlast : lines "run@app.js:3:4".toList = ["run@app.js:3:4".toList] := by decide
  have hjoined := lines_of_notMem (Frame.newline_notMem_joinedLine h₁ h₂)
  unfold joinedStack
  rw [lines_append, lines_append, hfirst, hjoined, hlast, List.singleton_append,
    List.singleton_append]

/-- As long as they stand apart, the numerals are short enough. -/
theorem hasShortRuns_joined (hl₁ : d₁.length ≤ Fault.digitLimit)
    (hl₂ : d₂.length ≤ Fault.digitLimit) : (joined d₁ d₂).HasShortRuns := by
  have hnl : isDigit '\n' = false := by decide
  have hname : ShortRuns "Error".toList := .of_length_le (by decide)
  have hmessage : ShortRuns "boom".toList := .of_length_le (by decide)
  have hfirst : ShortRuns "Error: boom".toList := .of_length_le (by decide)
  have hlast : ShortRuns "run@app.js:3:4".toList := .of_length_le (by decide)
  refine ⟨hname, hmessage, ?_⟩
  rintro stack ⟨⟩
  exact hfirst.append_cons hnl ((Frame.shortRuns_joinedLine hl₁ hl₂).append_cons hnl hlast)

/-- The second frame can be looked up. -/
theorem asks_joined (h₁ : IsRun d₁) (h₂ : IsRun d₂) : (joined d₁ d₂).Asks := by
  refine ⟨joinedStack d₁ d₂, rfl, "run@app.js:3:4".toList, ?_, ?_⟩
  · rw [lines_joinedStack h₁ h₂]
    simp
  · exact ⟨⟨"run".toList, some "app.js".toList, some 3, some 4, false⟩,
      ⟨by decide, 'a', "pp.js".toList, rfl⟩, .inl rfl⟩

/-- The first frame is refused, so nobody is asked about the second. -/
theorem outcome_processIn_joined (session : Session) (settings : Settings) (h₁ : IsRun d₁)
    (h₂ : IsRun d₂) (h : Fault.digitLimit < (d₁ ++ d₂).length) :
    (processIn session settings (.record (joined d₁ d₂))).outcome
      = .error (.numeralTooLong (d₁ ++ d₂).length) := by
  have hfirst : ReadsAs (session []) settings.projectRoot settings.stack.functionNameRewrites
      "Error: boom".toList (.message ⟨"Error: boom".toList, []⟩) := .message (by decide)
  rw [outcome_processIn (rfl : ErrorRecord.ofHost _ = .ok (joined d₁ d₂)), normalized_joined,
    mapRecordIn_of_stack rfl]
  refine Run.outcome_bind_of_error (Run.outcome_bind_of_error (Run.outcome_bind_of_error ?_))
  -- the first line is a message, and reading stops at the second
  rw [lines_joinedStack h₁ h₂, SourceStack.readLinesIn,
    Run.outcome_bind_of_ok (outcome_sourceLine_eq_ok_iff.mpr hfirst)]
  refine Run.outcome_bind_of_error (Run.outcome_bind_of_error ?_)
  exact outcome_sourceLine_of_error (Frame.read_joinedLine h₁ h₂ h)

end

def ones : Text := List.replicate 2200 '1'

/-- The numeral is within the limit, and twice its length is not. -/
theorem length_ones : ones.length = 2200 :=
  List.length_replicate

/-- It is a run of digits. -/
theorem isRun_ones : IsRun ones :=
  isRun_replicate (by decide) (by decide)

/-- Short runs of digits do not leave the resolver as the only one who can fail. -/
theorem not_forall_outcome_of_fails :
    ¬ ∀ (session : Session) (e : Fault) (settings : Settings) (host : Host) (r : ErrorRecord),
      session.Fails e → ErrorRecord.ofHost host = .ok r → r.HasShortRuns →
      (r.normalized.Asks → (processIn session settings host).outcome = .error e) ∧
      (¬ r.normalized.Asks → ∃ result, (processIn session settings host).outcome = .ok result) := by
  intro hall
  have hshort : ones.length ≤ Fault.digitLimit := by
    rw [length_ones]
    decide
  have hlong : Fault.digitLimit < (ones ++ ones).length := by
    rw [List.length_append, length_ones]
    decide
  obtain ⟨hasks, -⟩ := hall _ _ {} (.record (joined ones ones)) _
    (fails_failing "down".toList) rfl (hasShortRuns_joined hshort hshort)
  -- the two runs are joined by the reading, so the numeral is refused before any question
  rw [normalized_joined, outcome_processIn_joined _ _ isRun_ones isRun_ones hlong] at hasks
  cases hasks (asks_joined isRun_ones isRun_ones)

end Mapper

end Stacktrace
