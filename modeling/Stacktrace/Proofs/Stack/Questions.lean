import Stacktrace.Proofs.Frame.Legible
import Stacktrace.Proofs.Stack.Session

/-!
# What a stack asks

Building a source stack puts questions to the resolver. Which ones is a matter of the stack alone,
and the answers play no part:

* `SourceStack.questions` — one question for each line that is a frame with a file and a line, in
  the order of the lines;
* `queries_sourceLine` — a line puts its own question and no other;
* `SourceStack.queries_ofValueIn` — a stack that is returned has put all its questions;
* `SourceStack.ReadUntilAsked` — lines that are read as far as the first one with a question;
* `SourceStack.outcome_ofValueIn_of_fails` — if the resolver always fails, such a stack with a
  question fails as the resolver does;
* `SourceStack.exists_outcome_ofValueIn` — without a question it is built, whoever is there to be
  asked;
* `SourceStack.exists_outcome_ofValueIn_eq_error` — and any other stack fails on a numeral.
-/

namespace Stacktrace

open Text

variable {resolver : Resolver} {session : Session} {root : Text} {rewrites : Rewrites}
variable {line stack : Text} {e : Fault}

/-! ## Questions -/

/-- The question that a generated frame leads to, if it names a file and a line. -/
def FrameFields.question? (generated : FrameFields) : Option Query :=
  match generated.file, generated.line with
  | some (c :: cs), some line => some (.position (c :: cs) ⟨c :: cs, line, generated.column.getD 0⟩)
  | _, _ => none

theorem FrameFields.question?_eq_some_iff {generated : FrameFields} {q : Query} :
    generated.question? = some q ↔ ∃ c cs line,
      generated.file = some (c :: cs) ∧ generated.line = some line ∧
      q = .position (c :: cs) ⟨c :: cs, line, generated.column.getD 0⟩ := by
  unfold question?
  constructor
  · intro h
    split at h
    · next c cs line hfile hline => exact ⟨c, cs, line, hfile, hline, (Option.some.inj h).symm⟩
    · cases h
  · rintro ⟨c, cs, line, hfile, hline, rfl⟩
    rw [hfile, hline]

theorem FrameFields.question?_eq_none_iff {generated : FrameFields} :
    generated.question? = none ↔
      generated.file = none ∨ generated.file = some [] ∨ generated.line = none := by
  unfold question?
  constructor
  · intro h
    split at h
    · cases h
    · next hother =>
      cases hfile : generated.file with
      | none => exact .inl rfl
      | some file =>
        cases file with
        | nil => exact .inr (.inl rfl)
        | cons c cs =>
          cases hline : generated.line with
          | none => exact .inr (.inr rfl)
          | some line => exact absurd hline (hother c cs line hfile)
  · intro h
    split
    · next c cs line hfile hline =>
      rw [hfile, hline] at h
      simp at h
    · rfl

/-- The question that a line of a stack leads to. -/
def Frame.question? (line : Text) : Option Query :=
  match Frame.read line with
  | .ok (.frame generated) => generated.question?
  | _ => none

/-- The questions that the lines of a stack lead to, in their order. -/
def SourceStack.questions (stack : Text) : List Query :=
  (lines stack).filterMap Frame.question?

/-! ## One line -/

/-- Mapping a frame puts its question, and goes on in silence. -/
theorem queries_mapToSource (generated : FrameFields) :
    (mapToSource resolver rewrites generated).queries = generated.question?.toList := by
  cases hq : generated.question? with
  | none =>
    have hmap := FrameFields.question?_eq_none_iff.mp hq
    unfold mapToSource
    split
    · next c cs line hfile hline =>
      rw [hfile, hline] at hmap
      simp at hmap
    · rfl
  | some q =>
    obtain ⟨c, cs, line, hfile, hline, rfl⟩ := FrameFields.question?_eq_some_iff.mp hq
    unfold mapToSource
    rw [hfile, hline]
    dsimp only
    -- after the answer nothing more is asked, whatever it was
    rw [Run.queries_bind_of_silent]
    · rfl
    · intro answer
      cases answer <;> rfl

theorem readFrame_of_frame {generated : FrameFields}
    (h : Frame.read line = .ok (.frame generated)) :
    readFrame line = ⟨[], [], .ok (some generated)⟩ := by
  unfold readFrame
  rw [h]
  rfl

/-- **A line puts its own question** and no other, whatever becomes of it. -/
theorem queries_sourceLine (line : Text) :
    (sourceLine resolver root rewrites line).queries = (Frame.question? line).toList := by
  unfold sourceLine Frame.question?
  cases hread : Frame.read line with
  | error e =>
    unfold readFrame
    rw [hread]
    rfl
  | ok reading =>
    cases reading with
    | message =>
      unfold readFrame
      rw [hread]
      rfl
    -- a placeless frame is logged, and a log entry is no question
    | placeless d =>
      unfold readFrame
      rw [hread]
      rfl
    | frame generated =>
      rw [readFrame_of_frame hread, Run.queries_bind_of_ok rfl, List.nil_append,
        Run.queries_bind_of_silent fun _ => rfl, queries_mapToSource]

theorem Frame.question?_eq_some_iff {q : Query} :
    question? line = some q ↔
      ∃ generated, Frame.read line = .ok (.frame generated) ∧ generated.question? = some q := by
  unfold question?
  split
  · next generated hread => simp [hread]
  · next hother => exact iff_of_false (by simp) fun ⟨g, hread, _⟩ => hother g hread

/-- A line that is not read fails before anybody is asked. -/
theorem outcome_sourceLine_of_error (h : Frame.read line = .error e) :
    (sourceLine resolver root rewrites line).outcome = .error e := by
  rw [sourceLine, readFrame, h]
  rfl

/-- A line that asks fails with the resolver. -/
theorem outcome_sourceLine_of_fails {q : Query}
    (hfails : ∀ file p, (resolver.position file p).outcome = .error e)
    (h : Frame.question? line = some q) :
    (sourceLine resolver root rewrites line).outcome = .error e := by
  obtain ⟨generated, hread, hq⟩ := Frame.question?_eq_some_iff.mp h
  obtain ⟨c, cs, l, hfile, hline, -⟩ := FrameFields.question?_eq_some_iff.mp hq
  have hmap : (mapToSource resolver rewrites generated).outcome = .error e := by
    unfold mapToSource
    rw [hfile, hline]
    exact Run.outcome_bind_of_error (hfails _ _)
  rw [sourceLine, readFrame_of_frame hread, Run.outcome_bind_of_ok rfl]
  exact Run.outcome_bind_of_error hmap

/-- A frame that was read is written as it is, if it is not mapped. -/
theorem exists_reconstruct_of_read (root whitespace : Text) {generated : FrameFields}
    (hnl : '\n' ∉ line) (hread : Frame.read line = .ok (.frame generated)) :
    ∃ t, (ParsedLine.frame (displayFrame root whitespace generated generated)).reconstruct
      = .ok t := by
  obtain ⟨l, c, hl, hc⟩ := Frame.exists_written_of_read hnl hread
  -- numbers that were read are short enough to be written again
  have hmapped : generated.mapped = false := by
    obtain ⟨-, raw, -, rfl⟩ := Frame.of_read_frame hnl hread
    rfl
  refine ⟨_, FrameLine.reconstruct_eq_ok_iff.mpr ⟨l, c, hl, ?_, rfl⟩⟩
  rw [displayFrame, hmapped]
  exact hc

/-- **A line without a question** is classified and written, whoever is there to be asked. -/
theorem exists_readsAs_of_unasked (root : Text) (rewrites : Rewrites) (hnl : '\n' ∉ line)
    {reading : Frame.Reading} (hread : Frame.read line = .ok reading)
    (h : Frame.question? line = none) :
    ∃ p t, (∀ resolver, ReadsAs resolver root rewrites line p) ∧ p.reconstruct = .ok t := by
  cases reading with
  | message => exact ⟨_, line, fun _ => .message hread, reconstruct_message line⟩
  | placeless d => exact ⟨_, line, fun _ => .placeless hread, reconstruct_message line⟩
  | frame generated =>
    have hunasked : generated.question? = none := by
      rw [Frame.question?, hread] at h
      exact h
    obtain ⟨t, ht⟩ := exists_reconstruct_of_read root (indentation line) hnl hread
    exact ⟨_, t,
      fun _ => .frame hread (.unasked (FrameFields.question?_eq_none_iff.mp hunasked)), ht⟩

/-! ## All lines -/

/-- A session whose resolver fails at every question, always in the same way. -/
structure Session.Fails (session : Session) (e : Fault) : Prop where
  position : ∀ asked file p, ((session asked).position file p).outcome = .error e
  contents : ∀ asked url relative, ((session asked).contents url relative).outcome = .error e

namespace SourceStack

variable {asked : List Query} {ls : List Text}

theorem queries_readLinesIn {ps : List ParsedLine}
    (h : (readLinesIn session root rewrites asked ls).outcome = .ok ps) :
    (readLinesIn session root rewrites asked ls).queries = ls.filterMap Frame.question? := by
  induction ls generalizing asked ps with
  | nil => rfl
  | cons l ls ih =>
    obtain ⟨p, hp, h⟩ := Run.outcome_bind_eq_ok_iff.mp h
    obtain ⟨ps', hps, -⟩ := Run.outcome_bind_eq_ok_iff.mp h
    rw [readLinesIn, Run.queries_bind_of_ok hp, Run.queries_bind_of_silent fun _ => rfl, ih hps,
      queries_sourceLine, List.filterMap_cons]
    cases Frame.question? l <;> rfl

/-- **What a returned stack has asked**: the questions of its lines and no others. -/
theorem queries_ofValueIn {s : SourceStack}
    (h : (ofValueIn session root rewrites (.text stack)).outcome = .ok (some s)) :
    (ofValueIn session root rewrites (.text stack)).queries = questions stack := by
  obtain ⟨s', hbuild, -⟩ := Run.outcome_bind_eq_ok_iff.mp h
  obtain ⟨parsed, hparsed, -⟩ := Run.outcome_bind_eq_ok_iff.mp hbuild
  rw [ofValueIn, Run.queries_bind_of_silent fun _ => rfl, buildIn,
    Run.queries_bind_of_silent fun _ => Run.queries_bind_of_silent fun _ => rfl]
  exact queries_readLinesIn hparsed

/-- Every line that stands behind no question is read. -/
def ReadUntilAsked (ls : List Text) : Prop :=
  ∀ earlier line later, ls = earlier ++ line :: later →
    (∀ l ∈ earlier, Frame.question? l = none) → ∃ reading, Frame.read line = .ok reading

/-- The first line stands behind no question, and the others behind its question only. -/
theorem readUntilAsked_cons_iff {l : Text} :
    ReadUntilAsked (l :: ls) ↔ (∃ reading, Frame.read l = .ok reading) ∧
      (Frame.question? l = none → ReadUntilAsked ls) := by
  constructor
  · intro h
    refine ⟨h [] l ls rfl (List.forall_mem_nil _), fun hq earlier line later hls hearlier => ?_⟩
    rw [hls] at h
    exact h (l :: earlier) line later rfl (List.forall_mem_cons.mpr ⟨hq, hearlier⟩)
  · rintro ⟨hl, hrest⟩ earlier line later hls hearlier
    cases earlier with
    | nil =>
      obtain ⟨rfl, -⟩ := List.cons.inj hls
      exact hl
    | cons k earlier =>
      obtain ⟨rfl, htail⟩ := List.cons.inj hls
      obtain ⟨hq, hearlier⟩ := List.forall_mem_cons.mp hearlier
      exact hrest hq earlier line later htail hearlier

/-- The pass over the lines stops at the first question. -/
theorem outcome_readLinesIn_of_fails (hfails : session.Fails e) (hnl : ∀ line ∈ ls, '\n' ∉ line)
    (hread : ReadUntilAsked ls) (hasks : ls.filterMap Frame.question? ≠ []) :
    (readLinesIn session root rewrites asked ls).outcome = .error e := by
  induction ls generalizing asked with
  | nil => exact absurd rfl hasks
  | cons l ls ih =>
    obtain ⟨⟨reading, hl⟩, hrest⟩ := readUntilAsked_cons_iff.mp hread
    rw [readLinesIn]
    cases hq : Frame.question? l with
    | some q =>
      exact Run.outcome_bind_of_error (outcome_sourceLine_of_fails (hfails.position asked) hq)
    -- a line without a question is read as before, and the fault comes from a later line
    | none =>
      rw [List.filterMap_cons, hq] at hasks
      obtain ⟨p, -, hp, -⟩ :=
        exists_readsAs_of_unasked root rewrites (hnl l List.mem_cons_self) hl hq
      rw [Run.outcome_bind_of_ok (outcome_sourceLine_eq_ok_iff.mpr (hp _))]
      exact Run.outcome_bind_of_error
        (ih (fun k hk => hnl k (List.mem_cons_of_mem l hk)) (hrest hq) hasks)

/-- A line that is not read stops the pass before anybody is asked. -/
theorem exists_outcome_readLinesIn_eq_error (hnl : ∀ line ∈ ls, '\n' ∉ line)
    (hread : ¬ ReadUntilAsked ls) :
    ∃ e, (readLinesIn session root rewrites asked ls).outcome = .error e ∧ e.IsLongNumeral := by
  induction ls generalizing asked with
  | nil => exact absurd (fun earlier _ _ h => by simp at h) hread
  | cons l ls ih =>
    have hl' := hnl l List.mem_cons_self
    rw [readUntilAsked_cons_iff, not_and] at hread
    rw [readLinesIn]
    cases hl : Frame.read l with
    | error e =>
      exact ⟨e, Run.outcome_bind_of_error (outcome_sourceLine_of_error hl),
        Frame.isLongNumeral_of_read hl' hl⟩
    | ok reading =>
      -- this line is read and has no question, so the one that is not read comes later
      obtain ⟨hq, hrest⟩ := Classical.not_imp.mp (hread ⟨reading, hl⟩)
      obtain ⟨p, -, hp, -⟩ := exists_readsAs_of_unasked root rewrites hl' hl hq
      obtain ⟨e, he, hlong⟩ := ih (fun k hk => hnl k (List.mem_cons_of_mem l hk)) hrest
      rw [Run.outcome_bind_of_ok (outcome_sourceLine_eq_ok_iff.mpr (hp _))]
      exact ⟨e, Run.outcome_bind_of_error he, hlong⟩

/-- Without questions both passes succeed. -/
theorem exists_outcome_readLinesIn (session : Session) (root : Text) (rewrites : Rewrites)
    (asked : List Query) (hnl : ∀ line ∈ ls, '\n' ∉ line) (hread : ReadUntilAsked ls)
    (hsilent : ls.filterMap Frame.question? = []) :
    ∃ ps ts, (readLinesIn session root rewrites asked ls).outcome = .ok ps ∧
      reconstructLines ps = .ok ts := by
  induction ls generalizing asked with
  | nil => exact ⟨[], [], rfl, rfl⟩
  | cons l ls ih =>
    have hq : Frame.question? l = none := List.filterMap_eq_nil_iff.mp hsilent l List.mem_cons_self
    rw [List.filterMap_cons, hq] at hsilent
    obtain ⟨⟨reading, hl⟩, hrest⟩ := readUntilAsked_cons_iff.mp hread
    obtain ⟨p, t, hp, ht⟩ :=
      exists_readsAs_of_unasked root rewrites (hnl l List.mem_cons_self) hl hq
    obtain ⟨ps, ts, hps, hts⟩ := ih
      -- the later lines meet a session that has heard no more than this one
      (asked ++ (sourceLine (session asked) root rewrites l).queries)
      (fun k hk => hnl k (List.mem_cons_of_mem l hk)) (hrest hq) hsilent
    refine ⟨p :: ps, t :: ts, ?_, ?_⟩
    · rw [readLinesIn, Run.outcome_bind_of_ok (outcome_sourceLine_eq_ok_iff.mpr (hp _)),
        Run.outcome_bind_of_ok hps]
      rfl
    · rw [reconstructLines, ht, hts]
      rfl

/-- **A resolver that always fails is heard**: no stack with a question is built. -/
theorem outcome_ofValueIn_of_fails (hfails : session.Fails e)
    (hread : ReadUntilAsked (lines stack)) (hasks : questions stack ≠ []) :
    (ofValueIn session root rewrites (.text stack)).outcome = .error e :=
  Run.outcome_bind_of_error (Run.outcome_bind_of_error (outcome_readLinesIn_of_fails hfails
    (fun _ => notMem_of_mem_lines) hread hasks))

/-- **Nobody needs to be there** if there is no question. -/
theorem exists_outcome_ofValueIn (session : Session) (root : Text) (rewrites : Rewrites)
    (hread : ReadUntilAsked (lines stack)) (hsilent : questions stack = []) :
    ∃ s, (ofValueIn session root rewrites (.text stack)).outcome = .ok (some s) := by
  obtain ⟨ps, ts, hps, hts⟩ := exists_outcome_readLinesIn session root rewrites []
    (fun _ => notMem_of_mem_lines) hread hsilent
  refine ⟨⟨ps, joinLines ts⟩, Run.outcome_bind_eq_ok_iff.mpr ⟨_, Run.outcome_bind_eq_ok_iff.mpr
    ⟨ps, hps, Run.outcome_bind_eq_ok_iff.mpr ⟨joinLines ts, ?_, rfl⟩⟩, rfl⟩⟩
  exact Outcome.map_eq_ok_iff.mpr ⟨ts, hts, rfl⟩

/-- **Nobody is heard** if a line in front of all questions is not read. -/
theorem exists_outcome_ofValueIn_eq_error (session : Session) (root : Text) (rewrites : Rewrites)
    (hread : ¬ ReadUntilAsked (lines stack)) :
    ∃ e, (ofValueIn session root rewrites (.text stack)).outcome = .error e ∧
      e.IsLongNumeral := by
  obtain ⟨e, he, hlong⟩ :=
    exists_outcome_readLinesIn_eq_error (fun _ => notMem_of_mem_lines) hread
  exact ⟨e, Run.outcome_bind_of_error (Run.outcome_bind_of_error he), hlong⟩

end SourceStack

end Stacktrace
