import Stacktrace.Mapper
import Stacktrace.Proofs.Error.Normalized
import Stacktrace.Proofs.Stack.Questions

/-!
# What the pipeline returns

The pipeline is several steps that may fail. Here they are told apart, for a session with a resolver
that may change its mind, and what they come to is said without them:

* `processIn_const` — a session that never changes its mind is a resolver;
* `ReturnsIn` — what becomes of a normalized record: it stays as it is if it has no stack, and else
  it has its stack rebuilt, the entries of the rebuilt stack and the code frame that was found for
  them;
* `outcome_processIn_eq_ok_iff` — the pipeline returns just that, so that later statements need not
  follow its steps;
* `mapRecordIn_of_sourceStack` — the questions of the stack come first, those for the code frame
  after them;
* `outcome_process_eq_ok_iff` — the same for one resolver.
-/

namespace Stacktrace

namespace Mapper

variable {m : Mapper} {session : Session} {settings : Settings} {host : Host} {r : ErrorRecord}

/-! ## The steps in a session -/

/-- The source stack of a stack, with the settings of a mapper. -/
def sourceStackIn (session : Session) (settings : Settings) (stack : Text) :
    Run (Option SourceStack) :=
  SourceStack.ofValueIn session settings.projectRoot settings.stack.functionNameRewrites
    (.text stack)

/-- **A constant session is a resolver.** -/
theorem processIn_const (m : Mapper) (host : Host) :
    processIn (fun _ => m.resolver) m.settings host = m.process host := rfl

/-! ## Behind normalization -/

theorem outcome_processIn (hhost : ErrorRecord.ofHost host = .ok r) :
    (processIn session settings host).outcome
      = (mapRecordIn session settings r.normalized).outcome :=
  Run.outcome_bind_of_ok (outcome_normalizeStack hhost)

theorem queries_processIn (hhost : ErrorRecord.ofHost host = .ok r) :
    (processIn session settings host).queries
      = (mapRecordIn session settings r.normalized).queries := by
  rw [processIn, Run.queries_bind_of_ok (outcome_normalizeStack hhost),
    queries_normalizeStack hhost, List.nil_append]

/-! ## Mapping -/

/-- A record without a stack is returned as it is, and nobody is asked. -/
theorem mapRecordIn_of_stackless (h : r.stack = none) :
    (mapRecordIn session settings r).outcome = .ok r ∧
      (mapRecordIn session settings r).queries = [] := by
  rw [mapRecordIn, recordSourceStackIn, h]
  exact ⟨rfl, rfl⟩

theorem mapRecordIn_of_stack {stack : Text} (h : r.stack = some stack) :
    mapRecordIn session settings r = (do
      match ← sourceStackIn session settings stack with
      | none => return r
      | some s =>
        addCodeFrame (session (sourceStackIn session settings stack).queries) settings
          (withSourceStack r s) s) := by
  rw [mapRecordIn, recordSourceStackIn, h]
  rfl

/-- The code frame is looked for after all questions of the stack. -/
theorem mapRecordIn_of_sourceStack {stack : Text} {s : SourceStack} (h : r.stack = some stack)
    (hs : (sourceStackIn session settings stack).outcome = .ok (some s)) :
    let adding :=
      addCodeFrame (session (SourceStack.questions stack)) settings (withSourceStack r s) s
    (mapRecordIn session settings r).outcome = adding.outcome ∧
      (mapRecordIn session settings r).queries = SourceStack.questions stack ++ adding.queries := by
  -- the questions are those of the stack, whatever the resolver answers
  have hasked : (sourceStackIn session settings stack).queries = SourceStack.questions stack :=
    SourceStack.queries_ofValueIn hs
  rw [mapRecordIn_of_stack h, hasked]
  constructor
  · exact Run.outcome_bind_of_ok hs
  · rw [Run.queries_bind_of_ok hs, hasked]

/-- A text is never passed over. -/
theorem outcome_sourceStackIn_ne_none {stack : Text} :
    (sourceStackIn session settings stack).outcome ≠ .ok none := by
  intro h
  obtain ⟨s, -, h⟩ := Run.outcome_bind_eq_ok_iff.mp h
  cases h

theorem outcome_addCodeFrame_eq_ok_iff {resolver : Resolver} {mapped result : ErrorRecord}
    {s : SourceStack} :
    (addCodeFrame resolver settings mapped s).outcome = .ok result ↔
      ∃ codeFrame, (mapped.findCodeFrame resolver settings.codeFrame).outcome = .ok codeFrame ∧
        { mapped with codeFrame } = result := by
  rw [addCodeFrame, Run.outcome_bind_eq_ok_iff]
  constructor
  · rintro ⟨codeFrame, hframe, h⟩
    -- the entry in the log does not change the outcome
    obtain ⟨-, -, h⟩ := Run.outcome_bind_eq_ok_iff.mp h
    exact ⟨codeFrame, hframe, Run.outcome_pure_eq_ok_iff.mp h⟩
  · rintro ⟨codeFrame, hframe, rfl⟩
    exact ⟨codeFrame, hframe, rfl⟩

theorem queries_addCodeFrame {resolver : Resolver} {mapped : ErrorRecord} {s : SourceStack} :
    (addCodeFrame resolver settings mapped s).queries
      = (mapped.findCodeFrame resolver settings.codeFrame).queries :=
  Run.queries_bind_of_silent fun _ => rfl

/-- What becomes of a normalized record in a session. -/
inductive ReturnsIn (session : Session) (settings : Settings) (r : ErrorRecord) :
    ErrorRecord → Prop where
  | stackless (h : r.stack = none) : ReturnsIn session settings r r
  | mapped {stack : Text} {s : SourceStack} {codeFrame : Option Value}
      (hstack : r.stack = some stack)
      (hs : (sourceStackIn session settings stack).outcome = .ok (some s))
      (hframe : ((withSourceStack r s).findCodeFrame (session (SourceStack.questions stack))
        settings.codeFrame).outcome = .ok codeFrame) :
      ReturnsIn session settings r { withSourceStack r s with codeFrame }

theorem outcome_mapRecordIn_eq_ok_iff {result : ErrorRecord} :
    (mapRecordIn session settings r).outcome = .ok result ↔
      ReturnsIn session settings r result := by
  constructor
  · intro h
    cases hstack : r.stack with
    | none =>
      rw [(mapRecordIn_of_stackless hstack).1] at h
      cases h
      exact .stackless hstack
    | some stack =>
      obtain ⟨found, hfound, -⟩ := Run.outcome_bind_eq_ok_iff.mp (mapRecordIn_of_stack hstack ▸ h)
      cases found with
      -- a stack that is a text is never answered with no source stack
      | none => exact absurd hfound outcome_sourceStackIn_ne_none
      | some s =>
        rw [(mapRecordIn_of_sourceStack hstack hfound).1] at h
        obtain ⟨codeFrame, hframe, rfl⟩ := outcome_addCodeFrame_eq_ok_iff.mp h
        exact .mapped hstack hfound hframe
  · intro h
    cases h with
    | stackless hstack => exact (mapRecordIn_of_stackless hstack).1
    | mapped hstack hs hframe =>
      rw [(mapRecordIn_of_sourceStack hstack hs).1]
      exact outcome_addCodeFrame_eq_ok_iff.mpr ⟨_, hframe, rfl⟩

/-- **What the pipeline returns** in a session. -/
theorem outcome_processIn_eq_ok_iff {result : ErrorRecord} :
    (processIn session settings host).outcome = .ok result ↔
      ∃ r, ErrorRecord.ofHost host = .ok r ∧ ReturnsIn session settings r.normalized result := by
  constructor
  · intro h
    obtain ⟨record, hrecord, -⟩ := Run.outcome_bind_eq_ok_iff.mp h
    obtain ⟨r, hr, -⟩ := Run.outcome_bind_eq_ok_iff.mp hrecord
    exact ⟨r, hr, outcome_mapRecordIn_eq_ok_iff.mp ((outcome_processIn hr).symm.trans h)⟩
  · rintro ⟨r, hr, hreturns⟩
    exact (outcome_processIn hr).trans (outcome_mapRecordIn_eq_ok_iff.mpr hreturns)

/-! ## One resolver -/

/-- The source stack of a stack, with the settings of the mapper. -/
def sourceStackOf (m : Mapper) (stack : Text) : Run (Option SourceStack) :=
  SourceStack.ofValue m.resolver m.settings.projectRoot m.settings.stack.functionNameRewrites
    (.text stack)

theorem sourceStackIn_const (m : Mapper) (stack : Text) :
    sourceStackIn (fun _ => m.resolver) m.settings stack = m.sourceStackOf stack :=
  SourceStack.ofValueIn_const _

/-- What becomes of a normalized record. -/
inductive Returns (m : Mapper) (r : ErrorRecord) : ErrorRecord → Prop where
  | stackless (h : r.stack = none) : Returns m r r
  | mapped {stack : Text} {s : SourceStack} {codeFrame : Option Value}
      (hstack : r.stack = some stack)
      (hs : (m.sourceStackOf stack).outcome = .ok (some s))
      (hframe : ((withSourceStack r s).findCodeFrame m.resolver m.settings.codeFrame).outcome
        = .ok codeFrame) :
      Returns m r { withSourceStack r s with codeFrame }

theorem returnsIn_const_iff {result : ErrorRecord} :
    ReturnsIn (fun _ => m.resolver) m.settings r result ↔ m.Returns r result := by
  constructor
  · intro h
    cases h with
    | stackless hstack => exact .stackless hstack
    | mapped hstack hs hframe => exact .mapped hstack (sourceStackIn_const m _ ▸ hs) hframe
  · intro h
    cases h with
    | stackless hstack => exact .stackless hstack
    | mapped hstack hs hframe => exact .mapped hstack (sourceStackIn_const m _ ▸ hs) hframe

/-- **What the pipeline returns.** -/
theorem outcome_process_eq_ok_iff {host : Host} {result : ErrorRecord} :
    (m.process host).outcome = .ok result ↔
      ∃ r, ErrorRecord.ofHost host = .ok r ∧ m.Returns r.normalized result := by
  rw [← processIn_const, outcome_processIn_eq_ok_iff]
  simp only [returnsIn_const_iff]

end Mapper

end Stacktrace
