import Stacktrace.Event
import Stacktrace.Fault

/-!
# Runs

A `Run` is the outcome of an operation together with its trace: the questions it put to the
resolver and the events it logged, both in order. The trace is kept when the operation fails, up to
the point of failure.

Runs form a lawful monad: traces are concatenated, and what would follow a failure is not run.
-/

namespace Stacktrace

/-- An outcome and what was asked and logged on the way to it. -/
structure Run (α : Type) where
  queries : List Query
  events : List Event
  outcome : Except Fault α

namespace Run

/-- A result without a trace. -/
protected def pure (a : α) : Run α := ⟨[], [], .ok a⟩

/-- Goes on after a result and stops at a fault. -/
protected def bind (x : Run α) (f : α → Run β) : Run β :=
  match x.outcome with
  | .ok a => let y := f a; ⟨x.queries ++ y.queries, x.events ++ y.events, y.outcome⟩
  | .error e => ⟨x.queries, x.events, .error e⟩

instance : Monad Run where
  pure := Run.pure
  bind := Run.bind

def log (e : Event) : Run Unit := ⟨[], [e], .ok ()⟩

def fail (e : Fault) : Run α := ⟨[], [], .error e⟩

/-- An outcome that is already known. -/
def lift (x : Except Fault α) : Run α := ⟨[], [], x⟩

theorem pure_eq (a : α) : (pure a : Run α) = ⟨[], [], .ok a⟩ := rfl

theorem bind_eq (x : Run α) (f : α → Run β) : x >>= f = Run.bind x f := rfl

instance : LawfulMonad Run := LawfulMonad.mk' Run
  (by
    intro α x
    obtain ⟨q, e, o⟩ := x
    cases o <;> simp [Functor.map, Run.bind, Run.pure])
  (by
    intro α β x f
    simp [pure_eq, bind_eq, Run.bind])
  (by
    intro α β γ x f g
    obtain ⟨q, e, o⟩ := x
    cases o with
    | error _ => simp [bind_eq, Run.bind]
    | ok a =>
      simp only [bind_eq, Run.bind]
      cases h : (f a).outcome <;> simp [List.append_assoc])

/-- **Only results go on**: a run in two steps has the results of its second step, taken after the
results of the first. -/
theorem outcome_bind_eq_ok_iff {x : Run α} {f : α → Run β} {b : β} :
    (x >>= f).outcome = .ok b ↔ ∃ a, x.outcome = .ok a ∧ (f a).outcome = .ok b := by
  rw [bind_eq, Run.bind]
  cases x.outcome with
  | error e => simp
  | ok a => simp

theorem outcome_pure_eq_ok_iff {a b : α} : (pure a : Run α).outcome = .ok b ↔ a = b := by
  rw [pure_eq, Except.ok.injEq]

/-! ## Traces of two steps -/

section

variable {x : Run α} {f : α → Run β}

theorem outcome_bind_of_error {e : Fault} (h : x.outcome = .error e) :
    (x >>= f).outcome = .error e := by
  rw [bind_eq, Run.bind, h]

theorem outcome_bind_of_ok {a : α} (h : x.outcome = .ok a) :
    (x >>= f).outcome = (f a).outcome := by
  rw [bind_eq, Run.bind, h]

theorem queries_bind_of_ok {a : α} (h : x.outcome = .ok a) :
    (x >>= f).queries = x.queries ++ (f a).queries := by
  rw [bind_eq, Run.bind, h]

/-- A second step that never asks adds nothing, whether it is reached or not. -/
theorem queries_bind_of_silent (h : ∀ a, (f a).queries = []) :
    (x >>= f).queries = x.queries := by
  rw [bind_eq, Run.bind]
  cases x.outcome with
  | error e => rfl
  | ok a =>
    show x.queries ++ (f a).queries = x.queries
    rw [h a, List.append_nil]

end

end Run

end Stacktrace
