import Stacktrace.Proofs.Stack.Building

/-!
# Sessions with a resolver

A host's own resolver may keep a cache, count its calls or change its mind, so that it answers the
same question differently later on. What can be said about a stack that is built in a session:

* `SourceStack.ofValueIn_const` — a session that never changes its mind is a resolver;
* `SourceStack.forall₂_of_outcome_ofValueIn` — in every session, a stack that is returned was
  classified line by line, each line with the resolver of its moment.
-/

namespace Stacktrace

open Text

namespace SourceStack

variable {session : Session} {resolver : Resolver} {root : Text} {rewrites : Rewrites}

/-- **A constant session is a resolver.** -/
theorem ofValueIn_const (v : Value) :
    ofValueIn (fun _ => resolver) root rewrites v = ofValue resolver root rewrites v := rfl

/-! ## Line by line -/

/-- What a line may be classified as at some moment of a session. -/
def ReadsAsIn (session : Session) (root : Text) (rewrites : Rewrites) (line : Text)
    (p : ParsedLine) : Prop :=
  ∃ asked, ReadsAs (session asked) root rewrites line p

theorem forall₂_of_outcome_readLinesIn {asked : List Query} {ls : List Text}
    {ps : List ParsedLine}
    (h : (readLinesIn session root rewrites asked ls).outcome = .ok ps) :
    List.Forall₂ (ReadsAsIn session root rewrites) ls ps := by
  induction ls generalizing asked ps with
  | nil =>
    cases Run.outcome_pure_eq_ok_iff.mp h
    exact .nil
  | cons l ls ih =>
    obtain ⟨p, hp, h⟩ := Run.outcome_bind_eq_ok_iff.mp h
    obtain ⟨ps', hps, h⟩ := Run.outcome_bind_eq_ok_iff.mp h
    cases Run.outcome_pure_eq_ok_iff.mp h
    -- each line is read by the resolver as it is after the questions before
    exact .cons ⟨asked, outcome_sourceLine_eq_ok_iff.mp hp⟩ (ih hps)

/-- **What a returned stack consists of**: each entry is its line, classified at some moment, and
the text is that of the entries. -/
theorem forall₂_of_outcome_ofValueIn {stack : Text} {s : SourceStack}
    (h : (ofValueIn session root rewrites (.text stack)).outcome = .ok (some s)) :
    List.Forall₂ (ReadsAsIn session root rewrites) (lines stack) s.parsed ∧
      ∃ pieces, reconstructLines s.parsed = .ok pieces ∧ s.sourceMapped = joinLines pieces := by
  obtain ⟨s', hbuild, h⟩ := Run.outcome_bind_eq_ok_iff.mp h
  cases Run.outcome_pure_eq_ok_iff.mp h
  obtain ⟨parsed, hparsed, hbuild⟩ := Run.outcome_bind_eq_ok_iff.mp hbuild
  obtain ⟨text, htext, hbuild⟩ := Run.outcome_bind_eq_ok_iff.mp hbuild
  cases Run.outcome_pure_eq_ok_iff.mp hbuild
  obtain ⟨pieces, hpieces, rfl⟩ := Outcome.map_eq_ok_iff.mp htext
  exact ⟨forall₂_of_outcome_readLinesIn hparsed, pieces, hpieces, rfl⟩

end SourceStack

end Stacktrace
