import Stacktrace.Resolver

/-!
# What position tables answer

`PositionTables.position` looks the place itself up, and else collects columns and takes the greatest;
`outcome_position` says that the greatest column decides in both cases. `IsPreceding` says which
registration that is without the search, and `outcome_position_of_isPreceding` that it gives the
answer. Where there is none, all registrations on the line are to the right of the place
(`isPreceding_or_right`), and then nothing is known about it (`outcome_position_of_right`).
-/

namespace Stacktrace.PositionTables

/-- The registration that answers for a place: the latest one at the greatest column that is not to
the right of the place. -/
structure IsPreceding (t : PositionTables) (file : Text) (line column : Int) (r : Registration) :
    Prop where
  latest : t.at? file line r.column = some r
  not_right : r.column ≤ column
  nearest : ∀ q ∈ t.registrations, q.file = file → q.line = line → q.column ≤ column →
    q.column ≤ r.column

theorem mem_columnsUpTo {t : PositionTables} {file : Text} {line column c : Int} :
    c ∈ t.columnsUpTo file line column ↔
      c ≤ column ∧ ∃ q ∈ t.registrations, q.file = file ∧ q.line = line ∧ q.column = c := by
  unfold columnsUpTo
  rw [List.mem_map]
  constructor
  · rintro ⟨q, hq, rfl⟩
    rw [List.mem_filter] at hq
    obtain ⟨hmem, hq⟩ := hq
    simp only [Bool.and_eq_true, decide_eq_true_eq] at hq
    exact ⟨hq.2, q, hmem, hq.1.1, hq.1.2, rfl⟩
  · rintro ⟨hle, q, hmem, rfl, rfl, rfl⟩
    refine ⟨q, List.mem_filter.mpr ⟨hmem, ?_⟩, rfl⟩
    simpa using hle

theorem of_at? {t : PositionTables} {file : Text} {line column : Int} {r : Registration}
    (h : t.at? file line column = some r) :
    r ∈ t.registrations ∧ r.file = file ∧ r.line = line ∧ r.column = column := by
  have hr := List.find?_some h
  simp only [Bool.and_eq_true, decide_eq_true_eq] at hr
  exact ⟨List.mem_of_find?_eq_some h, hr.1.1, hr.1.2, hr.2⟩

/-- A place is answered for unless everything on its line is registered to its right. -/
theorem isPreceding_or_right (t : PositionTables) (file : Text) (line column : Int) :
    (∃ r, t.IsPreceding file line column r) ∨
      ∀ q ∈ t.registrations, q.file = file → q.line = line → column < q.column := by
  cases hmax : (t.columnsUpTo file line column).max? with
  | none =>
    right
    intro q hq hfile hline
    have hnil : t.columnsUpTo file line column = [] := List.max?_eq_none_iff.mp hmax
    refine Int.not_le.mp fun hle => ?_
    have hmem : q.column ∈ t.columnsUpTo file line column :=
      mem_columnsUpTo.mpr ⟨hle, q, hq, hfile, hline, rfl⟩
    rw [hnil] at hmem
    cases hmem
  | some greatest =>
    left
    obtain ⟨hmem, hge⟩ := List.max?_eq_some_iff.mp hmax
    obtain ⟨hle, q, hq, hfile, hline, hcolumn⟩ := mem_columnsUpTo.mp hmem
    -- something is registered at the greatest column, so there is a latest registration at it
    have hsome : (t.at? file line greatest).isSome = true := by
      unfold at?
      rw [List.find?_isSome]
      exact ⟨q, hq, by simp [hfile, hline, hcolumn]⟩
    obtain ⟨r, hr⟩ := Option.isSome_iff_exists.mp hsome
    obtain ⟨-, -, -, hrcolumn⟩ := of_at? hr
    refine ⟨r, ⟨by rw [hrcolumn]; exact hr, by omega, ?_⟩⟩
    intro q' hq' hfile' hline' hle'
    rw [hrcolumn]
    exact hge _ (mem_columnsUpTo.mpr ⟨hle', q', hq', hfile', hline', rfl⟩)

/-- **The two lookups agree**: where the place itself is registered with an original, its column is the
greatest, so that the outcome is always that of the greatest column. -/
theorem outcome_position (t : PositionTables) (file : Text) (p : Position) :
    (t.position file p).outcome = .ok ((t.columnsUpTo file p.line p.column).max?.bind fun column =>
      (t.at? file p.line column).bind Registration.original) := by
  unfold position
  split
  · split
    · next exact hexact =>
      obtain ⟨r, hr, -⟩ := Option.bind_eq_some_iff.mp hexact
      obtain ⟨hmem, hfile, hline, hcolumn⟩ := of_at? hr
      have hmax : (t.columnsUpTo file p.line p.column).max? = some p.column := by
        refine List.max?_eq_some_iff.mpr ⟨?_, fun c hc => (mem_columnsUpTo.mp hc).1⟩
        exact mem_columnsUpTo.mpr ⟨Int.le_refl _, r, hmem, hfile, hline, hcolumn⟩
      rw [hmax, Option.bind_some, hexact]
    · split
      · next column hmax => rw [hmax, Option.bind_some]
      · next hmax => rw [hmax, Option.bind_none]
  · next hunknown =>
    -- No column is registered for a file of which nothing is.
    have hnil : t.columnsUpTo file p.line p.column = [] := by
      rw [List.eq_nil_iff_forall_not_mem]
      intro c hc
      obtain ⟨-, q, hq, hfile, -⟩ := mem_columnsUpTo.mp hc
      exact hunknown (List.any_eq_true.mpr ⟨q, hq, by simpa using hfile⟩)
    rw [hnil, List.max?_nil, Option.bind_none]

/-- Nothing is known about a place with all registrations to its right. -/
theorem outcome_position_of_right {t : PositionTables} {file : Text} {p : Position}
    (h : ∀ q ∈ t.registrations, q.file = file → q.line = p.line → p.column < q.column) :
    (t.position file p).outcome = .ok none := by
  -- every column of the place lies to the right, so none is up to this one
  have hnil : t.columnsUpTo file p.line p.column = [] := by
    rw [List.eq_nil_iff_forall_not_mem]
    intro c hc
    obtain ⟨hle, q, hq, hfile, hline, rfl⟩ := mem_columnsUpTo.mp hc
    have hlt := h q hq hfile hline
    omega
  rw [outcome_position, hnil, List.max?_nil, Option.bind_none]

/-- **The preceding registration answers.** -/
theorem outcome_position_of_isPreceding {t : PositionTables} {file : Text} {p : Position}
    {r : Registration} (h : t.IsPreceding file p.line p.column r) :
    (t.position file p).outcome = .ok r.original := by
  -- its column is the greatest of those that are looked through
  have hmax : (t.columnsUpTo file p.line p.column).max? = some r.column := by
    rw [List.max?_eq_some_iff]
    constructor
    · obtain ⟨hmem, hfile, hline, -⟩ := of_at? h.latest
      exact mem_columnsUpTo.mpr ⟨h.not_right, r, hmem, hfile, hline, rfl⟩
    · intro c hc
      obtain ⟨hle, q, hmem, hfile, hline, rfl⟩ := mem_columnsUpTo.mp hc
      exact h.nearest q hmem hfile hline hle
  rw [outcome_position, hmax, Option.bind_some, h.latest, Option.bind_some]

/-- Tables never fail. -/
theorem exists_outcome_position (t : PositionTables) (file : Text) (p : Position) :
    ∃ answer, (t.position file p).outcome = .ok answer := by
  rcases t.isPreceding_or_right file p.line p.column with ⟨r, hr⟩ | hright
  · exact ⟨_, outcome_position_of_isPreceding hr⟩
  · exact ⟨_, outcome_position_of_right hright⟩

end Stacktrace.PositionTables
