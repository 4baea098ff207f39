import Stacktrace.Proofs.Resolver

/-!
# Position tables over any history

A host fills position tables with calls, in any order and as often as it likes, and registers the
same place more than once. What a table answers is a matter of the whole history:

* `registrations_performAll`, `sources_performAll` — what the tables hold after a run of calls is
  what they held before and what the calls registered;
* `Precedes` — the answer that a history gives for a place, said without the search;
* `outcome_position_eq_ok_iff` — the tables give just that answer;
* `answers_over_history` — the same after every run of calls, that only the order of registrations
  for one and the same place matters, and what is answered for source texts.
-/

namespace Stacktrace

/-- A call that fills position tables. -/
inductive TableCall where
  | mapping (r : Registration)
  | source (fileUrl relativeFile contents : Text)
deriving DecidableEq, Repr

def TableCall.registration? : TableCall → Option Registration
  | .mapping r => some r
  | .source _ _ _ => none

def TableCall.source? : TableCall → Option ((Text × Text) × Text)
  | .mapping _ => none
  | .source fileUrl relativeFile contents => some ((fileUrl, relativeFile), contents)

namespace PositionTables

def perform (t : PositionTables) : TableCall → PositionTables
  | .mapping r => t.addMapping r
  | .source fileUrl relativeFile contents => t.addSource fileUrl relativeFile contents

def performAll (t : PositionTables) (calls : List TableCall) : PositionTables :=
  calls.foldl perform t

/-! ## What a run of calls leaves in the tables -/

/-- All registrations of a history, the oldest first. -/
def registered (start : PositionTables) (calls : List TableCall) : List Registration :=
  start.registrations.reverse ++ calls.filterMap TableCall.registration?

/-- All source texts of a history, the oldest first. -/
def given (start : PositionTables) (calls : List TableCall) : List ((Text × Text) × Text) :=
  start.sources.reverse ++ calls.filterMap TableCall.source?

theorem registrations_performAll (start : PositionTables) (calls : List TableCall) :
    (start.performAll calls).registrations = (start.registered calls).reverse := by
  induction calls generalizing start with
  | nil => simp [performAll, registered]
  | cons call calls ih =>
    show ((start.perform call).performAll calls).registrations = _
    rw [ih]
    -- contents are kept in a table of their own
    cases call with
    | mapping r => simp [perform, registered, addMapping, TableCall.registration?]
    | source u f c =>
      simp [perform, registered, addSource, List.filterMap_cons, TableCall.registration?]

theorem sources_performAll (start : PositionTables) (calls : List TableCall) :
    (start.performAll calls).sources = (start.given calls).reverse := by
  induction calls generalizing start with
  | nil => simp [performAll, given]
  | cons call calls ih =>
    show ((start.perform call).performAll calls).sources = _
    rw [ih]
    cases call with
    | mapping r => simp [perform, given, addMapping, List.filterMap_cons, TableCall.source?]
    | source u f c => simp [perform, given, addSource, TableCall.source?]

/-! ## Positions -/

/-- The registrations of a history for exactly one place, in their order. -/
def registeredAt (history : List Registration) (file : Text) (line column : Int) :
    List Registration :=
  history.filter fun r => r.file = file && r.line = line && r.column = column

theorem mem_registeredAt {history : List Registration} {file : Text} {line column : Int}
    {r : Registration} :
    r ∈ registeredAt history file line column ↔
      r ∈ history ∧ r.file = file ∧ r.line = line ∧ r.column = column := by
  unfold registeredAt
  rw [List.mem_filter]
  simp [and_assoc]

/-- What a history says about a place: what was registered last for the greatest column that is not
to the right of it, and nothing if there is no such column. -/
inductive Precedes (history : List Registration) (file : Text) (p : Position) :
    Option SourceLocation → Prop where
  | right (h : ∀ q ∈ history, q.file = file → q.line = p.line → p.column < q.column) :
      Precedes history file p none
  | latest {r : Registration}
      (h : (registeredAt history file p.line r.column).getLast? = some r)
      (not_right : r.column ≤ p.column)
      (nearest : ∀ q ∈ history, q.file = file → q.line = p.line → q.column ≤ p.column →
        q.column ≤ r.column) :
      Precedes history file p r.original

/-- The latest registration for a place is the last one of the history. -/
theorem at?_eq_getLast? {t : PositionTables} {history : List Registration}
    (h : t.registrations = history.reverse) (file : Text) (line column : Int) :
    t.at? file line column = (registeredAt history file line column).getLast? := by
  unfold at? registeredAt
  rw [h, ← List.head?_filter, List.filter_reverse, List.head?_reverse]

/-- **Tables answer what their history says.** -/
theorem outcome_position_eq_ok_iff {t : PositionTables} {history : List Registration}
    (h : t.registrations = history.reverse) {file : Text} {p : Position}
    {answer : Option SourceLocation} :
    (t.position file p).outcome = .ok answer ↔ Precedes history file p answer := by
  -- the table holds its history newest first, so the two have the same entries
  have hmem : ∀ q, q ∈ t.registrations ↔ q ∈ history := by
    intro q
    rw [h, List.mem_reverse]
  constructor
  · intro hanswer
    rcases t.isPreceding_or_right file p.line p.column with ⟨r, hr⟩ | hright
    · rw [outcome_position_of_isPreceding hr] at hanswer
      cases hanswer
      have hlatest := hr.latest
      rw [at?_eq_getLast? h] at hlatest
      exact .latest hlatest hr.not_right fun q hq => hr.nearest q ((hmem q).mpr hq)
    · rw [outcome_position_of_right hright] at hanswer
      cases hanswer
      exact .right fun q hq => hright q ((hmem q).mpr hq)
  · intro hprecedes
    cases hprecedes with
    | right hright => exact outcome_position_of_right fun q hq => hright q ((hmem q).mp hq)
    | @latest r hlatest hle hnearest =>
      rw [← at?_eq_getLast? h] at hlatest
      exact outcome_position_of_isPreceding
        ⟨hlatest, hle, fun q hq => hnearest q ((hmem q).mp hq)⟩

/-- **Only registrations at one and the same place are ordered.** Other files, other lines and
columns to the right of the place play no part. -/
theorem Precedes.of_registeredAt_eq {history history' : List Registration} {file : Text}
    {p : Position} {answer : Option SourceLocation}
    (heq : ∀ column ≤ p.column,
      registeredAt history file p.line column = registeredAt history' file p.line column)
    (h : Precedes history file p answer) : Precedes history' file p answer := by
  -- entries to the left of the column are the same in both histories
  have hmem : ∀ q ∈ history', q.file = file → q.line = p.line → q.column ≤ p.column →
      q ∈ history := by
    intro q hq hfile hline hle
    have hat := mem_registeredAt.mpr ⟨hq, hfile, hline, rfl⟩
    rw [← heq q.column hle] at hat
    exact (mem_registeredAt.mp hat).1
  cases h with
  | right hright =>
    refine .right fun q hq hfile hline => ?_
    refine Int.not_le.mp fun hle => ?_
    have hlt := hright q (hmem q hq hfile hline hle) hfile hline
    omega
  | @latest r hlatest hle hnearest =>
    rw [heq r.column hle] at hlatest
    exact .latest hlatest hle fun q hq hfile hline hq' =>
      hnearest q (hmem q hq hfile hline hq') hfile hline hq'

/-! ## Source texts -/

/-- The texts of a history for exactly one pair of files, in their order. -/
def textsFor (history : List ((Text × Text) × Text)) (fileUrl relativeFile : Text) : List Text :=
  (history.filter fun s => s.1 = (fileUrl, relativeFile)).map Prod.snd

theorem lookup_eq_head? {sources : List ((Text × Text) × Text)} {pair : Text × Text} :
    sources.lookup pair = ((sources.filter fun s => s.1 = pair).map Prod.snd).head? := by
  induction sources with
  | nil => rfl
  | cons s sources ih =>
    obtain ⟨key, text⟩ := s
    rw [List.lookup_cons, List.filter_cons]
    -- the newest entry stands first, so the lookup stops at it
    by_cases hkey : key = pair
    · simp [hkey]
    · have hne : (pair == key) = false := by simpa using fun he => hkey he.symm
      simp [hkey, hne, ih]

theorem outcome_contents_eq {t : PositionTables} {history : List ((Text × Text) × Text)}
    (h : t.sources = history.reverse) (fileUrl relativeFile : Text) :
    (t.contents fileUrl (some relativeFile)).outcome
      = .ok (textsFor history fileUrl relativeFile).getLast? := by
  show Except.ok (t.sources.lookup (fileUrl, relativeFile)) = _
  rw [h, lookup_eq_head?, List.filter_reverse, List.map_reverse, List.head?_reverse]
  rfl

/-! ## Any run of calls -/

/-- **What tables answer after any history of calls.** A position is answered by what was registered
last for the greatest column on its line that is not to its right; what stands at exactly its place
needs no search. Neither registrations elsewhere nor the order of registrations for different places
matter. A source is answered by the text that was given last for just that pair of files. -/
theorem answers_over_history :
    (∀ (start : PositionTables) (calls : List TableCall) (file : Text) (p : Position)
      (answer : Option SourceLocation),
      ((start.performAll calls).position file p).outcome = .ok answer ↔
        Precedes (start.registered calls) file p answer) ∧
    (∀ (start : PositionTables) (calls : List TableCall) (file : Text) (p : Position)
      (r : Registration) (source : SourceLocation),
      (registeredAt (start.registered calls) file p.line p.column).getLast? = some r →
      r.original = some source →
      ((start.performAll calls).position file p).outcome = .ok (some source)) ∧
    (∀ (start start' : PositionTables) (calls calls' : List TableCall) (file : Text)
      (p : Position),
      (∀ column ≤ p.column, registeredAt (start.registered calls) file p.line column
        = registeredAt (start'.registered calls') file p.line column) →
      ((start.performAll calls).position file p).outcome
        = ((start'.performAll calls').position file p).outcome) ∧
    ∀ (start : PositionTables) (calls : List TableCall) (fileUrl : Text),
      ((start.performAll calls).contents fileUrl none).outcome = .ok none ∧
      ∀ relativeFile : Text, ((start.performAll calls).contents fileUrl (some relativeFile)).outcome
        = .ok (textsFor (start.given calls) fileUrl relativeFile).getLast? := by
  have hposition (start : PositionTables) (calls : List TableCall) (file : Text) (p : Position)
      (answer : Option SourceLocation) :
      ((start.performAll calls).position file p).outcome = .ok answer ↔
        Precedes (start.registered calls) file p answer :=
    outcome_position_eq_ok_iff (registrations_performAll start calls)
  refine ⟨hposition, ?_, ?_, ?_⟩
  · intro start calls file p r source hlatest hsource
    -- no column that is not to the right is greater than the place's own
    have hcolumn : r.column = p.column :=
      (mem_registeredAt.mp (List.mem_of_getLast? hlatest)).2.2.2
    rw [hposition, ← hsource]
    refine .latest ?_ (by omega) (fun q _ _ _ hle => by omega)
    rw [hcolumn]
    exact hlatest
  · intro start start' calls calls' file p heq
    obtain ⟨answer, hanswer⟩ := (start.performAll calls).exists_outcome_position file p
    have hprecedes := (hposition _ _ _ _ _).mp hanswer
    rw [hanswer]
    exact ((hposition _ _ _ _ _).mpr (hprecedes.of_registeredAt_eq heq)).symm
  · intro start calls fileUrl
    exact ⟨rfl, outcome_contents_eq (sources_performAll start calls) fileUrl⟩

/-- Two places of one line, one of them without a source, and one registered twice. -/
def refilled : List TableCall := [
  .mapping ⟨"app.js".toList, 1, 0, some ⟨some "old.js".toList, some 8, some 0⟩⟩,
  .mapping ⟨"app.js".toList, 1, 5, none⟩,
  .source "app.js".toList "spec.js".toList "old".toList,
  .mapping ⟨"app.js".toList, 1, 0, some ⟨some "spec.js".toList, some 9, some 0⟩⟩,
  .source "app.js".toList "spec.js".toList "new".toList]

/-- The last registration again, after one further to the right and one in another file. -/
def reordered : List TableCall := [
  .mapping ⟨"app.js".toList, 1, 5, some ⟨some "late.js".toList, some 2, some 2⟩⟩,
  .mapping ⟨"lib.js".toList, 1, 3, none⟩,
  .mapping ⟨"app.js".toList, 1, 0, some ⟨some "old.js".toList, some 8, some 0⟩⟩,
  .mapping ⟨"app.js".toList, 1, 0, some ⟨some "spec.js".toList, some 9, some 0⟩⟩]

theorem answers_over_history_refilled :
    ((empty.performAll refilled).position "app.js".toList ⟨"app.js".toList, 1, 0⟩).outcome
      = .ok (some ⟨some "spec.js".toList, some 9, some 0⟩) ∧
    ((empty.performAll refilled).position "app.js".toList ⟨"app.js".toList, 1, 7⟩).outcome
      = .ok none ∧
    ((empty.performAll refilled).position "app.js".toList ⟨"app.js".toList, 1, 3⟩).outcome
      = ((empty.performAll reordered).position "app.js".toList ⟨"app.js".toList, 1, 3⟩).outcome ∧
    ((empty.performAll refilled).contents "app.js".toList (some "spec.js".toList)).outcome
      = .ok (some "new".toList) := by
  obtain ⟨hanswer, hexact, horder, hcontents⟩ := answers_over_history
  refine ⟨?_, ?_, ?_, (hcontents _ _ _).2 _⟩
  · exact hexact empty refilled _ _ ⟨_, _, _, some ⟨_, _, _⟩⟩ _ rfl rfl
  · -- the greatest column holds no source
    refine (hanswer empty refilled _ _ _).mpr ?_
    exact .latest (r := ⟨"app.js".toList, 1, 5, none⟩) rfl (by decide) (by decide)
  · refine horder empty empty refilled reordered _ _ fun column hle => ?_
    have hne : (5 : Int) ≠ column := by
      intro he
      subst he
      exact absurd hle (by decide)
    simp [registeredAt, registered, empty, refilled, reordered, TableCall.registration?,
      List.filterMap_cons, List.filter_cons, hne]

end PositionTables

end Stacktrace
