import Stacktrace.Proofs.Outcome
import Stacktrace.Proofs.Text.Numeral
import Stacktrace.Value.Written

/-!
# Which values can be written

Writing a value fails on an integer with too many digits, wherever the text of the value shows it,
and on nothing else.

* `Value.shownIntegers` — the integers that the text of a value shows;
* `Value.exists_quoted_iff` — a value is written as part of a larger one exactly if all of them are
  short;
* `Value.exists_written_iff`, `Value.exists_writtenRaised_iff` — the same for a message and for the
  message of a raised error.
-/

namespace Stacktrace

open Text Numeral

/-! ## Numbers -/

/-- An integer that does not have too many digits to be written. -/
def Numeral.IsShort (i : Int) : Prop :=
  (ofNat i.natAbs).length ≤ Fault.digitLimit

instance (i : Int) : Decidable (IsShort i) :=
  inferInstanceAs (Decidable (_ ≤ _))

/-- An integer is written exactly if it does not have too many digits. -/
theorem Numeral.exists_write_iff {i : Int} : (∃ t, write i = .ok t) ↔ IsShort i := by
  simp only [write_eq_ok_iff]
  constructor
  · rintro ⟨t, h, -⟩
    exact h
  · intro h
    exact ⟨_, h, rfl⟩

/-- A number that may be missing is written as its digits or as the word for nothing. -/
theorem exists_writtenOption_iff {o : Option Int} :
    (∃ t, writtenOption o = .ok t) ↔ ∀ i ∈ o, IsShort i := by
  cases o with
  | none => exact iff_of_true ⟨_, rfl⟩ (by simp)
  | some i =>
    have hsome : writtenOption (some i) = write i := rfl
    rw [hsome, exists_write_iff]
    simp

/-! ## Records

A record is written if its numbers are; its texts are always written. -/

/-- The fields of a frame are written if line and column are. -/
theorem FrameFields.exists_written_iff {f : FrameFields} :
    (∃ t, f.written = .ok t) ↔ (∀ i ∈ f.line, IsShort i) ∧ ∀ i ∈ f.column, IsShort i := by
  simp only [FrameFields.written, Outcome.exists_bind_iff, Outcome.exists_pure, and_true,
    exists_and_right, exists_writtenOption_iff]

/-- A parsed line is written if it is a message, or a frame whose numbers are. -/
theorem ParsedLine.exists_written_iff {l : ParsedLine} :
    (∃ t, l.written = .ok t) ↔
      ∀ f, l.frame? = some f → (∀ i ∈ f.line, IsShort i) ∧ ∀ i ∈ f.column, IsShort i := by
  cases l with
  | message m => exact iff_of_true ⟨_, rfl⟩ (by simp [frame?])
  | frame f =>
    simp only [ParsedLine.written, Outcome.exists_bind_iff, Outcome.exists_pure, and_true,
      exists_and_right, exists_writtenOption_iff, frame?, Option.some.injEq, forall_eq']

/-- A code frame is written if its line and its column are. -/
theorem CodeFrame.exists_written_iff {c : CodeFrame} :
    (∃ t, c.written = .ok t) ↔ IsShort c.line ∧ ∀ i ∈ c.column, IsShort i := by
  simp only [CodeFrame.written, Outcome.exists_bind_iff, Outcome.exists_pure, and_true,
    exists_and_right, exists_writtenOption_iff, exists_write_iff]

/-- A position is written if its line and its column are. -/
theorem Position.exists_written_iff {p : Position} :
    (∃ t, p.written = .ok t) ↔ IsShort p.line ∧ IsShort p.column := by
  simp only [Position.written, Outcome.exists_bind_iff, Outcome.exists_pure, and_true,
    exists_and_right, exists_write_iff]

/-! ## Values -/

namespace Value

mutual

/-- The integers that the text of a value shows. Attributes of a raised error are not shown. -/
def shownIntegers : Value → List Int
  | .int i => [i]
  | .list xs | .tuple xs | .set xs => shownIn xs
  | .map es | .frozenMap es => shownInEntries es
  | .object as => shownInAttributes as
  | .raised _ args _ => shownIn args
  | .fields f => f.line.toList ++ f.column.toList
  | .line (.frame f) => f.line.toList ++ f.column.toList
  | .codeFrame c => c.line :: c.column.toList
  | .position p => [p.line, p.column]
  | _ => []

def shownIn : List Value → List Int
  | [] => []
  | v :: vs => shownIntegers v ++ shownIn vs

def shownInEntries : List (Value × Value) → List Int
  | [] => []
  | (k, v) :: es => shownIntegers k ++ shownIntegers v ++ shownInEntries es

def shownInAttributes : List (Text × Value) → List Int
  | [] => []
  | (_, v) :: as => shownIntegers v ++ shownInAttributes as

end

/-- All integers of a list can be written. -/
def AreShort (is : List Int) : Prop :=
  ∀ i ∈ is, IsShort i

instance (is : List Int) : Decidable (AreShort is) :=
  inferInstanceAs (Decidable (∀ i ∈ is, IsShort i))

/-- Without integers there is nothing that cannot be written. -/
@[simp] theorem areShort_nil : AreShort [] :=
  List.forall_mem_nil _

/-- Integers can be written together if each of them can. -/
theorem areShort_cons {i : Int} {is : List Int} : AreShort (i :: is) ↔ IsShort i ∧ AreShort is :=
  List.forall_mem_cons

/-- The same for two lists of integers. -/
theorem areShort_append {is js : List Int} : AreShort (is ++ js) ↔ AreShort is ∧ AreShort js :=
  List.forall_mem_append

/-- An integer that may be missing can be written if it is short where it is there. -/
theorem areShort_toList {o : Option Int} : AreShort o.toList ↔ ∀ i ∈ o, IsShort i := by
  simp [AreShort]

mutual

/-- **A value is written** exactly if all integers that it shows are short. -/
theorem exists_quoted_iff : (v : Value) → ((∃ t, v.quoted = .ok t) ↔ AreShort v.shownIntegers)
  | .int i => by
    rw [quoted, shownIntegers, exists_write_iff, areShort_cons, and_iff_left areShort_nil]
  | .list xs | .tuple xs => by
    rw [quoted, shownIntegers, ← exists_quotedAll_iff xs]
    simp only [Outcome.exists_bind_iff, Outcome.exists_pure, and_true]
  -- an empty set is written as a word, a set with elements as their list
  | .set [] => by simp [quoted, shownIntegers, shownIn]
  | .set (x :: xs) => by
    rw [quoted, shownIntegers, ← exists_quotedAll_iff (x :: xs)]
    simp only [Outcome.exists_bind_iff, Outcome.exists_pure, and_true]
  | .map es | .frozenMap es => by
    rw [quoted, shownIntegers, ← exists_quotedEntries_iff es]
    simp only [Outcome.exists_bind_iff, Outcome.exists_pure, and_true]
  | .object as => by
    rw [quoted, shownIntegers, ← exists_quotedAttributes_iff as]
    simp only [Outcome.exists_bind_iff, Outcome.exists_pure, and_true]
  | .raised kind args as => by
    rw [quoted, shownIntegers, ← exists_quotedAll_iff args]
    simp only [Outcome.exists_bind_iff, Outcome.exists_pure, and_true]
  | .fields f => by
    rw [quoted, shownIntegers, FrameFields.exists_written_iff, areShort_append, areShort_toList,
      areShort_toList]
  | .line (.message m) => by simp [quoted, shownIntegers, ParsedLine.written]
  | .line (.frame f) => by
    rw [quoted, shownIntegers, ParsedLine.exists_written_iff, areShort_append, areShort_toList,
      areShort_toList]
    simp [ParsedLine.frame?]
  | .codeFrame c => by
    rw [quoted, shownIntegers, CodeFrame.exists_written_iff, areShort_cons, areShort_toList]
  | .position p => by
    rw [quoted, shownIntegers, Position.exists_written_iff, areShort_cons, areShort_cons,
      and_iff_left areShort_nil]
  | .null | .bool _ | .float _ | .text _ | .bytes _ | .moment _ | .sealed => by
    simp [quoted, shownIntegers]

/-- Items are written one by one. -/
theorem exists_quotedAll_iff :
    (vs : List Value) → ((∃ ts, quotedAll vs = .ok ts) ↔ AreShort (shownIn vs))
  | [] => by simp [quotedAll, shownIn]
  | v :: vs => by
    rw [quotedAll, shownIn, areShort_append, ← exists_quoted_iff v, ← exists_quotedAll_iff vs]
    simp only [Outcome.exists_bind_iff, Outcome.exists_pure, and_true, exists_and_right]

/-- Entries are written key by key and value by value. -/
theorem exists_quotedEntries_iff :
    (es : List (Value × Value)) →
      ((∃ ts, quotedEntries es = .ok ts) ↔ AreShort (shownInEntries es))
  | [] => by simp [quotedEntries, shownInEntries]
  | (k, v) :: es => by
    rw [quotedEntries, shownInEntries, areShort_append, areShort_append, ← exists_quoted_iff k,
      ← exists_quoted_iff v, ← exists_quotedEntries_iff es, and_assoc]
    simp only [Outcome.exists_bind_iff, Outcome.exists_pure, and_true, exists_and_right]

/-- Attributes are written value by value, for their names are texts. -/
theorem exists_quotedAttributes_iff :
    (as : List (Text × Value)) →
      ((∃ ts, quotedAttributes as = .ok ts) ↔ AreShort (shownInAttributes as))
  | [] => by simp [quotedAttributes, shownInAttributes]
  | (k, v) :: as => by
    rw [quotedAttributes, shownInAttributes, areShort_append, ← exists_quoted_iff v,
      ← exists_quotedAttributes_iff as]
    simp only [Outcome.exists_bind_iff, Outcome.exists_pure, and_true, exists_and_right]

end

mutual

/-- **A message is written** exactly if all integers that it shows are short. -/
theorem exists_written_iff : (v : Value) → ((∃ t, v.written = .ok t) ↔ AreShort v.shownIntegers)
  | .text s => by simp [written, shownIntegers]
  -- three shapes are written by a text of their own, the others as they are quoted
  | .frozenMap es => by
    rw [written, shownIntegers, ← exists_quotedEntries_iff es]
    simp only [Outcome.exists_bind_iff, Outcome.exists_pure, and_true]
  | .raised kind args as => by
    rw [written, shownIntegers, exists_writtenRaised_iff kind args]
  | .null | .bool _ | .int _ | .float _ | .bytes _ | .moment _ | .list _ | .tuple _ | .set _
  | .map _ | .object _ | .sealed | .fields _ | .line _ | .codeFrame _ | .position _ => by
    rw [written, exists_quoted_iff]
    all_goals simp

/-- An error is written as its only argument, or as all of them in parentheses. -/
theorem exists_writtenRaised_iff (kind : Text) :
    (args : List Value) → ((∃ t, writtenRaised kind args = .ok t) ↔ AreShort (shownIn args))
  | [] => by simp [writtenRaised, shownIn]
  | [a] => by
    have hshown : shownIn [a] = a.shownIntegers := by simp [shownIn]
    rw [writtenRaised, hshown]
    -- one kind of error quotes its only argument, every other kind writes it as a message
    split
    · exact exists_quoted_iff a
    · exact exists_written_iff a
  | a :: b :: rest => by
    rw [writtenRaised, ← exists_quotedAll_iff (a :: b :: rest)]
    simp only [Outcome.exists_bind_iff, Outcome.exists_pure, and_true]

end

end Value

end Stacktrace
