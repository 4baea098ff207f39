import Stacktrace.Log.Standard
import Stacktrace.Proofs.Log.Documented

/-!
# Which entries the standard forms take

The standard toolkit writes what is made of plain data in both forms. What may go wrong otherwise is a
number with too many digits, a key that JSON does not have, and a stack or an exception that is no
text.

* `Value.areShort_of_isPlain`, `Log.exists_inJson_of_isPlain` — plain data has a text and a JSON form;
* `Log.exists_jsonEntry_iff`, `Log.get?_jsonEntry` — fields have a JSON form if all their values have
  one, and which fields it has;
* `Log.inJson_eq_self` — what JSON has is left as it is;
* `Log.exists_consoleLine` — writable fields have a line;
* `Log.consoleLine_ne_nil` — a line is never empty.
-/

namespace Stacktrace

open Text

/-! ## Plain data -/

namespace Value

mutual

/-- Plain data shows no integer with too many digits. -/
theorem areShort_of_isPlain : (v : Value) → v.isPlain = true → AreShort v.shownIntegers
  | .null, _ | .bool _, _ | .float _, _ | .text _, _ => by simp [shownIntegers]
  | .int i, h => by
    rw [shownIntegers]
    exact areShort_cons.mpr ⟨by simpa [isPlain] using h, areShort_nil⟩
  | .list xs, h | .tuple xs, h => by
    rw [shownIntegers]
    exact areShort_of_allPlain xs (by simpa [isPlain] using h)
  | .map es, h => by
    rw [shownIntegers]
    exact areShort_of_allPlainEntries es (by simpa [isPlain] using h)

/-- The same for the items of a sequence. -/
theorem areShort_of_allPlain : (vs : List Value) → allPlain vs = true → AreShort (shownIn vs)
  | [], _ => areShort_nil
  | v :: vs, h => by
    obtain ⟨hv, hvs⟩ : v.isPlain = true ∧ allPlain vs = true := by simpa [allPlain] using h
    rw [shownIn]
    exact areShort_append.mpr ⟨areShort_of_isPlain v hv, areShort_of_allPlain vs hvs⟩

/-- The same for the entries of a mapping, whose keys are texts and show no integers. -/
theorem areShort_of_allPlainEntries :
    (es : List (Value × Value)) → allPlainEntries es = true → AreShort (shownInEntries es)
  | [], _ => areShort_nil
  | (.text k, v) :: es, h => by
    obtain ⟨hv, hes⟩ : v.isPlain = true ∧ allPlainEntries es = true := by
      simpa [allPlainEntries] using h
    have hkey : (text k).shownIntegers = [] := by simp [shownIntegers]
    rw [shownInEntries, hkey, List.nil_append]
    exact areShort_append.mpr ⟨areShort_of_isPlain v hv, areShort_of_allPlainEntries es hes⟩

end

end Value

namespace Log

open Attributes (get?)
open Outcome (exists_bind_iff exists_pure)

variable {name : Text} {v j : Value} {as fields : Attributes}

/-! ## The JSON form -/

mutual

/-- Plain data has a JSON form. -/
theorem exists_inJson_of_isPlain : (v : Value) → v.isPlain = true → ∃ j, inJson v = .ok j
  | .null, _ | .bool _, _ | .float _, _ | .text _, _ => by simp [inJson]
  | .int i, h => by
    have hshort : Numeral.IsShort i := by simpa [Value.isPlain] using h
    simp only [inJson, exists_bind_iff, exists_pure, and_true]
    exact Numeral.exists_write_iff.mpr hshort
  | .list xs, h | .tuple xs, h => by
    simp only [inJson, exists_bind_iff, exists_pure, and_true]
    exact exists_itemsInJson_of_allPlain xs (by simpa [Value.isPlain] using h)
  | .map es, h => by
    simp only [inJson, exists_bind_iff, exists_pure, and_true]
    exact exists_entriesInJson_of_allPlain es (by simpa [Value.isPlain] using h)

/-- Plain items have a JSON form, each for itself. -/
theorem exists_itemsInJson_of_allPlain :
    (vs : List Value) → Value.allPlain vs = true → ∃ js, itemsInJson vs = .ok js
  | [], _ => ⟨[], by rw [itemsInJson]⟩
  | v :: vs, h => by
    obtain ⟨hv, hvs⟩ : v.isPlain = true ∧ Value.allPlain vs = true := by
      simpa [Value.allPlain] using h
    simp only [itemsInJson, exists_bind_iff, exists_pure, and_true, exists_and_right]
    exact ⟨exists_inJson_of_isPlain v hv, exists_itemsInJson_of_allPlain vs hvs⟩

/-- Plain entries have a JSON form under the keys that they have. -/
theorem exists_entriesInJson_of_allPlain :
    (es : List (Value × Value)) → Value.allPlainEntries es = true →
      ∃ js, entriesInJson es = .ok js
  | [], _ => ⟨[], by rw [entriesInJson]⟩
  | (.text k, v) :: es, h => by
    obtain ⟨hv, hes⟩ : v.isPlain = true ∧ Value.allPlainEntries es = true := by
      simpa [Value.allPlainEntries] using h
    simp only [entriesInJson, exists_bind_iff, exists_pure, and_true, exists_and_right]
    exact ⟨⟨k, by rw [jsonKey]⟩, exists_inJson_of_isPlain v hv,
      exists_entriesInJson_of_allPlain es hes⟩

end

/-- A writable field shows no integer with too many digits. -/
theorem IsWritable.areShort {a : Text × Value} (h : IsWritable a) : Value.AreShort a.2.shownIntegers :=
  Value.areShort_of_isPlain a.2 h.plain

/-- An entry has a JSON form if all its values have one. -/
theorem exists_jsonEntry_iff :
    (∃ js, jsonEntry as = .ok js) ↔ ∀ a ∈ as, ∃ j, inJson a.2 = .ok j := by
  induction as with
  | nil => exact iff_of_true ⟨[], rfl⟩ (List.forall_mem_nil _)
  | cons a as ih =>
    simp only [jsonEntry, exists_bind_iff, exists_pure, and_true, exists_and_right,
      List.forall_mem_cons, ih]

/-- The object has the fields of an entry, each with its value's form. -/
theorem get?_jsonEntry (h : jsonEntry as = .ok fields) :
    get? name fields = some j ↔ ∃ v, get? name as = some v ∧ inJson v = .ok j := by
  -- by induction on the fields of the entry, which the object keeps in their order
  induction as generalizing fields with
  | nil =>
    cases h
    simp [get?]
  | cons a as ih =>
    obtain ⟨j', hj', h⟩ := Outcome.bind_eq_ok_iff.mp h
    obtain ⟨js, hjs, h⟩ := Outcome.bind_eq_ok_iff.mp h
    cases h
    rw [get?, get?]
    split
    · simp [hj', eq_comm]
    · exact ih hjs

/-- Items that JSON has are left as they are. -/
theorem itemsInJson_eq_self {vs : List Value} (h : ∀ v ∈ vs, inJson v = .ok v) :
    itemsInJson vs = .ok vs := by
  induction vs with
  | nil => rw [itemsInJson]
  | cons v vs ih =>
    obtain ⟨hv, hvs⟩ := List.forall_mem_cons.mp h
    rw [itemsInJson, hv, ih hvs]
    rfl

/-- Entries that JSON has are left as they are, under keys that are texts. -/
theorem entriesInJson_eq_self {es : List (Value × Value)} (hkeys : ∀ e ∈ es, ∃ k, e.1 = .text k)
    (h : ∀ e ∈ es, inJson e.2 = .ok e.2) : entriesInJson es = .ok es := by
  induction es with
  | nil => rw [entriesInJson]
  | cons e es ih =>
    obtain ⟨key, value⟩ := e
    -- a text key is its own JSON key
    obtain ⟨⟨k, rfl⟩, hrest⟩ := List.forall_mem_cons.mp hkeys
    obtain ⟨hvalue, hes⟩ := List.forall_mem_cons.mp h
    rw [entriesInJson, jsonKey, hvalue, ih hrest hes]
    rfl

/-- **What JSON has is left as it is.** -/
theorem inJson_eq_self (h : v.IsJson) : inJson v = .ok v := by
  induction h with
  | null | bool | float | text => rw [inJson]
  | int h =>
    -- an integer has a JSON form if it can be written
    obtain ⟨t, ht⟩ := Numeral.exists_write_iff.mpr h
    rw [inJson, ht]
    rfl
  | list _ ih =>
    rw [inJson, itemsInJson_eq_self ih]
    rfl
  | map hkeys _ ih =>
    rw [inJson, entriesInJson_eq_self hkeys ih]
    rfl

/-! ## The console form -/

/-- A value without long integers can be shown. -/
theorem exists_showValue (h : Value.AreShort v.shownIntegers) : ∃ t, showValue v = .ok t := by
  cases v with
  | text s => exact ⟨_, rfl⟩
  | _ => exact (Value.exists_quoted_iff _).mpr h

/-- Writable fields can be shown one after the other. -/
theorem exists_showFields (h : ∀ a ∈ as, IsWritable a) : ∃ ts, showFields as = .ok ts := by
  induction as with
  | nil => exact ⟨[], rfl⟩
  | cons a as ih =>
    obtain ⟨ha, hrest⟩ := List.forall_mem_cons.mp h
    simp only [showFields, exists_bind_iff, exists_pure, and_true, exists_and_right]
    exact ⟨exists_showValue ha.areShort, ih hrest⟩

/-- A field with a place of its own on the line can be put there, or is missing. -/
theorem exists_placed (h : ∀ a ∈ as, IsWritable a) (name : String) (f : Text → Text) :
    ∃ ts, placed as name f = .ok ts := by
  unfold placed
  split
  · exact ⟨[], rfl⟩
  · next v hv =>
    have hshort : Value.AreShort v.shownIntegers := (h _ (Attributes.mem_of_get? hv)).areShort
    simp only [exists_bind_iff, exists_pure, and_true]
    exact (Value.exists_written_iff v).mpr hshort

/-- A stack or an exception can be put below the line if it is a text. -/
theorem exists_appended (h : ∀ a ∈ as, IsWritable a) {name : String}
    (hname : name = "stack" ∨ name = "exception") : ∃ ts, appended as name = .ok ts := by
  unfold appended
  split
  · exact ⟨[], rfl⟩
  · exact ⟨[], rfl⟩
  · exact ⟨_, rfl⟩
  · next v hnull htext hv =>
    -- A value that cannot be appended is neither null nor a text, so the field is not writable.
    have hname' : name.toList = "stack".toList ∨ name.toList = "exception".toList :=
      hname.imp (congrArg _) (congrArg _)
    rcases (h _ (Attributes.mem_of_get? hv)).appended hname' with rfl | ⟨s, rfl⟩
    · exact (hnull rfl).elim
    · exact (htext s rfl).elim

/-- Writable fields have a line on the console. -/
theorem exists_consoleLine (h : ∀ a ∈ as, IsWritable a) : ∃ t, consoleLine as = .ok t := by
  -- the fields that are listed are some of the entry's, in another order
  have hlisted : ∀ a ∈ listedFields as, IsWritable a := by
    intro a ha
    exact h a (List.mem_of_mem_filter (List.mem_mergeSort.mp ha))
  have happendix : ∃ t, appendix as = .ok t := by
    simp only [appendix, exists_bind_iff, exists_pure, and_true, exists_and_right]
    exact ⟨exists_appended h (.inl rfl), exists_appended h (.inr rfl)⟩
  simp only [consoleLine, exists_bind_iff, exists_pure, and_true, exists_and_right]
  exact ⟨exists_placed h _ _, exists_placed h _ _, exists_placed h _ _, exists_placed h _ _,
    exists_placed h _ _, exists_showFields hlisted, happendix⟩

/-- A line has at least its end. -/
theorem consoleLine_ne_nil {line : Text} (h : consoleLine as = .ok line) : line ≠ [] := by
  simp only [consoleLine, Outcome.bind_eq_ok_iff] at h
  obtain ⟨_, -, _, -, _, -, _, -, _, -, _, -, _, -, h⟩ := h
  cases h
  exact List.append_ne_nil_of_right_ne_nil _ (List.cons_ne_nil _ _)

end Log

end Stacktrace
