import Mathlib.Data.List.Induction
import Stacktrace.Log.Toolkit
import Stacktrace.Proofs.Error.Fields

/-!
# What an entry has under a name

Entries, contexts and calls are all read by name. Where a name is given more than once, the last value
counts:

* `Latest.concat_iff` — the last item of a list settles a question, or else those before it do;
* `Attributes.Gives` — the value that attributes have for a name, the last one if there are several;
* `Log.Entry.get?_set`, `Log.Entry.get?_setMissing` — what an entry has after a field was written;
* `Log.get?_stampWith` — what the signature changes.
-/

namespace Stacktrace

open Text

/-! ## The last word -/

/-- The last item that speaks to a question settles it. -/
def Latest {α : Type} (settles speaks : α → Prop) (items : List α) : Prop :=
  ∃ earlier item later, items = earlier ++ item :: later ∧ settles item ∧ ∀ a ∈ later, ¬ speaks a

namespace Latest

variable {α : Type} {settles speaks : α → Prop} {items : List α} {item : α}

/-- Where there are no items, nobody has the last word. -/
theorem not_nil : ¬ Latest settles speaks [] := by
  rintro ⟨earlier, item, later, h, -⟩
  exact List.append_ne_nil_of_right_ne_nil earlier (List.cons_ne_nil item later) h.symm

/-- The last item has the last word if it speaks, and otherwise one of the items before it. -/
theorem concat_iff : Latest settles speaks (items ++ [item]) ↔
    settles item ∨ ¬ speaks item ∧ Latest settles speaks items := by
  constructor
  · rintro ⟨earlier, a, later, h, ha, hlater⟩
    -- behind the one that settles stands nothing, or the last item, which is silent then
    rcases List.eq_nil_or_concat later with rfl | ⟨later, b, rfl⟩
    · obtain ⟨rfl, hitem⟩ := List.append_inj' h rfl
      cases hitem
      exact .inl ha
    · rw [List.concat_eq_append, ← List.cons_append, ← List.append_assoc] at h
      obtain ⟨rfl, hitem⟩ := List.append_inj' h rfl
      cases hitem
      rw [List.concat_eq_append, List.forall_mem_append, List.forall_mem_singleton] at hlater
      exact .inr ⟨hlater.2, earlier, a, later, rfl, ha, hlater.1⟩
  · rintro (hitem | ⟨hitem, earlier, a, later, rfl, ha, hlater⟩)
    · exact ⟨items, item, [], rfl, hitem, List.forall_mem_nil _⟩
    · refine ⟨earlier, a, later ++ [item], by rw [List.append_assoc, List.cons_append], ha, ?_⟩
      exact List.forall_mem_append.mpr ⟨hlater, List.forall_mem_singleton.mpr hitem⟩

/-- Whoever has the last word is one of the items. -/
theorem exists_mem (h : Latest settles speaks items) : ∃ a ∈ items, settles a := by
  obtain ⟨earlier, item, later, rfl, hitem, -⟩ := h
  exact ⟨item, List.mem_append_right earlier List.mem_cons_self, hitem⟩

/-- Someone has the last word exactly if someone speaks. -/
theorem exists_iff {β : Type} {settles : β → α → Prop} (h : ∀ a, speaks a ↔ ∃ b, settles b a) :
    (∃ b, Latest (settles b) speaks items) ↔ ∃ a ∈ items, speaks a := by
  -- by induction on the last item, which has the word if it speaks
  induction items using List.reverseRecOn with
  | nil => simp [not_nil]
  | append_singleton items item ih =>
    simp only [concat_iff, exists_or, ← h, exists_and_left, ih, List.mem_append, List.mem_singleton,
      or_and_right, exists_eq_left]
    by_cases hitem : speaks item <;> simp [hitem]

end Latest

/-! ## Attributes -/

namespace Attributes

variable {name : Text} {v : Value} {as : Attributes} {f : Value → Value} {p : Text × Value → Bool}

/-- The value that attributes have for a name, the last one if there are several. -/
def Gives (as : Attributes) (name : Text) (v : Value) : Prop :=
  Latest (· = (name, v)) (·.1 = name) as

/-- A name whose attributes are left out has no value. -/
theorem get?_filter_of_out (hp : ∀ old, p (name, old) = false) : get? name (as.filter p) = none := by
  rw [Option.eq_none_iff_forall_ne_some]
  intro v h
  have hmem := List.of_mem_filter (mem_of_get? h)
  rw [hp v] at hmem
  cases hmem

/-- Changing all values changes the one that a name has. -/
theorem get?_map : get? name (as.map fun a => (a.1, f a.2)) = (get? name as).map f := by
  induction as with
  | nil => rfl
  | cons a as ih =>
    rw [List.map_cons, get?, get?, ih]
    split <;> rfl

/-- The value that is given is among the attributes. -/
theorem Gives.mem (h : as.Gives name v) : (name, v) ∈ as := by
  obtain ⟨a, ha, rfl⟩ := Latest.exists_mem h
  exact ha

/-- A value is given exactly for the names that occur. -/
theorem exists_gives_iff : (∃ v, as.Gives name v) ↔ ∃ a ∈ as, a.1 = name :=
  Latest.exists_iff fun _ => ⟨fun h => ⟨_, Prod.ext h rfl⟩, fun ⟨_, h⟩ => congrArg Prod.fst h⟩

end Attributes

/-! ## Entries -/

namespace Log

namespace Entry

variable {name n : Text} {v : Value} {e : Entry}

/-- A field that is written has the new value, and the others keep theirs. -/
theorem get?_set : (e.set name v).get? n = if n = name then some v else e.get? n :=
  Attributes.get?_set

/-- A value that is missing is put in, and one that is there stays. -/
theorem get?_setMissing :
    (e.setMissing name v).get? n = (e.get? n).or (if n = name then some v else none) := by
  unfold setMissing
  split
  · next hthere =>
    split
    · next hn =>
      -- a name already there keeps its value
      obtain ⟨old, hold⟩ := Option.isSome_iff_exists.mp hthere
      rw [hn, hold]
      rfl
    · rw [Option.or_none]
  · next hmissing =>
    rw [get?_set]
    split
    · next hn => rw [hn, Option.not_isSome_iff_eq_none.mp hmissing, Option.none_or]
    · rw [Option.or_none]

/-- A field that is taken away is missing, and the others stay. -/
theorem get?_without : (e.without name).get? n = if n = name then none else e.get? n := by
  split
  · next h => exact Attributes.get?_filter_of_out fun _ => by simp [h]
  · next h => exact Attributes.get?_filter fun _ => by simpa using h

/-- Changing the values of an entry changes the value of each field. -/
theorem get?_mapValues {f : Value → Value} : (e.mapValues f).get? n = (e.get? n).map f :=
  Attributes.get?_map

end Entry

/-! ## The signature -/

variable {p : Package} {fields : Attributes} {n : Text}

/-- A signed entry names the service. -/
theorem get?_stampWith_service :
    Attributes.get? "service".toList (stampWith p fields) = some (.text service) := by
  unfold stampWith
  split
  · rw [Attributes.get?_set_of_ne (by decide), Attributes.get?_set_self]
  · rw [Attributes.get?_set_self]

/-- A signed entry names the version, if it is known. -/
theorem get?_stampWith_version {version : Text} (h : p.version = some version) :
    Attributes.get? "version".toList (stampWith p fields) = some (.text version) := by
  rw [stampWith, h, Attributes.get?_set_self]

/-- The signature touches two fields only. -/
theorem get?_stampWith (hservice : n ≠ "service".toList) (hversion : n ≠ "version".toList) :
    Attributes.get? n (stampWith p fields) = Attributes.get? n fields := by
  unfold stampWith
  split
  · rw [Attributes.get?_set_of_ne hversion, Attributes.get?_set_of_ne hservice]
  · rw [Attributes.get?_set_of_ne hservice]

/-- A version that is not known leaves what goes by its name as it is. -/
theorem get?_stampWith_of_none (h : p.version = none) (hservice : n ≠ "service".toList) :
    Attributes.get? n (stampWith p fields) = Attributes.get? n fields := by
  rw [stampWith, h, Attributes.get?_set_of_ne hservice]

end Log

end Stacktrace
