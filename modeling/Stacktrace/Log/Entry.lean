import Stacktrace.Settings.Basic

/-!
# Log entries

A log call hands over an event and values with names. On its way to the log it is an `Entry`: a
mapping from names to values in which no name is there twice, so that a name has one value or none.
Entries can only be built and changed by operations that keep this.

What an entry becomes in the end is a `LogOutput`: nothing, an object, or a line of text.
-/

namespace Stacktrace

/-! ## Attributes with names of their own -/

namespace Attributes

variable {name n : Text} {v value : Value} {as : Attributes} {f : Value → Value}
  {p : Text × Value → Bool}

/-- No name is there twice. -/
def NamedOnce (as : Attributes) : Prop :=
  (as.map Prod.fst).Nodup

/-- Only the name that is written can be new. -/
theorem mem_names_set : n ∈ (as.set name value).map Prod.fst ↔ n = name ∨ n ∈ as.map Prod.fst := by
  induction as with
  | nil => simp [set]
  | cons a as ih =>
    unfold set
    split
    · next hk => simp [hk]
    · simp only [List.map_cons, List.mem_cons, ih]
      exact or_left_comm

theorem NamedOnce.set (h : as.NamedOnce) : (as.set name value).NamedOnce := by
  induction as with
  | nil => exact List.nodup_cons.mpr ⟨List.not_mem_nil, List.nodup_nil⟩
  | cons a as ih =>
    obtain ⟨hfirst, hrest⟩ := List.nodup_cons.mp h
    unfold Attributes.set
    split
    · exact h
    · next hk =>
      refine List.nodup_cons.mpr ⟨fun hmem => ?_, ih hrest⟩
      exact (mem_names_set.mp hmem).elim hk hfirst

theorem NamedOnce.filter (h : as.NamedOnce) : NamedOnce (as.filter p) :=
  List.Nodup.sublist (List.filter_sublist.map Prod.fst) h

theorem NamedOnce.map (h : as.NamedOnce) : NamedOnce (as.map fun a => (a.1, f a.2)) := by
  unfold NamedOnce
  rw [List.map_map]
  exact h

/-- A field that is read is there. -/
theorem mem_of_get? (h : get? name as = some v) : (name, v) ∈ as := by
  induction as with
  | nil => cases h
  | cons a as ih =>
    obtain ⟨k, old⟩ := a
    unfold get? at h
    split at h
    · next hk =>
      cases h
      exact hk ▸ List.mem_cons_self
    · exact List.mem_cons_of_mem _ (ih h)

/-- Where no name is there twice, what is there is what is read. -/
theorem NamedOnce.get?_eq_some_iff (h : as.NamedOnce) : get? name as = some v ↔ (name, v) ∈ as := by
  refine ⟨mem_of_get?, fun hmem => ?_⟩
  induction as with
  | nil => cases hmem
  | cons a as ih =>
    obtain ⟨hfirst, hrest⟩ := List.nodup_cons.mp h
    unfold get?
    rcases List.mem_cons.mp hmem with rfl | hmem
    · exact if_pos rfl
    · have hne : a.1 ≠ name := fun hk => hfirst (hk ▸ List.mem_map_of_mem (f := Prod.fst) hmem)
      rw [if_neg hne, ih hrest hmem]

end Attributes

/-! ## Calls, entries and outputs -/

/-- What becomes of a log call: nothing, an object in JSON, or a line of text. -/
inductive LogOutput where
  | nothing
  | entry (fields : Attributes)
  | line (text : Text)

namespace Log

/-- The name that a logger has if none is asked for. -/
def rootLogger : Text := "root".toList

structure Call where
  level : Level
  logger : Text
  event : Text
  arguments : List Value
  values : Attributes

/-- Names that a call has for itself. No value of a call can go by one of them. -/
def ownNames : List Text :=
  ["self".toList, "method_name".toList, "event".toList]

/-- A call on its way to the log. -/
structure Entry where
  fields : Attributes
  once : fields.NamedOnce

namespace Entry

def empty : Entry := ⟨[], List.nodup_nil⟩

def get? (name : Text) (e : Entry) : Option Value :=
  Attributes.get? name e.fields

def set (name : Text) (v : Value) (e : Entry) : Entry :=
  ⟨e.fields.set name v, e.once.set⟩

/-- Writes a value unless the name has one. -/
def setMissing (name : Text) (v : Value) (e : Entry) : Entry :=
  if (e.get? name).isSome then e else e.set name v

/-- Writes values one after the other, so that the last one for a name stays. -/
def setAll (values : Attributes) (e : Entry) : Entry :=
  values.foldl (fun e a => e.set a.1 a.2) e

def without (name : Text) (e : Entry) : Entry :=
  ⟨e.fields.filter fun a => a.1 != name, e.once.filter⟩

def mapValues (f : Value → Value) (e : Entry) : Entry :=
  ⟨e.fields.map fun a => (a.1, f a.2), e.once.map⟩

/-- What is there is what is read, since no name is there twice. -/
theorem get?_eq_some_iff {e : Entry} {name : Text} {v : Value} :
    e.get? name = some v ↔ (name, v) ∈ e.fields :=
  e.once.get?_eq_some_iff

end Entry

end Log

end Stacktrace
