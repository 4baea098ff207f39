import Mathlib.Data.List.Nodup
import Stacktrace.Error.WriteBack

/-!
# Fields of a host, before and after writing

Mappings, attribute objects and raised errors take fields, each in its own way. This module says
once what a written field does to a host, so that later statements speak about fields only:

* `Value.SetsField` — what writing one field makes of a host of each kind;
* `Value.field?_setField?` — the field that was written reads back, and no other field changes;
* `Value.without` — what a host has besides some fields, entries with other keys included;
* `Value.without_setFields?`, `Value.field?_setFields?` — what several writes leave alone and what
  they leave behind;
* `Value.setFields?_of_field?` — writing what is there already changes nothing.
-/

namespace Stacktrace

open Text

namespace Attributes

variable {name key : Text} {new : Value} {as : Attributes}

/-- Looking up after writing: the written name has the new value, every other name its old one. -/
theorem get?_set : get? key (as.set name new) = if key = name then some new else get? key as := by
  split
  · next hkey => rw [hkey, get?_set_self]
  · next hkey => rw [get?_set_of_ne hkey]

/-- Writing what is there already changes nothing. -/
theorem set_eq_self (h : get? name as = some new) : set name new as = as := by
  -- by induction on the attributes, with a case split on whether this is the one that is written
  induction as with
  | nil => cases h
  | cons a as ih =>
    obtain ⟨k, old⟩ := a
    unfold get? at h
    unfold set
    split at h
    · next hk =>
      rw [if_pos hk, Option.some.inj h]
    · next hk => rw [if_neg hk, ih h]

/-- The attributes of other names stay, in their order. -/
theorem filter_set {p : Text × Value → Bool} (hp : ∀ old, p (name, old) = false) :
    (set name new as).filter p = as.filter p := by
  induction as with
  | nil => simp [set, hp]
  | cons a as ih =>
    obtain ⟨k, old⟩ := a
    unfold set
    split
    · next hk =>
      -- the entry written is one the filter leaves out, before and after
      subst hk
      rw [List.filter_cons_of_neg (by simp [hp]), List.filter_cons_of_neg (by simp [hp])]
    · rw [List.filter_cons, List.filter_cons, ih]

/-- Leaving attributes of other names out does not change what a name has. -/
theorem get?_filter {p : Text × Value → Bool} (hp : ∀ old, p (name, old) = true) :
    get? name (as.filter p) = get? name as := by
  induction as with
  | nil => rfl
  | cons a as ih =>
    obtain ⟨k, old⟩ := a
    by_cases hk : k = name
    · subst hk
      rw [List.filter_cons_of_pos (hp old), get?, get?, if_pos rfl, if_pos rfl]
    · -- an attribute of another name is passed over, whether it is kept or not
      rw [List.filter_cons]
      split
      · rw [get?, get?, if_neg hk, if_neg hk, ih]
      · rw [get?, if_neg hk, ih]

end Attributes

namespace Value

variable {name key : Text} {new v v' : Value} {es : List (Value × Value)}

/-! ## Entries of a mapping

Keys of a mapping may be of any kind. Only those that are texts can be fields. -/

/-- Looking up at an entry whose key is a text compares the texts. -/
theorem entry?_cons_text (k : Text) (old : Value) :
    entry? name ((.text k, old) :: es) = if k = name then some old else entry? name es := rfl

/-- Writing at an entry whose key is a text replaces the entry or goes on. -/
theorem setEntry_cons_text (k : Text) (old : Value) :
    setEntry name new ((.text k, old) :: es)
      = if k = name then (.text k, new) :: es else (.text k, old) :: setEntry name new es := rfl

/-- An entry with any other key is passed over in looking up. -/
theorem entry?_cons_of_ne {k : Value} (h : k ≠ .text name) (old : Value) :
    entry? name ((k, old) :: es) = entry? name es := by
  cases k with
  | text k => exact if_neg fun hk => h (congrArg Value.text hk)
  | _ => rfl

/-- An entry with any other key is passed over in writing. -/
theorem setEntry_cons_of_ne {k : Value} (h : k ≠ .text name) (old : Value) :
    setEntry name new ((k, old) :: es) = (k, old) :: setEntry name new es := by
  cases k with
  | text k => exact if_neg fun hk => h (congrArg Value.text hk)
  | _ => rfl

/-- Looking up after writing: the written key has the new value, every other key its old one. -/
theorem entry?_setEntry :
    entry? key (setEntry name new es) = if key = name then some new else entry? key es := by
  -- by induction on the entries; keys that are no texts are passed over on both sides
  induction es with
  | nil => simp [setEntry, entry?, eq_comm]
  | cons e es ih =>
    obtain ⟨k, old⟩ := e
    by_cases hk : k = .text name
    · subst hk
      rw [setEntry_cons_text, if_pos rfl, entry?_cons_text, entry?_cons_text]
      split <;> simp_all [eq_comm]
    · rw [setEntry_cons_of_ne hk]
      by_cases hkey : k = .text key
      · subst hkey
        rw [entry?_cons_text, entry?_cons_text, if_pos rfl, if_pos rfl, if_neg]
        exact fun he => hk (congrArg Value.text he)
      · rw [entry?_cons_of_ne hkey, entry?_cons_of_ne hkey, ih]

/-- Writing what is there already changes nothing. -/
theorem setEntry_eq_self (h : entry? name es = some new) : setEntry name new es = es := by
  induction es with
  | nil => cases h
  | cons e es ih =>
    obtain ⟨k, old⟩ := e
    by_cases hk : k = .text name
    · subst hk
      rw [entry?_cons_text, if_pos rfl] at h
      rw [setEntry_cons_text, if_pos rfl, Option.some.inj h]
    · rw [entry?_cons_of_ne hk] at h
      rw [setEntry_cons_of_ne hk, ih h]

/-- The entries with other keys stay, in their order. -/
theorem filter_setEntry {p : Value × Value → Bool} (hp : ∀ old, p (.text name, old) = false) :
    (setEntry name new es).filter p = es.filter p := by
  induction es with
  | nil => simp [setEntry, hp]
  | cons e es ih =>
    obtain ⟨k, old⟩ := e
    by_cases hk : k = .text name
    · subst hk
      rw [setEntry_cons_text, if_pos rfl, List.filter_cons_of_neg (by simp [hp]),
        List.filter_cons_of_neg (by simp [hp])]
    · rw [setEntry_cons_of_ne hk, List.filter_cons, List.filter_cons, ih]

/-- Leaving entries with other keys out does not change what a key has. -/
theorem entry?_filter {p : Value × Value → Bool} (hp : ∀ old, p (.text name, old) = true) :
    entry? name (es.filter p) = entry? name es := by
  induction es with
  | nil => rfl
  | cons e es ih =>
    obtain ⟨k, old⟩ := e
    by_cases hk : k = .text name
    · subst hk
      rw [List.filter_cons_of_pos (hp old), entry?_cons_text, entry?_cons_text, if_pos rfl,
        if_pos rfl]
    · rw [List.filter_cons, entry?_cons_of_ne hk]
      split
      · rw [entry?_cons_of_ne hk, ih]
      · exact ih

/-! ## One field -/

/-- A host that takes fields: a mapping, an attribute object or a raised error. -/
inductive TakesFields : Value → Prop where
  | map (es : List (Value × Value)) : TakesFields (.map es)
  | object (as : Attributes) : TakesFields (.object as)
  | raised (kind : Text) (args : List Value) (as : Attributes) : TakesFields (.raised kind args as)

/-- A missing host takes no fields. -/
theorem TakesFields.ne_null (hv : v.TakesFields) : v ≠ .null := by
  rintro rfl
  cases hv

/-- What writing a field makes of a host. A raised error keeps its kind and its arguments. -/
inductive SetsField (name : Text) (new : Value) : Value → Value → Prop where
  | map (es : List (Value × Value)) : SetsField name new (.map es) (.map (setEntry name new es))
  | object (as : Attributes) : SetsField name new (.object as) (.object (as.set name new))
  | raised (kind : Text) (args : List Value) (as : Attributes) :
      SetsField name new (.raised kind args as) (.raised kind args (as.set name new))

/-- Writing a field is described by the kind of the host. -/
theorem setField?_eq_some_iff : v.setField? name new = some v' ↔ SetsField name new v v' := by
  constructor
  · intro h
    -- three shapes take a field; every other one refuses
    unfold setField? at h
    split at h
    · cases h
      exact .map _
    · cases h
      exact .object _
    · cases h
      exact .raised _ _ _
    · cases h
  · intro h
    cases h with
    | map es => rfl
    | object as => rfl
    | raised kind args as => rfl

/-- Writing succeeds exactly on the hosts that take fields. -/
theorem exists_setField?_iff : (∃ v', v.setField? name new = some v') ↔ v.TakesFields := by
  simp only [setField?_eq_some_iff]
  constructor
  · rintro ⟨v', h⟩
    cases h with
    | map es => exact .map es
    | object as => exact .object as
    | raised kind args as => exact .raised kind args as
  · intro h
    cases h with
    | map es => exact ⟨_, .map es⟩
    | object as => exact ⟨_, .object as⟩
    | raised kind args as => exact ⟨_, .raised kind args as⟩

/-- A host that was written into takes further fields. -/
theorem TakesFields.of_setField? (h : v.setField? name new = some v') : v'.TakesFields := by
  cases setField?_eq_some_iff.mp h with
  | map es => exact .map _
  | object as => exact .object _
  | raised kind args as => exact .raised _ _ _

/-- **A written field reads back**, and every other field reads as before. -/
theorem field?_setField? (h : v.setField? name new = some v') :
    v'.field? key = if key = name then some new else v.field? key := by
  cases setField?_eq_some_iff.mp h with
  | map es => exact entry?_setEntry
  | object as => exact Attributes.get?_set
  | raised kind args as => exact Attributes.get?_set

/-- Writing what is there already changes nothing. -/
theorem setField?_of_field? (hv : v.TakesFields) (h : v.field? name = some new) :
    v.setField? name new = some v := by
  cases hv with
  | map es => exact congrArg (some ∘ Value.map) (setEntry_eq_self h)
  | object as => exact congrArg (some ∘ Value.object) (Attributes.set_eq_self h)
  | raised kind args as =>
    exact congrArg (some ∘ Value.raised kind args) (Attributes.set_eq_self h)

/-! ## All other fields -/

/-- Whether a key is none of the names. -/
def isOther (names : List Text) : Value → Bool
  | .text k => !names.contains k
  | _ => true

/-- What a host has besides the fields of these names. -/
def without (names : List Text) : Value → Value
  | .map es => .map (es.filter fun e => isOther names e.1)
  | .object as => .object (as.filter fun a => !names.contains a.1)
  | .raised kind args as => .raised kind args (as.filter fun a => !names.contains a.1)
  | v => v

variable {names : List Text}

/-- Writing a field leaves everything alone but the field. -/
theorem without_setField? (hname : name ∈ names) (h : v.setField? name new = some v') :
    v'.without names = v.without names := by
  -- objects and raised errors keep their fields in the same kind of list
  have hattributes (as : Attributes) : (as.set name new).filter (fun a => !names.contains a.1)
      = as.filter fun a => !names.contains a.1 := Attributes.filter_set fun _ => by simp [hname]
  cases setField?_eq_some_iff.mp h with
  | map es => exact congrArg Value.map (filter_setEntry fun _ => by simp [isOther, hname])
  | object as => exact congrArg Value.object (hattributes as)
  | raised kind args as => exact congrArg (Value.raised kind args) (hattributes as)

/-- What is left out does not matter for the other fields. -/
theorem field?_without (hkey : key ∉ names) : (v.without names).field? key = v.field? key := by
  have hattributes (as : Attributes) : Attributes.get? key (as.filter fun a => !names.contains a.1)
      = Attributes.get? key as := Attributes.get?_filter fun _ => by simp [hkey]
  cases v with
  | map es => exact entry?_filter fun _ => by simp [isOther, hkey]
  | object as => exact hattributes as
  | raised kind args as => exact hattributes as
  | _ => rfl

/-- Hosts that agree besides some names have the same fields of other names. -/
theorem field?_of_without (h : v'.without names = v.without names) (hkey : key ∉ names) :
    v'.field? key = v.field? key := by
  rw [← field?_without hkey, h, field?_without hkey]

/-! ## Several fields -/

variable {fields : List (Text × Value)}

/-- Several fields are written one after the other. -/
theorem setFields?_cons_eq_some_iff :
    v.setFields? ((name, new) :: fields) = some v' ↔
      ∃ w, v.setField? name new = some w ∧ w.setFields? fields = some v' :=
  Option.bind_eq_some_iff

/-- A host that takes fields takes any number of them. -/
theorem exists_setFields? (hv : v.TakesFields) (fields : List (Text × Value)) :
    ∃ v', v.setFields? fields = some v' := by
  -- the host changes with every field that is written
  induction fields generalizing v with
  | nil => exact ⟨v, rfl⟩
  | cons field fields ih =>
    obtain ⟨w, hw⟩ := exists_setField?_iff.mpr hv
    obtain ⟨v', hv'⟩ := ih (TakesFields.of_setField? hw)
    exact ⟨v', setFields?_cons_eq_some_iff.mpr ⟨w, hw, hv'⟩⟩

/-- A host into which several fields were written takes further ones. -/
theorem TakesFields.of_setFields? (hv : v.TakesFields) (h : v.setFields? fields = some v') :
    v'.TakesFields := by
  induction fields generalizing v with
  | nil =>
    cases h
    exact hv
  | cons field fields ih =>
    obtain ⟨w, hw, h⟩ := setFields?_cons_eq_some_iff.mp h
    exact ih (.of_setField? hw) h

/-- A host that takes no fields refuses the first. -/
theorem setFields?_eq_none (hv : ¬ v.TakesFields) (hne : fields ≠ []) :
    v.setFields? fields = none := by
  obtain ⟨⟨name, new⟩, rest, rfl⟩ := List.exists_cons_of_ne_nil hne
  rw [Option.eq_none_iff_forall_ne_some]
  intro v' h
  obtain ⟨w, hw, -⟩ := setFields?_cons_eq_some_iff.mp h
  exact hv (exists_setField?_iff.mp ⟨w, hw⟩)

/-- **Fields that are not written stay**, and so does everything else about the host. -/
theorem without_setFields? (hnames : ∀ f ∈ fields, f.1 ∈ names)
    (h : v.setFields? fields = some v') : v'.without names = v.without names := by
  induction fields generalizing v with
  | nil =>
    cases h
    rfl
  | cons field fields ih =>
    obtain ⟨w, hw, h⟩ := setFields?_cons_eq_some_iff.mp h
    rw [ih (fun f hf => hnames f (List.mem_cons_of_mem _ hf)) h,
      without_setField? (hnames field List.mem_cons_self) hw]

/-- A field that is not among those written is as before. -/
theorem field?_setFields?_of_notMem (hkey : key ∉ fields.map Prod.fst)
    (h : v.setFields? fields = some v') : v'.field? key = v.field? key :=
  field?_of_without (without_setFields? (fun _ => List.mem_map_of_mem) h) hkey

/-- **Every written field reads back**, if no name is written twice. -/
theorem field?_setFields? (hnodup : (fields.map Prod.fst).Nodup)
    (h : v.setFields? fields = some v') : ∀ f ∈ fields, v'.field? f.1 = some f.2 := by
  induction fields generalizing v with
  | nil => simp
  | cons field fields ih =>
    obtain ⟨hfirst, hnodup⟩ := List.nodup_cons.mp hnodup
    obtain ⟨w, hw, hrest⟩ := setFields?_cons_eq_some_iff.mp h
    intro f hf
    rcases List.mem_cons.mp hf with rfl | hf
    · -- no later write touches the first field, since its name comes once
      rw [field?_setFields?_of_notMem hfirst hrest, field?_setField? hw, if_pos rfl]
    · exact ih hnodup hrest f hf

/-- Writing what is there already changes nothing. -/
theorem setFields?_of_field? (hv : v.TakesFields) (h : ∀ f ∈ fields, v.field? f.1 = some f.2) :
    v.setFields? fields = some v := by
  -- every write returns the host it was given, so the next one starts from there
  induction fields with
  | nil => rfl
  | cons field fields ih =>
    refine setFields?_cons_eq_some_iff.mpr
      ⟨v, setField?_of_field? hv (h field List.mem_cons_self), ih fun f hf => ?_⟩
    exact h f (List.mem_cons_of_mem _ hf)

end Value

end Stacktrace
