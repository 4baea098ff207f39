import Stacktrace.Proofs.Error.Reading

/-!
# Hosts of every shape

The same fields may reach the library in a mapping, in a mapping that refuses changes, or as the
attributes of an object, and two of them under either of two names. None of that shows in the record:

* `Value.Agree` — two hosts answer alike for everything that is ever asked;
* `ErrorRecord.ofHost_congr` — hosts that agree are read alike, faults included;
* `Shape.spelledField?_host` — a host of any shape answers what its assignment says;
* `Attributes.spelled?_rename`, `Attributes.spelled?_of_has` — renaming a field to its other
  spelling keeps what is found, and a camel case spelling beside the other one is never looked at;
* `ErrorRecord.reads_every_shape` — so an assignment of fields is read in one way only.
-/

namespace Stacktrace

open Text

/-! ## What is asked of a host -/

/-- Two hosts answer alike for every field that is read, spelling apart. -/
structure Value.Agree (v w : Value) : Prop where
  name : v.field? "name".toList = w.field? "name".toList
  message : v.field? "message".toList = w.field? "message".toList
  stack : v.field? stackField = w.field? stackField
  parsedStack : v.spelledField? .parsedStack = w.spelledField? .parsedStack
  codeFrame : v.spelledField? .codeFrame = w.spelledField? .codeFrame

/-- A host with fields: something is there, and it is no raised error. -/
structure Value.Described (v : Value) : Prop where
  ne_null : v ≠ .null
  not_raised : ¬ v.IsRaised

namespace ErrorRecord

variable {v w : Value}

/-- **Nothing but its fields is asked of a host.** -/
theorem ofHost_congr (hv : v.Described) (hw : w.Described) (h : v.Agree w) :
    ofHost (.value v) = ofHost (.value w) := by
  have hname : v.errorName = w.errorName := by
    rw [Value.errorName_eq hv.not_raised, Value.errorName_eq hw.not_raised, h.name]
  have hmessage : v.errorMessage = w.errorMessage := by
    rw [Value.errorMessage_eq hv.not_raised, Value.errorMessage_eq hw.not_raised, h.message]
  have hstack : v.errorStack = w.errorStack := by
    rw [Value.errorStack, Value.errorStack, h.stack]
  have hparsed : v.errorParsedStack = w.errorParsedStack := by
    rw [Value.errorParsedStack, Value.errorParsedStack, h.parsedStack]
  have hcode : v.errorCodeFrame = w.errorCodeFrame := by
    rw [Value.errorCodeFrame, Value.errorCodeFrame, h.codeFrame]
  -- reading a host is putting together what it answers
  show ofValue v = ofValue w
  rw [ofValue_of_ne_null hv.ne_null, ofValue_of_ne_null hw.ne_null, hname, hmessage, hstack, hparsed,
    hcode]

end ErrorRecord

/-! ## Assignments of fields -/

namespace Attributes

variable {name old new other : Text} {field : FieldName} {as bs : Attributes}

/-- What an assignment says about a field with two spellings. -/
def spelled? (field : FieldName) (as : Attributes) : Option Value :=
  if as.has field.snake then as.get? field.snake else as.get? field.camel

/-- The assignment with a field under another name. -/
def rename (old new : Text) (as : Attributes) : Attributes :=
  as.map fun a => (if a.1 = old then new else a.1, a.2)

/-- Renaming goes through an assignment field by field. -/
theorem rename_cons (k : Text) (v : Value) :
    rename old new ((k, v) :: as) = (if k = old then new else k, v) :: rename old new as := rfl

/-- A name is free if it is neither that of the first field nor taken behind it. -/
theorem has_cons_eq_false {k : Text} {v : Value} :
    has name ((k, v) :: as) = false ↔ k ≠ name ∧ has name as = false := by
  unfold has
  rw [get?]
  split <;> simp_all

/-- The new name takes over the value of the old one, if nothing had the new name before. -/
theorem get?_rename (hne : old ≠ new) (h : as.has new = false) :
    get? name (rename old new as)
      = if name = new then get? old as else if name = old then none else get? name as := by
  induction as with
  | nil => simp [rename, get?]
  | cons a as ih =>
    obtain ⟨k, v⟩ := a
    obtain ⟨hk, hrest⟩ := has_cons_eq_false.mp h
    rw [rename_cons, get?, ih hrest, get?, get?]
    -- five cases of equal names, none of which says anything but what the table says
    grind

/-- **Either spelling will do**: a field whose other spelling is free may move there. -/
theorem spelled?_rename_camel (hne : field.snake ≠ field.camel) (h : as.has field.camel = false) :
    spelled? field (rename field.snake field.camel as) = spelled? field as := by
  have hnone : as.get? field.camel = none := by simpa [has] using h
  have hsnake : (rename field.snake field.camel as).get? field.snake = none := by
    rw [get?_rename hne h, if_neg hne, if_pos rfl]
  have hcamel : (rename field.snake field.camel as).get? field.camel = as.get? field.snake := by
    rw [get?_rename hne h, if_pos rfl]
  rw [spelled?, spelled?, has, has, hsnake, hcamel, hnone]
  cases as.get? field.snake <;> rfl

/-- The same for the move to the snake case spelling. -/
theorem spelled?_rename_snake (hne : field.snake ≠ field.camel) (h : as.has field.snake = false) :
    spelled? field (rename field.camel field.snake as) = spelled? field as := by
  have hnone : as.get? field.snake = none := by simpa [has] using h
  have hcamel : (rename field.camel field.snake as).get? field.camel = none := by
    rw [get?_rename hne.symm h, if_neg hne.symm, if_pos rfl]
  have hsnake : (rename field.camel field.snake as).get? field.snake = as.get? field.camel := by
    rw [get?_rename hne.symm h, if_pos rfl]
  rw [spelled?, spelled?, has, has, hsnake, hcamel, hnone]
  cases as.get? field.camel <;> rfl

/-- What does not change at the two spellings of a field does not change for the field. -/
theorem spelled?_congr (hsnake : bs.get? field.snake = as.get? field.snake)
    (hcamel : bs.get? field.camel = as.get? field.camel) : spelled? field bs = spelled? field as := by
  rw [spelled?, spelled?, has, has, hsnake, hcamel]

/-- **The snake case spelling wins**, whatever stands under the other one. -/
theorem spelled?_of_has (h : as.has field.snake = true)
    (hsnake : bs.get? field.snake = as.get? field.snake) : spelled? field bs = spelled? field as := by
  have h' : bs.has field.snake = true := by rwa [has, hsnake]
  rw [spelled?, spelled?, if_pos h, if_pos h', hsnake]

end Attributes

/-! ## Shapes -/

/-- The shapes in which a caller can hand over an assignment of fields. -/
inductive Shape where
  | mapping
  | frozenMapping
  | object
deriving DecidableEq, Repr

namespace Shape

variable {as bs : Attributes}

/-- The host of a shape that carries an assignment. -/
def host : Shape → Attributes → Value
  | mapping, as => .map (as.map fun a => (.text a.1, a.2))
  | frozenMapping, as => .frozenMap (as.map fun a => (.text a.1, a.2))
  | object, as => .object as

/-- A mapping whose keys are names answers what the assignment says. -/
theorem entry?_map_text (name : Text) (as : Attributes) :
    Value.entry? name (as.map fun a => (.text a.1, a.2)) = as.get? name := by
  induction as with
  | nil => rfl
  | cons a as ih =>
    show (if a.1 = name then some a.2 else Value.entry? name (as.map _)) = _
    rw [ih]
    rfl

/-- A host of any shape has the fields of its assignment. -/
theorem field?_host (s : Shape) (name : Text) : (s.host as).field? name = as.get? name := by
  cases s with
  | mapping | frozenMapping => exact entry?_map_text name as
  | object => rfl

/-- A field with two spellings is found in a host as it is in the assignment. -/
theorem spelledField?_host (s : Shape) (field : FieldName) :
    (s.host as).spelledField? field = as.spelled? field := by
  rw [Value.spelledField?, Value.hasField, field?_host, field?_host]
  rfl

/-- A host of any shape is something, and no raised error. -/
theorem described_host (s : Shape) : (s.host as).Described := by
  cases s <;> exact ⟨by rintro ⟨⟩, by rintro ⟨⟩⟩

end Shape

/-- The fields with two spellings. -/
def FieldName.all : List FieldName := [.parsedStack, .codeFrame]

/-- The fields with two spellings have two different ones. -/
theorem FieldName.snake_ne_camel {field : FieldName} (h : field ∈ all) :
    field.snake ≠ field.camel := by
  revert field
  decide

/-- Hosts of any shape agree if their assignments differ at most in the spellings of one field, and
say the same about it. -/
theorem Shape.agree_host {field : FieldName} (hfield : field ∈ FieldName.all) (s t : Shape)
    {as bs : Attributes}
    (hothers : ∀ name, name ≠ field.snake → name ≠ field.camel → bs.get? name = as.get? name)
    (h : bs.spelled? field = as.spelled? field) : (s.host bs).Agree (t.host as) := by
  have hplain : ∀ name, name ∉ [FieldName.parsedStack.snake, FieldName.parsedStack.camel,
      FieldName.codeFrame.snake, FieldName.codeFrame.camel] → bs.get? name = as.get? name := by
    intro name hname
    simp only [List.mem_cons, List.not_mem_nil, or_false, not_or] at hname
    rcases List.mem_pair.mp hfield with rfl | rfl
    · exact hothers name hname.1 hname.2.1
    · exact hothers name hname.2.2.1 hname.2.2.2
  -- the other field with two spellings keeps both of them
  have hspelled : ∀ other ∈ FieldName.all, bs.spelled? other = as.spelled? other := by
    intro other hother
    by_cases he : other = field
    · rw [he, h]
    · obtain ⟨hsnake, hcamel⟩ : (other.snake ≠ field.snake ∧ other.snake ≠ field.camel) ∧
          other.camel ≠ field.snake ∧ other.camel ≠ field.camel := by
        rcases List.mem_pair.mp hfield with rfl | rfl <;>
          rcases List.mem_pair.mp hother with rfl | rfl
        · exact absurd rfl he
        · decide
        · decide
        · exact absurd rfl he
      exact Attributes.spelled?_congr (hothers _ hsnake.1 hsnake.2) (hothers _ hcamel.1 hcamel.2)
  constructor
  · rw [field?_host, field?_host, hplain _ (by decide)]
  · rw [field?_host, field?_host, hplain _ (by decide)]
  · rw [field?_host, field?_host, hplain _ (by decide)]
  · rw [spelledField?_host, spelledField?_host, hspelled _ (by simp [FieldName.all])]
  · rw [spelledField?_host, spelledField?_host, hspelled _ (by simp [FieldName.all])]

/-! ## One reading -/

/-- The record that an assignment of fields describes. A field of the wrong kind is as good as
none. -/
structure Attributes.Describe (as : Attributes) (r : ErrorRecord) : Prop where
  name : r.name = match as.get? "name".toList with
    | some (.text name) => name
    | _ => "Error".toList
  message : (match as.get? "message".toList with
    | some m => m.written
    | none => .ok []) = .ok r.message
  stack : r.stack = match as.get? stackField with
    | some (.text s) => some s
    | _ => none
  parsedStack : Value.ReadsParsedStack (as.spelled? .parsedStack) r.parsedStack
  codeFrame : r.codeFrame = (as.spelled? .codeFrame).filter Value.isCodeFrame

namespace ErrorRecord

variable {as : Attributes} {r : ErrorRecord}

/-- A record is read off a host exactly if the assignment describes it. -/
theorem readOff_host_iff (s : Shape) : ReadOff (s.host as) r ↔ as.Describe r := by
  have hname : (s.host as).errorName = match as.get? "name".toList with
      | some (.text name) => name
      | _ => "Error".toList := by
    rewrite [Value.errorName_eq s.described_host.not_raised, s.field?_host]
    rfl
  have hmessage : (s.host as).errorMessage = match as.get? "message".toList with
      | some m => m.written
      | none => .ok [] := by
    rewrite [Value.errorMessage_eq s.described_host.not_raised, s.field?_host]
    rfl
  have hstack : (s.host as).errorStack = match as.get? stackField with
      | some (.text s) => some s
      | _ => none := by
    rewrite [Value.errorStack, s.field?_host]
    rfl
  have hparsed : (s.host as).errorParsedStack = .ok r.parsedStack ↔
      Value.ReadsParsedStack (as.spelled? .parsedStack) r.parsedStack := by
    rw [Value.errorParsedStack_eq_ok_iff, s.spelledField?_host]
  have hcode : (s.host as).errorCodeFrame = (as.spelled? .codeFrame).filter Value.isCodeFrame := by
    rw [Value.errorCodeFrame, s.spelledField?_host]
  -- each field of the host reads as the attributes say, so the two readings agree field by field
  constructor
  · rintro ⟨h₁, h₂, h₃, h₄, h₅⟩
    exact ⟨h₁.trans hname, hmessage.symm.trans h₂, h₃.trans hstack, hparsed.mp h₄, h₅.trans hcode⟩
  · rintro ⟨h₁, h₂, h₃, h₄, h₅⟩
    exact ⟨h₁.trans hname.symm, hmessage.trans h₂, h₃.trans hstack.symm, hparsed.mpr h₄,
      h₅.trans hcode.symm⟩

/-- **One reading of an assignment.** Whatever shape carries it, the record is the one that it
describes, and the fault, if there is one, is the same. A field with two spellings is read alike
under either of them, and where it has both, nothing under the camel case one makes a difference. -/
theorem reads_every_shape (s t : Shape) (as : Attributes) :
    (ofHost (.value (s.host as)) = ofHost (.value (t.host as)) ∧
      ∀ r, ofHost (.value (s.host as)) = .ok r ↔ as.Describe r) ∧
    ∀ field ∈ FieldName.all,
      (as.has field.camel = false →
        ofHost (.value (s.host (as.rename field.snake field.camel)))
          = ofHost (.value (t.host as))) ∧
      (as.has field.snake = false →
        ofHost (.value (s.host (as.rename field.camel field.snake)))
          = ofHost (.value (t.host as))) ∧
      (as.has field.snake = true → ∀ bs : Attributes,
        (∀ name, name ≠ field.camel → bs.get? name = as.get? name) →
          ofHost (.value (s.host bs)) = ofHost (.value (t.host as))) := by
  -- a record depends only on the spelled fields and on the rest of the attributes
  have hread : ∀ {field bs}, field ∈ FieldName.all →
      (∀ name, name ≠ field.snake → name ≠ field.camel → bs.get? name = as.get? name) →
      bs.spelled? field = as.spelled? field →
      ofHost (.value (s.host bs)) = ofHost (.value (t.host as)) := fun hfield hothers hspelled =>
    ofHost_congr s.described_host t.described_host (s.agree_host hfield t hothers hspelled)
  refine ⟨⟨@hread .parsedStack as (by simp [FieldName.all]) (fun _ _ _ => rfl) rfl, ?_⟩, ?_⟩
  · intro r
    rw [← readOff_host_iff s]
    exact ofValue_eq_ok_iff s.described_host.ne_null
  · intro field hfield
    have hne := FieldName.snake_ne_camel hfield
    refine ⟨fun hcamel => ?_, fun hsnake => ?_, fun hsnake bs hothers => ?_⟩
    · refine hread hfield (fun name h₁ h₂ => ?_) (Attributes.spelled?_rename_camel hne hcamel)
      rw [Attributes.get?_rename hne hcamel, if_neg h₂, if_neg h₁]
    · refine hread hfield (fun name h₁ h₂ => ?_) (Attributes.spelled?_rename_snake hne hsnake)
      rw [Attributes.get?_rename hne.symm hsnake, if_neg h₁, if_neg h₂]
    · exact hread hfield (fun name _ h₂ => hothers name h₂)
        (Attributes.spelled?_of_has hsnake (hothers _ hne))

/-- An error with the classified lines in camel case, and with two code frames of which the one that
counts is unusable. -/
def mixedSpellings : Attributes :=
  [("message".toList, .int 5), ("parsedStack".toList, .list [.null]), ("code_frame".toList, .null),
    ("codeFrame".toList, .map [(.text "line".toList, .int 1)])]

/-- A frozen mapping and a changed mapping are read like the object, and a single field in either
spelling like the other. -/
theorem reads_every_shape_mixedSpellings :
    ofHost (.value (.frozenMap [(.text "message".toList, .int 5),
        (.text "parsed_stack".toList, .list [.null]), (.text "code_frame".toList, .null),
        (.text "codeFrame".toList, .map [(.text "line".toList, .int 1)])]))
      = .ok { message := "5".toList, parsedStack := some [.null] } ∧
    ofHost (.value (.map [(.text "message".toList, .int 5),
        (.text "parsedStack".toList, .list [.null]), (.text "code_frame".toList, .null),
        (.text "codeFrame".toList, .bool true)]))
      = .ok { message := "5".toList, parsedStack := some [.null] } ∧
    ofHost (.value (.map [(.text "code_frame".toList, .int 5)]))
      = ofHost (.value (.object [("codeFrame".toList, .int 5)])) := by
  have hobject : ofHost (.value (.object mixedSpellings))
      = .ok { message := "5".toList, parsedStack := some [.null] } := rfl
  have hparsed := (reads_every_shape .frozenMapping .object mixedSpellings).2 .parsedStack
    (by simp [FieldName.all])
  have hcode := (reads_every_shape .mapping .object mixedSpellings).2 .codeFrame
    (by simp [FieldName.all])
  have honly := (reads_every_shape .object .mapping [("code_frame".toList, .int 5)]).2 .codeFrame
    (by simp [FieldName.all])
  refine ⟨(hparsed.2.1 rfl).trans hobject, ?_, (honly.1 rfl).symm⟩
  refine (hcode.2.2 rfl (Attributes.set "codeFrame".toList (.bool true) mixedSpellings) ?_).trans
    hobject
  exact fun name hname => Attributes.get?_set_of_ne hname _ _

end ErrorRecord

end Stacktrace
