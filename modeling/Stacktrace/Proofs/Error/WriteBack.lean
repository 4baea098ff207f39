import Stacktrace.Proofs.Error.Fields
import Stacktrace.Proofs.Error.Reading

/-!
# Writing back and reading again

A record is read off a host, changed and written back. Reader and writer choose the spelling of a
field apart from each other, and the reader filters what it finds; that they agree is what lets a
host be processed twice.

* `Value.Written.spelledField?` — a field is read where it was written, under either spelling;
* `ErrorRecord.Restorable` — records that the reader takes over whole, among them all that were read
  off a host (`ErrorRecord.ReadOff.restorable`);
* `ErrorRecord.WrittenInto` — what writing a record leaves behind in a host, and what it leaves
  alone;
* `ErrorRecord.WrittenInto.readOff` — after writing, the host reads as it did, with the record's
  fields over its own;
* `ErrorRecord.readBack_of_applyTo` — both for writing back as a whole.
-/

namespace Stacktrace

open Text

/-- Both spellings of a field. -/
def FieldName.spellings (name : FieldName) : List Text :=
  [name.snake, name.camel]

namespace Value

variable {v v' : Value} {name : FieldName} {names : List Text}

/-! ## Reading is about fields -/

/-- Leaving fields out does not change what kind a host is. -/
theorem isRaised_without : (v.without names).IsRaised ↔ v.IsRaised := by
  cases v with
  | raised kind args as => exact iff_of_true (.intro _ _ _) (.intro _ _ _)
  | _ => exact iff_of_false (by rintro ⟨⟩) (by rintro ⟨⟩)

/-- The error's name does not depend on fields of other names. -/
theorem errorName_without (h : "name".toList ∉ names) :
    (v.without names).errorName = v.errorName := by
  by_cases hv : v.IsRaised
  · obtain ⟨kind, args, as⟩ := hv
    rfl
  · rw [errorName_eq (mt isRaised_without.mp hv), errorName_eq hv, field?_without h]

/-- The error's message does not depend on fields of other names. -/
theorem errorMessage_without (h : "message".toList ∉ names) :
    (v.without names).errorMessage = v.errorMessage := by
  by_cases hv : v.IsRaised
  · obtain ⟨kind, args, as⟩ := hv
    rfl
  · rw [errorMessage_eq (mt isRaised_without.mp hv), errorMessage_eq hv, field?_without h]

/-! ## The spelling of a field -/

/-- A host has the fields that can be looked up in it. -/
theorem hasField_eq_true {key : Text} {w : Value} (h : v.field? key = some w) :
    v.hasField key = true := by
  rw [hasField, h]
  rfl

/-- Hosts that agree on a field agree on whether they have it. -/
theorem hasField_congr {key : Text} (h : v'.field? key = v.field? key) :
    v'.hasField key = v.hasField key := by
  rw [hasField, h, hasField]

/-- Camel case is chosen exactly if the field is there in camel case and not in snake case. -/
theorem spelling_eq_camel_iff (hne : name.snake ≠ name.camel) :
    v.spelling name = name.camel ↔
      v.hasField name.camel = true ∧ v.hasField name.snake = false := by
  unfold spelling
  cases v.hasField name.camel <;> cases v.hasField name.snake <;> simp [hne]

/-- A host spells a field in camel case because it has the field there and nowhere else. -/
theorem spelling_cases (v : Value) (name : FieldName) :
    (v.spelling name = name.camel ∧ v.hasField name.camel = true ∧ v.hasField name.snake = false) ∨
      v.spelling name = name.snake := by
  unfold spelling
  split
  · next h => exact .inl ⟨rfl, by simpa using h⟩
  · exact .inr rfl

/-- The host's spelling is one of the two. -/
theorem spelling_mem (v : Value) (name : FieldName) : v.spelling name ∈ name.spellings := by
  rcases v.spelling_cases name with ⟨h, -⟩ | h <;> simp [h, FieldName.spellings]

/-- What writing makes of a field that may be spelt in two ways: if there is something to write, it
stands under the host's spelling, and no other spelling of the field is touched. -/
structure Written (v v' : Value) (name : FieldName) (new : Option Value) : Prop where
  field : ∀ w, new = some w → v'.field? (v.spelling name) = some w
  others : ∀ key ∈ name.spellings, new = none ∨ key ≠ v.spelling name →
    v'.field? key = v.field? key

namespace Written

variable {new : Option Value} (h : Written v v' name new)

include h

/-- The host keeps its spelling. -/
theorem spelling : v'.spelling name = v.spelling name := by
  -- with nothing written, both spellings are as before; otherwise all but the one written
  have hsame (key : Text) (hkey : key ∈ name.spellings) (hne : new = none ∨ key ≠ v.spelling name) :
      v'.hasField key = v.hasField key := hasField_congr (h.others key hkey hne)
  cases hnew : new with
  | none =>
    unfold Value.spelling
    rw [hsame name.camel (by simp [FieldName.spellings]) (.inl hnew),
      hsame name.snake (by simp [FieldName.spellings]) (.inl hnew)]
  | some w =>
    have hhas := hasField_eq_true (h.field w hnew)
    rcases v.spelling_cases name with ⟨hcamel, -, hlacks⟩ | hsnake
    · rw [hcamel] at hhas
      by_cases hne : name.snake = name.camel
      · rw [hcamel, Value.spelling, hne, ite_self]
      · -- there was no field in snake case, and none was added
        have hlacks' := hsame name.snake (by simp [FieldName.spellings]) (.inr (hcamel ▸ hne))
        rw [hcamel, spelling_eq_camel_iff hne]
        exact ⟨hhas, hlacks'.trans hlacks⟩
    · rw [hsnake] at hhas
      rw [hsnake, Value.spelling, if_neg (by simp [hhas])]

/-- **A field is read where it was written**, and as before if nothing was written. -/
theorem spelledField? : v'.spelledField? name = new.or (v.spelledField? name) := by
  cases hnew : new with
  | none =>
    have hsnake := h.others name.snake (by simp [FieldName.spellings]) (.inl hnew)
    have hcamel := h.others name.camel (by simp [FieldName.spellings]) (.inl hnew)
    rw [Value.spelledField?, Value.spelledField?, hasField_congr hsnake, hsnake, hcamel,
      Option.none_or]
  | some w =>
    have hfield := h.field w hnew
    rw [← h.spelling] at hfield
    rw [Option.some_or, Value.spelledField?]
    -- the reader looks in the place that the writer chose, because writing did not move it
    rcases v'.spelling_cases name with ⟨hcamel, -, hlacks⟩ | hsnake
    · rw [if_neg (by simp [hlacks]), ← hcamel]
      exact hfield
    · rw [hsnake] at hfield
      rw [if_pos (hasField_eq_true hfield), hfield]

end Written

end Value

namespace ErrorRecord

variable {r before : ErrorRecord} {v v' : Value}

/-! ## Records that come back -/

/-- A record that a reader takes over whole: what it has of the two filtered fields passes the
filters. -/
structure Restorable (r : ErrorRecord) : Prop where
  parsedStack : r.parsedStack ≠ some []
  codeFrame : ∀ c, r.codeFrame = some c → c.isCodeFrame = true

/-- Every record that was read off a host comes back. -/
theorem ReadOff.restorable (h : ReadOff v r) : r.Restorable where
  parsedStack := by
    have hreads := Value.errorParsedStack_eq_ok_iff.mp h.parsedStack
    -- an empty sequence counts as none, so it is not among what was read
    generalize v.spelledField? .parsedStack = found, r.parsedStack = parsed at hreads
    cases hreads with
    | absent | blank => simp
    | elements htruthy hitems =>
      have hne := Value.ne_nil_of_elements? htruthy hitems
      simpa using hne
  codeFrame := by
    intro c hc
    rw [h.codeFrame, Value.errorCodeFrame] at hc
    exact (Option.filter_eq_some_iff.mp hc).2

/-! ## What is written where -/

/-- The names under which a record's fields go into a host. -/
def writtenNames (r : ErrorRecord) (v : Value) : List Text :=
  stackField :: ((r.parsedStack.map fun _ => v.spelling .parsedStack).toList ++
    (r.codeFrame.map fun _ => v.spelling .codeFrame).toList)

/-- The fields that are written are those of the record, under the host's spelling. -/
theorem map_fst_updates (r : ErrorRecord) (v : Value) :
    (r.updates v).map Prod.fst = r.writtenNames v := by
  unfold updates writtenNames
  cases r.parsedStack <;> cases r.codeFrame <;> rfl

/-- No name stands for two fields. -/
theorem names_apart :
    ∀ p ∈ FieldName.parsedStack.spellings, ∀ c ∈ FieldName.codeFrame.spellings,
      stackField ≠ p ∧ stackField ≠ c ∧ p ≠ c := by
  decide

/-- No name is written twice. -/
theorem nodup_writtenNames (r : ErrorRecord) (v : Value) : (r.writtenNames v).Nodup := by
  have hne := names_apart _ (v.spelling_mem .parsedStack) _ (v.spelling_mem .codeFrame)
  unfold writtenNames
  cases r.parsedStack <;> cases r.codeFrame <;> simp [hne]

/-- What is written: the stack always, the other two fields where the record has them. -/
theorem mem_writtenNames_iff {key : Text} :
    key ∈ r.writtenNames v ↔ key = stackField ∨
      (r.parsedStack ≠ none ∧ key = v.spelling .parsedStack) ∨
      (r.codeFrame ≠ none ∧ key = v.spelling .codeFrame) := by
  unfold writtenNames
  cases r.parsedStack <;> cases r.codeFrame <;> simp

/-- A name that spells none of the three fields is not written. -/
theorem notMem_writtenNames {key : Text} (hstack : key ≠ stackField)
    (hparsed : key ∉ FieldName.parsedStack.spellings)
    (hcode : key ∉ FieldName.codeFrame.spellings) : key ∉ r.writtenNames v := by
  intro hwritten
  rcases mem_writtenNames_iff.mp hwritten with rfl | ⟨-, rfl⟩ | ⟨-, rfl⟩
  · exact hstack rfl
  · exact hparsed (v.spelling_mem .parsedStack)
  · exact hcode (v.spelling_mem .codeFrame)

/-- What writing a record into a host leaves behind: the record's fields under the host's spelling,
and everything else as it was. -/
structure WrittenInto (r : ErrorRecord) (v v' : Value) : Prop where
  stack : v'.field? stackField = some (Event.optionalText r.stack)
  parsedStack : ∀ items, r.parsedStack = some items →
    v'.field? (v.spelling .parsedStack) = some (.tuple items)
  codeFrame : ∀ c, r.codeFrame = some c → v'.field? (v.spelling .codeFrame) = some c
  others : v'.without (r.writtenNames v) = v.without (r.writtenNames v)

/-- Writing a record's fields leaves them behind, and all other fields as they were. -/
theorem writtenInto_of_setFields? (h : v.setFields? (r.updates v) = some v') :
    WrittenInto r v v' := by
  have hnodup : ((r.updates v).map Prod.fst).Nodup :=
    map_fst_updates r v ▸ nodup_writtenNames r v
  have hfields := Value.field?_setFields? hnodup h
  -- each field is found among those written; the rest of the host is untouched
  refine ⟨?_, fun items hitems => ?_, fun c hc => ?_, ?_⟩
  · have hstack := hfields (stackField, Event.optionalText r.stack)
    refine hstack (List.mem_append_left _ (List.mem_append_left _ ?_))
    cases r.stack <;> exact List.mem_singleton_self _
  · refine hfields (_, .tuple items) (List.mem_append_left _ (List.mem_append_right _ ?_))
    rw [hitems]
    exact List.mem_singleton_self _
  · refine hfields (_, c) (List.mem_append_right _ ?_)
    rw [hc]
    exact List.mem_singleton_self _
  · refine Value.without_setFields? (fun f hf => ?_) h
    rw [← map_fst_updates]
    exact List.mem_map_of_mem hf

/-! ## Reading again -/

/-- A record as a host shows it after another record was written into that host. -/
def overlaid (before r : ErrorRecord) : ErrorRecord :=
  { before with
    stack := r.stack
    parsedStack := r.parsedStack.or before.parsedStack
    codeFrame := r.codeFrame.or before.codeFrame }

namespace WrittenInto

variable (h : WrittenInto r v v')

include h

/-- The parsed stack is written as one field in two spellings. -/
theorem writtenParsedStack : v.Written v' .parsedStack (r.parsedStack.map Value.tuple) where
  field w hw := by
    obtain ⟨items, hitems, rfl⟩ := Option.map_eq_some_iff.mp hw
    exact h.parsedStack items hitems
  others key hkey hne := by
    refine Value.field?_of_without h.others fun hwritten => ?_
    -- another spelling of it is neither the stack nor the code frame
    have hapart := names_apart key hkey _ (v.spelling_mem .codeFrame)
    rcases mem_writtenNames_iff.mp hwritten with hstack | ⟨hsome, hspelt⟩ | ⟨-, hspelt⟩
    · exact hapart.1 hstack.symm
    · rcases hne with hnone | hne
      · exact hsome (Option.map_eq_none_iff.mp hnone)
      · exact hne hspelt
    · exact hapart.2.2 hspelt

/-- The code frame is written as one field in two spellings. -/
theorem writtenCodeFrame : v.Written v' .codeFrame r.codeFrame where
  field := h.codeFrame
  others key hkey hne := by
    refine Value.field?_of_without h.others fun hwritten => ?_
    have hapart := names_apart _ (v.spelling_mem .parsedStack) key hkey
    -- a name kept from the frame's two spellings is none of the names written
    rcases mem_writtenNames_iff.mp hwritten with hstack | ⟨-, hspelt⟩ | ⟨hsome, hspelt⟩
    · exact hapart.2.1 hstack.symm
    · exact hapart.2.2 hspelt.symm
    · rcases hne with hnone | hne
      · exact hsome hnone
      · exact hne hspelt

/-- **The host reads as it did**, with the record's fields over its own. -/
theorem readOff (hr : r.Restorable) (hread : ReadOff v before) :
    ReadOff v' (before.overlaid r) where
  name := by
    have hother : "name".toList ∉ r.writtenNames v :=
      notMem_writtenNames (by decide) (by decide) (by decide)
    have hname : v'.errorName = v.errorName := by
      rw [← Value.errorName_without hother, h.others, Value.errorName_without hother]
    exact hread.name.trans hname.symm
  message := by
    have hother : "message".toList ∉ r.writtenNames v :=
      notMem_writtenNames (by decide) (by decide) (by decide)
    rw [← Value.errorMessage_without hother, h.others, Value.errorMessage_without hother]
    exact hread.message
  stack := by
    rw [Value.errorStack, h.stack, overlaid]
    cases r.stack <;> rfl
  parsedStack := by
    have hbefore := Value.errorParsedStack_eq_ok_iff.mp hread.parsedStack
    rw [Value.errorParsedStack_eq_ok_iff, h.writtenParsedStack.spelledField?, overlaid]
    cases hparsed : r.parsedStack with
    | none => exact hbefore
    | some items =>
      have hne : items ≠ [] := fun hnil => hr.parsedStack (hparsed.trans (congrArg some hnil))
      -- what was written is not empty, so the reader does not take it for a missing field
      exact .elements (by simp [Value.isTruthy, hne]) rfl
  codeFrame := by
    rw [Value.errorCodeFrame, h.writtenCodeFrame.spelledField?, overlaid]
    cases hcode : r.codeFrame with
    | none => exact hread.codeFrame
    | some c =>
      have hframe := hr.codeFrame c hcode
      simp [Option.filter, hframe]

end WrittenInto

/-! ## Writing back -/

/-- There is always something to write: the stack. -/
theorem updates_ne_nil (r : ErrorRecord) (v : Value) : r.updates v ≠ [] := by
  simp [updates]

/-- A host that takes fields is written into. -/
theorem exists_applyTo (r : ErrorRecord) (hv : v.TakesFields) :
    ∃ v', v.setFields? (r.updates v) = some v' ∧
      (r.applyTo (.value v)).outcome = .ok (.value v') := by
  obtain ⟨v', hv'⟩ := Value.exists_setFields? hv (r.updates v)
  refine ⟨v', hv', ?_⟩
  rw [applyTo, hv']
  · rfl
  · exact hv.ne_null

/-- A host that refuses fields is returned as it is. -/
theorem applyTo_of_refuses (r : ErrorRecord) (hv : ¬ v.TakesFields) :
    (r.applyTo (.value v)).outcome = .ok (.value v) := by
  -- there is always a stack to write, and the host refuses the first field
  have hnone := Value.setFields?_eq_none hv (updates_ne_nil r v)
  unfold applyTo
  split
  · next hhost => cases hhost
  · next hhost =>
    cases hhost
    rfl
  · next w _ hhost =>
    cases hhost
    rw [hnone]
    rfl

/-- **What is written back is read again.** A record that was written into a host that takes fields
is what the host then reads as, over what it read as before, and nothing else in the host changes.
The camel-case spelling is used exactly where the host has no other. A host that refuses fields is
returned as it is. -/
theorem readBack_of_applyTo :
    (∀ (r before : ErrorRecord) (v : Value), r.Restorable → v.TakesFields →
      ofHost (.value v) = .ok before →
      ∃ v', (r.applyTo (.value v)).outcome = .ok (.value v') ∧
        ofHost (.value v') = .ok (before.overlaid r) ∧ WrittenInto r v v') ∧
    (∀ (v : Value), ∀ name ∈ [FieldName.parsedStack, FieldName.codeFrame],
      (v.spelling name = name.camel ↔
        v.hasField name.camel = true ∧ v.hasField name.snake = false) ∧
      (v.spelling name ≠ name.camel → v.spelling name = name.snake)) ∧
    ∀ (r : ErrorRecord) (v : Value), ¬ v.TakesFields →
      (r.applyTo (.value v)).outcome = .ok (.value v) := by
  refine ⟨?_, ?_, fun r v hv => r.applyTo_of_refuses hv⟩
  · intro r before v hr hv hread
    obtain ⟨v', hset, houtcome⟩ := r.exists_applyTo hv
    have hwritten := writtenInto_of_setFields? hset
    have hbefore : ReadOff v before := (ofValue_eq_ok_iff hv.ne_null).mp hread
    -- what is read after the writing is the old record with the written fields laid over it
    have hafter := hwritten.readOff hr hbefore
    have hne : v' ≠ .null := (hv.of_setFields? hset).ne_null
    exact ⟨v', houtcome, (ofValue_eq_ok_iff hne).mpr hafter, hwritten⟩
  · intro v name hname
    have hspelt : ∀ name ∈ [FieldName.parsedStack, FieldName.codeFrame],
        name.snake ≠ name.camel := by decide
    refine ⟨Value.spelling_eq_camel_iff (hspelt name hname), fun hne => ?_⟩
    rcases v.spelling_cases name with ⟨hcamel, -⟩ | hsnake
    · exact absurd hcamel hne
    · exact hsnake

/-- A host that spells one field in camel case, with a key that is no text. -/
def camelHost : Value :=
  .map [(.text "message".toList, .text "boom".toList), (.int 1, .text "one".toList),
    (.text "parsedStack".toList, .null)]

/-- A record with something for every field of the host. -/
def mappedRecord : ErrorRecord where
  message := "other".toList
  stack := some "Error: boom".toList
  parsedStack := some [.line (.message ⟨"Error: boom".toList, []⟩)]
  codeFrame := some (.map [(.text "frame".toList, .text "1 | boom".toList)])

/-- A host that spells one field in camel case gets it back under that spelling only. -/
theorem readBack_of_applyTo_camelHost :
    ∃ v', (mappedRecord.applyTo (.value camelHost)).outcome = .ok (.value v') ∧
      ofHost (.value v') = .ok { mappedRecord with message := "boom".toList } ∧
      v'.field? "parsedStack".toList = some (.tuple [.line (.message ⟨"Error: boom".toList, []⟩)]) ∧
      v'.field? "parsed_stack".toList = none := by
  obtain ⟨hwrite, -, -⟩ := readBack_of_applyTo
  have hrestorable : mappedRecord.Restorable := ⟨by rintro ⟨⟩, by rintro c ⟨⟩; rfl⟩
  have hread : ofHost (.value camelHost) = .ok { message := "boom".toList } := rfl
  obtain ⟨v', houtcome, hread', hwritten⟩ :=
    hwrite mappedRecord _ camelHost hrestorable (.map _) hread
  have hspelling : camelHost.spelling .parsedStack = "parsedStack".toList := by decide
  have hparsed := hwritten.parsedStack _ rfl
  rw [hspelling] at hparsed
  -- the twin spelling is not among the names written, so it stays absent
  have htwin : v'.field? "parsed_stack".toList = camelHost.field? "parsed_stack".toList :=
    Value.field?_of_without hwritten.others (by decide)
  exact ⟨v', houtcome, hread', hparsed, htwin⟩

end ErrorRecord

end Stacktrace
