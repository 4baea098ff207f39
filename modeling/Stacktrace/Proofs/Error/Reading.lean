import Stacktrace.Error.Record
import Stacktrace.Proofs.Value.Written

/-!
# What is read off a host

Hosts come from outside, with anything in any field. Most fields of the wrong kind fall back to a
default, but two can stop the reader:

* `Value.errorParsedStack_eq_ok_iff` — the classified lines are read unless the value found for them
  is *solid*, present but without elements (`Value.IsSolid`);
* `Value.exists_errorMessage_iff` — the message is read unless it shows an integer that is too long;
* `ErrorRecord.ofValue_eq_ok_iff` — a record is read off a host field by field;
* `ErrorRecord.exists_ofHost_iff` — so these two are the only obstacles, and every other field that
  does not fit falls back.
-/

namespace Stacktrace

open Text Numeral

namespace Value

variable {v p : Value} {items : List Value} {parsed : Option (List Value)}

/-! ## Raised errors

A raised error is named by its kind and speaks by its arguments. All other hosts have fields for
both. -/

inductive IsRaised : Value → Prop where
  | intro (kind : Text) (args : List Value) (as : Attributes) : IsRaised (.raised kind args as)

/-- All other hosts are named by a field. -/
theorem errorName_eq (h : ¬ v.IsRaised) :
    v.errorName = match v.field? "name".toList with
      | some (.text name) => name
      | _ => "Error".toList := by
  cases v with
  | raised kind args as => exact absurd (.intro kind args as) h
  | _ => rfl

/-- All other hosts speak by a field. -/
theorem errorMessage_eq (h : ¬ v.IsRaised) :
    v.errorMessage = match v.field? "message".toList with
      | some m => m.written
      | none => .ok [] := by
  cases v with
  | raised kind args as => exact absurd (.intro kind args as) h
  | _ => rfl

/-! ## The classified lines -/

/-- What is made of the value that was found for the classified lines. -/
inductive ReadsParsedStack : Option Value → Option (List Value) → Prop where
  | absent : ReadsParsedStack none none
  | blank {p : Value} (h : p.isTruthy = false) : ReadsParsedStack (some p) none
  | elements {p : Value} {items : List Value} (h : p.isTruthy = true)
      (hitems : p.elements? = some items) : ReadsParsedStack (some p) (some items)

/-- Reading the classified lines is described by what is found for them. -/
theorem errorParsedStack_eq_ok_iff :
    v.errorParsedStack = .ok parsed ↔ ReadsParsedStack (v.spelledField? .parsedStack) parsed := by
  unfold errorParsedStack
  cases v.spelledField? .parsedStack with
  | none =>
    constructor
    · intro h
      cases h
      exact .absent
    · intro h
      cases h
      rfl
  | some p =>
    dsimp only
    split
    · next htruthy =>
      -- a value that counts as present is a fault unless it has elements
      cases hitems : p.elements? with
      | none =>
        refine iff_of_false (by simp) fun h => ?_
        cases h with
        | blank hblank => simp [hblank] at htruthy
        | elements _ hsome => simp [hitems] at hsome
      | some items =>
        constructor
        · intro h
          cases h
          exact .elements htruthy hitems
        · intro h
          cases h with
          | blank hblank => simp [hblank] at htruthy
          | elements _ hsome => rw [Option.some.inj (hitems.symm.trans hsome)]
    · next hblank =>
      constructor
      · intro h
        cases h
        exact .blank (by simpa using hblank)
      · intro h
        cases h with
        | blank => rfl
        | elements htruthy => exact absurd htruthy hblank

/-- What counts as present has at least one element, if it has elements at all. -/
theorem ne_nil_of_elements? (h : p.isTruthy = true) (hitems : p.elements? = some items) :
    items ≠ [] := by
  rintro rfl
  cases p <;> simp_all [elements?, isTruthy]

/-- A value that counts as present but has no elements. -/
inductive IsSolid : Value → Prop where
  | true : IsSolid (.bool true)
  | int {i : Int} (h : i ≠ 0) : IsSolid (.int i)
  | float {x : Float} (h : (x == 0.0) = false) : IsSolid (.float x)
  | moment (m : Moment) : IsSolid (.moment m)
  | object (as : Attributes) : IsSolid (.object as)
  | sealed : IsSolid .sealed
  | raised (kind : Text) (args : List Value) (as : Attributes) : IsSolid (.raised kind args as)
  | fields (f : FrameFields) : IsSolid (.fields f)
  | line (l : ParsedLine) : IsSolid (.line l)
  | codeFrame (c : CodeFrame) : IsSolid (.codeFrame c)
  | position (p : Position) : IsSolid (.position p)

/-- The solid values are those that count as present and have no elements. -/
theorem isSolid_iff : p.IsSolid ↔ p.isTruthy = true ∧ p.elements? = none := by
  constructor
  · intro h
    cases h with
    | int h => simpa [isTruthy, elements?] using h
    | float h => simp [isTruthy, elements?, h]
    | _ => exact ⟨rfl, rfl⟩
  · rintro ⟨htruthy, hnone⟩
    -- kind by kind: what has no elements is solid as soon as it counts as present
    cases p with
    | null => simp [isTruthy] at htruthy
    | bool b =>
      cases htruthy
      exact .true
    | int i => exact .int (by simpa [isTruthy] using htruthy)
    | float x => exact .float (by simpa [isTruthy] using htruthy)
    | moment m => exact .moment m
    | object as => exact .object as
    | sealed => exact .sealed
    | raised kind args as => exact .raised kind args as
    | fields f => exact .fields f
    | line l => exact .line l
    | codeFrame c => exact .codeFrame c
    | position q => exact .position q
    | text s | bytes s | list s | tuple s | set s | map s | frozenMap s => simp [elements?] at hnone

/-- **The classified lines are read** unless something solid stands in their place. -/
theorem exists_errorParsedStack_iff :
    (∃ parsed, v.errorParsedStack = .ok parsed) ↔
      ∀ p, v.spelledField? .parsedStack = some p → ¬ p.IsSolid := by
  simp only [errorParsedStack_eq_ok_iff, isSolid_iff]
  constructor
  · rintro ⟨parsed, h⟩ p hp ⟨htruthy, hnone⟩
    rw [hp] at h
    cases h with
    | blank hblank => simp [hblank] at htruthy
    | elements _ hsome => simp [hnone] at hsome
  · intro h
    cases hp : v.spelledField? .parsedStack with
    | none => exact ⟨none, .absent⟩
    | some p =>
      -- what does not count as present reads as missing, whatever it is
      cases htruthy : p.isTruthy with
      | false => exact ⟨none, .blank htruthy⟩
      | true =>
        cases hitems : p.elements? with
        | none => exact absurd ⟨htruthy, hitems⟩ (h p hp)
        | some items => exact ⟨some items, .elements htruthy hitems⟩

/-! ## The message -/

/-- The integers that the message of a described error shows. -/
def messageIntegers : Value → List Int
  | .raised _ args _ => shownIn args
  | v =>
    match v.field? "message".toList with
    | some m => m.shownIntegers
    | none => []

/-- For all other hosts these are the integers of the message field. -/
theorem messageIntegers_eq (h : ¬ v.IsRaised) :
    v.messageIntegers = match v.field? "message".toList with
      | some m => m.shownIntegers
      | none => [] := by
  cases v with
  | raised kind args as => exact absurd (.intro kind args as) h
  | _ => rfl

/-- **The message is read** exactly if every integer in it is short. -/
theorem exists_errorMessage_iff :
    (∃ message, v.errorMessage = .ok message) ↔ AreShort v.messageIntegers := by
  by_cases hv : v.IsRaised
  · obtain ⟨kind, args, as⟩ := hv
    exact exists_writtenRaised_iff kind args
  · rw [errorMessage_eq hv, messageIntegers_eq hv]
    cases v.field? "message".toList with
    | none => exact iff_of_true ⟨_, rfl⟩ areShort_nil
    | some m => exact exists_written_iff m

end Value

namespace ErrorRecord

variable {v : Value} {r : ErrorRecord}

/-! ## The whole record -/

/-- What a record that was read off a host consists of. -/
structure ReadOff (v : Value) (r : ErrorRecord) : Prop where
  name : r.name = v.errorName
  message : v.errorMessage = .ok r.message
  stack : r.stack = v.errorStack
  parsedStack : v.errorParsedStack = .ok r.parsedStack
  codeFrame : r.codeFrame = v.errorCodeFrame

/-- Every host is read in the same steps, whatever it offers. -/
theorem ofValue_of_ne_null (hv : v ≠ .null) :
    ofValue v = do
      let message ← v.errorMessage
      let parsedStack ← v.errorParsedStack
      return ⟨v.errorName, message, v.errorStack, parsedStack, v.errorCodeFrame⟩ := by
  cases v with
  | null => exact absurd rfl hv
  | _ => rfl

/-- **A host is read field by field**, unless it is no host at all. -/
theorem ofValue_eq_ok_iff (hv : v ≠ .null) : ofValue v = .ok r ↔ ReadOff v r := by
  rw [ofValue_of_ne_null hv]
  constructor
  · intro h
    obtain ⟨message, hmessage, h⟩ := Outcome.bind_eq_ok_iff.mp h
    obtain ⟨parsed, hparsed, h⟩ := Outcome.bind_eq_ok_iff.mp h
    cases h
    exact ⟨rfl, hmessage, rfl, hparsed, rfl⟩
  · rintro ⟨hname, hmessage, hstack, hparsed, hcode⟩
    rw [hmessage, hparsed, ← hname, ← hstack, ← hcode]
    rfl

/-- Without a host there is an empty record. -/
theorem ofValue_null : ofValue .null = .ok { name := [], message := [] } := rfl

/-- A host is read if its message and its classified lines are. -/
theorem exists_ofValue_iff :
    (∃ r, ofValue v = .ok r) ↔
      (∃ message, v.errorMessage = .ok message) ∧ ∃ parsed, v.errorParsedStack = .ok parsed := by
  by_cases hv : v = .null
  · subst hv
    exact iff_of_true ⟨_, ofValue_null⟩ ⟨⟨_, rfl⟩, ⟨_, rfl⟩⟩
  · -- the other three fields always read, falling back where they do not fit
    simp only [ofValue_eq_ok_iff hv]
    constructor
    · rintro ⟨r, h⟩
      exact ⟨⟨_, h.message⟩, ⟨_, h.parsedStack⟩⟩
    · rintro ⟨⟨message, hmessage⟩, ⟨parsed, hparsed⟩⟩
      exact ⟨⟨v.errorName, message, v.errorStack, parsed, v.errorCodeFrame⟩, rfl, hmessage, rfl,
        hparsed, rfl⟩

/-- Fields of the wrong kind fall back to their defaults, and a message that is no text is written
as one. A raised error is named by its kind. -/
structure FallsBack (v : Value) (r : ErrorRecord) : Prop where
  name : ¬ v.IsRaised → (∀ s, v.field? "name".toList ≠ some (.text s)) → r.name = "Error".toList
  message : ¬ v.IsRaised → ∀ m, v.field? "message".toList = some m → m.written = .ok r.message
  stack : (∀ s, v.field? stackField ≠ some (.text s)) → r.stack = none
  parsedStack : (∀ p, v.spelledField? .parsedStack = some p → p.isTruthy = false) →
    r.parsedStack = none
  codeFrame : (∀ c, v.spelledField? .codeFrame = some c → c.isCodeFrame = false) →
    r.codeFrame = none

/-- A record that was read off a host falls back wherever a field does not fit. -/
theorem ReadOff.fallsBack (h : ReadOff v r) : FallsBack v r where
  name hraised hname := by
    rw [h.name, Value.errorName_eq hraised]
    split
    · next s hs => exact absurd hs (hname s)
    · rfl
  message hraised m hm := by
    rw [← h.message, Value.errorMessage_eq hraised, hm]
  stack hstack := by
    rw [h.stack]
    unfold Value.errorStack
    split
    · next s hs => exact absurd hs (hstack s)
    · rfl
  parsedStack hblank := by
    have hreads := Value.errorParsedStack_eq_ok_iff.mp h.parsedStack
    cases hp : v.spelledField? .parsedStack with
    | none =>
      rw [hp] at hreads
      -- the reading is an inductive relation, so the case the value is in fixes the field
      generalize r.parsedStack = parsed at hreads
      cases hreads
      rfl
    | some p =>
      rw [hp] at hreads
      generalize r.parsedStack = parsed at hreads
      cases hreads with
      | blank => rfl
      | elements htruthy => exact absurd htruthy (by simp [hblank p hp])
  codeFrame hunfit := by
    rw [h.codeFrame, Value.errorCodeFrame, Option.filter_eq_none_iff]
    intro c hc
    simp [hunfit c hc]

/-- **What stops the reader**: an integer in the message that is too long, or something solid in
place of the classified lines. A record that is read has defaults for all other fields that do not
fit. -/
theorem exists_ofHost_iff (v : Value) :
    ((∃ r, ofHost (.value v) = .ok r) ↔
      Value.AreShort v.messageIntegers ∧
        ∀ p, v.spelledField? .parsedStack = some p → ¬ p.IsSolid) ∧
    ∀ r, v ≠ .null → ofHost (.value v) = .ok r → FallsBack v r := by
  constructor
  · show (∃ r, ofValue v = .ok r) ↔ _
    rw [exists_ofValue_iff, Value.exists_errorMessage_iff, Value.exists_errorParsedStack_iff]
  · intro r hv h
    have hread : ReadOff v r := (ofValue_eq_ok_iff hv).mp h
    exact hread.fallsBack

/-- A host with a wrong value in every field, each of a kind that falls back. -/
def unfit : Value :=
  .map [(.text "name".toList, .int 5), (.text "message".toList, .list [.int 1, .null]),
    (.text "stack".toList, .bool true), (.text "parsedStack".toList, .int 0),
    (.text "code_frame".toList, .map [])]

/-- Every field has a wrong value, and the record is read all the same. -/
theorem exists_ofHost_iff_unfit :
    ofHost (.value unfit) = .ok { message := "[1, None]".toList } := by
  obtain ⟨hiff, hfalls⟩ := exists_ofHost_iff unfit
  obtain ⟨r, hr⟩ : ∃ r, ofHost (.value unfit) = .ok r := by
    refine hiff.mpr ⟨by decide, ?_⟩
    rintro p ⟨⟩ hsolid
    cases hsolid with
    | int h => exact h rfl
  -- each field falls back for its own reason
  have hfallen : FallsBack unfit r := hfalls r (by rintro ⟨⟩) hr
  have hraised : ¬ unfit.IsRaised := by rintro ⟨⟩
  obtain ⟨name, message, stack, parsedStack, codeFrame⟩ := r
  have hname := hfallen.name hraised (by rintro s ⟨⟩)
  have hmessage := hfallen.message hraised _ rfl
  have hstack := hfallen.stack (by rintro s ⟨⟩)
  have hparsed := hfallen.parsedStack (by rintro p ⟨⟩; rfl)
  have hcode := hfallen.codeFrame (by rintro c ⟨⟩; rfl)
  dsimp only at hname hmessage hstack hparsed hcode
  cases hmessage
  rw [hr, hname, hstack, hparsed, hcode]
  rfl

/-- A number in place of the classified lines is no sequence, and nothing makes up for it. -/
theorem not_forall_exists_ofHost : ¬ ∀ v : Value, ∃ r, ofHost (.value v) = .ok r := by
  intro hall
  obtain ⟨r, hr⟩ := hall (.map [(.text "parsed_stack".toList, .int 5)])
  have hfault : ofHost (.value (.map [(.text "parsed_stack".toList, .int 5)]))
      = .error .notASequence := rfl
  rw [hfault] at hr
  cases hr

end ErrorRecord

end Stacktrace
