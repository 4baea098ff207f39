import Stacktrace.Proofs.Error.WriteBack
import Stacktrace.Proofs.Mapper.Process

/-!
# Normalizing twice

A host may be normalized at any time and more than once, so the second time has to find nothing to
do. On a record that is a matter of its stack alone (`ErrorRecord.normalized_normalized`). On a host
the second run reads what the first one wrote, or tried to write:

* `ErrorRecord.WrittenInto.setFields?_again` — what was written into a host can be written again
  without any change;
* `ErrorRecord.exists_settled` — a host of any kind settles with the first write;
* `Mapper.normalize_twice` — so the second run returns what the first one returned.
-/

namespace Stacktrace

open Text

namespace ErrorRecord

variable {r : ErrorRecord} {v v' : Value} {host : Host}

/-! ## Records -/

theorem Restorable.normalized (h : r.Restorable) : r.normalized.Restorable where
  parsedStack := r.normalized_parsedStack ▸ h.parsedStack
  codeFrame := r.normalized_codeFrame ▸ h.codeFrame

/-- A record over the one that it was made from. -/
theorem overlaid_normalized (r : ErrorRecord) : r.overlaid r.normalized = r.normalized := by
  rw [overlaid, normalized_parsedStack, normalized_codeFrame, Option.or_self, Option.or_self]
  exact r.normalized_eq.symm

/-! ## Hosts -/

/-- **Writing again changes nothing.** -/
theorem WrittenInto.setFields?_again (h : WrittenInto r v v') (hv : v'.TakesFields) :
    v'.setFields? (r.updates v') = some v' := by
  -- writing a field that already has its value leaves the host as it is
  refine Value.setFields?_of_field? hv fun f hf => ?_
  rw [updates, h.writtenParsedStack.spelling, h.writtenCodeFrame.spelling] at hf
  rcases List.mem_append.mp hf with hf | hf
  · rcases List.mem_append.mp hf with hf | hf
    · rw [List.mem_singleton.mp hf, h.stack]
      cases r.stack <;> rfl
    · cases hparsed : r.parsedStack with
      | none => simp [hparsed] at hf
      | some items =>
        rw [hparsed] at hf
        rw [List.mem_singleton.mp hf, h.parsedStack items hparsed]
  · cases hcode : r.codeFrame with
    | none => simp [hcode] at hf
    | some c =>
      rw [hcode] at hf
      rw [List.mem_singleton.mp hf, h.codeFrame c hcode]

/-- What a host becomes when its normalized record is written into it: it reads as that record,
unless it is a value that refused it, and takes the record again without any change. -/
structure Settled (host : Host) (r : ErrorRecord) (host' : Host) : Prop where
  first : (r.normalized.applyTo host).outcome = .ok host'
  reads : (∃ v, host = .value v ∧ host' = .value v) ∨ ofHost host' = .ok r.normalized
  again : (r.normalized.applyTo host').outcome = .ok host'

theorem exists_settled (hhost : ofHost host = .ok r) : ∃ host', Settled host r host' := by
  cases host with
  | record own =>
    cases hhost
    exact ⟨.record r.normalized, rfl, .inr rfl, rfl⟩
  | value v =>
    by_cases hv : v.TakesFields
    · obtain ⟨v', hset, hfirst⟩ := r.normalized.exists_applyTo hv
      have hv' := hv.of_setFields? hset
      have hwritten := writtenInto_of_setFields? hset
      have hread : ReadOff v r := (ofValue_eq_ok_iff hv.ne_null).mp hhost
      have hread' := hwritten.readOff hread.restorable.normalized hread
      rw [overlaid_normalized] at hread'
      refine ⟨.value v', hfirst, .inr ((ofValue_eq_ok_iff hv'.ne_null).mpr hread'), ?_⟩
      -- the second write finds the fields of the first
      obtain ⟨w, hset', hagain⟩ := r.normalized.exists_applyTo hv'
      have hsame : w = v' := Option.some.inj (hset'.symm.trans (hwritten.setFields?_again hv'))
      rw [hagain, hsame]
    · have hrefused := r.normalized.applyTo_of_refuses hv
      exact ⟨.value v, hrefused, .inl ⟨v, rfl, rfl⟩, hrefused⟩

end ErrorRecord

namespace Mapper

variable {m : Mapper} {host host' : Host} {r : ErrorRecord}

/-- Normalizing a host is reading it and writing its normalized record back. A record is replaced
unless it shows its text. -/
theorem outcome_normalize (m : Mapper) (hhost : ErrorRecord.ofHost host = .ok r)
    (happly : (r.normalized.applyTo host).outcome = .ok host') :
    ∃ returned, (m.normalize host).outcome = .ok returned ∧ returned.host = host' ∧
      ((∃ v, host = .value v) ∨ r.showsText = true → returned.same = true) := by
  have hread : (Run.lift (ErrorRecord.ofHost host)).outcome = .ok r := hhost
  rw [normalize, Run.outcome_bind_of_ok hread, Run.outcome_bind_of_ok r.outcome_normalize]
  unfold giveBack
  rw [Run.outcome_bind_of_ok happly]
  refine ⟨_, rfl, rfl, fun hkept => ?_⟩
  cases host with
  | record own =>
    -- a value is written in place; a record is given back only where it shows its text
    rcases hkept with ⟨v, hv⟩ | hshows
    · cases hv
    · exact hshows
  | value v => rfl

/-- **The second run finds nothing to do.** It returns the very host that the first run returned,
field for field. The host then reads as the normalized record, unless it is one that refuses to be
written into; and a record that was normalized is returned as it is. -/
theorem normalize_twice (m : Mapper) (hhost : ErrorRecord.ofHost host = .ok r) :
    ∃ first second once,
      (m.normalize host).outcome = .ok first ∧ (m.normalize first.host).outcome = .ok second ∧
      second.host = first.host ∧ second.same = true ∧
      (normalizeStack host).outcome = .ok once ∧ once.showsText = true ∧
      (normalizeStack (.record once)).outcome = .ok once ∧
      (first.host = host ∨ ErrorRecord.ofHost first.host = .ok once) := by
  obtain ⟨host', hsettled⟩ := ErrorRecord.exists_settled hhost
  obtain ⟨first, hfirst, rfl, -⟩ := outcome_normalize m hhost hsettled.first
  have honce := outcome_normalizeStack hhost
  have hagain : (normalizeStack (.record r.normalized)).outcome = .ok r.normalized.normalized :=
    outcome_normalizeStack rfl
  rw [r.normalized_normalized] at hagain
  -- either the host took no field and is unchanged, or it reads back as the normalized record
  rcases hsettled.reads with ⟨v, rfl, hrefused⟩ | hreads
  · have hhost' := hrefused.symm ▸ hhost
    obtain ⟨second, hsecond, hsecond', hsame⟩ := outcome_normalize m hhost' hsettled.again
    exact ⟨first, second, r.normalized, hfirst, hsecond, hsecond', hsame (.inl ⟨v, hrefused⟩),
      honce, r.showsText_normalized, hagain, .inl hrefused⟩
  · have hwrite := hsettled.again
    rw [← r.normalized_normalized] at hwrite
    obtain ⟨second, hsecond, hhost', hsame⟩ := outcome_normalize m hreads hwrite
    have hkept := hsame (.inr r.showsText_normalized)
    exact ⟨first, second, r.normalized, hfirst, hsecond, hhost', hkept,
      honce, r.showsText_normalized, hagain, .inr hreads⟩

/-- An error that was raised, whose stack does not show its text. -/
def raisedHost : Value :=
  .raised "TypeError".toList [.text "x is undefined".toList]
    [("stack".toList, .text "run@app.js:3:4".toList)]

theorem normalize_twice_raised : ∃ first second,
    ((⟨PositionTables.empty.resolver, {}⟩ : Mapper).normalize (.value raisedHost)).outcome
      = .ok first ∧
    ((⟨PositionTables.empty.resolver, {}⟩ : Mapper).normalize first.host).outcome = .ok second ∧
    second.host = first.host ∧
    ErrorRecord.ofHost first.host = .ok {
      name := "TypeError".toList
      message := "x is undefined".toList
      stack := some "TypeError: x is undefined\nrun@app.js:3:4".toList } := by
  have hhost : ErrorRecord.ofHost (.value raisedHost) = .ok {
      name := "TypeError".toList
      message := "x is undefined".toList
      stack := some "run@app.js:3:4".toList } := rfl
  obtain ⟨first, second, -, hfirst, hsecond, hsame, -⟩ :=
    normalize_twice ⟨PositionTables.empty.resolver, {}⟩ hhost
  refine ⟨first, second, hfirst, hsecond, hsame, ?_⟩
  cases hfirst
  rfl

end Mapper

end Stacktrace
