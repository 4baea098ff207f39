import Stacktrace.Proofs.Log.Written

/-!
# The standard toolkit does what is documented

`Log.standard_asDocumented` shows it law by law, so that the laws hold of a toolkit that can be run:

* `Log.get?_overlay`, `Log.get?_withoutAll` — the context after binding and unbinding;
* `Log.get?_beginEntry` — with which fields a call begins;
* `Log.get?_foldl_setMissing` — what an entry has after a context was merged into it;
* `Log.exists_printedLine` — what is printed while nothing is configured.
-/

namespace Stacktrace.Log

open Text
open Attributes (Gives get?)

variable {name n : Text} {v : Value} {as context values : Attributes} {call : Call} {e : Entry}
  {P : Text × Value → Prop}

/-! ## The context -/

/-- A value that is laid over last is set last. -/
theorem overlay_concat (context values : Attributes) (a : Text × Value) :
    overlay context (values ++ [a]) = Attributes.set a.1 a.2 (overlay context values) := by
  rw [overlay, List.foldl_append]
  rfl

/-- **The last value for a name wins**, over the context and over earlier values. -/
theorem get?_overlay : get? name (overlay context values) = some v ↔
    Gives values name v ∨ (∀ a ∈ values, a.1 ≠ name) ∧ get? name context = some v := by
  -- by induction on the last value, which hides all others for its name
  induction values using List.reverseRecOn with
  | nil => simp [overlay, Gives, Latest.not_nil]
  | append_singleton values a ih =>
    obtain ⟨k, new⟩ := a
    rw [overlay_concat, Attributes.get?_set, Gives, Latest.concat_iff, List.forall_mem_append,
      List.forall_mem_singleton]
    by_cases hk : k = name
    · subst hk
      simp
    · have hne : ¬ (k, new) = (name, v) := fun h => hk (congrArg Prod.fst h)
      rw [if_neg (Ne.symm hk), ih]
      simp [hk, hne, Gives]

/-- A name that is taken away has no value, and the others keep theirs. -/
theorem get?_without_attributes (n : Text) :
    get? name (without n as) = if name = n then none else get? name as := by
  split
  · next h => exact Attributes.get?_filter_of_out fun _ => by simp [h]
  · next h => exact Attributes.get?_filter fun _ => by simpa using h

/-- Names that are taken away are gone, and all others stay. -/
theorem get?_withoutAll {names : List Text} :
    get? name (withoutAll names as) = some v ↔ name ∉ names ∧ get? name as = some v := by
  induction names generalizing as with
  | nil => simp [withoutAll]
  | cons n names ih =>
    show get? name (withoutAll names (without n as)) = some v ↔ _
    rw [ih, get?_without_attributes, List.mem_cons, not_or]
    split
    · next h => simp [h]
    · next h => simp [h]

/-! ## Entries -/

/-- Writing several fields lays them over those that are there. -/
theorem fields_setAll : (e.setAll values).fields = overlay e.fields values := by
  induction values generalizing e with
  | nil => rfl
  | cons a values ih => exact ih (e := e.set a.1 a.2)

/-- A call begins if it leaves the names alone that it has for itself. -/
theorem exists_beginEntry (h : ∀ a ∈ call.values, a.1 ∉ ownNames) :
    ∃ e, beginEntry call = .ok e := by
  have hclash : (call.values.any fun a => ownNames.contains a.1) = false := by
    simpa using fun name v hv => h (name, v) hv
  rw [beginEntry, hclash, if_neg Bool.false_ne_true]
  exact ⟨_, rfl⟩

/-- A call begins with its event. -/
theorem event_beginEntry (h : beginEntry call = .ok e) :
    e.get? "event".toList = some (.text call.event) := by
  unfold beginEntry at h
  split at h
  · cases h
  · cases h
    rw [Entry.get?_set, if_pos rfl]

/-- A call without arguments begins with its values, the last one for each name. -/
theorem get?_beginEntry (h : beginEntry call = .ok e) (harguments : call.arguments = [])
    (hname : name ≠ "event".toList) : e.get? name = some v ↔ Gives call.values name v := by
  unfold beginEntry at h
  split at h
  · cases h
  · cases h
    rw [harguments, Entry.get?_set, if_neg hname, Entry.get?, fields_setAll, get?_overlay]
    simp [Entry.empty, get?]

/-- A context fills in what an entry does not have. -/
theorem get?_foldl_setMissing :
    (context.foldl (fun e a => e.setMissing a.1 a.2) e).get? n = (e.get? n).or (get? n context) := by
  induction context generalizing e with
  | nil => rw [List.foldl_nil, get?, Option.or_none]
  | cons a context ih =>
    obtain ⟨k, v⟩ := a
    rw [List.foldl_cons, ih, Entry.get?_setMissing, Option.or_assoc, get?]
    -- of two values of a name the earlier one stays
    by_cases hk : k = n
    · rw [if_pos hk.symm, if_pos hk, Option.some_or]
    · rw [if_neg (Ne.symm hk), if_neg hk, Option.none_or]

/-! ## Stages -/

/-- The stage for the logger's name writes that field, and takes every entry that brings no record
of its own. -/
theorem addLoggerName_writesField :
    Stage.WritesField addLoggerName "logger".toList fun e => e.get? recordField = none where
  others := by
    intro c e r h
    unfold addLoggerName at h
    -- Whichever name is written, it is written into the one field.
    have hset (name : Value) : ∀ n ≠ "logger".toList,
        (e.set "logger".toList name).get? n = e.get? n := fun n hn => by
      rw [Entry.get?_set, if_neg hn]
    split at h
    · cases h
      exact ⟨_, rfl, hset _⟩
    · cases h
      exact ⟨_, rfl, hset _⟩
    · split at h
      · cases h
        exact ⟨_, rfl, hset _⟩
      · cases h
  written := by
    intro c e he
    refine ⟨e.set "logger".toList (.text c.logger), c.logger, ?_, by rw [Entry.get?_set, if_pos rfl]⟩
    have hnone : e.get? "_record".toList = none := he
    rw [addLoggerName, hnone]

/-- A stage that writes a text of its own takes every entry. -/
theorem writesField_of_eq {stage : Stage} (text : Caller → Text)
    (h : ∀ c e, stage c e = .ok (some (e.set name (.text (text c))))) :
    stage.WritesField name fun _ => True where
  others := by
    intro c e r hr
    cases (h c e).symm.trans hr
    exact ⟨_, rfl, fun n hn => by rw [Entry.get?_set, if_neg hn]⟩
  written := fun {c e} _ => ⟨_, text c, h c e, by rw [Entry.get?_set, if_pos rfl]⟩

/-- Taking a missing field away changes nothing. -/
theorem without_of_none (h : e.get? name = none) : e.without name = e := by
  have hkept : (e.fields.filter fun a => a.1 != name) = e.fields := by
    refine List.filter_eq_self.mpr fun a ha => ?_
    have hne : a.1 ≠ name := by
      rintro rfl
      cases h.symm.trans (Entry.get?_eq_some_iff.mpr ha)
    simpa using hne
  unfold Entry.without
  simp only [hkept]

/-- The stage for arguments drops no entry, and leaves one without arguments alone. -/
theorem fillArguments_consumes : Stage.Consumes fillArguments "positional_args".toList where
  passes := by
    intro c e r h
    unfold fillArguments at h
    split at h
    · cases h
      exact Option.some_ne_none e
    · cases h
      exact Option.some_ne_none e
    · -- arguments in a sequence are filled in, or there are none
      split at h
      · split at h
        · obtain ⟨filled, -, h⟩ := Outcome.bind_eq_ok_iff.mp h
          cases h
          exact Option.some_ne_none _
        · cases h
      · cases h
        exact Option.some_ne_none _
  unchanged := fun h => by rw [fillArguments, h]

/-- The stage for stacks drops no entry, and leaves one without a stack alone. -/
theorem showStack_consumes : Stage.Consumes showStack "stack_info".toList where
  passes := by
    rintro c e r ⟨⟩
    exact Option.some_ne_none _
  unchanged := by
    intro c e h
    rw [showStack, h, without_of_none h]
    rfl

/-- The stage for exceptions drops no entry, and leaves one without an exception alone. -/
theorem showError_consumes : Stage.Consumes showError "exc_info".toList where
  passes := by
    rintro c e r ⟨⟩
    exact Option.some_ne_none _
  unchanged := by
    intro c e h
    rw [showError, h, without_of_none h]

/-! ## Printing -/

/-- What holds of all fields of an entry, and of a new one, holds after the new one was written. -/
theorem forall_set (hnew : P (name, v)) (h : ∀ n v, e.get? n = some v → P (n, v)) :
    ∀ n w, (e.set name v).get? n = some w → P (n, w) := by
  intro n w hw
  rw [Entry.get?_set] at hw
  split at hw
  · next hn =>
    cases hw
    exact hn ▸ hnew
  · exact h n w hw

/-- What holds of all fields of an entry holds after one was taken away. -/
theorem forall_without (h : ∀ n v, e.get? n = some v → P (n, v)) :
    ∀ n v, (e.without name).get? n = some v → P (n, v) := by
  intro n w hw
  rw [Entry.get?_without] at hw
  split at hw
  · cases hw
  · exact h n w hw

/-- A call whose values are ordinary begins with fields that the console can write. -/
theorem writable_beginEntry (hbegin : beginEntry call = .ok e) (harguments : call.arguments = [])
    (hvalues : ∀ a ∈ call.values, IsOrdinary a) :
    ∀ n v, e.get? n = some v → IsWritable (n, v) := by
  intro n v hv
  by_cases hn : n = "event".toList
  · subst hn
    cases (event_beginEntry hbegin).symm.trans hv
    exact isWritable_text _ _
  · exact (hvalues _ ((get?_beginEntry hbegin harguments hn).mp hv).mem).writable

/-- A context of ordinary values adds only fields that the console can write. -/
theorem writable_foldl_setMissing (h : ∀ n v, e.get? n = some v → IsWritable (n, v))
    (hcontext : ∀ name v, get? name context = some v → IsOrdinary (name, v)) :
    ∀ n v, (context.foldl (fun e a => e.setMissing a.1 a.2) e).get? n = some v →
      IsWritable (n, v) := by
  intro n v hv
  rw [get?_foldl_setMissing] at hv
  rcases Option.or_eq_some_iff.mp hv with hv | ⟨-, hv⟩
  · exact h n v hv
  · exact (hcontext n v hv).writable

/-- The stage for stacks adds a text or nothing. -/
theorem exists_showStack {c : Caller} (h : ∀ n v, e.get? n = some v → IsWritable (n, v)) :
    ∃ shown, showStack c e = .ok (some shown) ∧
      ∀ n v, shown.get? n = some v → IsWritable (n, v) := by
  refine ⟨_, rfl, ?_⟩
  split
  · exact forall_set (isWritable_text _ _) (forall_without h)
  · exact forall_without h

/-- The stage for exceptions adds a text or nothing. -/
theorem exists_showError {c : Caller} (h : ∀ n v, e.get? n = some v → IsWritable (n, v)) :
    ∃ shown, showError c e = .ok (some shown) ∧
      ∀ n v, shown.get? n = some v → IsWritable (n, v) := by
  refine ⟨_, rfl, ?_⟩
  split
  · exact forall_set (isWritable_text _ _) (forall_without h)
  · exact forall_without h

/-- **A call is printed** if its values and the context are ordinary. -/
theorem exists_printedLine (harguments : call.arguments = [])
    (hnames : ∀ a ∈ call.values, a.1 ∉ ownNames) (hvalues : ∀ a ∈ call.values, IsOrdinary a)
    (hcontext : ∀ name v, get? name context = some v → IsOrdinary (name, v)) :
    ∃ line, printedLine context call = .ok line := by
  obtain ⟨begun, hbegin⟩ : ∃ e, beginEntry { call with arguments := [] } = .ok e :=
    exists_beginEntry hnames
  -- every stage leaves an entry whose fields the console can write
  have hbegun := writable_beginEntry hbegin rfl hvalues
  have hmerged := writable_foldl_setMissing hbegun hcontext
  have hleveled := forall_set (isWritable_text "level".toList (lower call.level.name)) hmerged
  obtain ⟨stacked, hrunStack, hstacked⟩ :=
    exists_showStack (c := ⟨call.logger, call.level, {}⟩) hleveled
  obtain ⟨shown, hrunError, hshown⟩ :=
    exists_showError (c := ⟨call.logger, call.level, {}⟩) hstacked
  have htimed := forall_set (isWritable_text "timestamp".toList timeStamp) hshown
  obtain ⟨line, hline⟩ := exists_consoleLine
    fun a ha => htimed a.1 a.2 (Entry.get?_eq_some_iff.mpr ha)
  refine ⟨line, ?_⟩
  unfold printedLine
  rw [harguments]
  refine Outcome.bind_eq_ok_iff.mpr ⟨call.event, rfl, Outcome.bind_eq_ok_iff.mpr ⟨begun, hbegin,
    Outcome.bind_eq_ok_iff.mpr ⟨some (shown.set "timestamp".toList (.text timeStamp)), ?_, hline⟩⟩⟩
  simp only [runStages, mergeContext, addLevel, hrunStack, hrunError, stampTime]

/-- Whatever is printed has at least the end of its line. -/
theorem printedLine_ne_nil {line : Text} (h : printedLine context call = .ok line) : line ≠ [] := by
  obtain ⟨event, -, h⟩ := Outcome.bind_eq_ok_iff.mp h
  obtain ⟨begun, -, h⟩ := Outcome.bind_eq_ok_iff.mp h
  obtain ⟨r, hrun, h⟩ := Outcome.bind_eq_ok_iff.mp h
  cases r with
  | some e => exact consoleLine_ne_nil h
  | none => cases hrun

/-! ## The laws -/

/-- **The standard toolkit does what is documented.** -/
theorem standard_asDocumented : standard.AsDocumented where
  get?_bind := get?_overlay
  get?_unbind := get?_withoutAll
  get?_clear := rfl
  exists_begin := exists_beginEntry
  event_begin := event_beginEntry
  get?_begin := get?_beginEntry
  run_nil := rfl
  run_cons := rfl
  mergeContext := fun _ _ _ => ⟨_, rfl, fun _ => get?_foldl_setMissing⟩
  filterByLevel := rfl
  addLoggerName := addLoggerName_writesField
  addLevel := writesField_of_eq (fun c => lower c.level.name) fun _ _ => rfl
  fillArguments := fillArguments_consumes
  stampTime := writesField_of_eq (fun _ => timeStamp) fun _ _ => rfl
  showStack := showStack_consumes
  showError := showError_consumes
  decodeOctets := fun _ _ => ⟨_, rfl, fun _ => Entry.get?_mapValues⟩
  decoded_eq_self := fun {v} h => by
    cases v with
    | bytes octets => exact (h octets rfl).elim
    | _ => rfl
  get?_inJson := get?_jsonEntry
  exists_inJson_iff := by
    intro e
    refine exists_jsonEntry_iff.trans ⟨fun h name v hv => ?_, fun h a ha => ?_⟩
    · exact h (name, v) (Entry.get?_eq_some_iff.mp hv)
    · exact h a.1 a.2 (Entry.get?_eq_some_iff.mpr ha)
  toJson_eq_self := inJson_eq_self
  exists_toJson := exists_inJson_of_isPlain _
  exists_onConsole := fun {e} h => exists_consoleLine fun a ha =>
    h a.1 a.2 (Entry.get?_eq_some_iff.mpr ha)
  printed_ne_nil := printedLine_ne_nil
  exists_printed := exists_printedLine

end Stacktrace.Log
