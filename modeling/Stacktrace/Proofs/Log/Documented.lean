import Stacktrace.Proofs.Log.Entry
import Stacktrace.Proofs.Outcome
import Stacktrace.Proofs.Value.Written

/-!
# What a toolkit is documented to do

The stages, the renderers and the context that logging takes from elsewhere come with a description.
`Log.Toolkit.AsDocumented` writes the description down, one law for each operation, and what is proved
about logging rests on these laws only:

* `Value.isPlain`, `Value.IsJson` — plain data, and data as JSON has it;
* `Log.Stage.WritesField`, `Log.Stage.Consumes` — the kinds of stages that add a field or use one up;
* `Log.Toolkit.AsDocumented` — the laws;
* `Log.Toolkit.AsDocumented.ne_none_of_run_chain`, `Log.Toolkit.AsDocumented.run_chain_of_disabled` —
  an entry is dropped by its level, and by nothing else;
* `Log.Toolkit.AsDocumented.carried_of_run_chain`, `Log.Toolkit.AsDocumented.exists_run_chain` — what
  the chain makes of an entry, and when it makes something of it.
-/

namespace Stacktrace

open Text

/-! ## Data -/

namespace Value

mutual

/-- Data without records, errors and host objects, whose numbers can be written. -/
def isPlain : Value → Bool
  | .null | .bool _ | .float _ | .text _ => true
  | .int i => Numeral.IsShort i
  | .list xs | .tuple xs => allPlain xs
  | .map es => allPlainEntries es
  | _ => false

def allPlain : List Value → Bool
  | [] => true
  | v :: vs => isPlain v && allPlain vs

def allPlainEntries : List (Value × Value) → Bool
  | [] => true
  | (.text _, v) :: es => isPlain v && allPlainEntries es
  | _ => false

end

/-- Data as JSON has it. -/
inductive IsJson : Value → Prop where
  | null : IsJson .null
  | bool (b : Bool) : IsJson (.bool b)
  | int {i : Int} (h : Numeral.IsShort i) : IsJson (.int i)
  | float (x : Float) : IsJson (.float x)
  | text (s : Text) : IsJson (.text s)
  | list {items : List Value} (h : ∀ v ∈ items, IsJson v) : IsJson (.list items)
  | map {entries : List (Value × Value)} (hkeys : ∀ e ∈ entries, ∃ k, e.1 = .text k)
      (h : ∀ e ∈ entries, IsJson e.2) : IsJson (.map entries)

theorem IsJson.not_bytes {v : Value} (h : v.IsJson) (octets : List UInt8) : v ≠ .bytes octets := by
  rintro rfl
  cases h

theorem not_bytes_of_isPlain {v : Value} (h : v.isPlain = true) (octets : List UInt8) :
    v ≠ .bytes octets := by
  rintro rfl
  simp [isPlain] at h

end Value

namespace Log

/-- A field that an entry can have in both forms. A stack or an exception stands on lines of its own
where people read it, so it must be a text. -/
structure IsWritable (a : Text × Value) : Prop where
  plain : a.2.isPlain = true
  appended : a.1 = "stack".toList ∨ a.1 = "exception".toList → a.2 = .null ∨ ∃ s, a.2 = .text s

theorem isWritable_text (name s : Text) : IsWritable (name, .text s) :=
  ⟨by simp [Value.isPlain], fun _ => .inr ⟨s, rfl⟩⟩

/-- Fields that steer a call: stages use them up. -/
def steeringFields : List Text :=
  ["exc_info".toList, "stack_info".toList, "positional_args".toList]

/-- The field by which an entry stands for a record of another logging library. -/
def recordField : Text := "_record".toList

/-- A field that goes through all stages as it is and that both forms can take. -/
structure IsOrdinary (a : Text × Value) : Prop where
  writable : IsWritable a
  unsteered : a.1 ∉ steeringFields
  unrecorded : a.1 ≠ recordField

/-- Fields that the library or a stage writes, whatever else goes by their names. -/
def fixedFields : List Text :=
  ["event".toList, "service".toList, "version".toList, "logger".toList, "level".toList,
    "timestamp".toList]

/-! ## Stages -/

namespace Stage

/-- A stage that writes one field into every entry that it can take, and changes no other. -/
structure WritesField (stage : Stage) (name : Text) (takes : Entry → Prop) : Prop where
  others {c : Caller} {e : Entry} {r : Option Entry} :
    stage c e = .ok r → ∃ e', r = some e' ∧ ∀ n ≠ name, e'.get? n = e.get? n
  written {c : Caller} {e : Entry} :
    takes e → ∃ e' s, stage c e = .ok (some e') ∧ e'.get? name = some (.text s)

/-- A stage that leaves an entry alone unless the entry has a field for it. -/
structure Consumes (stage : Stage) (name : Text) : Prop where
  passes {c : Caller} {e : Entry} {r : Option Entry} : stage c e = .ok r → r ≠ none
  unchanged {c : Caller} {e : Entry} : e.get? name = none → stage c e = .ok (some e)

variable {stage : Stage} {name : Text} {takes : Entry → Prop} {c : Caller} {e : Entry}

theorem WritesField.passes (h : stage.WritesField name takes) {r : Option Entry}
    (hr : stage c e = .ok r) : r ≠ none := by
  obtain ⟨e', rfl, -⟩ := h.others hr
  exact Option.some_ne_none e'

theorem WritesField.exists_next (h : stage.WritesField name takes) (c : Caller) (he : takes e) :
    ∃ e' s, stage c e = .ok (some e') ∧ e'.get? name = some (.text s) ∧
      ∀ n ≠ name, e'.get? n = e.get? n := by
  obtain ⟨e', s, hrun, hs⟩ := h.written (c := c) he
  obtain ⟨_, heq, hothers⟩ := h.others hrun
  cases heq
  exact ⟨e', s, hrun, hs, hothers⟩

end Stage

/-! ## The laws -/

namespace Toolkit

/-- The toolkit does what its makers say about it. -/
structure AsDocumented (t : Toolkit) : Prop where
  /-- Binding replaces what was bound to the same names. -/
  get?_bind {context values : Attributes} {name : Text} {v : Value} :
    Attributes.get? name (t.bind context values) = some v ↔
      values.Gives name v ∨ (∀ a ∈ values, a.1 ≠ name) ∧ Attributes.get? name context = some v
  /-- Unbinding takes names away. Those that are not bound are passed over. -/
  get?_unbind {context : Attributes} {names : List Text} {name : Text} {v : Value} :
    Attributes.get? name (t.unbind context names) = some v ↔
      name ∉ names ∧ Attributes.get? name context = some v
  get?_clear {context : Attributes} {name : Text} : Attributes.get? name (t.clear context) = none
  /-- A call takes values by any name but those that it has for itself. -/
  exists_begin {call : Call} : (∀ a ∈ call.values, a.1 ∉ ownNames) → ∃ e, t.begin call = .ok e
  event_begin {call : Call} {e : Entry} :
    t.begin call = .ok e → e.get? "event".toList = some (.text call.event)
  /-- Besides its event, a call without arguments begins with its values. -/
  get?_begin {call : Call} {e : Entry} {name : Text} {v : Value} :
    t.begin call = .ok e → call.arguments = [] → name ≠ "event".toList →
      (e.get? name = some v ↔ call.values.Gives name v)
  run_nil {c : Caller} {e : Entry} : t.run [] c e = .ok (some e)
  /-- Each stage gets what the one before it leaves. An entry that is dropped goes no further, and
  faults go through to the caller. -/
  run_cons {stage : Stage} {stages : List Stage} {c : Caller} {e : Entry} :
    t.run (stage :: stages) c e = match stage c e with
      | .ok (some next) => t.run stages c next
      | .ok none => .ok none
      | .error fault => .error fault
  /-- What is bound is added under names that the entry does not have yet. -/
  mergeContext (context : Attributes) (c : Caller) (e : Entry) :
    ∃ e', t.mergeContext context c e = .ok (some e') ∧
      ∀ name, e'.get? name = (e.get? name).or (Attributes.get? name context)
  filterByLevel {c : Caller} {e : Entry} :
    t.filterByLevel c e = .ok (if c.root.isEnabled c.level then some e else none)
  /-- The logger's name is written into all entries that do not stand for a record. -/
  addLoggerName : t.addLoggerName.WritesField "logger".toList fun e => e.get? recordField = none
  addLevel : t.addLevel.WritesField "level".toList fun _ => True
  fillArguments : t.fillArguments.Consumes "positional_args".toList
  stampTime : t.stampTime.WritesField "timestamp".toList fun _ => True
  showStack : t.showStack.Consumes "stack_info".toList
  showError : t.showError.Consumes "exc_info".toList
  decodeOctets (c : Caller) (e : Entry) :
    ∃ e', t.decodeOctets c e = .ok (some e') ∧
      ∀ name, e'.get? name = (e.get? name).map t.decoded
  /-- Only octets are decoded. -/
  decoded_eq_self {v : Value} : (∀ octets, v ≠ .bytes octets) → t.decoded v = v
  /-- The object has the fields of the entry, each with its value's JSON form. -/
  get?_inJson {e : Entry} {fields : Attributes} {name : Text} {j : Value} :
    t.inJson e = .ok fields → (Attributes.get? name fields = some j ↔
      ∃ v, e.get? name = some v ∧ t.toJson v = .ok j)
  exists_inJson_iff {e : Entry} : (∃ fields, t.inJson e = .ok fields) ↔
    ∀ name v, e.get? name = some v → ∃ j, t.toJson v = .ok j
  toJson_eq_self {v : Value} : v.IsJson → t.toJson v = .ok v
  exists_toJson {v : Value} : v.isPlain = true → ∃ j, t.toJson v = .ok j
  exists_onConsole {e : Entry} :
    (∀ name v, e.get? name = some v → IsWritable (name, v)) → ∃ line, t.onConsole e = .ok line
  /-- While nothing is configured, every call is printed, with at least the end of its line. -/
  printed_ne_nil {context : Attributes} {call : Call} {line : Text} :
    t.printed context call = .ok line → line ≠ []
  exists_printed {context : Attributes} {call : Call} :
    call.arguments = [] → (∀ a ∈ call.values, a.1 ∉ ownNames) →
      (∀ a ∈ call.values, IsOrdinary a) →
      (∀ name v, Attributes.get? name context = some v → IsOrdinary (name, v)) →
      ∃ line, t.printed context call = .ok line

variable {t : Toolkit} {p : Package} {context : Attributes} {c : Caller} {e e' : Entry}
  {stage : Stage} {stages : List Stage} {r : Option Entry} {n : Text}

/-- The stages behind the one that names the logger. -/
def lastStages (t : Toolkit) : List Stage :=
  [t.addLevel, t.fillArguments, t.stampTime, t.showStack, t.showError, t.decodeOctets]

theorem chain_eq : t.chain p context = t.mergeContext context :: stampStage p :: t.filterByLevel ::
    t.addLoggerName :: t.lastStages := rfl

/-- What the context and the signature make of an entry. -/
structure Signed (p : Package) (context : Attributes) (e signed : Entry) : Prop where
  carried : ∀ n, n ≠ "service".toList → n ≠ "version".toList →
    signed.get? n = (e.get? n).or (Attributes.get? n context)
  service : signed.get? "service".toList = some (.text service)
  version : ∀ version, p.version = some version →
    signed.get? "version".toList = some (.text version)
  unversioned : p.version = none →
    signed.get? "version".toList
      = (e.get? "version".toList).or (Attributes.get? "version".toList context)

/-- Nothing steers an entry to which nothing was added but a context that does not, and texts. -/
theorem Signed.get?_steering {signed : Entry} (h : Signed p context e signed)
    (he : ∀ n ∈ steeringFields, e.get? n = none)
    (hcontext : ∀ n ∈ steeringFields, Attributes.get? n context = none) :
    ∀ n ∈ steeringFields, signed.get? n = none := by
  intro n hn
  rw [h.carried n (ne_of_mem_of_not_mem hn (by decide)) (ne_of_mem_of_not_mem hn (by decide)),
    he n hn, hcontext n hn]
  rfl

/-- What the last stages make of an entry. -/
structure Finished (t : Toolkit) (e final : Entry) : Prop where
  carried : ∀ n, n ≠ "level".toList → n ≠ "timestamp".toList →
    final.get? n = (e.get? n).map t.decoded
  level : ∃ s, final.get? "level".toList = some (.text s)
  time : ∃ s, final.get? "timestamp".toList = some (.text s)

namespace AsDocumented

theorem run_cons_of_ok (h : t.AsDocumented) (hstage : stage c e = .ok (some e')) :
    t.run (stage :: stages) c e = t.run stages c e' := by
  rw [h.run_cons, hstage]

theorem decoded_text (h : t.AsDocumented) (s : Text) : t.decoded (.text s) = .text s :=
  h.decoded_eq_self nofun

/-! ### Dropped entries -/

/-- Stages that drop nothing drop nothing together. -/
theorem ne_none_of_run (h : t.AsDocumented)
    (hpass : ∀ stage ∈ stages, ∀ e r, stage c e = .ok r → r ≠ none)
    (hrun : t.run stages c e = .ok r) : r ≠ none := by
  induction stages generalizing e with
  | nil =>
    rw [h.run_nil] at hrun
    cases hrun
    exact Option.some_ne_none e
  | cons stage stages ih =>
    obtain ⟨hfirst, hrest⟩ := List.forall_mem_cons.mp hpass
    rw [h.run_cons] at hrun
    split at hrun
    · exact ih hrest hrun
    · -- the stage that would drop the record is one that passes it on
      next hdropped => exact (hfirst e none hdropped rfl).elim
    · cases hrun

/-- **An entry whose level is enabled is not dropped**, whatever is in it. -/
theorem ne_none_of_run_chain (h : t.AsDocumented) (henabled : c.root.isEnabled c.level = true)
    (hrun : t.run (t.chain p context) c e = .ok r) : r ≠ none := by
  refine h.ne_none_of_run ?_ hrun
  have hmerge : ∀ e r, t.mergeContext context c e = .ok r → r ≠ none := by
    intro e r hr
    obtain ⟨merged, hmerged, -⟩ := h.mergeContext context c e
    cases hmerged.symm.trans hr
    exact Option.some_ne_none merged
  have hstamp : ∀ e r, stampStage p c e = .ok r → r ≠ none := by
    rintro e r ⟨⟩
    exact Option.some_ne_none _
  -- the only stage that may drop a record is the filter, and this call is enabled
  have hfilter : ∀ e r, t.filterByLevel c e = .ok r → r ≠ none := by
    intro e r hr
    rw [h.filterByLevel, henabled, if_pos rfl] at hr
    cases hr
    exact Option.some_ne_none e
  have hdecode : ∀ e r, t.decodeOctets c e = .ok r → r ≠ none := by
    intro e r hr
    obtain ⟨decoded, hdecoded, -⟩ := h.decodeOctets c e
    cases hdecoded.symm.trans hr
    exact Option.some_ne_none decoded
  simp only [chain, List.forall_mem_cons]
  exact ⟨hmerge, hstamp, hfilter, fun _ _ => h.addLoggerName.passes, fun _ _ => h.addLevel.passes,
    fun _ _ => h.fillArguments.passes, fun _ _ => h.stampTime.passes, fun _ _ => h.showStack.passes,
    fun _ _ => h.showError.passes, hdecode, List.forall_mem_nil _⟩

/-- An entry whose level is not enabled is dropped before any stage can fault. -/
theorem run_chain_of_disabled (h : t.AsDocumented) (hdisabled : c.root.isEnabled c.level = false) :
    t.run (t.chain p context) c e = .ok none := by
  obtain ⟨merged, hmerged, -⟩ := h.mergeContext context c e
  rw [chain_eq, h.run_cons_of_ok hmerged, h.run_cons_of_ok rfl, h.run_cons, h.filterByLevel,
    hdisabled, if_neg Bool.false_ne_true]

/-! ### Entries that reach the end -/

/-- Where the level is enabled, the chain comes to the naming of the logger with a signed entry. -/
theorem exists_signed (h : t.AsDocumented) (henabled : c.root.isEnabled c.level = true)
    (p : Package) (context : Attributes) (e : Entry) :
    ∃ signed, Signed p context e signed ∧ t.run (t.chain p context) c e
      = t.run (t.addLoggerName :: t.lastStages) c signed := by
  obtain ⟨merged, hmerged, hget⟩ := h.mergeContext context c e
  refine ⟨⟨stampWith p merged.fields, namedOnce_stampWith merged.once⟩, ?_, ?_⟩
  · exact {
      carried := fun n hservice hversion => (get?_stampWith hservice hversion).trans (hget n)
      service := get?_stampWith_service
      version := fun _ => get?_stampWith_version
      unversioned := fun hnone => (get?_stampWith_of_none hnone (by decide)).trans (hget _) }
  · -- the first three stages run on any record: they merge, stamp and let it pass
    rw [chain_eq, h.run_cons_of_ok hmerged, h.run_cons_of_ok rfl, h.run_cons, h.filterByLevel,
      henabled, if_pos rfl]

/-- **The last stages always finish** where nothing steers them. -/
theorem exists_finished (h : t.AsDocumented) (he : ∀ n ∈ steeringFields, e.get? n = none) :
    ∃ final, t.run t.lastStages c e = .ok (some final) ∧ Finished t e final := by
  obtain ⟨leveled, l, hlevel, hl, hleveled⟩ := h.addLevel.exists_next c (e := e) trivial
  obtain ⟨timed, s, htime, hs, htimed⟩ := h.stampTime.exists_next c (e := leveled) trivial
  obtain ⟨final, hdecode, hfinal⟩ := h.decodeOctets c timed
  have hleveled' : ∀ n ∈ steeringFields, leveled.get? n = none := by
    intro n hn
    rw [hleveled n (ne_of_mem_of_not_mem hn (by decide)), he n hn]
  have htimed' : ∀ n ∈ steeringFields, timed.get? n = none := by
    intro n hn
    rw [htimed n (ne_of_mem_of_not_mem hn (by decide)), hleveled' n hn]
  refine ⟨final, ?_, fun n hne hne' => ?_, ⟨l, ?_⟩, ⟨s, ?_⟩⟩
  · -- three of the stages have a steering field to consume, and no record here has one
    rw [lastStages, h.run_cons_of_ok hlevel,
      h.run_cons_of_ok (h.fillArguments.unchanged (hleveled' _ (by decide))),
      h.run_cons_of_ok htime, h.run_cons_of_ok (h.showStack.unchanged (htimed' _ (by decide))),
      h.run_cons_of_ok (h.showError.unchanged (htimed' _ (by decide))), h.run_cons_of_ok hdecode,
      h.run_nil]
  · rw [hfinal, htimed n hne', hleveled n hne]
  · rw [hfinal, htimed _ (by decide), hl, Option.map_some, h.decoded_text]
  · rw [hfinal, hs, Option.map_some, h.decoded_text]

/-- **What is carried into the chain comes out of it**: the entry's own value or else the one that is
bound, decoded. The service is the library's, and so is the version if it is known. -/
theorem carried_of_run_chain (h : t.AsDocumented) (henabled : c.root.isEnabled c.level = true)
    (he : ∀ n ∈ steeringFields, e.get? n = none)
    (hcontext : ∀ n ∈ steeringFields, Attributes.get? n context = none) {final : Entry}
    (hrun : t.run (t.chain p context) c e = .ok (some final)) :
    (∀ n, n ∉ fixedFields →
      final.get? n = ((e.get? n).or (Attributes.get? n context)).map t.decoded) ∧
    final.get? "service".toList = some (.text service) ∧
    ∀ version, p.version = some version → final.get? "version".toList = some (.text version) := by
  obtain ⟨signed, hsigned, heq⟩ := h.exists_signed henabled p context e
  rw [heq, h.run_cons] at hrun
  split at hrun
  · next named hnamed =>
    obtain ⟨_, hsome, hothers⟩ := h.addLoggerName.others hnamed
    cases hsome
    have hsteering := hsigned.get?_steering he hcontext
    have hnamed' : ∀ n ∈ steeringFields, named.get? n = none := by
      intro n hn
      rw [hothers n (ne_of_mem_of_not_mem hn (by decide)), hsteering n hn]
    obtain ⟨_, hfinish, hfinished⟩ := h.exists_finished (c := c) hnamed'
    cases hrun.symm.trans hfinish
    -- No stage behind the signature touches a field that is neither the logger, the level nor the time.
    have hlast (n : Text) (hlogger : n ≠ "logger".toList) (hlevel : n ≠ "level".toList)
        (htime : n ≠ "timestamp".toList) : final.get? n = (signed.get? n).map t.decoded := by
      rw [hfinished.carried n hlevel htime, hothers n hlogger]
    refine ⟨fun n hn => ?_, ?_, fun version hversion => ?_⟩
    · simp only [fixedFields, List.mem_cons, List.not_mem_nil, or_false, not_or] at hn
      obtain ⟨-, hservice, hversion, hlogger, hlevel, htime⟩ := hn
      rw [hlast n hlogger hlevel htime, hsigned.carried n hservice hversion]
    · rw [hlast _ (by decide) (by decide) (by decide), hsigned.service, Option.map_some,
        h.decoded_text]
    · rw [hlast _ (by decide) (by decide) (by decide), hsigned.version version hversion,
        Option.map_some, h.decoded_text]
  · cases hrun
  · cases hrun

/-- **The chain makes something of every entry** that is enabled, that nothing steers and that stands
for no record. Each of its fields is a text or was carried into the chain. -/
theorem exists_run_chain (h : t.AsDocumented) (henabled : c.root.isEnabled c.level = true)
    (he : ∀ n ∈ steeringFields, e.get? n = none)
    (hcontext : ∀ n ∈ steeringFields, Attributes.get? n context = none)
    (hrecord : (e.get? recordField).or (Attributes.get? recordField context) = none) :
    ∃ final, t.run (t.chain p context) c e = .ok (some final) ∧
      ∀ n, (∃ s, final.get? n = some (.text s)) ∨
        final.get? n = ((e.get? n).or (Attributes.get? n context)).map t.decoded := by
  obtain ⟨signed, hsigned, heq⟩ := h.exists_signed henabled p context e
  have hnone : signed.get? recordField = none := by
    rw [hsigned.carried _ (by decide) (by decide), hrecord]
  obtain ⟨named, l, hname, hl, hothers⟩ := h.addLoggerName.exists_next c hnone
  have hsteering := hsigned.get?_steering he hcontext
  have hnamed : ∀ n ∈ steeringFields, named.get? n = none := by
    intro n hn
    rw [hothers n (ne_of_mem_of_not_mem hn (by decide)), hsteering n hn]
  obtain ⟨final, hfinish, hfinished⟩ := h.exists_finished (c := c) hnamed
  refine ⟨final, by rw [heq, h.run_cons_of_ok hname, hfinish], fun n => ?_⟩
  by_cases hlevel : n = "level".toList
  · exact .inl (hlevel ▸ hfinished.level)
  by_cases htime : n = "timestamp".toList
  · exact .inl (htime ▸ hfinished.time)
  rw [hfinished.carried n hlevel htime]
  by_cases hlogger : n = "logger".toList
  · exact .inl ⟨l, by rw [hlogger, hl, Option.map_some, h.decoded_text]⟩
  rw [hothers n hlogger]
  by_cases hservice : n = "service".toList
  · exact .inl ⟨service, by rw [hservice, hsigned.service, Option.map_some, h.decoded_text]⟩
  by_cases hversion : n = "version".toList
  · -- A version that is not known is like any other field.
    subst hversion
    cases hp : p.version with
    | none => exact .inr (by rw [hsigned.unversioned hp])
    | some version =>
      exact .inl ⟨version, by rw [hsigned.version version hp, Option.map_some, h.decoded_text]⟩
  exact .inr (by rw [hsigned.carried n hservice hversion])

end AsDocumented

/-! ### Rendering -/

/-- The JSON form is the entry as the toolkit puts it into JSON. -/
theorem render_json_eq_ok_iff {out : LogOutput} :
    t.render .json e = .ok out ↔ ∃ fields, t.inJson e = .ok fields ∧ out = .entry fields := by
  rw [render, Outcome.bind_eq_ok_iff]
  refine exists_congr fun fields => and_congr_right' ⟨fun h => ?_, fun h => ?_⟩
  · cases h
    rfl
  · rw [h]
    rfl

end Toolkit

end Log

end Stacktrace
