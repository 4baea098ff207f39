import Stacktrace.Proofs.Log.History

/-!
# The bound context, over any history

The context changes with every action that binds, unbinds or clears. What is bound to a name is a
matter of the last action that settled the name, and an entry has it unless its call brings a value of
its own:

* `LogState.get?_context_perform`, `LogState.get?_context_after` — what is bound after one action, and
  after any history;
* `LogState.get?_carried_iff` — what a call carries after a history;
* `LogState.InForce.exists_written`, `LogState.get?_fields_iff` — an enabled call writes an object, and
  the object has what the call carries;
* `LogState.entry_has_context` — what its entry has, for every history and every toolkit.
-/

namespace Stacktrace

open Text

/-! ## Histories -/

namespace LogAction

/-- An action that binds a value to a name. -/
def Binds (action : LogAction) (name : Text) (v : Value) : Prop :=
  action.bound.Gives name v

/-- An action after which an earlier value for a name is gone. -/
def Settles : LogAction → Text → Prop
  | .bind values, name => ∃ a ∈ values, a.1 = name
  | .unbind names, name => name ∈ names
  | .clear, _ => True
  | .configure _ _, _ | .log _, _ => False

/-- The value that a history binds to a name: bound by the last action that settles the name. -/
def LastBound (history : List LogAction) (name : Text) (v : Value) : Prop :=
  Latest (·.Binds name v) (·.Settles name) history

/-- The value that a call carries under a name after a history: one of its own, or else the one that
is bound. -/
def Carries (history : List LogAction) (call : Log.Call) (name : Text) (v : Value) : Prop :=
  call.values.Gives name v ∨ (∀ a ∈ call.values, a.1 ≠ name) ∧ LastBound history name v

/-- A call carries a value under a name if it has one, or else if one is bound. -/
theorem exists_carries_iff {history : List LogAction} {call : Log.Call} {name : Text} :
    (∃ v, Carries history call name v) ↔
      (∃ a ∈ call.values, a.1 = name) ∨ ∃ v, LastBound history name v := by
  simp only [Carries, exists_or, exists_and_left, Attributes.exists_gives_iff]
  by_cases h : ∃ a ∈ call.values, a.1 = name
  · exact iff_of_true (.inl h) (.inl h)
  · rw [and_iff_right fun a ha hk => h ⟨a, ha, hk⟩]

/-- What holds of the values of a call and of all that was bound holds of what the call carries. -/
theorem Carries.forall {history : List LogAction} {call : Log.Call} {name : Text} {v : Value}
    {P : Text × Value → Prop} (h : Carries history call name v) (hvalues : ∀ a ∈ call.values, P a)
    (hbound : ∀ action ∈ history, ∀ a ∈ action.bound, P a) : P (name, v) := by
  rcases h with h | ⟨-, h⟩
  · exact hvalues _ h.mem
  · obtain ⟨action, haction, hbinds⟩ := Latest.exists_mem h
    exact hbound action haction _ hbinds.mem

end LogAction

namespace LogState

open Attributes (get?)

variable {t : Log.Toolkit} {p : Log.Package} {state : LogState} {action : LogAction}
  {history : List LogAction} {s : LogSettings} {call : Log.Call} {out : Log.Emission}
  {begun final : Log.Entry} {fields : Attributes} {name : Text} {v j : Value}

/-- **What one action does to a name**: it binds a value, or takes the value away, or leaves it. -/
theorem get?_context_perform (ht : t.AsDocumented) :
    get? name (state.perform t action).context = some v ↔
      action.Binds name v ∨ ¬ action.Settles name ∧ get? name state.context = some v := by
  have hnone : ¬ Attributes.Gives [] name v := Latest.not_nil
  cases action with
  | configure level format =>
    rw [context_configure]
    simp [LogAction.Binds, LogAction.Settles, LogAction.bound, hnone]
  | bind values =>
    refine ht.get?_bind.trans (or_congr_right (and_congr_left' ?_))
    -- a binding settles exactly the names it has a value for
    simp only [LogAction.Settles, not_exists, not_and]
  | unbind names =>
    refine ht.get?_unbind.trans ?_
    simp [LogAction.Binds, LogAction.Settles, LogAction.bound, hnone]
  | clear =>
    simp [perform, ht.get?_clear, LogAction.Binds, LogAction.Settles, LogAction.bound, hnone]
  | log call => simp [perform, LogAction.Binds, LogAction.Settles, LogAction.bound, hnone]

theorem after_concat (t : Log.Toolkit) (history : List LogAction) (action : LogAction) :
    after t (history ++ [action]) = (after t history).perform t action := by
  rw [after, performAll, List.foldl_append]
  rfl

/-- **What is bound after any history** is what the last action that settled the name has bound. -/
theorem get?_context_after (ht : t.AsDocumented) :
    get? name (after t history).context = some v ↔ LogAction.LastBound history name v := by
  induction history using List.reverseRecOn with
  | nil => exact iff_of_false (fun h => by cases h) Latest.not_nil
  | append_singleton history action ih =>
    unfold LogAction.LastBound at ih ⊢
    rw [after_concat, get?_context_perform ht, ih, Latest.concat_iff]

/-- **What is carried into the chain** is a value of the call or else one that is bound. -/
theorem get?_carried_iff (ht : t.AsDocumented) (hbegin : t.begin call = .ok begun)
    (harguments : call.arguments = []) (hname : name ≠ "event".toList) :
    (begun.get? name).or (get? name (after t history).context) = some v ↔
      LogAction.Carries history call name v := by
  have hgives (w : Value) : begun.get? name = some w ↔ call.values.Gives name w :=
    ht.get?_begin hbegin harguments hname
  -- The call says nothing about a name exactly if none of its values goes by it.
  have hsilent : begun.get? name = none ↔ ∀ a ∈ call.values, a.1 ≠ name := by
    rw [Option.eq_none_iff_forall_ne_some, ← not_exists]
    simp only [hgives]
    rw [Attributes.exists_gives_iff]
    simp only [not_exists, not_and]
  rw [Option.or_eq_some_iff, hgives, hsilent, get?_context_after ht]
  rfl

/-! ## One call after a history -/

/-- Nothing that steers stages is bound. -/
theorem get?_context_of_steering (ht : t.AsDocumented)
    (hbound : ∀ action ∈ history, ∀ a ∈ action.bound, a.1 ∉ Log.steeringFields) :
    ∀ n ∈ Log.steeringFields, get? n (after t history).context = none := by
  refine fun n hn => Option.eq_none_iff_forall_ne_some.mpr fun v hv => ?_
  have hstart : ∀ n v, get? n ({} : LogState).context = some v → n ∉ Log.steeringFields := nofun
  exact forall_context_performAll (P := fun a => a.1 ∉ Log.steeringFields) ht hstart hbound n v hv hn

/-- Nor does a call bring anything of the kind. -/
theorem get?_begin_of_steering (ht : t.AsDocumented) (hbegin : t.begin call = .ok begun)
    (harguments : call.arguments = []) (hpassed : ∀ a ∈ call.values, a.1 ∉ Log.steeringFields) :
    ∀ n ∈ Log.steeringFields, begun.get? n = none := by
  refine fun n hn => Option.eq_none_iff_forall_ne_some.mpr fun v hv => ?_
  have hgives := (ht.get?_begin hbegin harguments (ne_of_mem_of_not_mem hn (by decide))).mp hv
  exact hpassed _ hgives.mem hn

/-- **The entry has a JSON form** if each of its fields is a text, or is carried and has one. -/
theorem exists_inJson_of_carries (ht : t.AsDocumented) (hbegin : t.begin call = .ok begun)
    (harguments : call.arguments = [])
    (hfinal : ∀ n, (∃ text, final.get? n = some (.text text)) ∨
      final.get? n = ((begun.get? n).or (get? n (after t history).context)).map t.decoded)
    (hforms : ∀ name v, LogAction.Carries history call name v →
      ∃ j, t.toJson (t.decoded v) = .ok j) :
    ∃ fields, t.inJson final = .ok fields := by
  have htext (text : Text) : t.toJson (.text text) = .ok (.text text) := ht.toJson_eq_self (.text _)
  refine ht.exists_inJson_iff.mpr fun n v hv => ?_
  rcases hfinal n with ⟨text, hn⟩ | hcarried
  · cases hn.symm.trans hv
    exact ⟨_, htext text⟩
  · rw [hcarried] at hv
    obtain ⟨w, hw, rfl⟩ := Option.map_eq_some_iff.mp hv
    -- the event is a text of the call's own, and any other name is one that the call carries
    by_cases hn : n = "event".toList
    · subst hn
      rw [ht.event_begin hbegin] at hw
      cases hw
      exact ⟨_, (ht.decoded_text call.event).symm ▸ htext call.event⟩
    · exact hforms n w ((get?_carried_iff ht hbegin harguments hn).mp hw)

/-- **The object has a name** with the JSON form of the value that the call carries under it. -/
theorem get?_fields_iff (ht : t.AsDocumented) (hbegin : t.begin call = .ok begun)
    (harguments : call.arguments = []) (hfields : t.inJson final = .ok fields)
    (hfinal : final.get? name
      = ((begun.get? name).or (get? name (after t history).context)).map t.decoded)
    (hevent : name ≠ "event".toList) :
    get? name fields = some j ↔
      ∃ v, LogAction.Carries history call name v ∧ t.toJson (t.decoded v) = .ok j := by
  rw [ht.get?_inJson hfields, hfinal]
  simp only [Option.map_eq_some_iff, get?_carried_iff ht hbegin harguments hevent]
  constructor
  · rintro ⟨_, ⟨v, hv, rfl⟩, hj⟩
    exact ⟨v, hv, hj⟩
  · rintro ⟨v, hv, hj⟩
    exact ⟨_, ⟨v, hv, rfl⟩, hj⟩

/-- Whatever the call carries has a JSON form then. -/
theorem exists_toJson_of_carries (ht : t.AsDocumented) (hbegin : t.begin call = .ok begun)
    (harguments : call.arguments = []) (hfields : t.inJson final = .ok fields)
    (hfinal : final.get? name
      = ((begun.get? name).or (get? name (after t history).context)).map t.decoded)
    (hevent : name ≠ "event".toList) (hv : LogAction.Carries history call name v) :
    ∃ j, t.toJson (t.decoded v) = .ok j := by
  refine ht.exists_inJson_iff.mp ⟨fields, hfields⟩ name _ ?_
  rw [hfinal, (get?_carried_iff ht hbegin harguments hevent).mpr hv, Option.map_some]

/-- **A call that returns has written its object**, if it is enabled and JSON is in force. -/
theorem InForce.exists_written (ht : t.AsDocumented) (hforce : state.InForce s)
    (hform : s.format = .json) (hlevel : s.level.number ≤ call.level.number)
    (hout : state.emit t p call = .ok out) :
    ∃ begun final fields, t.begin call = .ok begun ∧
      t.run (t.chain p state.context) (state.caller call) begun = .ok (some final) ∧
      t.inJson final = .ok fields ∧ out.written = .entry fields := by
  have henabled : (state.caller call).root.isEnabled call.level = true :=
    (hforce.isEnabled_eq call.level).trans (decide_eq_true hlevel)
  obtain ⟨begun, r, hbegin, hrun, ⟨rfl, -⟩ | ⟨final, output, rfl, hrender, rfl⟩⟩ :=
    hforce.emit_eq_ok_iff.mp hout
  · exact (ht.ne_none_of_run_chain henabled hrun rfl).elim
  · rw [hform] at hrender
    obtain ⟨fields, hfields, rfl⟩ := Log.Toolkit.render_json_eq_ok_iff.mp hrender
    exact ⟨begun, final, fields, hbegin, hrun, hfields, if_pos hlevel⟩

/-! ## Whole histories -/

/-- **What is bound reaches every entry.** A call without arguments that is enabled and written in
JSON returns if it uses no name for a value that calls have for themselves, stands for no record, and
carries nothing but what has a JSON form. Whenever it returns, it has written an entry. Besides its
fixed fields, the entry has the names that the call gives a value and those that are bound, each with
the call's value or else with the value that was bound to it last and neither unbound nor cleared
since. The service is the library's in any case, and so is the version if it is known. -/
theorem entry_has_context (ht : t.AsDocumented) (hlast : LogAction.LastConfigured history s)
    (hform : s.format = .json) (hlevel : s.level.number ≤ call.level.number)
    (harguments : call.arguments = []) (hpassed : ∀ a ∈ call.values, a.1 ∉ Log.steeringFields)
    (hbound : ∀ action ∈ history, ∀ a ∈ action.bound, a.1 ∉ Log.steeringFields) :
    ((∀ a ∈ call.values, a.1 ∉ Log.ownNames) →
      (∀ v, ¬ LogAction.Carries history call Log.recordField v) →
      (∀ name v, LogAction.Carries history call name v → ∃ j, t.toJson (t.decoded v) = .ok j) →
      ∃ out, (after t history).emit t p call = .ok out) ∧
    ∀ out, (after t history).emit t p call = .ok out → ∃ fields, out.written = .entry fields ∧
      (∀ name, name ∉ Log.fixedFields →
        ((∃ j, get? name fields = some j) ↔
          (∃ a ∈ call.values, a.1 = name) ∨ ∃ v, LogAction.LastBound history name v) ∧
        ∀ v, LogAction.Carries history call name v →
          ∃ j, get? name fields = some j ∧ t.toJson (t.decoded v) = .ok j ∧ (v.IsJson → j = v)) ∧
      get? "service".toList fields = some (.text Log.service) ∧
      ∀ version, p.version = some version →
        get? "version".toList fields = some (.text version) := by
  have hforce : (after t history).InForce s := inForce_of_lastConfigured t {} hlast
  have henabled : ((after t history).caller call).root.isEnabled call.level = true :=
    (hforce.isEnabled_eq call.level).trans (decide_eq_true hlevel)
  have hcontext := get?_context_of_steering ht hbound
  constructor
  · intro hnames hrecord hforms
    obtain ⟨begun, hbegin⟩ := ht.exists_begin hnames
    have hunrecorded : (begun.get? Log.recordField).or
        (get? Log.recordField (after t history).context) = none := by
      refine Option.eq_none_iff_forall_ne_some.mpr fun v hv => hrecord v ?_
      exact (get?_carried_iff ht hbegin harguments (by decide)).mp hv
    obtain ⟨final, hrun, hfinal⟩ := ht.exists_run_chain (p := p) henabled
      (get?_begin_of_steering ht hbegin harguments hpassed) hcontext hunrecorded
    obtain ⟨fields, hfields⟩ := exists_inJson_of_carries ht hbegin harguments hfinal hforms
    exact ⟨_, hforce.emit_eq_ok_iff.mpr ⟨begun, some final, hbegin, hrun, .inr ⟨final, .entry fields,
      rfl, hform ▸ Log.Toolkit.render_json_eq_ok_iff.mpr ⟨fields, hfields, rfl⟩, rfl⟩⟩⟩
  · intro out hout
    obtain ⟨begun, final, fields, hbegin, hrun, hfields, hwritten⟩ :=
      hforce.exists_written ht hform hlevel hout
    obtain ⟨hcarried, hservice, hversion⟩ := ht.carried_of_run_chain henabled
      (get?_begin_of_steering ht hbegin harguments hpassed) hcontext hrun
    have htext (text : Text) : t.toJson (.text text) = .ok (.text text) := ht.toJson_eq_self (.text _)
    refine ⟨fields, hwritten, fun name hname => ?_, ?_, fun version hp => ?_⟩
    · -- outside the fixed fields, the object has the JSON forms of what the call carries
      have hevent : name ≠ "event".toList := fun h => hname (h ▸ by decide)
      have hget (j : Value) :=
        get?_fields_iff (j := j) ht hbegin harguments hfields (hcarried name hname) hevent
      have hforms {v : Value} := exists_toJson_of_carries (v := v) ht hbegin harguments hfields
        (hcarried name hname) hevent
      constructor
      · rw [← LogAction.exists_carries_iff]
        constructor
        · rintro ⟨j, hj⟩
          obtain ⟨v, hv, -⟩ := (hget j).mp hj
          exact ⟨v, hv⟩
        · rintro ⟨v, hv⟩
          obtain ⟨j, hj⟩ := hforms hv
          exact ⟨j, (hget j).mpr ⟨v, hv, hj⟩⟩
      · intro v hv
        obtain ⟨j, hj⟩ := hforms hv
        refine ⟨j, (hget j).mpr ⟨v, hv, hj⟩, hj, fun hjson => ?_⟩
        rw [ht.decoded_eq_self hjson.not_bytes, ht.toJson_eq_self hjson] at hj
        exact (Except.ok.inj hj).symm
    · exact (ht.get?_inJson hfields).mpr ⟨_, hservice, htext Log.service⟩
    · exact (ht.get?_inJson hfields).mpr ⟨_, hversion version hp, htext version⟩

/-- Values that are bound, bound again and unbound, with a configuration and a log call between. -/
def rebinding : List LogAction :=
  [.bind [("spec".toList, .text "login.cy.js".toList), ("run".toList, .int 7),
      ("service".toList, .text "runner".toList)],
    .configure "debug".toList "json".toList, .unbind ["browser".toList], .log (testFailed .error),
    .bind [("spec".toList, .text "logout.cy.js".toList), ("attempt".toList, .int 1)],
    .unbind ["run".toList]]

theorem lastConfigured_rebinding :
    LogAction.LastConfigured rebinding { level := .debug, format := .json } := by
  refine ⟨rebinding.take 1, .configure "debug".toList "json".toList, rebinding.drop 2, rfl,
    ⟨_, _, rfl, ⟨by decide, by decide⟩⟩, fun action haction t => ?_⟩
  rintro ⟨level, format, rfl, -⟩
  simp [rebinding] at haction

theorem entry_has_context_rebinding :
    ∃ out fields, (after Log.standard rebinding).emit Log.standard .current (testFailed .info)
        = .ok out ∧ out.written = .entry fields ∧
      get? "spec".toList fields = some (.text "logout.cy.js".toList) ∧
      get? "attempt".toList fields = some (.int 2) ∧
      get? "run".toList fields = none ∧
      get? "service".toList fields = some (.text Log.service) ∧
      get? "version".toList fields = some (.text "0.1.0".toList) := by
  have hbound : ∀ action ∈ rebinding, ∀ a ∈ action.bound, a.1 ∉ Log.steeringFields := by
    simp only [rebinding, List.forall_mem_cons, LogAction.bound]
    decide
  -- every value of this history is its own JSON value, so nothing is changed on the way
  have hcarried {name : Text} {v : Value}
      (h : LogAction.Carries rebinding (testFailed .info) name v) :
      v.IsJson ∧ name ≠ Log.recordField := by
    refine h.forall (P := fun a => a.2.IsJson ∧ a.1 ≠ Log.recordField) ?_ ?_
    · exact List.forall_mem_singleton.mpr ⟨.int (by decide), by decide⟩
    · have hrun : (Value.int 7).IsJson := .int (by decide)
      have hattempt : (Value.int 1).IsJson := .int (by decide)
      simp only [rebinding, List.forall_mem_cons, List.not_mem_nil, LogAction.bound,
        Value.IsJson.text, hrun, hattempt, IsEmpty.forall_iff, implies_true, and_self, true_and,
        and_true]
      decide
  have henabled : Level.debug.number ≤ (testFailed .info).level.number := by decide
  have ht := Log.standard_asDocumented
  obtain ⟨hreturns, hentry⟩ := entry_has_context (p := .current) ht lastConfigured_rebinding rfl
    henabled rfl (by decide) hbound
  obtain ⟨out, hout⟩ := hreturns (by decide) (fun v hv => (hcarried hv).2 rfl) fun name v hv =>
    ⟨v, by rw [ht.decoded_eq_self (hcarried hv).1.not_bytes, ht.toJson_eq_self (hcarried hv).1]⟩
  obtain ⟨fields, hfields, hnames, hservice, hversion⟩ := hentry out hout
  -- the second test rebinds the attempt and keeps the spec; the run was cleared
  have hspec : LogAction.Carries rebinding (testFailed .info) "spec".toList
      (.text "logout.cy.js".toList) := .inr ⟨by decide, (get?_context_after ht).mp rfl⟩
  have hattempt : LogAction.Carries rebinding (testFailed .info) "attempt".toList (.int 2) :=
    .inl ⟨[], _, [], rfl, rfl, List.forall_mem_nil _⟩
  have hrun : ¬ ∃ j, get? "run".toList fields = some j := by
    rw [(hnames _ (by decide)).1]
    rintro (hpassed | ⟨v, hv⟩)
    · revert hpassed
      decide
    · cases (get?_context_after ht).mpr hv
  obtain ⟨spec, hspec', -, hspecJson⟩ := (hnames _ (by decide)).2 _ hspec
  obtain ⟨attempt, hattempt', -, hattemptJson⟩ := (hnames _ (by decide)).2 _ hattempt
  cases hspecJson (hcarried hspec).1
  cases hattemptJson (hcarried hattempt).1
  exact ⟨out, fields, hout, hfields, hspec', hattempt', Option.eq_none_iff_forall_ne_some.mpr
    fun j hj => hrun ⟨j, hj⟩, hservice, hversion _ rfl⟩

end LogState

end Stacktrace
