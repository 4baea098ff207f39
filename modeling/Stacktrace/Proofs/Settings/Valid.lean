import Stacktrace.Proofs.Outcome
import Stacktrace.Settings.Load

/-!
# Valid settings

Settings come from a file, from placeholders in it, from variables, from JSON in variables and from
defaults, all of which may be merged field by field. The checks stand behind the merge, so the way of
a value does not matter:

* `Schema.of_checkField` — a field is a default or a checked value;
* `Schema.of_checkSettings` — checked entries give settings within their bounds, whatever the entries
  are and wherever they come from;
* `Settings.confirm_eq_ok_iff` — what the rules that span fields add;
* `Settings.valid_of_declared` — settings whose fields are as declared are valid if these rules pass;
* `SettingsReader.ValidatesDeclared`, `SettingsReader.standard_validatesDeclared` — what is asked of a
  reader, and that the standard one does it.
-/

namespace Stacktrace

open Text

/-! ## Checks -/

namespace Schema

variable {path : List PathStep} {v : Value} {es : List (Value × Value)}

theorem both_eq_ok_iff {x : Checked α} {y : Checked β} {a : α} {b : β} :
    both x y = .ok (a, b) ↔ x = .ok a ∧ y = .ok b := by
  cases x <;> cases y <;> simp [both]

/-- A step that is checked after another one has a result only if both have. -/
theorem bind_eq_ok_iff {x : Checked α} {f : α → Checked β} {b : β} :
    x >>= f = .ok b ↔ ∃ a, x = .ok a ∧ f a = .ok b := by
  cases x with
  | error p => exact iff_of_false (fun h => by cases h) (by simp)
  | ok a =>
    show f a = .ok b ↔ _
    simp

/-- The numbers of context lines that are allowed. -/
def InBounds (n : Int) : Prop := 0 ≤ n ∧ n ≤ 50

instance (n : Int) : Decidable (InBounds n) := inferInstanceAs (Decidable (0 ≤ n ∧ n ≤ 50))

theorem inBounds_of_checkLines {n : Int} (h : checkLines path v = .ok n) : InBounds n := by
  unfold checkLines at h
  split at h
  · cases h
  · next whole _ =>
    split at h
    · cases h
    · -- the upper bound is checked before the lower one
      next hmost =>
      split at h
      · cases h
      · next hleast =>
        cases h
        exact ⟨Int.not_lt.mp hleast, Int.not_lt.mp hmost⟩

/-- The validator takes a text as it is or not at all. -/
theorem validateOrigin_eq_ok_iff {s t : Text} :
    validateOrigin s = .ok t ↔ s = t ∧ originEnd <:+ s := by
  unfold validateOrigin
  split
  · next hend => simp [List.isSuffixOf_iff_suffix.mp hend]
  · next hend =>
    have hnot : ¬ originEnd <:+ s := fun h => hend (List.isSuffixOf_iff_suffix.mpr h)
    simp [hnot]

theorem suffix_of_checkOrigin {s : Text} (h : checkOrigin path v = .ok s) : originEnd <:+ s := by
  obtain ⟨given, -, h⟩ := bind_eq_ok_iff.mp h
  split at h
  · next hvalid =>
    cases h
    obtain ⟨rfl, hend⟩ := validateOrigin_eq_ok_iff.mp hvalid
    exact hend
  · cases h

/-- **A field is its default or a value that was checked.** -/
theorem of_checkField {P : α → Prop} {name : String} {default a : α}
    {check : List PathStep → Value → Checked α} (hdefault : P default)
    (hcheck : ∀ path v a, check path v = .ok a → P a)
    (h : checkField path name es default check = .ok a) : P a := by
  unfold checkField at h
  split at h
  · cases h
    exact hdefault
  · exact hcheck _ _ _ h

/-- What the checks of single fields make sure of. -/
structure Bounded (s : Settings) : Prop where
  above : InBounds s.codeFrame.above
  below : InBounds s.codeFrame.below
  origin : originEnd <:+ s.stack.internalOrigin

theorem inBounds_of_checkCodeFrame {c : ContextLines} (h : checkCodeFrame path v = .ok c) :
    InBounds c.above ∧ InBounds c.below := by
  obtain ⟨es, -, h⟩ := bind_eq_ok_iff.mp h
  obtain ⟨⟨above, below⟩, hboth, h⟩ := bind_eq_ok_iff.mp h
  obtain ⟨habove, hbelow⟩ := both_eq_ok_iff.mp hboth
  cases h
  have hcheck : ∀ path v n, checkLines path v = .ok n → InBounds n :=
    fun _ _ _ => inBounds_of_checkLines
  exact ⟨of_checkField (by decide) hcheck habove, of_checkField (by decide) hcheck hbelow⟩

theorem suffix_of_checkStack {s : StackSettings} (h : checkStack path v = .ok s) :
    originEnd <:+ s.internalOrigin := by
  obtain ⟨es, -, h⟩ := bind_eq_ok_iff.mp h
  obtain ⟨⟨origin, marker, rewrites⟩, hboth, h⟩ := bind_eq_ok_iff.mp h
  obtain ⟨horigin, -⟩ := both_eq_ok_iff.mp hboth
  cases h
  exact of_checkField (by decide) (fun _ _ _ => suffix_of_checkOrigin) horigin

/-- **Checked entries give bounded settings**, wherever the entries come from. -/
theorem of_checkSettings {s : Settings} (h : checkSettings es = .ok s) : Bounded s := by
  obtain ⟨⟨root, codeFrame, stack, logging, rest⟩, hboth, h⟩ := bind_eq_ok_iff.mp h
  obtain ⟨-, hboth⟩ := both_eq_ok_iff.mp hboth
  obtain ⟨hcodeFrame, hboth⟩ := both_eq_ok_iff.mp hboth
  obtain ⟨hstack, -⟩ := both_eq_ok_iff.mp hboth
  cases h
  -- a part that was not given takes its default, which is within the bounds
  have hlines : InBounds codeFrame.above ∧ InBounds codeFrame.below := by
    refine of_checkField (P := fun c : ContextLines => InBounds c.above ∧ InBounds c.below) ?_
      (fun _ _ _ => inBounds_of_checkCodeFrame) hcodeFrame
    decide
  have horigin : originEnd <:+ stack.internalOrigin := by
    refine of_checkField (P := fun s : StackSettings => originEnd <:+ s.internalOrigin) ?_
      (fun _ _ _ => suffix_of_checkStack) hstack
    decide
  exact ⟨hlines.1, hlines.2, horigin⟩

theorem orFault_eq_ok_iff {x : Checked α} {a : α} : orFault x = .ok a ↔ x = .ok a := by
  cases x <;> simp [orFault]

end Schema

/-! ## Settings from their sources -/

namespace Sources

variable {environment : Environment} {v : Value} {s : Settings}

/-- Whatever is read was checked after all sources had been put together. -/
theorem exists_checkSettings_of_readSettings (h : readSettings environment v = .ok s) :
    ∃ es, Schema.checkSettings es = .ok s := by
  unfold readSettings at h
  split at h
  · next given =>
    split at h
    · cases h
    · obtain ⟨es, -, h⟩ := Outcome.bind_eq_ok_iff.mp h
      exact ⟨es, Schema.orFault_eq_ok_iff.mp h⟩
  · cases h

end Sources

namespace Settings

variable {environment : Environment} {file : SettingsFile} {v : Value} {s t : Settings}

theorem confirm_eq_ok_iff :
    s.confirm = .ok t ↔ s = t ∧ s.stack.specFrameMarker ≠ [] ∧
      ∀ r ∈ s.stack.functionNameRewrites, r.1 ≠ [] ∧ r.2 ≠ [] := by
  unfold confirm
  split
  · next hmarker => exact iff_of_false (by simp) fun h => h.2.1 (List.isEmpty_iff.mp hmarker)
  · next hmarker =>
    have hmarker : s.stack.specFrameMarker ≠ [] := fun he => hmarker (List.isEmpty_iff.mpr he)
    split
    · next hempty =>
      obtain ⟨r, hr, hside⟩ := List.any_eq_true.mp hempty
      refine iff_of_false (by simp) fun h => ?_
      -- no rewrite has an empty side, or the test would have found it
      have hsides := h.2.2 r hr
      simp_all
    · next hnone =>
      have hsides : ∀ r ∈ s.stack.functionNameRewrites, r.1 ≠ [] ∧ r.2 ≠ [] := by
        intro r hr
        refine ⟨fun he => ?_, fun he => ?_⟩ <;>
          exact hnone (List.any_eq_true.mpr ⟨r, hr, by simp [he]⟩)
      constructor
      · intro h
        cases h
        exact ⟨rfl, hmarker, hsides⟩
      · rintro ⟨rfl, -⟩
        rfl

/-- Settings that a mapper can work with. -/
structure Valid (s : Settings) : Prop where
  above : 0 ≤ s.codeFrame.above ∧ s.codeFrame.above ≤ 50
  below : 0 ≤ s.codeFrame.below ∧ s.codeFrame.below ≤ 50
  origin : "://".toList <:+ s.stack.internalOrigin
  marker : s.stack.specFrameMarker ≠ []
  rewrites : ∀ r ∈ s.stack.functionNameRewrites, r.1 ≠ [] ∧ r.2 ≠ []
  level : s.logging.level.name ∈
    ["DEBUG".toList, "INFO".toList, "WARNING".toList, "ERROR".toList, "CRITICAL".toList]
  format : s.logging.format.name ∈ ["json".toList, "console".toList]

/-! ## Declared fields -/

/-- A field with a constraint on its values, whose default keeps to it, keeps to it in the end. -/
theorem of_admits {f : DeclaredField} {P : f.Data → Prop} (h : f.Admits s) (hdefault : P f.default)
    (hgiven : ∀ given made, f.Allows given → f.validator given = .ok made → P made) : P (f.get s) := by
  rcases h with h | ⟨given, hallows, hmade⟩
  · exact h ▸ hdefault
  · exact hgiven given _ hallows hmade

/-- Fields without a validator have data that is allowed, whatever it was made of. -/
theorem inBounds_of_admits_lines {get : Settings → Int} {default : Int}
    (h : (DeclaredField.lines get default).Admits s) (hdefault : Schema.InBounds default) :
    Schema.InBounds (get s) :=
  of_admits (P := Schema.InBounds) h hdefault fun _ _ hallows hmade => by
    cases hmade
    exact hallows

theorem mem_of_admits_choice {get : Settings → Text} {choices : List Text} {default : Text}
    (h : (DeclaredField.choice get choices default).Admits s) (hdefault : default ∈ choices) :
    get s ∈ choices :=
  of_admits (P := fun text : Text => text ∈ choices) h hdefault fun _ _ hallows hmade => by
    cases hmade
    exact hallows

theorem suffix_of_admits_internalOrigin (h : internalOrigin.Admits s) :
    Schema.originEnd <:+ s.stack.internalOrigin := by
  have hdefault : Schema.originEnd <:+ "cypress://".toList := by decide
  refine of_admits (P := fun text : Text => Schema.originEnd <:+ text) h hdefault ?_
  intro given made _ hmade
  obtain ⟨rfl, hend⟩ := Schema.validateOrigin_eq_ok_iff.mp hmade
  exact hend

/-- Data that is allowed and has no validator to pass is admitted. -/
theorem admits_of_allows {f : DeclaredField} (hallows : f.Allows (f.get s))
    (hvalidator : f.validator (f.get s) = .ok (f.get s)) : f.Admits s :=
  .inr ⟨_, hallows, hvalidator⟩

/-- **Settings as declared that pass the rules across fields are valid.** -/
theorem valid_of_declared (hdeclared : ∀ f ∈ declared, f.Admits s) (hconfirm : s.confirm = .ok t) :
    t.Valid := by
  obtain ⟨rfl, hmarker, hrewrites⟩ := confirm_eq_ok_iff.mp hconfirm
  simp only [declared, List.forall_mem_cons] at hdeclared
  obtain ⟨-, habove, hbelow, horigin, -, -, hlevel, hformat, -⟩ := hdeclared
  -- the reader answers for the bounds and the choices, the confirmation for what is not empty
  exact {
    above := inBounds_of_admits_lines habove (by decide)
    below := inBounds_of_admits_lines hbelow (by decide)
    origin := suffix_of_admits_internalOrigin horigin
    marker := hmarker
    rewrites := hrewrites
    level := mem_of_admits_choice hlevel (by decide)
    format := mem_of_admits_choice hformat (by decide) }

end Settings

/-! ## Readers -/

/-- The reader does what is said about its kind: settings come out of it only with every field as it is
declared, wherever the values come from. -/
def SettingsReader.ValidatesDeclared (r : SettingsReader) : Prop :=
  ∀ environment given s, r.validate environment given = .ok s →
    ∀ f ∈ Settings.declared, f.Admits s

/-- **The standard reader validates what is declared.** -/
theorem SettingsReader.standard_validatesDeclared : standard.ValidatesDeclared := by
  intro environment given s h
  obtain ⟨es, hes⟩ := Sources.exists_checkSettings_of_readSettings h
  have hbounded : Schema.Bounded s := Schema.of_checkSettings hes
  have hlevel : s.logging.level.name ∈ Level.all.map Level.name := by
    cases s.logging.level <;> decide
  have hformat : s.logging.format.name ∈ LogFormat.all.map LogFormat.name := by
    cases s.logging.format <;> decide
  have horigin : Schema.validateOrigin s.stack.internalOrigin = .ok s.stack.internalOrigin :=
    Schema.validateOrigin_eq_ok_iff.mpr ⟨rfl, hbounded.origin⟩
  simp only [Settings.declared, List.forall_mem_cons]
  exact ⟨Settings.admits_of_allows trivial rfl, Settings.admits_of_allows hbounded.above rfl,
    Settings.admits_of_allows hbounded.below rfl, Settings.admits_of_allows trivial horigin,
    Settings.admits_of_allows trivial rfl, Settings.admits_of_allows trivial rfl,
    Settings.admits_of_allows hlevel rfl, Settings.admits_of_allows hformat rfl,
    List.forall_mem_nil _⟩

end Stacktrace
