import Stacktrace.Proofs.Settings.Document

/-!
# Loaded settings are valid

Settings come from a file, from placeholders in it, from variables, from JSON in variables and from
defaults, all of which may be merged field by field. A reader puts them together and checks them, field
by field, as they are declared; the rules that span fields come last. So the way of a value does not
matter, and neither does the reader:

* `Settings.valid_of_loadWith` — whatever is loaded is valid, with every reader that validates what is
  declared;
* `Settings.outcome_load_layered` — settings that the standard reader loads from a file, an environment
  and defaults.
-/

namespace Stacktrace.Settings

open Text

/-- **Whatever is loaded is valid**, from every file and in every environment, with every reader that
validates what is declared. -/
theorem valid_of_loadWith (r : SettingsReader) (hr : r.ValidatesDeclared) (environment : Environment)
    (file : SettingsFile) (s : Settings) (h : (loadWith r environment file).outcome = .ok s) :
    s.Valid := by
  cases file with
  | directory => cases h
  | missing path => cases h
  | text contents =>
    obtain ⟨read, hread, h⟩ := Run.outcome_bind_eq_ok_iff.mp h
    obtain ⟨-, -, h⟩ := Run.outcome_bind_eq_ok_iff.mp h
    cases Run.outcome_pure_eq_ok_iff.mp h
    obtain ⟨text, -, htext⟩ := Outcome.bind_eq_ok_iff.mp hread
    obtain ⟨document, -, hdocument⟩ := Outcome.bind_eq_ok_iff.mp htext
    -- What the reader gives is as declared, and then the rules that span fields are asked.
    obtain ⟨validated, hvalidated, hconfirm⟩ := Outcome.bind_eq_ok_iff.mp hdocument
    exact valid_of_declared (hr _ _ _ hvalidated) hconfirm

/-- An environment with a variable for a placeholder and one for a field. -/
def layeredEnvironment : Environment :=
  [("MARK".toList, "__frames".toList), ("STACK_MAPPER_STACK__INTERNAL_ORIGIN".toList, "app://".toList)]

/-- What was read is a mapping of one section with one field, and the value of the field is a text. -/
def isSection (name field value : Text) : Except Fault Value → Bool
  | .ok (.map [(.text s, .map [(.text f, .text v)])]) => s = name && f = field && v = value
  | _ => false

theorem eq_of_isSection {name field value : Text} {read : Except Fault Value}
    (h : isSection name field value read = true) :
    read = .ok (.map [(.text name, .map [(.text field, .text value)])]) := by
  unfold isSection at h
  split at h
  · simp only [Bool.and_eq_true, decide_eq_true_eq] at h
    obtain ⟨⟨rfl, rfl⟩, rfl⟩ := h
    rfl
  · cases h

def layeredFile : SettingsFile :=
  .text "stack:\n  spec_frame_marker: $\x7bMARK\x7d".toList

def layeredSettings : Settings where
  stack := { internalOrigin := "app://".toList, specFrameMarker := "__frames".toList }

theorem outcome_load_layered :
    (load layeredEnvironment layeredFile).outcome = .ok layeredSettings := by
  -- Stage by stage: the placeholder, the document, the variables, and what they give together.
  have htext : Placeholder.substitute layeredEnvironment
      (unifyLineEnds "stack:\n  spec_frame_marker: $\x7bMARK\x7d".toList)
        = .ok "stack:\n  spec_frame_marker: __frames".toList := rfl
  have hdocument : Yaml.read "stack:\n  spec_frame_marker: __frames".toList
      = .ok (fields [("stack", fields [("spec_frame_marker", .text "__frames".toList)])]) :=
    eq_of_isSection (by decide +kernel)
  have hinherited : Sources.inherited layeredEnvironment
      = .ok [(.text "stack".toList, fields [("internal_origin", .text "app://".toList)])] := rfl
  have hmerged : Value.mergeEntries [] (Value.mergeEntries
      [(.text "stack".toList, fields [("internal_origin", .text "app://".toList)])]
      [(.text "stack".toList, fields [("spec_frame_marker", .text "__frames".toList)])])
        = [(.text "stack".toList, fields [("internal_origin", .text "app://".toList),
          ("spec_frame_marker", .text "__frames".toList)])] := rfl
  have hread : Sources.readSettings layeredEnvironment
      (fields [("stack", fields [("spec_frame_marker", .text "__frames".toList)])])
        = .ok layeredSettings := by
    rw [fields, List.map_singleton,
      Sources.readSettings_of_no_options ["stack".toList] rfl (by decide) hinherited, hmerged]
    rfl
  have hsettings : ofTextWith .standard layeredEnvironment
      "stack:\n  spec_frame_marker: $\x7bMARK\x7d".toList = .ok layeredSettings := by
    refine Outcome.bind_eq_ok_iff.mpr ⟨_, htext, Outcome.bind_eq_ok_iff.mpr ⟨_, hdocument, ?_⟩⟩
    refine Outcome.bind_eq_ok_iff.mpr ⟨_, hread, ?_⟩
    exact confirm_eq_ok_iff.mpr ⟨rfl, by decide, by decide⟩
  refine Run.outcome_bind_eq_ok_iff.mpr ⟨layeredSettings, hsettings, ?_⟩
  exact Run.outcome_bind_eq_ok_iff.mpr ⟨(), rfl, rfl⟩

/-- Settings of which a part comes from the file, a part from the environment and the rest from
defaults. -/
theorem valid_of_loadWith_layered :
    (loadWith .standard layeredEnvironment layeredFile).outcome = .ok layeredSettings ∧
      layeredSettings.Valid :=
  ⟨outcome_load_layered, valid_of_loadWith .standard SettingsReader.standard_validatesDeclared
    layeredEnvironment layeredFile layeredSettings outcome_load_layered⟩

end Stacktrace.Settings
