import Stacktrace.Proofs.Settings.Valid

/-!
# Documents of settings

The rules for settings keep nothing out that a mapper could work with: every valid settings can be
written down as a document, and the document gives them back.

* `Value.mergeEntries_of_disjoint` — entries with other keys are added at the end;
* `Sources.readSettings_of_no_options` — without options and variables, the given values are what is
  checked;
* `Schema.checkEntries_of_nodup` — rewrites with different names are taken over as they are;
* `Settings.ofDocument_document` — the document of valid settings is read as these settings.
-/

namespace Stacktrace

open Text

/-! ## Merging -/

namespace Value

variable {name : Text} {names : List Text} {v : Value} {es olds news : List (Value × Value)}

/-- Keys that are texts are the same if the texts are. -/
theorem sameKey_text (a b : Text) : sameKey (.text a) (.text b) = (a == b) := rfl

/-- A name that is not among the keys has no entry. -/
theorem lookupKey_of_notMem (hes : es.map Prod.fst = names.map text) (h : name ∉ names) :
    lookupKey (.text name) es = none := by
  induction es generalizing names with
  | nil => rfl
  | cons e es ih =>
    cases names with
    | nil => cases hes
    | cons n names =>
      obtain ⟨k, old⟩ := e
      obtain ⟨rfl, hrest⟩ := List.cons.inj hes
      have hne : n ≠ name := fun he => h (he ▸ List.mem_cons_self)
      rw [lookupKey, sameKey_text, if_neg (by simpa using hne)]
      exact ih hrest fun hm => h (List.mem_cons_of_mem n hm)

/-- An entry with a new key is added at the end. -/
theorem putKey_of_notMem (hes : es.map Prod.fst = names.map text) (h : name ∉ names) :
    putKey (.text name) v es = es ++ [(.text name, v)] := by
  induction es generalizing names with
  | nil => rfl
  | cons e es ih =>
    cases names with
    | nil => cases hes
    | cons n names =>
      obtain ⟨k, old⟩ := e
      obtain ⟨rfl, hrest⟩ := List.cons.inj hes
      have hne : n ≠ name := fun he => h (he ▸ List.mem_cons_self)
      rw [putKey, sameKey_text, if_neg (by simpa using hne), List.cons_append,
        ih hrest fun hm => h (List.mem_cons_of_mem n hm)]

/-- **Entries with keys of their own are added** behind those that are there. -/
theorem mergeEntries_of_disjoint (oldNames names : List Text)
    (holds : olds.map Prod.fst = oldNames.map text) (hnews : news.map Prod.fst = names.map text)
    (h : (oldNames ++ names).Nodup) : mergeEntries olds news = olds ++ news := by
  -- Each new entry joins the old ones, so the names that are taken grow with the induction.
  induction news generalizing olds oldNames names with
  | nil => rw [mergeEntries, List.append_nil]
  | cons e news ih =>
    cases names with
    | nil => cases hnews
    | cons n names =>
      obtain ⟨k, v⟩ := e
      obtain ⟨rfl, hrest⟩ := List.cons.inj hnews
      have hn : n ∉ oldNames := fun hm =>
        (List.nodup_append.mp h).2.2 n hm n List.mem_cons_self rfl
      rw [mergeEntries, lookupKey_of_notMem holds hn]
      dsimp only
      rw [putKey_of_notMem holds hn, ih (oldNames ++ [n]) names ?_ hrest ?_]
      · rw [List.append_assoc, List.singleton_append]
      · rw [List.map_append, List.map_append, holds]
        rfl
      · rwa [List.append_assoc, List.singleton_append]

end Value

/-! ## Given values without options -/

/-- Options are told from fields by their first character. -/
theorem Options.head?_of_mem_names : ∀ n ∈ names, n.head? = some '_' := by
  simp [names]

/-- Where nothing is an option, all that is given is a field. -/
theorem Options.split_of_forall {given : List (Value × Value)}
    (h : ∀ e ∈ given, isOption e = false) : split given = ({}, given) := by
  unfold split
  rw [List.partition_eq_filter_filter, List.filter_eq_nil_iff.mpr (by simpa using h),
    List.filter_eq_self.mpr (by simpa using h)]

namespace Sources

variable {environment : Environment} {given : List (Value × Value)}

/-- What variables give where no option says otherwise. -/
def inherited (environment : Environment) : Except Fault (List (Value × Value)) :=
  environmentEntries {} (some Options.standardLead) (some { mark := Options.standardMark }) environment

/-- Without options, what is gathered are the given values over those of the variables. -/
theorem gather_of_no_options :
    gather {} environment given
      = (inherited environment).map fun es => Value.mergeEntries [] (Value.mergeEntries es given) := by
  have hnil : Value.mergeEntries given [] = given := by rw [Value.mergeEntries]
  show (inherited environment >>= fun es => (Except.ok (Value.mergeEntries []
    (Value.mergeEntries es (Value.mergeEntries given []))) : Except Fault _)) = _
  rw [hnil]
  cases inherited environment <;> rfl

/-- Given values without options are laid over what variables give, and checked. -/
theorem readSettings_of_no_options {es : List (Value × Value)} (names : List Text)
    (hkeys : given.map Prod.fst = names.map .text) (hoptions : ∀ n ∈ names, n.head? ≠ some '_')
    (hinherited : inherited environment = .ok es) :
    readSettings environment (.map given)
      = Schema.orFault (Schema.checkSettings (Value.mergeEntries [] (Value.mergeEntries es given))) := by
  -- Every key is one of the names, and none of the names is that of an option.
  have hname : ∀ e ∈ given, ∃ n ∈ names, e.1 = .text n := by
    intro e he
    have hmem := List.mem_map_of_mem (f := Prod.fst) he
    rw [hkeys] at hmem
    obtain ⟨n, hn, hk⟩ := List.mem_map.mp hmem
    exact ⟨n, hn, hk.symm⟩
  have htext : (given.all fun e => isTextKey e.1) = true := by
    refine List.all_eq_true.mpr fun e he => ?_
    obtain ⟨n, -, hk⟩ := hname e he
    rw [hk]
    rfl
  have hplain : ∀ e ∈ given, Options.isOption e = false := by
    intro e he
    obtain ⟨n, hn, hk⟩ := hname e he
    obtain ⟨k, v⟩ := e
    cases hk
    have hnot : n ∉ Options.names := fun hm => hoptions n hn (Options.head?_of_mem_names n hm)
    show Options.names.contains n = false
    simpa using hnot
  unfold readSettings
  dsimp only
  rw [htext, if_neg (by decide), Options.split_of_forall hplain]
  dsimp only
  rw [gather_of_no_options, hinherited]
  rfl

end Sources

/-! ## Checks that let values pass -/

namespace Schema

variable {path : List PathStep}

/-- A number of lines within the bounds is taken over. -/
theorem checkLines_of_inBounds {n : Int} (h : InBounds n) : checkLines path (.int n) = .ok n := by
  show (if n > 50 then _ else if n < 0 then _ else _) = _
  rw [if_neg (Int.not_lt.mpr h.2), if_neg (Int.not_lt.mpr h.1)]

/-- An origin with the right end is taken over. -/
theorem checkOrigin_of_suffix {s : Text} (h : originEnd <:+ s) : checkOrigin path (.text s) = .ok s := by
  refine bind_eq_ok_iff.mpr ⟨s, rfl, ?_⟩
  rw [validateOrigin_eq_ok_iff.mpr ⟨rfl, h⟩]
  rfl

/-- The name of a level stands for the level. -/
theorem checkLevel_name (l : Level) : checkLevel path (.text l.name) = .ok l := by
  cases l <;> rfl

/-- The name of a form stands for the form. -/
theorem checkFormat_name (f : LogFormat) : checkFormat path (.text f.name) = .ok f := by
  cases f <;> rfl

/-- A rewrite of a new name is added at the end. -/
theorem putRewrite_of_notMem {name target : Text} {found : Rewrites}
    (h : name ∉ found.map Prod.fst) : putRewrite name target found = found ++ [(name, target)] := by
  induction found with
  | nil => rfl
  | cons r found ih =>
    obtain ⟨k, v⟩ := r
    have hne : k ≠ name := fun he => h (he ▸ List.mem_cons_self)
    rw [putRewrite, if_neg hne, ih fun hm => h (List.mem_cons_of_mem k hm), List.cons_append]

/-- **Rewrites with different names are taken over** in their order. -/
theorem checkEntries_of_nodup {found rewrites : Rewrites}
    (h : ((found ++ rewrites).map Prod.fst).Nodup) :
    checkEntries path found (rewrites.map fun r => (.text r.1, .text r.2))
      = .ok (found ++ rewrites) := by
  -- each rewrite joins those found before, so the names that are taken grow with the induction
  induction rewrites generalizing found with
  | nil => rw [List.append_nil, List.map_nil, checkEntries]
  | cons r rewrites ih =>
    obtain ⟨name, target⟩ := r
    have hname : name ∉ found.map Prod.fst := by
      rw [List.map_append, List.map_cons] at h
      exact fun hm => (List.nodup_append.mp h).2.2 name hm name List.mem_cons_self rfl
    have hassoc : found ++ (name, target) :: rewrites = found ++ [(name, target)] ++ rewrites := by
      rw [List.append_assoc, List.singleton_append]
    rw [List.map_cons, checkEntries]
    show checkEntries path (putRewrite name target found) _ = _
    rw [putRewrite_of_notMem hname, ih (by rwa [← hassoc]), hassoc]

end Schema

/-! ## The document -/

namespace Settings

def fields (es : List (String × Value)) : Value :=
  .map (es.map fun e => (.text e.1.toList, e.2))

/-- The entries of a document are looked up by their names. -/
theorem entry?_fields (name : String) (es : List (String × Value)) :
    Value.entry? name.toList (es.map fun e => (.text e.1.toList, e.2)) = es.lookup name := by
  induction es with
  | nil => rfl
  | cons e es ih =>
    obtain ⟨k, v⟩ := e
    show (if k.toList = name.toList then some v else Value.entry? name.toList (es.map _)) = _
    rw [ih, List.lookup_cons]
    by_cases h : k = name
    · simp [h]
    · -- two names are the same name exactly when their texts are
      have hlist : k.toList ≠ name.toList := fun he => h (String.toList_inj.mp he)
      have hbeq : (name == k) = false := by simpa using Ne.symm h
      simp [hlist, hbeq]

/-- A field that is there is checked. -/
theorem checkField_fields {path : List PathStep} {name : String} {es : List (String × Value)}
    {default a : α} {v : Value} {check : List PathStep → Value → Schema.Checked α}
    (h : ∀ path, check path v = .ok a) (hv : es.lookup name = some v) :
    Schema.checkField path name (es.map fun e => (.text e.1.toList, e.2)) default check = .ok a := by
  rw [Schema.checkField, entry?_fields, hv]
  exact h _

def codeFrameDocument (c : ContextLines) : Value :=
  fields [("lines_above", .int c.above), ("lines_below", .int c.below)]

def stackDocument (s : StackSettings) : Value :=
  fields [("internal_origin", .text s.internalOrigin), ("spec_frame_marker", .text s.specFrameMarker),
    ("function_name_rewrites", .map (s.functionNameRewrites.map fun r => (.text r.1, .text r.2)))]

def loggingDocument (s : LogSettings) : Value :=
  fields [("level", .text s.level.name), ("format", .text s.format.name)]

def documentEntries (s : Settings) : List (String × Value) :=
  [("project_root", .text s.projectRoot), ("code_frame", codeFrameDocument s.codeFrame),
    ("stack", stackDocument s.stack), ("logging", loggingDocument s.logging)]

/-- Settings as a document, with every field. -/
def document (s : Settings) : Value := fields s.documentEntries

open Schema in
/-- The sections of a document pass their checks, and nothing else stands in it. -/
theorem checkSettings_document {s : Settings} (h : s.Valid)
    (hnames : (s.stack.functionNameRewrites.map Prod.fst).Nodup) :
    checkSettings (s.documentEntries.map fun e => (.text e.1.toList, e.2))
      = .ok { s with projectRoot := Path.tidied s.projectRoot } := by
  obtain ⟨root, codeFrame, stack, logging⟩ := s
  have habove : ∀ path, checkLines path (.int codeFrame.above) = .ok codeFrame.above :=
    fun _ => checkLines_of_inBounds h.above
  have hbelow : ∀ path, checkLines path (.int codeFrame.below) = .ok codeFrame.below :=
    fun _ => checkLines_of_inBounds h.below
  have horigin : ∀ path, checkOrigin path (.text stack.internalOrigin) = .ok stack.internalOrigin :=
    fun _ => checkOrigin_of_suffix h.origin
  -- no name twice, so no later rewrite replaces an earlier one
  have hrewrites : ∀ path, checkRewrites path
      (.map (stack.functionNameRewrites.map fun r => (.text r.1, .text r.2)))
        = .ok stack.functionNameRewrites := fun _ => checkEntries_of_nodup hnames
  have hcodeFrame : ∀ path, checkCodeFrame path (codeFrameDocument codeFrame) = .ok codeFrame :=
    fun path => bind_eq_ok_iff.mpr ⟨_, rfl, bind_eq_ok_iff.mpr ⟨(codeFrame.above, codeFrame.below),
      both_eq_ok_iff.mpr ⟨checkField_fields habove rfl, checkField_fields hbelow rfl⟩, rfl⟩⟩
  have hstack : ∀ path, checkStack path (stackDocument stack) = .ok stack := fun path =>
    bind_eq_ok_iff.mpr ⟨_, rfl, bind_eq_ok_iff.mpr
      ⟨(stack.internalOrigin, stack.specFrameMarker, stack.functionNameRewrites),
        both_eq_ok_iff.mpr ⟨checkField_fields horigin rfl, both_eq_ok_iff.mpr
          ⟨checkField_fields (fun _ => rfl) rfl, checkField_fields hrewrites rfl⟩⟩, rfl⟩⟩
  have hlogging : ∀ path, checkLogging path (loggingDocument logging) = .ok logging := fun path =>
    bind_eq_ok_iff.mpr ⟨_, rfl, bind_eq_ok_iff.mpr ⟨(logging.level, logging.format),
      both_eq_ok_iff.mpr ⟨checkField_fields (fun _ => checkLevel_name _) rfl,
        checkField_fields (fun _ => checkFormat_name _) rfl⟩, rfl⟩⟩
  -- a written document names only the fields the settings have
  have hunknown : checkUnknown
      ((documentEntries ⟨root, codeFrame, stack, logging⟩).map fun e => (.text e.1.toList, e.2))
        = .ok () := by
    simp [documentEntries, checkUnknown, rootFields]
  exact bind_eq_ok_iff.mpr ⟨(Path.tidied root, codeFrame, stack, logging, ()),
    both_eq_ok_iff.mpr ⟨checkField_fields (fun _ => rfl) rfl,
      both_eq_ok_iff.mpr ⟨checkField_fields hcodeFrame rfl,
        both_eq_ok_iff.mpr ⟨checkField_fields hstack rfl,
          both_eq_ok_iff.mpr ⟨checkField_fields hlogging rfl, hunknown⟩⟩⟩⟩, rfl⟩

/-- **Every valid settings have a document.** Only the root directory comes back tidied. -/
theorem ofDocument_document {s : Settings} (h : s.Valid)
    (hnames : (s.stack.functionNameRewrites.map Prod.fst).Nodup) :
    ofDocument [] s.document = .ok { s with projectRoot := Path.tidied s.projectRoot } := by
  have hkeys : (s.documentEntries.map fun e => (Value.text e.1.toList, e.2)).map Prod.fst
      = ("project_root".toList :: Field.sections).map .text := rfl
  -- Nothing is there that the document could be merged with.
  have hmerged : Value.mergeEntries [] (s.documentEntries.map fun e => (.text e.1.toList, e.2))
      = s.documentEntries.map fun e => (.text e.1.toList, e.2) :=
    Value.mergeEntries_of_disjoint [] ("project_root".toList :: Field.sections) rfl hkeys (by decide)
  have hread : Sources.readSettings [] s.document
      = .ok { s with projectRoot := Path.tidied s.projectRoot } := by
    rw [document, fields, Sources.readSettings_of_no_options _ hkeys (by decide) rfl, hmerged, hmerged,
      checkSettings_document h hnames]
    rfl
  -- what the sources give is confirmed once more, marker and rewrites included
  refine Outcome.bind_eq_ok_iff.mpr ⟨_, hread, ?_⟩
  exact confirm_eq_ok_iff.mpr ⟨rfl, h.marker, h.rewrites⟩

end Settings

end Stacktrace
