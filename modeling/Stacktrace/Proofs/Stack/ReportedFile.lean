import Stacktrace.Proofs.Frame.ReportedCall
import Stacktrace.Proofs.Stack.Questions

/-!
# The file that is asked about

The readers take the parentheses around a location away by dropping every parenthesis of it. A file
has no others as a rule, but a path may: `http://host/app/(group)/page.js` is reported as
`http://host/app/group/page.js`, and under that name the resolver is asked for it.

* `ReportedCall.IsPlain.read_written` — a plain call is taken apart in either syntax, whatever
  parentheses its file has;
* `ReportedCall.file_reported_iff` — the file that is reported is the file of the call if and only if no
  parenthesis is in it;
* `ReportedCall.file_verbatim_iff` — so it is with the question that the line leads to.
-/

namespace Stacktrace

open Text Numeral

namespace ReportedCall

/-- A call without anything that the readers look for, but that there may be parentheses in the
file. -/
structure IsPlain (c : ReportedCall) : Prop where
  name_solid : ∀ x ∈ c.name, isBlank x = false
  name_open : '(' ∉ c.name
  name_at : '@' ∉ c.name
  name_quote : '"' ∉ c.name
  file_solid : ∀ x ∈ c.file, isBlank x = false
  file_quote : '"' ∉ c.file
  /-- The file is none that the engine made up. -/
  file_real : c.file ∉ Chromium.pseudoFiles

/-- The call as an engine writes it. -/
def written (c : ReportedCall) : Dialect → Text
  | .chromium => c.chromium
  | .firefox => c.firefox

/-- What is reported of it. Chromium's reader drops pseudo files, once the parentheses are gone. -/
def reported (c : ReportedCall) : Dialect → FrameFields
  | .chromium => RawFrame.fields ⟨some c.name, Chromium.dropPseudoFile c.place⟩
  | .firefox => RawFrame.fields ⟨some c.name, c.place⟩

/-! ## Plain texts -/

/-- The location behind its opening parenthesis. -/
def closedLocation (c : ReportedCall) : Text :=
  c.location ++ [')']

variable {c : ReportedCall}

/-- The call in Chromium's syntax: keyword, name, and location in parentheses. -/
theorem chromium_eq (c : ReportedCall) :
    c.chromium = [] ++ (['a', 't', ' '] ++ ([] ++ (c.name ++ ' ' :: '(' :: c.closedLocation))) := by
  simp [chromium, uniformText, closedLocation, location, placed, Placed.text, Placed.place,
    Placed.closing]

/-- A location in parentheses is never as short as the parenthesis alone. -/
theorem two_le_length_closedLocation (c : ReportedCall) : 2 ≤ c.closedLocation.length := by
  simp only [closedLocation, location, Placed.text, Placed.place, List.length_append,
    List.length_cons]
  omega

namespace IsPlain

/-- The location of a plain call has no blanks. -/
theorem blank_notMem_location (h : c.IsPlain) {x : Char} (hx : isBlank x = true) :
    x ∉ c.location := by
  rw [location, Placed.text, List.mem_append, not_or]
  exact ⟨notMem_of_solid h.file_solid hx, Placed.blank_notMem_place _ hx⟩

/-- Nor has it any with the parentheses around it. -/
theorem blank_notMem_closedLocation (h : c.IsPlain) {x : Char} (hx : isBlank x = true) :
    x ∉ '(' :: c.closedLocation := by
  have hopen : x ≠ '(' := ne_of_isBlank hx (by decide)
  have hclose : x ≠ ')' := ne_of_isBlank hx (by decide)
  simp [closedLocation, hopen, hclose, h.blank_notMem_location hx]

/-- A plain call in Firefox's syntax has no blanks at all. -/
theorem blank_notMem_firefox (h : c.IsPlain) {x : Char} (hx : isBlank x = true) :
    x ∉ c.firefox := by
  have hat : x ≠ '@' := ne_of_isBlank hx (by decide)
  simp [firefox, notMem_of_solid h.name_solid hx, hat, h.blank_notMem_location hx]

/-- A plain call in Chromium's syntax is on one line. -/
theorem newline_notMem_chromium (h : c.IsPlain) : '\n' ∉ c.chromium := by
  have hname : '\n' ∉ c.name := notMem_of_solid h.name_solid isBlank_newline
  rw [c.chromium_eq]
  simp [hname, closedLocation, h.blank_notMem_location isBlank_newline]

/-- No parenthesis has a space behind it that would make it an eval wrapper. -/
theorem not_evalMark_infix (h : c.IsPlain) : ¬ Chromium.evalMark <:+: c.chromium := by
  intro hmark
  have hfront : '(' ∉ ['a', 't', ' '] ++ (c.name ++ [' ']) := by simp [h.name_open]
  have hsplit : c.chromium = (['a', 't', ' '] ++ (c.name ++ [' '])) ++ '(' :: c.closedLocation := by
    rw [c.chromium_eq]
    simp
  rw [hsplit, Chromium.evalMark, infix_append_iff_of_notMem hfront] at hmark
  exact h.blank_notMem_closedLocation isBlank_space (hmark.mem (by decide))

/-! ## Chromium's syntax -/

/-- Behind the keyword and its blanks stands the name, or the location at once. -/
theorem namedPart_chromium (h : c.IsPlain) :
    Chromium.namedPart c.chromium = (c.name ++ ' ' :: '(' :: c.closedLocation).dropWhile isBlank := by
  have hnl := h.newline_notMem_chromium
  have hkeep : ¬ Chromium.LosesText c.chromium := fun hloss => h.not_evalMark_infix hloss.1
  rw [c.chromium_eq] at hnl hkeep ⊢
  obtain ⟨hnamed, hrest, -⟩ :=
    Chromium.namedPart_keyword (w := []) (by simp) Chromium.isPassed_nil hnl
  rw [hnamed, hrest hkeep, List.nil_append]

/-- The location is read as the place of the call, with the parentheses around it. -/
theorem read_closedLocation (h : c.IsPlain) :
    Place.read ('(' :: c.closedLocation) = .ok c.place := by
  have htext : (c.placed ('(' :: c.file) true).text = '(' :: c.closedLocation := by
    simp [closedLocation, location, placed, Placed.text, Placed.place, Placed.closing]
  rw [← htext]
  exact c.read_place (htext ▸ h.blank_notMem_closedLocation isBlank_newline) rfl

/-- Chromium's reader takes a plain call apart; an empty name counts as none. -/
theorem chromium_read (h : c.IsPlain) : Chromium.read c.chromium =
    .ok ⟨if c.name.isEmpty then none else some c.name, Chromium.dropPseudoFile c.place⟩ := by
  have hspace : ' ' ∉ '(' :: c.closedLocation := h.blank_notMem_closedLocation isBlank_space
  have hnamed := h.namedPart_chromium
  cases hname : c.name with
  | nil =>
    rw [hname] at hnamed
    replace hnamed : Chromium.namedPart c.chromium = '(' :: c.closedLocation := hnamed
    have hnl := Chromium.notMem_namedPart h.newline_notMem_chromium
    -- a location that is looked for opens behind a space, and there is none
    have hnone : Chromium.findLocation (Chromium.namedPart c.chromium) = none := by
      rw [Option.eq_none_iff_forall_ne_some]
      intro location hsome
      obtain ⟨name, rest, hsplit, -⟩ := Chromium.findLocation_eq_some hnl hsome
      exact hspace (hnamed ▸ hsplit ▸ List.mem_append_right name List.mem_cons_self)
    rw [Chromium.read_eq, hnone, hnamed, h.read_closedLocation]
    rfl
  | cons y ys =>
    have hsolid : isBlank y = false := h.name_solid y (by rw [hname]; exact List.mem_cons_self)
    have hwhole : ¬ [' ', '('] <:+: c.name := fun hin =>
      notMem_of_solid h.name_solid isBlank_space (hin.mem List.mem_cons_self)
    have hsplit : Chromium.namedPart c.chromium = c.name ++ ' ' :: '(' :: c.closedLocation := by
      rw [hnamed, hname, List.cons_append, List.dropWhile_cons_of_neg (by simp [hsolid])]
    rw [Chromium.read_named h.newline_notMem_chromium hsplit (by simp [hname]) hwhole
      c.two_le_length_closedLocation (by simp [closedLocation]), h.read_closedLocation, hname]
    rfl

/-! ## Reading -/

/-- **A plain call is taken apart** in either syntax. -/
theorem read_written (h : c.IsPlain) (d : Dialect) :
    Frame.read (c.written d) = .ok (.frame (c.reported d)) := by
  cases d with
  | chromium =>
    have hread : Frame.read c.chromium = (Chromium.read c.chromium).map _ :=
      Frame.read_uniformText (List.forall_mem_nil _) h.newline_notMem_chromium c.line_run
        c.column_run
    -- the pseudo file is dropped with its line kept, so a frame is left
    have hline : (Chromium.dropPseudoFile c.place).line.isSome = true := by
      rw [Chromium.dropPseudoFile_line]
      exact c.isSome_place_line
    show Frame.read c.chromium = _
    rw [hread, h.chromium_read]
    show Except.ok (Frame.RawFrame.reading .chromium _) = _
    rw [Frame.reading_eq_frame (.inr hline), RawFrame.fields, Frame.cleanName_of_isEmpty]
    rfl
  | firefox =>
    have hspace : ' ' ∉ c.firefox := h.blank_notMem_firefox isBlank_space
    have hlocation : '"' ∉ c.location := c.notMem_location (by decide) (by decide) h.file_quote
    have hquotes : '"' ∉ c.name ++ '@' :: c.location := by simp [h.name_quote, hlocation]
    have hcut : Firefox.cutName? c.firefox = some (c.name, c.location) :=
      Firefox.cutName?_append hquotes h.name_at
    exact c.read_firefox (h.blank_notMem_firefox isBlank_newline)
      (fun x hx => h.name_solid x (List.mem_of_mem_head? hx))
      (fun hp => hspace (hp.mem (by decide))) (fun hin => hspace (hin.mem (by decide))) hcut

end IsPlain

/-! ## The file -/

/-- The file is the one that was written exactly if no parenthesis was dropped from it. -/
theorem place_file_eq_some_iff (c : ReportedCall) :
    c.place.file = some c.file ↔ '(' ∉ c.file ∧ ')' ∉ c.file := by
  constructor
  · intro h
    unfold place at h
    split at h
    · next hnil =>
      -- a file that holds a colon does not become empty
      have hcolon : ':' ∈ Place.dropParentheses c.file := by
        rw [Place.mem_dropParentheses, ← Option.some.inj h]
        simp
      rw [hnil] at hcolon
      cases hcolon
    · exact Place.dropParentheses_eq_self_iff.mp (Option.some.inj h)
  · rintro ⟨ho, hc⟩
    rw [c.place_of_notMem ho hc]

/-- **The file is reported as it is** if and only if it has no parentheses. -/
theorem file_reported_iff (h : c.IsPlain) (d : Dialect) :
    (c.reported d).file = some c.file ↔ '(' ∉ c.file ∧ ')' ∉ c.file := by
  cases d with
  | chromium =>
    show (Chromium.dropPseudoFile c.place).file = some c.file ↔ _
    rw [Chromium.dropPseudoFile_file_eq_some_iff, c.place_file_eq_some_iff]
    exact and_iff_left h.file_real
  | firefox => exact c.place_file_eq_some_iff

/-- Where nothing is lost, the parts are reported as they are. -/
theorem reported_eq_fields (h : c.IsPlain) (d : Dialect) (ho : '(' ∉ c.file) (hc : ')' ∉ c.file) :
    c.reported d = c.fields := by
  -- with no parenthesis in the file, none is deleted
  have hplace := c.place_of_notMem ho hc
  cases d with
  | chromium =>
    rw [reported, Chromium.dropPseudoFile_of_notMem (by rw [hplace]) h.file_real, hplace]
    rfl
  | firefox =>
    rw [reported, hplace]
    rfl

/-! ## The question -/

/-- The question for the source position of the call. -/
def question (c : ReportedCall) : Query :=
  .position c.file ⟨c.file, value c.line, value c.column⟩

/-- The parts of a call, as they are, lead to the question about the call. -/
theorem question?_fields (c : ReportedCall) : c.fields.question? = some c.question := by
  obtain ⟨x, xs, hfile⟩ := List.exists_cons_of_ne_nil c.file_ne_nil
  rw [FrameFields.question?_eq_some_iff]
  refine ⟨x, xs, value c.line, ?_, rfl, ?_⟩
  · rw [fields, hfile]
  · rw [question, hfile]
    rfl

/-- What is reported leads to that question exactly if the file has no parentheses. -/
theorem question?_reported_iff (h : c.IsPlain) (d : Dialect) :
    (c.reported d).question? = some c.question ↔ '(' ∉ c.file ∧ ')' ∉ c.file := by
  constructor
  · intro hq
    obtain ⟨x, xs, line, hfile, -, hasked⟩ := FrameFields.question?_eq_some_iff.mp hq
    have hsame : c.file = x :: xs := (Query.position.inj hasked).1
    rw [← file_reported_iff h d, hfile, hsame]
  · rintro ⟨ho, hc⟩
    rw [reported_eq_fields h d ho hc, c.question?_fields]

/-- **The file is read and asked about verbatim** if and only if it has no parentheses. Else the call is
reported all the same, under what is left of the file. -/
theorem file_verbatim_iff (c : ReportedCall) (h : c.IsPlain) (d : Dialect) (resolver : Resolver)
    (root : Text) (rewrites : Rewrites) :
    Frame.read (c.written d) = .ok (.frame (c.reported d)) ∧
      ((c.reported d).file = some c.file ↔ '(' ∉ c.file ∧ ')' ∉ c.file) ∧
      ((sourceLine resolver root rewrites (c.written d)).queries = [c.question] ↔
        '(' ∉ c.file ∧ ')' ∉ c.file) ∧
      ('(' ∉ c.file → ')' ∉ c.file → c.reported d = c.fields) := by
  have hread := h.read_written d
  refine ⟨hread, file_reported_iff h d, ?_, reported_eq_fields h d⟩
  -- the line asks about the fields that it is read as
  have hquestion : Frame.question? (c.written d) = (c.reported d).question? := by
    rw [Frame.question?, hread]
  rw [queries_sourceLine, hquestion, ← question?_reported_iff h d, Option.toList_eq_singleton_iff]

/-- A page of an application that keeps its pages in groups. -/
def groupPage : ReportedCall where
  name := "render".toList
  file := "http://host/app/(group)/page.js".toList
  line := "31".toList
  column := "14".toList
  file_ne_nil := by decide
  line_run := by decide
  column_run := by decide
  line_short := by decide
  column_short := by decide

/-- The page's call is plain; parentheses in the file are allowed. -/
theorem isPlain_groupPage : groupPage.IsPlain where
  name_solid x hx := Bool.eq_false_iff.mpr (List.any_eq_false.mp (by decide) x hx)
  name_open := by decide
  name_at := by decide
  name_quote := by decide
  file_solid x hx := Bool.eq_false_iff.mpr (List.any_eq_false.mp (by decide) x hx)
  file_quote := by decide
  file_real := by decide

/-- The page is reported without the parentheses of its group, and asked about under that name. -/
theorem file_verbatim_iff_groupPage :
    Frame.read "at render (http://host/app/(group)/page.js:31:14)".toList = .ok (.frame {
      functionName := "render".toList
      file := some "http://host/app/group/page.js".toList
      line := some 31
      column := some 14 }) ∧
    (sourceLine PositionTables.empty.resolver [] [] groupPage.chromium).queries
      ≠ [groupPage.question] := by
  have hline : "at render (http://host/app/(group)/page.js:31:14)".toList
      = groupPage.written .chromium := by decide
  obtain ⟨hread, -, hasks, -⟩ := file_verbatim_iff groupPage isPlain_groupPage .chromium
    PositionTables.empty.resolver [] []
  rw [hline, hread]
  refine ⟨by decide, fun h => ?_⟩
  exact absurd (hasks.mp h).1 (by decide)

/-- In either syntax the group loses its parentheses. -/
theorem not_forall_file_verbatim :
    ¬ ∀ c : ReportedCall, c.name.all (fun x => x.isAlphanum || ['.', '_', '$'].contains x) = true →
      c.IsPlain → ∀ d, ∃ f, Frame.read (c.written d) = .ok (.frame f) ∧ f.file = some c.file := by
  intro hall
  have hread : Frame.read (groupPage.written .firefox) = .ok (.frame {
      functionName := "render".toList
      file := some "http://host/app/group/page.js".toList
      line := some 31
      column := some 14 }) := by decide
  obtain ⟨f, hf, hfile⟩ := hall groupPage (by decide) isPlain_groupPage .firefox
  rw [hread] at hf
  cases hf
  exact absurd hfile (by decide)

end ReportedCall

end Stacktrace
