import Stacktrace.Frame.Reader
import Stacktrace.Proofs.Frame.Chromium
import Stacktrace.Proofs.Frame.Firefox
import Stacktrace.Proofs.Frame.Grammar

/-!
# Reading a frame line

`FrameParts` are the parts of a frame that says everything: a name and a full place. Written in
either syntax they are read back, part by part (`read_chromium`, `read_firefox`). The opposite
direction asks what any frame that was read off one line is like:

* `RawFrame.OneLine` — neither its name nor its place has a line feed, and its name starts with no
  blank;
* `of_read_frame` — a line that is read as a frame ends in a place, and its fields come from such
  a raw frame.

Function names are cleaned on the way. That only ever shortens a name at its end
(`dropWrapperSuffix_starts`), and `dropWrapperSuffix_eq_self_iff_body` says which names stay.
-/

namespace Stacktrace

open Text Numeral

/-! ## Names -/

namespace Frame

/-- Taking a wrapper suffix off leaves a beginning of the name. -/
theorem dropWrapperSuffix_starts {name : Text} (h : '\n' ∉ name) :
    dropWrapperSuffix name <+: name := by
  rw [dropWrapperSuffix, cutFinalNewline_of_notMem h]
  dsimp only
  split
  · rw [List.append_nil]
    exact List.take_prefix _ name
  · split
    · rw [List.append_nil]
      exact List.take_prefix _ name
    · exact List.prefix_rfl

/-- **The names that stay** are those without a wrapper suffix, in front of a final line feed too. -/
theorem dropWrapperSuffix_eq_self_iff_body {name : Text} :
    dropWrapperSuffix name = name ↔ ¬ ['/', '<'] <:+ (cutFinalNewline name).1 := by
  have hwhole := cutFinalNewline_append name
  rw [dropWrapperSuffix]
  dsimp only
  generalize (cutFinalNewline name).1 = body at hwhole ⊢
  generalize (cutFinalNewline name).2 = newline at hwhole ⊢
  by_cases hshort : ['/', '<'] <:+ body
  · have hlen := hshort.length_le
    simp only [List.length_cons, List.length_nil] at hlen
    -- either suffix takes characters away
    have hne : ∀ k, 0 < k → body.take (body.length - k) ++ newline ≠ name := by
      intro k hk he
      have hl := congrArg List.length (he.trans hwhole.symm)
      rw [List.length_append, List.length_append, List.length_take] at hl
      omega
    refine iff_of_false ?_ (fun hn => hn hshort)
    split
    · exact hne 3 (by decide)
    · rw [if_pos (by simpa [endsWith] using hshort)]
      exact hne 2 (by decide)
  · have hlong : ¬ ['<', '/', '<'] <:+ body := fun hs =>
      hshort (List.IsSuffix.trans (List.suffix_cons '<' ['/', '<']) hs)
    rw [if_neg (by simpa [endsWith] using hlong), if_neg (by simpa [endsWith] using hshort)]
    exact iff_of_true rfl hshort

/-- On one line the names that stay are those that do not end in a wrapper suffix. -/
theorem dropWrapperSuffix_eq_self_iff {name : Text} (h : '\n' ∉ name) :
    dropWrapperSuffix name = name ↔ ¬ ['/', '<'] <:+ name := by
  rw [dropWrapperSuffix_eq_self_iff_body, cutFinalNewline_of_notMem h]

/-- A name that is not empty is reported without its wrapper suffix. -/
theorem cleanName_some {name : Text} (h : name ≠ []) :
    cleanName (some name) = dropWrapperSuffix name := by
  obtain ⟨c, s, rfl⟩ := List.exists_cons_of_ne_nil h
  rfl

/-- A name without a wrapper suffix is reported as it is. -/
theorem cleanName_eq_self {name : Text} (hne : name ≠ []) (hnl : '\n' ∉ name)
    (h : ¬ ['/', '<'] <:+ name) : cleanName (some name) = name := by
  rw [cleanName_some hne, (dropWrapperSuffix_eq_self_iff hnl).mpr h]

/-- A reported name is the one that stands for none, or a beginning of the name that was read. -/
theorem cleanName_cases {o : Option Text} (h : ∀ name ∈ o, '\n' ∉ name) :
    cleanName o = unknownFunction ∨ ∃ name ∈ o, cleanName o <+: name := by
  -- an empty name is reported as a missing one
  cases o with
  | none => exact .inl rfl
  | some name =>
    by_cases hne : name = []
    · rw [hne]
      exact .inl rfl
    · rw [cleanName_some hne]
      exact .inr ⟨name, rfl, dropWrapperSuffix_starts (h name rfl)⟩

end Frame

/-! ## The syntax of a rebuilt frame -/

/-- A frame in Chromium's syntax, from the texts of its parts. -/
def uniformText (indent name file line column : Text) : Text :=
  indent ++ ['a', 't', ' '] ++ name ++ [' ', '('] ++ file ++ ':' :: line ++ ':' :: column ++ [')']

/-- Behind the keyword stands a place in front of a closing parenthesis. -/
theorem uniformText_eq (indent name file line column : Text) :
    uniformText indent name file line column = indent ++ (['a', 't', ' '] ++
      ((name ++ ' ' :: '(' :: file) ++ (':' :: line ++ ':' :: (column ++ [')'])))) := by
  simp [uniformText]

/-- A frame is on one line exactly if all its parts are. -/
theorem newline_notMem_uniformText {indent name file line column : Text} :
    '\n' ∉ uniformText indent name file line column ↔
      '\n' ∉ indent ∧ '\n' ∉ name ∧ '\n' ∉ file ∧ '\n' ∉ line ∧ '\n' ∉ column := by
  simp [uniformText]

/-- A frame is indented by the blanks in front of its keyword. -/
theorem indentation_uniformText {indent : Text} (h : ∀ c ∈ indent, isBlank c = true)
    (name file line column : Text) :
    indentation (uniformText indent name file line column) = indent := by
  rw [uniformText_eq]
  -- the keyword starts with no blank
  refine indentation_append h ?_
  rintro c ⟨⟩
  decide

/-- A line with the keyword and a place in front of a closing parenthesis is read as Chromium's. -/
theorem Frame.read_keyword_place {w a l c : Text} (hw : ∀ c ∈ w, isBlank c = true)
    (hnl : '\n' ∉ w ++ (['a', 't', ' '] ++ (a ++ (':' :: l ++ ':' :: (c ++ [')'])))))
    (hl : IsRun l) (hc : IsRun c) :
    Frame.read (w ++ (['a', 't', ' '] ++ (a ++ (':' :: l ++ ':' :: (c ++ [')']))))) =
      (Chromium.read (w ++ (['a', 't', ' '] ++ (a ++ (':' :: l ++ ':' :: (c ++ [')'])))))).map
        (RawFrame.reading .chromium) := by
  have hframe : isFrameText (w ++ (['a', 't', ' '] ++ (a ++ (':' :: l ++ ':' :: (c ++ [')'])))))
      = true := by
    rw [← List.append_assoc, ← List.append_assoc] at hnl ⊢
    exact isFrameText_place_paren hnl hl hc
  have hspeaks : speaksChromium (w ++ (['a', 't', ' '] ++
      (a ++ (':' :: l ++ ':' :: (c ++ [')']))))) = true :=
    speaksChromium_place hw
      (fun hm => hnl (List.mem_append_right _ (List.mem_append_right _ hm))) hl hc
  rw [Frame.read, hframe, dialect, hspeaks]
  rfl

/-- A rebuilt frame with both numbers is a frame in Chromium's syntax. -/
theorem Frame.read_uniformText {indent name file line column : Text}
    (hindent : ∀ c ∈ indent, isBlank c = true)
    (hnl : '\n' ∉ uniformText indent name file line column) (hline : IsRun line)
    (hcolumn : IsRun column) :
    Frame.read (uniformText indent name file line column) =
      (Chromium.read (uniformText indent name file line column)).map
        (RawFrame.reading .chromium) := by
  rw [uniformText_eq] at hnl ⊢
  exact read_keyword_place hindent hnl hline hcolumn

/-! ## Frames in full -/

/-- The parts of a frame that has a name and a full place. -/
structure FrameParts where
  indent : Text
  name : Text
  file : Text
  line : Text
  column : Text
  indent_blank : ∀ c ∈ indent, isBlank c = true
  name_ne_nil : name ≠ []
  name_solid : ∀ c ∈ name.head?, isBlank c = false
  /-- The name does not look as if the location started inside it. -/
  name_whole : ¬ [' ', '('] <:+: name
  file_ne_nil : file ≠ []
  file_open : '(' ∉ file
  file_close : ')' ∉ file
  /-- The file is none that the engine made up. -/
  file_real : file ∉ Chromium.pseudoFiles
  line_run : IsRun line
  column_run : IsRun column
  line_short : line.length ≤ Fault.digitLimit
  column_short : column.length ≤ Fault.digitLimit

namespace FrameParts

def chromium (p : FrameParts) : Text :=
  uniformText p.indent p.name p.file p.line p.column

def firefox (p : FrameParts) : Text :=
  p.indent ++ p.name ++ '@' :: p.file ++ ':' :: p.line ++ ':' :: p.column

/-- The place of the frame, without parentheses. -/
def placeText (p : FrameParts) : Text :=
  p.file ++ (':' :: p.line ++ ':' :: p.column)

/-- Five texts are the parts of a frame. -/
def AreParts (indent name file line column : Text) : Prop :=
  (indent.all isBlank = true ∧ name ≠ [] ∧ name.head?.any isBlank = false ∧
    ¬ [' ', '('] <:+: name) ∧
  (file ≠ [] ∧ '(' ∉ file ∧ ')' ∉ file ∧ file ∉ Chromium.pseudoFiles) ∧
  (IsRun line ∧ IsRun column ∧ line.length ≤ Fault.digitLimit ∧ column.length ≤ Fault.digitLimit)

instance (indent name file line column : Text) :
    Decidable (AreParts indent name file line column) :=
  inferInstanceAs (Decidable (_ ∧ _ ∧ _))

/-- The frame of texts that are its parts. Whether they are is decided once, for all of them. -/
def ofTexts (indent name file line column : Text) (h : AreParts indent name file line column) :
    FrameParts where
  indent := indent
  name := name
  file := file
  line := line
  column := column
  indent_blank := List.all_eq_true.mp h.1.1
  name_ne_nil := h.1.2.1
  name_solid c hc := by
    have hsolid := h.1.2.2.1
    rw [Option.mem_def.mp hc] at hsolid
    exact hsolid
  name_whole := h.1.2.2.2
  file_ne_nil := h.2.1.1
  file_open := h.2.1.2.1
  file_close := h.2.1.2.2.1
  file_real := h.2.1.2.2.2
  line_run := h.2.2.1
  column_run := h.2.2.2.1
  line_short := h.2.2.2.2.1
  column_short := h.2.2.2.2.2

/-- A call of the test body, as a bundle reports it. -/
def testCall : FrameParts :=
  ofTexts "    ".toList "Context.eval".toList "http://localhost:8080/bundle.js".toList "10".toList
    "3".toList (by decide)

def fields (p : FrameParts) : FrameFields where
  functionName := Frame.cleanName (some p.name)
  file := some p.file
  line := some (value p.line)
  column := some (value p.column)

/-- The frame that a reader is to pull out of either syntax. -/
def raw (p : FrameParts) : RawFrame :=
  ⟨some p.name, ⟨some p.file, some (value p.line), some (value p.column)⟩⟩

/-- The indentation of a frame in Chromium's syntax is the part that was put in front. -/
theorem indentation_chromium (p : FrameParts) : indentation p.chromium = p.indent :=
  indentation_uniformText p.indent_blank _ _ _ _

/-- Behind the indentation stand the name, an at sign and the place. -/
theorem firefox_eq (p : FrameParts) :
    p.firefox = p.indent ++ (p.name ++ '@' :: p.placeText) := by
  simp [firefox, placeText]

/-- The name starts with no blank, so nothing after the indentation does. -/
theorem isBlank_head_name (p : FrameParts) (s : Text) :
    ∀ c ∈ (p.name ++ s).head?, isBlank c = false := by
  obtain ⟨c, name, hname⟩ := List.exists_cons_of_ne_nil p.name_ne_nil
  have hsolid := p.name_solid
  rw [hname] at hsolid ⊢
  exact hsolid

/-- The indentation of a frame in Firefox's syntax is the part that was put in front. -/
theorem indentation_firefox (p : FrameParts) : indentation p.firefox = p.indent := by
  rw [firefox_eq]
  exact indentation_append p.indent_blank (p.isBlank_head_name _)

/-- Without its indentation a frame in Firefox's syntax starts with the name. -/
theorem trimStart_firefox (p : FrameParts) :
    trimStart p.firefox = p.name ++ '@' :: p.placeText := by
  rw [firefox_eq]
  exact trimStart_append p.indent_blank (p.isBlank_head_name _)

end FrameParts

/-! ## Reading forwards -/

namespace FrameParts

/-- A place has no parentheses to drop, neither in its file nor in its numerals. -/
theorem dropParentheses_placeText (p : FrameParts) :
    Place.dropParentheses p.placeText = p.placeText := by
  have ho : isDigit '(' = false := by decide
  have hc : isDigit ')' = false := by decide
  apply Place.dropParentheses_of_notMem
  · simp [placeText, p.file_open, p.line_run.notMem ho, p.column_run.notMem ho]
  · simp [placeText, p.file_close, p.line_run.notMem hc, p.column_run.notMem hc]

/-- Whatever is the place without its parentheses is read as the place of the frame. -/
theorem read_place (p : FrameParts) {s : Text} (hnl : '\n' ∉ s)
    (h : Place.dropParentheses s = p.placeText) : Place.read s = .ok p.raw.place :=
  Place.read_place hnl h p.file_ne_nil p.line_run p.column_run p.line_short p.column_short

/-- The named part of a frame is its name, and its place in parentheses. -/
theorem namedPart_chromium (p : FrameParts) (hnl : '\n' ∉ p.chromium)
    (hkeep : ¬ Chromium.LosesText p.chromium) :
    Chromium.namedPart p.chromium = p.name ++ ' ' :: '(' :: (p.placeText ++ [')']) := by
  -- nothing stands between the keyword and the named part
  have heq : p.chromium = p.indent ++ (['a', 't', ' '] ++
      ([] ++ (p.name ++ ' ' :: '(' :: (p.placeText ++ [')'])))) := by
    simp [chromium, uniformText, placeText]
  rw [heq] at hnl hkeep
  obtain ⟨hrest, hself, -⟩ :=
    Chromium.namedPart_keyword p.indent_blank Chromium.isPassed_nil hnl
  rw [heq, hrest, hself hkeep]
  exact trimStart_append (w := []) (by simp) (p.isBlank_head_name _)

/-- **A frame in Chromium's syntax is read**, unless it loses text to unwrapping. -/
theorem chromium_read (p : FrameParts) (hnl : '\n' ∉ p.chromium)
    (hkeep : ¬ Chromium.LosesText p.chromium) : Chromium.read p.chromium = .ok p.raw := by
  have hnamed := p.namedPart_chromium hnl hkeep
  have hnl' := Chromium.notMem_namedPart hnl
  rw [hnamed] at hnl'
  have hlen : 2 ≤ (p.placeText ++ [')']).length := by
    simp only [placeText, List.length_append, List.length_cons]
    omega
  have hplace : Place.read ('(' :: (p.placeText ++ [')'])) = .ok p.raw.place := by
    refine p.read_place (fun hm => hnl' (by simp_all)) ?_
    -- the two parentheses around the place are the ones that are dropped
    show Place.dropParentheses (['('] ++ (p.placeText ++ [')'])) = p.placeText
    rw [Place.dropParentheses_append, Place.dropParentheses_append, p.dropParentheses_placeText]
    exact List.append_nil p.placeText
  rw [Chromium.read_named hnl hnamed p.name_ne_nil p.name_whole hlen (by simp), hplace]
  show Except.ok (RawFrame.mk (some p.name) (Chromium.dropPseudoFile p.raw.place)) = _
  -- the file is a real one, so it is reported
  rw [Chromium.dropPseudoFile_of_notMem rfl p.file_real]
  rfl

/-- A frame in Chromium's syntax is reported with its parts. -/
theorem read_chromium (p : FrameParts) (hnl : '\n' ∉ p.chromium)
    (hkeep : ¬ Chromium.LosesText p.chromium) : Frame.read p.chromium = .ok (.frame p.fields) := by
  have hread := Frame.read_uniformText p.indent_blank hnl p.line_run p.column_run
  change Frame.read p.chromium = (Chromium.read p.chromium).map _ at hread
  rw [hread, p.chromium_read hnl hkeep]
  rfl

/-- What keeps a frame in Firefox's syntax apart from all else that the syntax is used for: quoted
sections, chains of evaluated code and the keyword of the other dialect. -/
structure PlainFirefox (p : FrameParts) : Prop where
  name_at : '@' ∉ p.name
  name_quote : '"' ∉ p.name
  name_chain : ¬ Firefox.chainMark <:+: p.name
  file_quote : '"' ∉ p.file
  file_chain : ¬ Firefox.chainMark <:+: p.file
  file_line : '\n' ∉ p.file
  keyword : ¬ ['a', 't', ' '] <+: trimStart p.firefox

/-- A character that is no digit, no colon and none of the file is not in the place. -/
theorem notMem_placeText (p : FrameParts) {c : Char} (hd : isDigit c = false) (hc : c ≠ ':')
    (hf : c ∉ p.file) : c ∉ p.placeText := by
  simp [placeText, hf, hc, p.line_run.notMem hd, p.column_run.notMem hd]

/-- A place ends in a digit of its column. -/
theorem exists_placeText_concat (p : FrameParts) :
    ∃ s c, isDigit c = true ∧ p.placeText = s ++ [c] := by
  obtain ⟨ds, d, hcolumn⟩ := (List.eq_nil_or_concat p.column).resolve_left p.column_run.ne_nil
  refine ⟨p.file ++ (':' :: p.line ++ ':' :: ds), d, p.column_run.digits d (by simp [hcolumn]), ?_⟩
  simp [placeText, hcolumn]

/-- **A frame in Firefox's syntax is read.** -/
theorem firefox_read (p : FrameParts) (h : p.PlainFirefox) :
    Firefox.read p.firefox = .ok p.raw := by
  have hnumerals : ' ' ∉ p.line ++ ':' :: p.column := by
    have hd : isDigit ' ' = false := by decide
    simp [p.line_run.notMem hd, p.column_run.notMem hd]
  have hmark : ¬ Firefox.chainMark <:+: p.name ++ '@' :: p.placeText := by
    intro hin
    -- neither the at sign nor a colon is part of the mark
    rcases infix_append_cons (by decide) hin with hin | hin
    · exact h.name_chain hin
    · rcases infix_append_cons (by decide) hin with hin | hin
      · exact h.file_chain hin
      · exact hnumerals (hin.mem (by decide))
  have hquotes : '"' ∉ p.name ++ '@' :: p.placeText := by
    simp [h.name_quote, p.notMem_placeText (by decide) (by decide) h.file_quote]
  have hnl : '\n' ∉ p.placeText := p.notMem_placeText (by decide) (by decide) h.file_line
  rw [Firefox.read_named p.trimStart_firefox p.name_ne_nil hmark hquotes h.name_at,
    p.read_place hnl p.dropParentheses_placeText]
  rfl

/-- The texts of native code end in an at sign or in a bracket. -/
theorem isNativeCode_concat (s : Text) {c : Char} (hat : c ≠ '@') (hbracket : c ≠ ']') :
    Firefox.isNativeCode (s ++ [c]) = false := by
  have hne : ∀ t : Text, t.getLast? ≠ some c → (s ++ [c] == t) = false := by
    intro t ht
    rw [beq_eq_false_iff_ne]
    rintro rfl
    exact ht (by simp)
  simp only [Firefox.isNativeCode, Bool.or_eq_false_iff]
  -- the four native forms end in a separator or a bracket
  refine ⟨⟨⟨hne _ (by simp), hne _ ?_⟩, hne _ ?_⟩, hne _ ?_⟩
  · exact fun he => hat (Option.some.inj he).symm
  · exact fun he => hbracket (Option.some.inj he).symm
  · exact fun he => hbracket (Option.some.inj he).symm

/-- A frame in Firefox's syntax is reported with its parts. -/
theorem read_firefox (p : FrameParts) (hnl : '\n' ∉ p.firefox) (h : p.PlainFirefox) :
    Frame.read p.firefox = .ok (.frame p.fields) := by
  have hframe : Frame.isFrameText p.firefox = true := by
    have heq : p.firefox = (p.indent ++ (p.name ++ '@' :: p.file)) ++
        (':' :: p.line ++ ':' :: p.column) := by simp [firefox]
    rw [heq] at hnl ⊢
    exact Frame.isFrameText_place hnl p.line_run p.column_run
  have hnative : Firefox.isNativeCode (trim p.firefox) = false := by
    -- the line ends in a digit, so trimming leaves its end alone
    obtain ⟨s, c, hc, hs⟩ := p.exists_placeText_concat
    have hend : p.name ++ '@' :: p.placeText = (p.name ++ '@' :: s) ++ [c] := by simp [hs]
    rw [trim, p.trimStart_firefox, hend, trimEnd_concat _ (isBlank_of_isDigit hc)]
    exact isNativeCode_concat _ (by rintro rfl; exact absurd hc (by decide))
      (by rintro rfl; exact absurd hc (by decide))
  rw [Frame.read, hframe, Frame.dialect, Frame.speaksChromium_of_trimStart h.keyword, hnative,
    p.firefox_read h]
  rfl

/-- The lines that say what the parts say and nothing else. -/
inductive IsSpelt (p : FrameParts) : Text → Prop where
  | chromium (h : ¬ Chromium.evalMark <:+: p.chromium) : p.IsSpelt p.chromium
  | firefox (h : p.PlainFirefox) : p.IsSpelt p.firefox

/-- A line that spells the parts is reported with them, in either syntax. -/
theorem IsSpelt.read {p : FrameParts} {line : Text} (h : p.IsSpelt line) (hnl : '\n' ∉ line) :
    Frame.read line = .ok (.frame p.fields) := by
  cases h with
  | chromium hmark => exact p.read_chromium hnl fun hloss => hmark hloss.1
  | firefox hplain => exact p.read_firefox hnl hplain

/-- A line that spells the parts is indented as they are. -/
theorem IsSpelt.indentation {p : FrameParts} {line : Text} (h : p.IsSpelt line) :
    indentation line = p.indent := by
  cases h with
  | chromium _ => exact p.indentation_chromium
  | firefox _ => exact p.indentation_firefox

end FrameParts

/-! ## Reading backwards -/

/-- What holds of every frame that was pulled out of one line. -/
structure RawFrame.OneLine (raw : RawFrame) : Prop where
  name_line : ∀ name ∈ raw.functionName, '\n' ∉ name
  name_solid : ∀ name ∈ raw.functionName, ∀ c ∈ name.head?, isBlank c = false
  place : raw.place.OneLine

/-- The fields that are reported for a raw frame. -/
def RawFrame.fields (raw : RawFrame) : FrameFields where
  functionName := Frame.cleanName raw.functionName
  file := raw.place.file
  line := raw.place.line.map Int.ofNat
  column := raw.place.column.map Int.ofNat

/-- A raw frame is reported with its fields if it names a place at all. -/
theorem Frame.of_reading_eq_frame {d : Dialect} {raw : RawFrame} {fields : FrameFields}
    (h : RawFrame.reading d raw = .frame fields) :
    fields = raw.fields ∧ raw.place ≠ Place.unknown := by
  unfold RawFrame.reading at h
  split at h
  · cases h
  · next hplace =>
    cases h
    refine ⟨rfl, fun hunknown => hplace ?_⟩
    rw [hunknown]
    rfl

/-- A beginning that is not empty starts with the same character. -/
theorem head?_of_starts {s t : Text} (h : s <+: t) : ∀ c ∈ s.head?, c ∈ t.head? := by
  obtain ⟨r, rfl⟩ := h
  cases s with
  | nil => simp
  | cons d s => exact fun c hc => hc

/-- A Chromium frame that was pulled out of one line fits on one line. -/
theorem Chromium.oneLine_of_read {line : Text} {raw : RawFrame} (hnl : '\n' ∉ line)
    (h : Chromium.read line = .ok raw) : raw.OneLine := by
  have hnl' := notMem_namedPart hnl
  rcases read_eq_ok hnl h with ⟨name, rest, place, hsplit, hne, -, -, hp, rfl⟩ | ⟨-, place, hp, rfl⟩
  · rw [hsplit] at hnl'
    have hstarts : name <+: namedPart line := ⟨_, hsplit.symm⟩
    refine ⟨?_, ?_, oneLine_dropPseudoFile (Place.oneLine_of_read (fun hm => hnl' (by simp_all)) hp)⟩
    · rintro _ ⟨⟩ hm
      exact hnl' (List.mem_append_left _ hm)
    · -- the name starts where the trimmed line does, so it starts with no blank
      rintro _ ⟨⟩ c hc
      exact isBlank_head_namedPart line c (head?_of_starts hstarts c hc)
  · exact ⟨by simp, by simp, oneLine_dropPseudoFile (Place.oneLine_of_read hnl' hp)⟩

/-- A Firefox frame either names no place, or its name is the beginning of the trimmed line. -/
theorem Firefox.oneLine_of_read {line : Text} {raw : RawFrame} (hnl : '\n' ∉ line)
    (h : Firefox.read line = .ok raw) : raw.place = Place.unknown ∨ raw.OneLine := by
  have htrim : ∀ c ∈ (trimStart line).head?, isBlank c = false := by
    intro c hc
    have hhead := List.head?_dropWhile_not isBlank line
    rw [show line.dropWhile isBlank = trimStart line from rfl, hc] at hhead
    simpa using hhead
  have hnl' : '\n' ∉ collapseEvals (trimStart line) := by
    intro hm
    rcases mem_collapseEvals hm with he | hm
    · exact absurd he (by decide)
    · exact hnl ((List.dropWhile_suffix _).mem hm)
  -- a bare name, a name in front of an at sign, or a place alone
  rcases read_eq_ok h with hunknown | ⟨name, location, place, hsplit, hp, rfl⟩ | ⟨place, hp, rfl⟩
  · exact .inl hunknown
  · right
    have hstarts : name <+: collapseEvals (trimStart line) := ⟨_, hsplit.symm⟩
    have hloc : '\n' ∉ location := by
      intro hm
      rw [hsplit] at hnl'
      exact hnl' (List.mem_append_right _ (List.mem_cons_of_mem _ hm))
    have hname : ∀ n ∈ (if name.isEmpty then none else some name), n = name := by
      intro n hn
      split at hn
      · cases hn
      · exact (Option.some.inj hn).symm
    refine ⟨?_, ?_, Place.oneLine_of_read hloc hp⟩
    · intro n hn
      rw [hname n hn]
      exact fun hm => hnl' (hstarts.mem hm)
    · intro n hn c hc
      rw [hname n hn] at hc
      -- collapsing leaves the first character of the trimmed line
      have hhead := head?_of_starts hstarts c hc
      rw [head?_collapseEvals htrim] at hhead
      exact htrim c hhead
  · exact .inr ⟨by simp, by simp, Place.oneLine_of_read hnl' hp⟩

/-- **What a line is that was read as a frame**: it ends in a place, and its fields come from a raw
frame that fits on one line. -/
theorem Frame.of_read_frame {line : Text} {fields : FrameFields} (hnl : '\n' ∉ line)
    (h : Frame.read line = .ok (.frame fields)) :
    isFrameText line = true ∧ ∃ raw : RawFrame, raw.OneLine ∧ fields = raw.fields := by
  unfold read at h
  -- a line that is no frame line is reported as such, so this one is
  cases hframe : isFrameText line with
  | false =>
    rw [hframe] at h
    cases h
  | true =>
    refine ⟨rfl, ?_⟩
    rw [hframe, if_neg (by simp)] at h
    cases hd : dialect line with
    | chromium =>
      rw [hd] at h
      obtain ⟨raw, hraw, h⟩ := Outcome.map_eq_ok_iff.mp h
      exact ⟨raw, Chromium.oneLine_of_read hnl hraw, (of_reading_eq_frame h).1⟩
    | firefox =>
      rw [hd] at h
      dsimp only at h
      split at h
      · cases h
      · -- a frame that names nothing but a function would not have been reported
        obtain ⟨raw, hraw, h⟩ := Outcome.map_eq_ok_iff.mp h
        obtain ⟨hfields, hknown⟩ := of_reading_eq_frame h
        exact ⟨raw, (Firefox.oneLine_of_read hnl hraw).resolve_left hknown, hfields⟩

/-- A reported name fits on one line and starts with no blank. -/
theorem RawFrame.OneLine.cleanName {raw : RawFrame} (h : raw.OneLine) :
    '\n' ∉ Frame.cleanName raw.functionName ∧
      ∀ c ∈ (Frame.cleanName raw.functionName).head?, isBlank c = false := by
  rcases Frame.cleanName_cases h.name_line with hunknown | ⟨name, hname, hstarts⟩
  · -- the name that stands for none is a constant
    rw [hunknown]
    refine ⟨by decide, ?_⟩
    rintro c ⟨⟩
    decide
  · exact ⟨fun hm => h.name_line name hname (hstarts.mem hm),
      fun c hc => h.name_solid name hname c (head?_of_starts hstarts c hc)⟩

end Stacktrace
