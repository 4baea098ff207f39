import Stacktrace.Proofs.Frame.Agreement
import Stacktrace.Value.Written

/-!
# Which frame lines can be read

Numerals with too many digits are refused, and no other frame line is. A reader looks at the
numerals only after its own preparations: it unwraps or collapses evaluated code and drops
parentheses, which may put two runs of digits together.

* `Frame.exists_read_eq_location` — a frame line is read by reading its location;
* `Frame.exists_read_iff_legible` — so it is read exactly if the numerals at the end of the location
  are short;
* `Frame.isLongNumeral_of_read` — and a line that is not read fails on a numeral;
* `Frame.exists_location_eq` — without evaluated code these are the numerals at the end of the line;
* `Frame.exists_read_of_legible` — so a line with short numerals is read, and where evaluated code
  is cut out, the numerals of what is left have to be short too;
* `Frame.exists_written_of_read` — the numbers of a frame that was read can be written again.
-/

namespace Stacktrace

open Text Numeral

namespace Text.ShortRuns

variable {s t : Text}

/-- A line has no longer runs than its text. -/
theorem of_mem_lines (hs : ShortRuns s) (h : t ∈ lines s) : ShortRuns t :=
  fun d hd hin => hs d hd (hin.trans (infix_of_mem_lines h))

/-- A character that is no digit keeps the runs on its two sides apart. -/
theorem append_cons {c : Char} (hc : isDigit c = false) (hs : ShortRuns s) (ht : ShortRuns t) :
    ShortRuns (s ++ c :: t) := by
  intro d hd hin
  rcases infix_append_cons (hd.notMem hc) hin with hin | hin
  · exact hs d hd hin
  · exact ht d hd hin

/-- A short text has no long runs. -/
theorem of_length_le (h : s.length ≤ Fault.digitLimit) : ShortRuns s :=
  fun _ _ hin => hin.length_le.trans h

end Text.ShortRuns

/-! ## Numerals that are refused -/

/-- The fault of a numeral with too many digits. -/
def Fault.IsLongNumeral (e : Fault) : Prop :=
  ∃ n, digitLimit < n ∧ e = .numeralTooLong n

namespace Place

variable {s : Text} {e : Fault}

instance (s : Text) : Decidable (Legible s) :=
  inferInstanceAs (Decidable (_ ∧ _))

/-- A numeral is refused for its length only. -/
theorem isLongNumeral_of_readNumeral? {o : Option Text} (h : readNumeral? o = .error e) :
    e.IsLongNumeral := by
  cases o with
  | none => cases h
  | some d =>
    obtain ⟨hlong, he⟩ := read_eq_error_iff.mp (Outcome.map_eq_error_iff.mp h)
    exact ⟨d.length, hlong, he⟩

/-- A location is refused for a numeral. -/
theorem isLongNumeral_of_read (hs : '\n' ∉ s) (h : read s = .error e) : e.IsLongNumeral := by
  by_cases hcolon : ':' ∈ s
  · rw [read_of_colon hs hcolon] at h
    rcases Outcome.bind_eq_error_iff.mp h with hline | ⟨l, -, h⟩
    · exact isLongNumeral_of_readNumeral? hline
    · rcases Outcome.bind_eq_error_iff.mp h with hcolumn | ⟨c, -, h⟩
      · exact isLongNumeral_of_readNumeral? hcolumn
      · cases h
  · rw [read, if_pos (by simpa using hcolon)] at h
    cases h

end Place

namespace Frame

variable {s : Text}

/-- **A frame line is read by its location.** What a reader makes of the place keeps its numbers. -/
theorem exists_read_eq_location (hnl : '\n' ∉ s) (hframe : isFrameText s = true) :
    '\n' ∉ location s ∧ ∃ raw : Place → RawFrame,
      (∀ place, (raw place).place.line = place.line ∧ (raw place).place.column = place.column) ∧
      Frame.read s = (Place.read (location s)).map fun place =>
        RawFrame.reading (dialect s) (raw place) := by
  obtain ⟨p, rfl⟩ := (isFrameText_iff_placed hnl).mp hframe
  -- either reader keeps the numbers of the place; only the file may be dropped
  cases hd : dialect p.text with
  | chromium =>
    have hlocation : location p.text = Chromium.location p.text := by rw [location, hd]
    obtain ⟨name, hread⟩ := read_eq_of_chromium hnl hd
    refine ⟨?_, fun place => ⟨name, Chromium.dropPseudoFile place⟩, fun place => ?_, hread⟩
    · rw [hlocation]
      exact Chromium.notMem_location hnl
    · exact ⟨Chromium.dropPseudoFile_line place, Chromium.dropPseudoFile_column place⟩
  | firefox =>
    have hlocation : location p.text = Firefox.location p.text := by rw [location, hd]
    obtain ⟨name, hread⟩ := read_of_firefox hnl hd
    refine ⟨?_, fun place => ⟨name, place⟩, fun place => ⟨rfl, rfl⟩, hread⟩
    rw [hlocation]
    exact Firefox.notMem_location hnl

/-- A line with evaluated code, in its own syntax: its reader changes such a line before it looks
for the place. -/
def IsEvaluated (s : Text) : Prop :=
  match dialect s with
  | .chromium => Chromium.evalMark <:+: s
  | .firefox => Firefox.chainMark <:+: s

/-- **The place of a line stays at the end of its location**, unless evaluated code is cut out. -/
theorem exists_location_eq {p : Placed} (hnl : '\n' ∉ p.text) (h : ¬ IsEvaluated p.text) :
    ∃ a, location p.text = (p.behind a).text := by
  unfold IsEvaluated at h
  unfold location
  cases hd : dialect p.text with
  | chromium =>
    rw [hd] at h
    exact Chromium.exists_location_eq hnl (speaksChromium_of_dialect hd) h
  | firefox =>
    rw [hd] at h
    exact Firefox.exists_location_eq h

/-- **Which frame lines are read**: those whose location ends in short numerals, or in none. -/
theorem exists_read_iff_legible (hnl : '\n' ∉ s) (hframe : isFrameText s = true) :
    (∃ reading, Frame.read s = .ok reading) ↔ Place.Legible (location s) := by
  obtain ⟨hnl', raw, -, hread⟩ := exists_read_eq_location hnl hframe
  rw [hread, ← Place.exists_read_iff_legible hnl']
  constructor
  · rintro ⟨reading, h⟩
    obtain ⟨place, hplace, -⟩ := Outcome.map_eq_ok_iff.mp h
    exact ⟨place, hplace⟩
  · rintro ⟨place, hplace⟩
    exact ⟨_, Outcome.map_eq_ok_iff.mpr ⟨place, hplace, rfl⟩⟩

/-- **Without eval wrappers** these lines are read as frames at a place. -/
theorem exists_fields_iff_legible (hnl : '\n' ∉ s) (hframe : isFrameText s = true)
    (hmark : ¬ Chromium.evalMark <:+: s) :
    (∃ fields, Frame.read s = .ok (.frame fields)) ↔ Place.Legible (location s) := by
  rw [← exists_read_iff_legible hnl hframe]
  constructor
  · rintro ⟨fields, hread⟩
    exact ⟨_, hread⟩
  · rintro ⟨reading, hread⟩
    obtain ⟨fields, rfl⟩ := exists_fields hnl hframe hmark hread
    exact ⟨fields, hread⟩

/-- Lines that are no frame lines are always read. -/
theorem exists_read_iff (hnl : '\n' ∉ s) :
    (∃ reading, Frame.read s = .ok reading) ↔
      (isFrameText s = true → Place.Legible (location s)) := by
  cases hframe : isFrameText s with
  | true => simp only [exists_read_iff_legible hnl hframe, forall_const]
  | false =>
    refine iff_of_true ⟨.message, ?_⟩ (by simp)
    rw [Frame.read, hframe]
    rfl

/-- **A line that is not read** fails on a numeral. -/
theorem isLongNumeral_of_read (hnl : '\n' ∉ s) {e : Fault} (h : Frame.read s = .error e) :
    e.IsLongNumeral := by
  cases hframe : isFrameText s with
  | false =>
    rw [Frame.read, hframe] at h
    cases h
  | true =>
    obtain ⟨hnl', raw, -, hread⟩ := exists_read_eq_location hnl hframe
    rw [hread] at h
    exact Place.isLongNumeral_of_read hnl' (Outcome.map_eq_error_iff.mp h)

/-- **A line is read** if its numerals are short and, where evaluated code is cut out, those that
are left are short too. -/
theorem exists_read_of_legible (hnl : '\n' ∉ s) (hshort : ShortRuns s)
    (h : isFrameText s = true → IsEvaluated s → Place.Legible (location s)) :
    ∃ reading, Frame.read s = .ok reading := by
  refine (exists_read_iff hnl).mpr fun hframe => ?_
  -- without evaluated code the place at the end of the line is the one that is read
  by_cases heval : IsEvaluated s
  · exact h hframe heval
  · obtain ⟨hnl', -⟩ := exists_read_eq_location hnl hframe
    obtain ⟨p, rfl⟩ := (isFrameText_iff_placed hnl).mp hframe
    obtain ⟨a, ha⟩ := exists_location_eq hnl heval
    rw [← Place.exists_read_iff_legible hnl', ha]
    exact Place.exists_read_placed (ha ▸ hnl') (hshort _ p.line_run p.line_infix_text)
      (hshort _ p.column_run p.column_infix_text)

/-- A number that was read can be written, and so can the word for a missing one. -/
theorem exists_writtenOption {o : Option Nat}
    (h : ∀ n ∈ o, (ofNat n).length ≤ Fault.digitLimit) :
    ∃ t, writtenOption (o.map Int.ofNat) = .ok t := by
  cases o with
  | none => exact ⟨_, rfl⟩
  | some n => exact ⟨_, write_natCast (h n rfl)⟩

/-- **The numbers of a frame that was read** can be written. -/
theorem exists_written_of_read {fields : FrameFields} (hnl : '\n' ∉ s)
    (h : Frame.read s = .ok (.frame fields)) :
    ∃ l c, writtenOption fields.line = .ok l ∧ writtenOption fields.column = .ok c := by
  obtain ⟨hframe, -⟩ := of_read_frame hnl h
  obtain ⟨hnl', raw, hraw, hread⟩ := exists_read_eq_location hnl hframe
  rw [hread] at h
  obtain ⟨place, hplace, h⟩ := Outcome.map_eq_ok_iff.mp h
  obtain ⟨rfl, -⟩ := of_reading_eq_frame h
  -- the numbers have no more digits than the numerals that they were read from
  obtain ⟨hline, hcolumn⟩ := Place.length_le_of_read hnl' hplace
  rw [← (hraw place).1] at hline
  rw [← (hraw place).2] at hcolumn
  obtain ⟨l, hl⟩ := exists_writtenOption hline
  obtain ⟨c, hc⟩ := exists_writtenOption hcolumn
  exact ⟨l, c, hl, hc⟩

end Frame

end Stacktrace
