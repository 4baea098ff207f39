import Stacktrace.Proofs.Frame.Placed
import Stacktrace.Proofs.Frame.Reading

/-!
# Classifier and readers agree

The grammar looks at the last characters of a line; the readers strip keywords, wrappers, names and
parentheses first. On lines without eval wrappers they agree all the same, because no step of a reader
reaches the place at the end:

* `Chromium.exists_location_eq`, `Firefox.exists_location_eq` — the location that a reader pulls out
  of a line still ends in the line's place;
* `Frame.exists_fields` — a frame line is never taken for native code or for a frame without a place;
* `Frame.exists_read` — it is read at all if its numerals are short enough;
* `Frame.fields_eq_of_read` — its numbers are those of the place.

Chains of evaluated code are the exception: they are replaced by the line of the script, so the place
at the end may go. What is left still has a colon and does not end in an at sign.
-/

namespace Stacktrace

open Text Numeral

/-! ## The end of a line -/

namespace Placed

/-- A place ends in a digit, or in the parenthesis that closes it. -/
theorem exists_place_concat (p : Placed) :
    ∃ z c, p.place = z ++ [c] ∧ (isDigit c = true ∨ c = ')') := by
  cases hclosed : p.closed with
  | true =>
    refine ⟨':' :: (p.line ++ ':' :: p.column), ')', ?_, .inr rfl⟩
    simp [place, closing, hclosed]
  | false =>
    obtain ⟨ds, d, hcolumn⟩ := (List.eq_nil_or_concat p.column).resolve_left p.column_run.ne_nil
    refine ⟨':' :: (p.line ++ ':' :: ds), d, ?_, .inl (p.column_run.digits d (by simp [hcolumn]))⟩
    simp [place, closing, hclosed, hcolumn]

/-- The last character of a text that ends in a place. -/
theorem getLast?_of_suffix {p : Placed} {s : Text} (h : p.place <:+ s) :
    ∃ c, s.getLast? = some c ∧ (isDigit c = true ∨ c = ')') := by
  obtain ⟨z, c, hz, hc⟩ := p.exists_place_concat
  obtain ⟨a, rfl⟩ := h
  exact ⟨c, by simp [hz], hc⟩

/-- A frame line does not look like native code, which ends in an at sign or a bracket. -/
theorem isNativeCode_eq_false (p : Placed) : Firefox.isNativeCode (trim p.text) = false := by
  obtain ⟨z, c, hz, hc⟩ := p.exists_place_concat
  obtain ⟨a, ha⟩ := p.place_suffix_trimStart
  have hends : c ≠ '@' ∧ c ≠ ']' ∧ isBlank c = false := by
    rcases hc with hc | rfl
    · refine ⟨?_, ?_, isBlank_of_isDigit hc⟩
      · rintro rfl
        exact absurd hc (by decide)
      · rintro rfl
        exact absurd hc (by decide)
    · decide
  -- nothing is trimmed at the end, so the line's last character decides
  have htrim : trimStart p.text = (a ++ z) ++ [c] := by
    rw [List.append_assoc, ← hz]
    exact ha.symm
  rw [trim, htrim, trimEnd_concat _ hends.2.2]
  exact FrameParts.isNativeCode_concat _ hends.1 hends.2.1

end Placed

/-! ## Locations -/

namespace Chromium

/-- The text that a Chromium frame is placed by: the parentheses at its end, or all that stands
behind the keyword. -/
def location (line : Text) : Text :=
  (findLocation (namedPart line)).getD (namedPart line)

/-- A Chromium frame is read as its location under some name. -/
theorem read_eq_location (line : Text) :
    ∃ name, read line =
      (Place.read (location line)).map fun place => ⟨name, dropPseudoFile place⟩ := by
  rw [read_eq, location]
  cases findLocation (namedPart line) with
  | none => exact ⟨_, rfl⟩
  | some location => exact ⟨_, rfl⟩

/-- The location of one line is one line. -/
theorem notMem_location {line : Text} (h : '\n' ∉ line) : '\n' ∉ location line := by
  have hnamed := notMem_namedPart h
  unfold location
  cases hloc : findLocation (namedPart line) with
  | none => exact hnamed
  | some location =>
    obtain ⟨name, rest, hsplit, rfl, -⟩ := findLocation_eq_some hnamed hloc
    rw [hsplit] at hnamed
    exact fun hm => hnamed (by simp_all)

end Chromium

/-- A line in Chromium's syntax starts with the keyword behind its indentation. -/
theorem Frame.exists_trimStart_of_speaksChromium {s : Text} (h : speaksChromium s = true) :
    ∃ x, trimStart s = ['a', 't', ' '] ++ x := by
  unfold speaksChromium at h
  split at h
  · cases h
  · next x hx => exact ⟨x, dropPrefix?_eq_some_iff.mp hx⟩

/-- **The location of a Chromium frame** ends in the place of the line. -/
theorem Chromium.exists_location_eq {p : Placed} (hnl : '\n' ∉ p.text)
    (hspeaks : Frame.speaksChromium p.text = true) (hmark : ¬ evalMark <:+: p.text) :
    ∃ a, location p.text = (p.behind a).text := by
  obtain ⟨x, hx⟩ := Frame.exists_trimStart_of_speaksChromium hspeaks
  have hblank : ' ' ∉ p.place := p.notMem_place (by decide) (by decide) (by decide)
  have hparen : '(' ∉ p.place := p.notMem_place (by decide) (by decide) (by decide)
  have hnamed : namedPart p.text = x.dropWhile isBlank := by
    have hline : p.text = indentation p.text ++ (['a', 't', ' '] ++ ([] ++ x)) := by
      rw [List.nil_append, ← hx, indentation_append_trimStart]
    have hindent : ∀ c ∈ indentation p.text, isBlank c = true :=
      fun c hc => List.mem_takeWhile_imp hc
    obtain ⟨hrest, hkeep, -⟩ := namedPart_keyword hindent isPassed_nil (hline ▸ hnl)
    rw [← hline] at hrest hkeep
    rw [hrest, hkeep fun hloss => hmark hloss.1, List.nil_append]
  -- the keyword ends in a space, and so does what stands in front of the location
  have hsuffix : p.place <:+ namedPart p.text := by
    have htrim : p.place <:+ ['a', 't'] ++ ' ' :: x := hx ▸ p.place_suffix_trimStart
    rw [hnamed]
    exact p.place_suffix_dropWhile (suffix_of_notMem hblank htrim)
  refine Placed.exists_of_suffix ?_
  unfold location
  cases hloc : findLocation (namedPart p.text) with
  | none => exact hsuffix
  | some location =>
    obtain ⟨name, rest, hsplit, rfl, -⟩ := findLocation_eq_some (notMem_namedPart hnl) hloc
    have hbehind : p.place <:+ (name ++ [' ']) ++ '(' :: rest := by
      rw [List.append_assoc]
      exact hsplit ▸ hsuffix
    exact (suffix_of_notMem hparen hbehind).trans (List.suffix_cons '(' rest)

namespace Firefox

/-- The text that a Firefox frame is placed by: what stands behind the name, once chains are
collapsed. -/
def location (line : Text) : Text :=
  match cutName? (collapseEvals (trimStart line)) with
  | some (_, location) => location
  | none => collapseEvals (trimStart line)

/-- A Firefox location ends the collapsed line. -/
theorem location_suffix (line : Text) : location line <:+ collapseEvals (trimStart line) := by
  unfold location
  cases hcut : cutName? (collapseEvals (trimStart line)) with
  | none => exact List.suffix_rfl
  | some cut =>
    obtain ⟨name, location⟩ := cut
    rw [cutName?_eq_some hcut]
    exact (List.suffix_cons '@' location).trans (List.suffix_append name _)

/-- A Firefox frame is read as its location under some name, unless it is a bare name. -/
theorem read_eq_location {line : Text} (h : ':' ∈ collapseEvals (trimStart line)) :
    ∃ name, read line = (Place.read (location line)).map fun place => ⟨name, place⟩ := by
  unfold read location
  rw [if_neg (by simp [h])]
  cases cutName? (collapseEvals (trimStart line)) with
  | none =>
    refine ⟨none, ?_⟩
    dsimp only
    cases Place.read (collapseEvals (trimStart line)) <;> rfl
  | some cut =>
    refine ⟨if cut.1.isEmpty then none else some cut.1, ?_⟩
    dsimp only
    cases Place.read cut.2 <;> rfl

/-- The location of one line is one line. -/
theorem notMem_location {line : Text} (h : '\n' ∉ line) : '\n' ∉ location line := by
  intro hm
  rcases mem_collapseEvals ((location_suffix line).mem hm) with he | hm
  · exact absurd he (by decide)
  · exact h ((List.dropWhile_suffix _).mem hm)

/-- **The location of a Firefox frame** without chains ends in the place of the line. -/
theorem exists_location_eq {p : Placed} (hchain : ¬ chainMark <:+: p.text) :
    ∃ a, location p.text = (p.behind a).text := by
  -- the name is cut at a separator, and the place holds none
  have hat : '@' ∉ p.place := p.notMem_place (by decide) (by decide) (by decide)
  have hsuffix := p.place_suffix_trimStart
  have hself : collapseEvals (trimStart p.text) = trimStart p.text :=
    collapseEvals_eq_self fun h => hchain (h.trans (List.dropWhile_suffix _).isInfix)
  refine Placed.exists_of_suffix ?_
  unfold location
  rw [hself]
  cases hcut : cutName? (trimStart p.text) with
  | none => exact hsuffix
  | some cut =>
    obtain ⟨name, location⟩ := cut
    rw [cutName?_eq_some hcut] at hsuffix
    exact suffix_of_notMem hat hsuffix

/-! ## What chains leave behind -/

/-- A colon survives: a chain gives way to a colon and a line. -/
theorem colon_mem_collapseEvals {s : Text} (h : ':' ∈ s) : ':' ∈ collapseEvals s := by
  have hwalk : ':' ∈ collapseFrom 0 s := by
    induction s with
    | nil => exact h
    | cons c s ih =>
      rw [collapseFrom]
      -- a chain is replaced by one colon, so no colon is lost without one put in
      split
      · exact List.mem_cons_self
      · rcases List.mem_cons.mp h with rfl | h
        · exact List.mem_cons_self
        · exact List.mem_cons_of_mem c (ih h)
  unfold collapseEvals
  split
  · exact hwalk
  · exact h

/-- The walk leaves something of a text that is not empty. -/
theorem collapseFrom_ne_nil {s : Text} (h : s ≠ []) : collapseFrom 0 s ≠ [] := by
  obtain ⟨c, s, rfl⟩ := List.exists_cons_of_ne_nil h
  rw [collapseFrom]
  split <;> simp

/-- The last character is still the last one, unless a chain at the end gave way to a digit. -/
theorem getLast?_collapseFrom (k : Nat) (s : Text) :
    ∀ c ∈ (collapseFrom k s).getLast?, isDigit c = true ∨ s.getLast? = some c := by
  -- on the walk: the end, a skipped character, a chain, a kept character
  fun_induction collapseFrom k s with
  | case1 => simp
  | case2 k d s ih =>
    intro c hc
    refine (ih c hc).imp_right fun h => ?_
    rw [List.getLast?_cons, h]
    rfl
  | case3 d s line rest hchain ih =>
    intro c hc
    rw [List.cons_append, List.getLast?_cons, List.getLast?_append] at hc
    cases hlast : (collapseFrom (s.length - rest.length) s).getLast? with
    | some x =>
      rw [hlast] at hc
      cases hc
      refine (ih x hlast).imp_right fun h => ?_
      rw [List.getLast?_cons, h]
      rfl
    | none =>
      -- nothing follows the chain, so its line is the end of the text
      left
      obtain ⟨hrun, -⟩ := of_chain? hchain
      obtain ⟨ds, x, hline⟩ := (List.eq_nil_or_concat line).resolve_left hrun.ne_nil
      rw [hlast, hline] at hc
      simp at hc
      exact hc ▸ hrun.digits x (by simp [hline])
  | case4 d s _ ih =>
    intro c hc
    rw [List.getLast?_cons] at hc ⊢
    cases s with
    | nil => exact .inr hc
    | cons e s =>
      have hne : collapseFrom 0 (e :: s) ≠ [] := collapseFrom_ne_nil (by simp)
      have hx := List.getLast?_eq_some_getLast hne
      generalize (collapseFrom 0 (e :: s)).getLast hne = x at hx
      rw [hx] at hc
      cases hc
      refine (ih x hx).imp_right fun h => ?_
      rw [h]

/-- Collapsing chains keeps the last character, unless a digit takes its place. -/
theorem getLast?_collapseEvals (s : Text) :
    ∀ c ∈ (collapseEvals s).getLast?, isDigit c = true ∨ s.getLast? = some c := by
  unfold collapseEvals
  split
  · exact getLast?_collapseFrom 0 s
  · exact fun c hc => .inr hc

/-- No at sign ends a collapsed frame line, so something stands behind its name. -/
theorem location_ne_nil (p : Placed) : location p.text ≠ [] := by
  obtain ⟨x, hx, hxc⟩ := Placed.getLast?_of_suffix p.place_suffix_trimStart
  unfold location
  cases hcut : cutName? (collapseEvals (trimStart p.text)) with
  | none => exact List.ne_nil_of_mem (colon_mem_collapseEvals p.colon_mem_trimStart)
  | some cut =>
    obtain ⟨name, location⟩ := cut
    -- an empty location would leave the at sign at the end, where a digit or a parenthesis must
    -- stand
    rintro rfl
    have hlast : (collapseEvals (trimStart p.text)).getLast? = some '@' := by
      rw [cutName?_eq_some hcut]
      simp
    rcases getLast?_collapseEvals _ '@' hlast with hdigit | hend
    · exact absurd hdigit (by decide)
    · rw [hx] at hend
      cases hend
      revert hxc
      decide

end Firefox

/-! ## Places of readable length -/

/-- No numeral in the text is too long to be read. -/
def Text.ShortRuns (s : Text) : Prop :=
  ∀ d, IsRun d → d <:+: s → d.length ≤ Fault.digitLimit

namespace Place

/-- A text without numerals at its end is a file, so something is always read off as one. -/
theorem isSome_file_of_read {s : Text} {p : Place} (hs : '\n' ∉ s) (hne : s ≠ [])
    (h : read s = .ok p) : p.file.isSome = true := by
  rcases read_eq_ok hs h with ⟨-, rfl⟩ | ⟨file, q, l, c, -, -, -, hfile, -⟩
  · simp [hne]
  · rw [hfile]
    rfl

/-- A text that ends in a place has a line. -/
theorem isSome_line_of_read_placed {p : Placed} {place : Place} (h : '\n' ∉ p.text)
    (hread : read p.text = .ok place) : place.line.isSome = true := by
  rw [read_placed p h] at hread
  split at hread
  · obtain ⟨n, -, rfl⟩ := Outcome.map_eq_ok_iff.mp hread
    rfl
  · obtain ⟨l, -, hread⟩ := Outcome.bind_eq_ok_iff.mp hread
    obtain ⟨c, -, hread⟩ := Outcome.bind_eq_ok_iff.mp hread
    cases hread
    rfl

/-- A text that ends in a place with short numerals is read. -/
theorem exists_read_placed {p : Placed} (h : '\n' ∉ p.text)
    (hl : p.line.length ≤ Fault.digitLimit) (hc : p.column.length ≤ Fault.digitLimit) :
    ∃ place, read p.text = .ok place := by
  rw [read_placed p h, read_of_le hl, read_of_le hc]
  split <;> exact ⟨_, rfl⟩

/-- A numeral that is missing or short is read. -/
theorem exists_readNumeral? {o : Option Text} (h : ∀ d ∈ o, d.length ≤ Fault.digitLimit) :
    ∃ n, readNumeral? o = .ok n := by
  cases o with
  | none => exact ⟨none, rfl⟩
  | some d => exact ⟨_, readNumeral?_some (h d rfl)⟩

/-- The numerals that a location ends in, once its parentheses are gone, are short enough. -/
def Legible (s : Text) : Prop :=
  (∀ d ∈ (cut (dropParentheses s)).2.1, d.length ≤ Fault.digitLimit) ∧
    ∀ d ∈ (cut (dropParentheses s)).2.2, d.length ≤ Fault.digitLimit

/-- A location is legible if the numerals of every end of it are short, however they are cut off. -/
theorem legible_of_areNumerals {s : Text}
    (h : ∀ q l c, q <:+ dropParentheses s → AreNumerals q l c →
      (∀ d ∈ l, d.length ≤ Fault.digitLimit) ∧ ∀ d ∈ c, d.length ≤ Fault.digitLimit) :
    Legible s := by
  unfold Legible
  by_cases hne : dropParentheses s = []
  · rw [hne]
    simp [cut]
  · -- the cut of a text is one of the splits the hypothesis speaks of
    obtain ⟨q, hq, -, hnum⟩ := cut_spec hne
    exact h q _ _ ⟨_, hq.symm⟩ hnum

/-- **Which locations are read**: those that end in short numerals, or in none. -/
theorem exists_read_iff_legible {s : Text} (hs : '\n' ∉ s) :
    (∃ p, read s = .ok p) ↔ Legible s := by
  -- without a colon the whole text is the file and no numeral is read at all
  by_cases hcolon : ':' ∈ s
  · rw [read_of_colon hs hcolon]
    constructor
    · rintro ⟨p, hp⟩
      obtain ⟨l, hl, hp⟩ := Outcome.bind_eq_ok_iff.mp hp
      obtain ⟨c, hc, -⟩ := Outcome.bind_eq_ok_iff.mp hp
      exact ⟨(of_readNumeral? hl).2, (of_readNumeral? hc).2⟩
    · intro h
      obtain ⟨l, hl⟩ := exists_readNumeral? h.1
      obtain ⟨c, hc⟩ := exists_readNumeral? h.2
      rw [hl, hc]
      exact ⟨_, rfl⟩
  · -- without a colon there is no numeral
    have hread : read s = .ok ⟨if s.isEmpty then none else some s, none, none⟩ := by
      rw [read, if_pos (by simpa using hcolon)]
    refine iff_of_true ⟨_, hread⟩ (legible_of_areNumerals fun q l c hq hnum => ?_)
    have hnone : ':' ∉ q := fun hm => hcolon (mem_dropParentheses.mp (hq.mem hm)).1
    cases hnum with
    | nothing => simp
    | line hl => exact absurd List.mem_cons_self hnone
    | column hl hc => exact absurd (List.mem_append_left _ List.mem_cons_self) hnone

/-- A location is read if no numeral is too long once its parentheses are gone. -/
theorem exists_read {s : Text} (hs : '\n' ∉ s) (h : ShortRuns (dropParentheses s)) :
    ∃ p, read s = .ok p := by
  -- what is cut off as numerals stands in the text, so it is one of its short runs
  refine (exists_read_iff_legible hs).mpr (legible_of_areNumerals fun q l c hq hnum => ?_)
  cases hnum with
  | nothing => simp
  | line hl =>
    have hin := (List.suffix_cons ':' _).isInfix.trans hq.isInfix
    simpa using h _ hl hin
  | @column l c hl hc =>
    have hlin : l <:+: ':' :: l ++ ':' :: c := ⟨[':'], ':' :: c, rfl⟩
    have hcin : c <:+: ':' :: l ++ ':' :: c := ⟨':' :: l ++ [':'], [], by simp⟩
    simpa using ⟨h _ hl (hlin.trans hq.isInfix), h _ hc (hcin.trans hq.isInfix)⟩

end Place

/-! ## Frame lines -/

namespace Frame

/-- The text that a frame line is placed by. -/
def location (line : Text) : Text :=
  match dialect line with
  | .chromium => Chromium.location line
  | .firefox => Firefox.location line

/-- What has a file or a line is a frame and not the bare name of one. -/
theorem reading_eq_frame {d : Dialect} {raw : RawFrame}
    (h : raw.place.file.isSome = true ∨ raw.place.line.isSome = true) :
    RawFrame.reading d raw = .frame raw.fields := by
  rw [RawFrame.reading, if_neg]
  · rfl
  · rcases h with h | h <;> simp [Option.isSome_iff_ne_none.mp h]

/-- A placed line is a frame line. -/
theorem isFrameText_text (p : Placed) (hnl : '\n' ∉ p.text) : isFrameText p.text = true :=
  (isFrameText_iff_placed hnl).mpr ⟨p, rfl⟩

/-- The dialect is Chromium's only for lines with its keyword. -/
theorem speaksChromium_of_dialect {s : Text} (h : dialect s = .chromium) :
    speaksChromium s = true := by
  unfold dialect at h
  split at h
  · assumption
  · cases h

/-- A frame line in Chromium's syntax is read by its location. -/
theorem read_eq_of_chromium {p : Placed} (hnl : '\n' ∉ p.text) (hd : dialect p.text = .chromium) :
    ∃ name, Frame.read p.text = (Place.read (location p.text)).map fun place =>
      RawFrame.reading .chromium ⟨name, Chromium.dropPseudoFile place⟩ := by
  obtain ⟨name, hname⟩ := Chromium.read_eq_location p.text
  refine ⟨name, ?_⟩
  rw [Frame.read, isFrameText_text p hnl, location, hd]
  dsimp only
  rw [hname]
  cases Place.read (Chromium.location p.text) <;> rfl

/-- A frame line in Chromium's syntax is read as the place at its end. -/
theorem read_of_chromium {p : Placed} (hnl : '\n' ∉ p.text) (hmark : ¬ Chromium.evalMark <:+: p.text)
    (hd : dialect p.text = .chromium) :
    ∃ name a, location p.text = (p.behind a).text ∧ '\n' ∉ (p.behind a).text ∧
      Frame.read p.text = (Place.read (p.behind a).text).map fun place =>
        RawFrame.reading .chromium ⟨name, Chromium.dropPseudoFile place⟩ := by
  obtain ⟨name, hread⟩ := read_eq_of_chromium hnl hd
  obtain ⟨a, ha⟩ := Chromium.exists_location_eq hnl (speaksChromium_of_dialect hd) hmark
  have hlocation : location p.text = (p.behind a).text := by
    rw [location, hd]
    exact ha
  rw [hlocation] at hread
  exact ⟨name, a, hlocation, ha ▸ Chromium.notMem_location hnl, hread⟩

/-- A frame line in Firefox's syntax is read by its location. -/
theorem read_of_firefox {p : Placed} (hnl : '\n' ∉ p.text) (hd : dialect p.text = .firefox) :
    ∃ name, Frame.read p.text = (Place.read (location p.text)).map fun place =>
      RawFrame.reading .firefox ⟨name, place⟩ := by
  obtain ⟨name, hname⟩ :=
    Firefox.read_eq_location (Firefox.colon_mem_collapseEvals p.colon_mem_trimStart)
  refine ⟨name, ?_⟩
  rw [Frame.read, isFrameText_text p hnl, location, hd, p.isNativeCode_eq_false]
  dsimp only
  rw [hname]
  cases Place.read (Firefox.location p.text) <;> rfl

/-- A missing name is reported like an empty one. -/
theorem cleanName_of_isEmpty (name : Text) :
    cleanName (if name.isEmpty then none else some name) = cleanName (some name) := by
  cases name <;> rfl

/-- A frame line in Firefox's syntax is reported with the name that is cut off. -/
theorem read_of_cutName? {p : Placed} {name location : Text} (hnl : '\n' ∉ p.text)
    (hd : dialect p.text = .firefox)
    (hcut : Firefox.cutName? (Firefox.collapseEvals (trimStart p.text)) = some (name, location)) :
    Frame.read p.text = (Place.read location).map fun place =>
      RawFrame.reading .firefox ⟨some name, place⟩ := by
  rw [Frame.read, isFrameText_text p hnl, hd, p.isNativeCode_eq_false]
  dsimp only
  rw [Firefox.read_of_cutName? hcut]
  cases Place.read location with
  | error e => rfl
  | ok place =>
    show Except.ok (RawFrame.reading .firefox ⟨_, place⟩) = Except.ok (RawFrame.reading .firefox _)
    -- an empty name and an absent one are cleaned to the same placeholder
    simp only [RawFrame.reading, cleanName_of_isEmpty]

/-- **A frame line is a frame at a place** for its reader, whatever the reader makes of the place. -/
theorem exists_fields {s : Text} {reading : Reading} (hnl : '\n' ∉ s)
    (hframe : isFrameText s = true) (hmark : ¬ Chromium.evalMark <:+: s)
    (h : Frame.read s = .ok reading) : ∃ fields, reading = .frame fields := by
  obtain ⟨p, rfl⟩ := (isFrameText_iff_placed hnl).mp hframe
  -- a Chromium frame keeps its line, a Firefox frame keeps a file; either makes it a frame
  cases hd : dialect p.text with
  | chromium =>
    obtain ⟨name, a, -, hnl', hread⟩ := read_of_chromium hnl hmark hd
    rw [hread] at h
    obtain ⟨place, hplace, rfl⟩ := Outcome.map_eq_ok_iff.mp h
    -- a pseudo file may be dropped, but the line stays
    have hline := Place.isSome_line_of_read_placed hnl' hplace
    exact ⟨_, reading_eq_frame (.inr (by rwa [Chromium.dropPseudoFile_line]))⟩
  | firefox =>
    obtain ⟨name, hread⟩ := read_of_firefox hnl hd
    rw [hread] at h
    obtain ⟨place, hplace, rfl⟩ := Outcome.map_eq_ok_iff.mp h
    rw [location, hd] at hplace
    have hfile := Place.isSome_file_of_read (Firefox.notMem_location hnl)
      (Firefox.location_ne_nil p) hplace
    exact ⟨_, reading_eq_frame (.inl hfile)⟩

/-- Parentheses are dropped before numerals are read and chains are collapsed before that, so two
runs of digits may become one on the way. Only a chain can bring that about at the end of a line. -/
def NumeralsReadable (s : Text) : Prop :=
  ShortRuns s ∧ (dialect s = .firefox → Firefox.chainMark <:+: s →
    ShortRuns (Place.dropParentheses (Firefox.collapseEvals (trimStart s))))

/-- **A frame line is read** if its numerals are not too long. -/
theorem exists_read {s : Text} (hnl : '\n' ∉ s) (hframe : isFrameText s = true)
    (hmark : ¬ Chromium.evalMark <:+: s) (hshort : NumeralsReadable s) :
    ∃ reading, Frame.read s = .ok reading := by
  obtain ⟨p, rfl⟩ := (isFrameText_iff_placed hnl).mp hframe
  have hl := hshort.1 _ p.line_run p.line_infix_text
  have hc := hshort.1 _ p.column_run p.column_infix_text
  -- the numerals are those of the line's end, except behind a chain that was collapsed
  cases hd : dialect p.text with
  | chromium =>
    obtain ⟨name, a, -, hnl', hread⟩ := read_of_chromium hnl hmark hd
    obtain ⟨place, hplace⟩ := Place.exists_read_placed hnl' hl hc
    rw [hread, hplace]
    exact ⟨_, rfl⟩
  | firefox =>
    obtain ⟨name, hread⟩ := read_of_firefox hnl hd
    have hnl' := Firefox.notMem_location hnl
    obtain ⟨place, hplace⟩ : ∃ place, Place.read (Firefox.location p.text) = .ok place := by
      by_cases hchain : Firefox.chainMark <:+: p.text
      · -- the location is an end of the collapsed line, and so are its numerals
        obtain ⟨b, hb⟩ := Firefox.location_suffix p.text
        refine Place.exists_read hnl' fun d hd' hin => hshort.2 hd hchain d hd' (hin.trans ?_)
        rw [← hb, Place.dropParentheses_append]
        exact (List.suffix_append _ _).isInfix
      · obtain ⟨a, ha⟩ := Firefox.exists_location_eq hchain
        rw [ha] at hnl' ⊢
        exact Place.exists_read_placed hnl' hl hc
    rw [hread, location, hd]
    dsimp only
    rw [hplace]
    exact ⟨_, rfl⟩

/-- Dropping parentheses leaves every other character. -/
theorem dropParentheses_ne_nil {s : Text} (h : ∃ c ∈ s, c ≠ '(' ∧ c ≠ ')') :
    Place.dropParentheses s ≠ [] := by
  obtain ⟨c, hc, hne⟩ := h
  exact List.ne_nil_of_mem (Place.mem_dropParentheses.mpr ⟨hc, hne⟩)

/-- **The numbers of a frame** are those that its line ends in, if its location has a file in front of
them. -/
theorem fields_eq_of_read {p : Placed} {fields : FrameFields} (hnl : '\n' ∉ p.text)
    (hmark : ¬ Chromium.evalMark <:+: p.text) (hchain : ¬ Firefox.chainMark <:+: p.text)
    (h : Frame.read p.text = .ok (.frame fields)) :
    ∃ a, location p.text = (p.behind a).text ∧
      ((∃ c ∈ a, c ≠ '(' ∧ c ≠ ')') →
        fields.line = some (value p.line : Int) ∧ fields.column = some (value p.column : Int)) := by
  -- in either dialect the fields show the place that the location is read as
  obtain ⟨a, ha, hnl', place, hplace, hline, hcolumn⟩ : ∃ a,
      location p.text = (p.behind a).text ∧ '\n' ∉ (p.behind a).text ∧
      ∃ place, Place.read (p.behind a).text = .ok place ∧
        fields.line = place.line.map Int.ofNat ∧ fields.column = place.column.map Int.ofNat := by
    cases hd : dialect p.text with
    | chromium =>
      obtain ⟨name, a, hloc, hnl', hread⟩ := read_of_chromium hnl hmark hd
      rw [hread] at h
      obtain ⟨place, hplace, h⟩ := Outcome.map_eq_ok_iff.mp h
      obtain ⟨rfl, -⟩ := of_reading_eq_frame h
      refine ⟨a, hloc, hnl', place, hplace, ?_, ?_⟩
      · rw [RawFrame.fields, Chromium.dropPseudoFile_line]
      · rw [RawFrame.fields, Chromium.dropPseudoFile_column]
    | firefox =>
      obtain ⟨a, ha⟩ := Firefox.exists_location_eq hchain
      have hloc : location p.text = (p.behind a).text := by rw [location, hd]; exact ha
      obtain ⟨name, hread⟩ := read_of_firefox hnl hd
      rw [hread, hloc] at h
      obtain ⟨place, hplace, h⟩ := Outcome.map_eq_ok_iff.mp h
      obtain ⟨rfl, -⟩ := of_reading_eq_frame h
      exact ⟨a, hloc, ha ▸ Firefox.notMem_location hnl, place, hplace, rfl, rfl⟩
  refine ⟨a, ha, fun hfile => ?_⟩
  have hfile' : Place.dropParentheses (p.behind a).before ≠ [] := dropParentheses_ne_nil hfile
  rw [Place.read_placed _ hnl', if_neg hfile'] at hplace
  obtain ⟨l, hl, hplace⟩ := Outcome.bind_eq_ok_iff.mp hplace
  obtain ⟨c, hc, hplace⟩ := Outcome.bind_eq_ok_iff.mp hplace
  cases hplace
  have hlv := (read_eq_ok_iff.mp hl).2
  have hcv := (read_eq_ok_iff.mp hc).2
  rw [hline, hcolumn, hlv, hcv]
  exact ⟨rfl, rfl⟩

end Frame

end Stacktrace
