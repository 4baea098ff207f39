import Stacktrace.Frame.Place
import Stacktrace.Proofs.Outcome
import Stacktrace.Proofs.Text.Lines
import Stacktrace.Proofs.Text.Numeral

/-!
# Where a location is split

`Place.read` takes the shortest file that leaves numerals behind. This module says what that means
without the search:

* `AreNumerals` — the three shapes of text that may follow a file, as a relation; `numerals?` decides
  it (`numerals?_eq_some_iff`);
* `cut_spec` — a cut loses nothing and leaves numerals;
* `cut_append` — it stops at a file that no shorter one is as good as;
* `cut_place` — behind any file, two numerals are found as they are: no shorter file fits, because
  its remainder would hold a third colon or start with none;
* `cut_line` — a single numeral is found behind a file that does not end in one itself;
* `read_place`, `read_line`, `read_eq_ok` — the same for whole locations, forwards and backwards.
-/

namespace Stacktrace.Place

open Text Numeral

/-! ## What may follow a file -/

/-- A text that consists of nothing, of one colon numeral or of two. -/
inductive AreNumerals : Text → Option Text → Option Text → Prop where
  | nothing : AreNumerals [] none none
  | line {l : Text} (hl : IsRun l) : AreNumerals (':' :: l) (some l) none
  | column {l c : Text} (hl : IsRun l) (hc : IsRun c) :
      AreNumerals (':' :: l ++ ':' :: c) (some l) (some c)

/-- What was found behind a file are runs of digits. -/
theorem AreNumerals.isRun {q : Text} {l c : Option Text} (h : AreNumerals q l c) :
    (∀ d ∈ l, IsRun d) ∧ ∀ d ∈ c, IsRun d := by
  cases h with
  | nothing => simp
  | line hl => simpa using hl
  | column hl hc => simpa using ⟨hl, hc⟩

/-- A colon and a run are cut off whole, in front of anything but a digit. -/
theorem colonNumeral?_append {d r : Text} (h : IsRun d) (hr : ∀ c ∈ r.head?, isDigit c = false) :
    colonNumeral? (':' :: (d ++ r)) = some (d, r) := by
  rw [colonNumeral?, cutDigits?_append h hr]

/-- What is cut off is a colon and a run, and nothing is lost. -/
theorem of_colonNumeral? {s d r : Text} (h : colonNumeral? s = some (d, r)) :
    IsRun d ∧ s = ':' :: (d ++ r) := by
  unfold colonNumeral? at h
  split at h
  · obtain ⟨hd, rfl⟩ := of_cutDigits? h
    exact ⟨hd, rfl⟩
  · exact absurd h (by simp)

/-- `numerals?` decides which of the three shapes a text has. -/
theorem numerals?_eq_some_iff {s : Text} {l c : Option Text} :
    numerals? s = some (l, c) ↔ AreNumerals s l c := by
  constructor
  · intro h
    unfold numerals? at h
    by_cases hs : s.isEmpty
    · rw [if_pos hs] at h
      cases h
      rw [List.isEmpty_iff.mp hs]
      exact .nothing
    · rw [if_neg hs] at h
      -- behind the first numeral stands nothing, or a second one and then nothing
      cases h1 : colonNumeral? s with
      | none =>
        rw [h1] at h
        exact absurd h (by simp)
      | some first =>
        obtain ⟨hd, rfl⟩ := of_colonNumeral? h1
        rw [h1] at h
        dsimp only at h
        by_cases hr : first.2.isEmpty
        · rw [if_pos hr] at h
          cases h
          rw [List.isEmpty_iff.mp hr, List.append_nil]
          exact .line hd
        · rw [if_neg hr] at h
          split at h
          · next second h2 =>
            cases h
            obtain ⟨hd', hs'⟩ := of_colonNumeral? h2
            rw [hs', List.append_nil]
            exact .column hd hd'
          · exact absurd h (by simp)
  · intro h
    cases h with
    | nothing => rfl
    | line hl =>
      have h1 := colonNumeral?_append (r := []) hl (by simp)
      rw [List.append_nil] at h1
      rw [numerals?, if_neg (by simp), h1]
      rfl
    | column hl hc =>
      rename_i l c
      have h1 : colonNumeral? (':' :: (l ++ ':' :: c)) = some (l, ':' :: c) :=
        colonNumeral?_append hl (by simp [isDigit_colon])
      have h2 := colonNumeral?_append (r := []) hc (by simp)
      rw [List.append_nil] at h2
      rw [List.cons_append, numerals?, if_neg (by simp), h1]
      dsimp only
      rw [if_neg (by simp), h2]

/-- Numerals start with a colon. -/
theorem numerals?_cons_of_ne {c : Char} {s : Text} (h : c ≠ ':') : numerals? (c :: s) = none := by
  rw [Option.eq_none_iff_forall_ne_some]
  rintro ⟨l, k⟩ hn
  -- both shapes start with a colon
  cases numerals?_eq_some_iff.mp hn with
  | line => exact h rfl
  | column => exact h rfl

/-- A text in front of two numerals makes them no numerals: it starts without a colon or adds a
third one. -/
theorem numerals?_append_column {r : Text} (hr : r ≠ []) (l c : Text) :
    numerals? (r ++ (':' :: l ++ ':' :: c)) = none := by
  rw [Option.eq_none_iff_forall_ne_some]
  rintro ⟨l', c'⟩ h
  rw [numerals?_eq_some_iff] at h
  generalize ht : r ++ (':' :: l ++ ':' :: c) = t at h
  obtain ⟨x, xs, rfl⟩ := List.exists_cons_of_ne_nil hr
  have hcolons : (x :: xs ++ (':' :: l ++ ':' :: c)).count ':' = t.count ':' := by rw [ht]
  have hzero {d : Text} (hd : IsRun d) : d.count ':' = 0 :=
    List.count_eq_zero.mpr (hd.notMem isDigit_colon)
  -- the whole text has more colons than the shape that it is said to have
  cases h with
  | nothing => exact absurd ht (by simp)
  | line hl' =>
    have hx : x = ':' := (List.cons.inj ht).1
    simp only [List.count_append, List.count_cons, hx, hzero hl', beq_self_eq_true, if_true]
      at hcolons
    omega
  | column hl' hc' =>
    have hx : x = ':' := (List.cons.inj ht).1
    simp only [List.cons_append, List.count_append, List.count_cons, hx, hzero hl', hzero hc',
      beq_self_eq_true, if_true] at hcolons
    omega

/-! ## The shortest file -/

/-- **A cut loses nothing**: the file is not empty, and what follows it are the numerals found. -/
theorem cut_spec {s : Text} (h : s ≠ []) :
    ∃ q, s = (cut s).1 ++ q ∧ (cut s).1 ≠ [] ∧ AreNumerals q (cut s).2.1 (cut s).2.2 := by
  induction s with
  | nil => exact absurd rfl h
  | cons c s ih =>
    unfold cut
    -- the file ends here, or it goes on with the cut of the rest
    cases hn : numerals? s with
    | some lc => exact ⟨s, rfl, by simp, numerals?_eq_some_iff.mp hn⟩
    | none =>
      have hs : s ≠ [] := by
        rintro rfl
        exact absurd hn (by simp [numerals?])
      obtain ⟨q, hq, -, hnum⟩ := ih hs
      refine ⟨q, ?_, by simp, hnum⟩
      show c :: s = c :: ((cut s).1 ++ q)
      rw [← hq]

/-- **The shortest file is found**: no shorter one leaves numerals behind. -/
theorem cut_append {file q : Text} {l c : Option Text} (hf : file ≠ []) (hq : AreNumerals q l c)
    (hshort : ∀ a b, file = a ++ b → a ≠ [] → b ≠ [] → numerals? (b ++ q) = none) :
    cut (file ++ q) = (file, l, c) := by
  induction file with
  | nil => exact absurd rfl hf
  | cons x file ih =>
    rw [List.cons_append, cut]
    -- the walk stops at the whole file and, as no shorter one fits, not before
    cases file with
    | nil => rw [List.nil_append, numerals?_eq_some_iff.mpr hq]
    | cons y file =>
      rw [hshort [x] (y :: file) rfl (by simp) (by simp)]
      dsimp only
      rw [ih (by simp) fun a b hab ha hb => hshort (x :: a) b (by rw [hab]; rfl) (by simp) hb]

/-- **Two numerals behind a file are found**, whatever the file is made of. -/
theorem cut_place {file l c : Text} (hf : file ≠ []) (hl : IsRun l) (hc : IsRun c) :
    cut (file ++ (':' :: l ++ ':' :: c)) = (file, some l, some c) :=
  cut_append hf (.column hl hc) fun _ _ _ _ hb => numerals?_append_column hb l c

/-- One numeral is not taken for two behind a text that is no numeral itself. -/
theorem numerals?_append_line {b l : Text} (hb : b ≠ []) (hend : ∀ d, b = ':' :: d → ¬ IsRun d) :
    numerals? (b ++ ':' :: l) = none := by
  rw [Option.eq_none_iff_forall_ne_some]
  rintro ⟨l', c'⟩ h
  rw [numerals?_eq_some_iff] at h
  generalize ht : b ++ ':' :: l = t at h
  obtain ⟨x, d, rfl⟩ := List.exists_cons_of_ne_nil hb
  cases h with
  | nothing => exact absurd ht (by simp)
  | line hl' =>
    -- the only numeral would hold a colon
    have hmem : ':' ∈ d ++ ':' :: l := by simp
    exact hl'.notMem isDigit_colon ((List.cons.inj ht).2 ▸ hmem)
  | column hl' hc' =>
    obtain ⟨rfl, hd⟩ := List.cons.inj ht
    obtain ⟨rfl, -⟩ := (List.append_cons_inj_of_notMem (hl'.notMem isDigit_colon)
      (hc'.notMem isDigit_colon)).mp hd.symm
    exact hend _ rfl hl'

/-- **One numeral behind a file is found** if the file does not end in a numeral of its own. -/
theorem cut_line {file l : Text} (hf : file ≠ []) (hl : IsRun l)
    (hend : ∀ a d, file = a ++ ':' :: d → ¬ IsRun d) :
    cut (file ++ ':' :: l) = (file, some l, none) := by
  refine cut_append hf (.line hl) fun a b hab _ hb => numerals?_append_line hb ?_
  rintro d rfl
  exact hend a d hab

/-- Two numerals without a file in front are cut between them. -/
theorem cut_numerals {l c : Text} (hl : IsRun l) (hc : IsRun c) :
    cut (':' :: (l ++ ':' :: c)) = (':' :: l, some c, none) := by
  have hshort : ∀ a b, ':' :: l = a ++ b → a ≠ [] → b ≠ [] → numerals? (b ++ ':' :: c) = none := by
    intro a b hab ha hb
    obtain ⟨x, a, rfl⟩ := List.exists_cons_of_ne_nil ha
    obtain ⟨y, b, rfl⟩ := List.exists_cons_of_ne_nil hb
    -- what is left of the first numeral starts with a digit
    have hy : y ∈ l := by
      rw [(List.cons.inj hab).2]
      simp
    refine numerals?_cons_of_ne ?_
    rintro rfl
    exact hl.notMem isDigit_colon hy
  have h := cut_append (by simp) (.line hc) hshort
  rwa [List.cons_append] at h

/-! ## Parentheses -/

/-- Parentheses are dropped from each part of a text. -/
@[simp] theorem dropParentheses_append (s t : Text) :
    dropParentheses (s ++ t) = dropParentheses s ++ dropParentheses t :=
  List.filter_append s t

/-- Everything but parentheses is kept. -/
@[simp] theorem mem_dropParentheses {s : Text} {c : Char} :
    c ∈ dropParentheses s ↔ c ∈ s ∧ c ≠ '(' ∧ c ≠ ')' := by
  simp [dropParentheses]

/-- A text without parentheses is kept whole. -/
theorem dropParentheses_of_notMem {s : Text} (ho : '(' ∉ s) (hc : ')' ∉ s) :
    dropParentheses s = s := by
  unfold dropParentheses
  rw [List.filter_eq_self]
  intro c h
  have h1 : c ≠ '(' := fun he => ho (he ▸ h)
  have h2 : c ≠ ')' := fun he => hc (he ▸ h)
  simp [h1, h2]

/-- Only a text without parentheses is kept whole. -/
theorem dropParentheses_eq_self_iff {s : Text} :
    dropParentheses s = s ↔ '(' ∉ s ∧ ')' ∉ s := by
  refine ⟨fun h => ⟨fun hm => ?_, fun hm => ?_⟩, fun h => dropParentheses_of_notMem h.1 h.2⟩
  · rw [← h, mem_dropParentheses] at hm
    exact hm.2.1 rfl
  · rw [← h, mem_dropParentheses] at hm
    exact hm.2.2 rfl

/-- Dropping parentheses makes no text longer. -/
theorem length_dropParentheses_le (s : Text) : (dropParentheses s).length ≤ s.length :=
  List.length_filter_le _ s

/-! ## Locations -/

/-- A numeral within the limit is read as its value. -/
theorem readNumeral?_some {d : Text} (h : d.length ≤ Fault.digitLimit) :
    readNumeral? (some d) = .ok (some (value d)) := by
  rw [readNumeral?, read_of_le h]
  rfl

/-- A text with a colon, on one line, is read by cutting what is left without parentheses. -/
theorem read_of_colon {s : Text} (hs : '\n' ∉ s) (h : ':' ∈ s) :
    read s = (do
      let line ← readNumeral? (cut (dropParentheses s)).2.1
      let column ← readNumeral? (cut (dropParentheses s)).2.2
      return ⟨some (cut (dropParentheses s)).1, line, column⟩) := by
  have hnl : '\n' ∉ dropParentheses s := fun hm => hs (mem_dropParentheses.mp hm).1
  have hne : dropParentheses s ≠ [] :=
    List.ne_nil_of_mem (mem_dropParentheses.mpr ⟨h, by decide, by decide⟩)
  -- on one line there is no final newline to set aside
  rw [read, if_neg (by simpa using h), cutFinalNewline_of_notMem hnl]
  dsimp only
  rw [if_neg (by simp [hne, hnl])]

/-- **A full place is read as it is written**, in parentheses or without. -/
theorem read_place {s file l c : Text} (hs : '\n' ∉ s)
    (h : dropParentheses s = file ++ (':' :: l ++ ':' :: c)) (hf : file ≠ []) (hl : IsRun l)
    (hc : IsRun c) (hll : l.length ≤ Fault.digitLimit) (hcl : c.length ≤ Fault.digitLimit) :
    read s = .ok ⟨some file, some (value l), some (value c)⟩ := by
  have hcolon : ':' ∈ dropParentheses s := by rw [h]; simp
  -- without the parentheses the text is cut behind its file
  rw [read_of_colon hs (mem_dropParentheses.mp hcolon).1, h, cut_place hf hl hc]
  dsimp only
  rw [readNumeral?_some hll, readNumeral?_some hcl]
  rfl

/-- **A place with a line alone** is read as it is written, if the file does not end in a numeral of
its own. -/
theorem read_line {s file l : Text} (hs : '\n' ∉ s) (h : dropParentheses s = file ++ ':' :: l)
    (hf : file ≠ []) (hl : IsRun l) (hll : l.length ≤ Fault.digitLimit)
    (hend : ∀ a d, file = a ++ ':' :: d → ¬ IsRun d) :
    read s = .ok ⟨some file, some (value l), none⟩ := by
  have hcolon : ':' ∈ dropParentheses s := by rw [h]; simp
  rw [read_of_colon hs (mem_dropParentheses.mp hcolon).1, h, cut_line hf hl hend]
  dsimp only
  rw [readNumeral?_some hll]
  rfl

/-- **What a read place says about its text.** Without a colon all of it is the file. Otherwise it
splits, without its parentheses, into the file and numerals of readable length. -/
theorem read_eq_ok {s : Text} {p : Place} (hs : '\n' ∉ s) (h : read s = .ok p) :
    (':' ∉ s ∧ p = ⟨if s.isEmpty then none else some s, none, none⟩) ∨
    ∃ file q l c, dropParentheses s = file ++ q ∧ file ≠ [] ∧ AreNumerals q l c ∧
      p.file = some file ∧ readNumeral? l = .ok p.line ∧ readNumeral? c = .ok p.column := by
  by_cases hcolon : ':' ∈ s
  · right
    have hne : dropParentheses s ≠ [] :=
      List.ne_nil_of_mem (mem_dropParentheses.mpr ⟨hcolon, by decide, by decide⟩)
    obtain ⟨q, hq, hf, hnum⟩ := cut_spec hne
    rw [read_of_colon hs hcolon] at h
    -- both numerals were read, since the whole is no fault
    obtain ⟨l, hl, h⟩ := Outcome.bind_eq_ok_iff.mp h
    obtain ⟨c, hc, h⟩ := Outcome.bind_eq_ok_iff.mp h
    cases h
    exact ⟨_, q, _, _, hq, hf, hnum, rfl, hl, hc⟩
  · left
    rw [read, if_pos (by simpa using hcolon)] at h
    cases h
    exact ⟨hcolon, rfl⟩

/-- What was read is the value of a short numeral, or nothing where there was none. -/
theorem of_readNumeral? {o : Option Text} {n : Option Nat} (h : readNumeral? o = .ok n) :
    n = o.map value ∧ ∀ d ∈ o, d.length ≤ Fault.digitLimit := by
  cases o with
  | none =>
    cases h
    exact ⟨rfl, by simp⟩
  | some d =>
    rw [readNumeral?, Numeral.read] at h
    by_cases hd : d.length ≤ Fault.digitLimit
    · rw [if_pos hd] at h
      cases h
      exact ⟨rfl, by simpa using hd⟩
    · rw [if_neg hd] at h
      cases h

/-- **Numbers that were read can be written**: they have no more digits than their numerals. -/
theorem length_le_of_read {s : Text} {p : Place} (hs : '\n' ∉ s) (h : read s = .ok p) :
    (∀ n ∈ p.line, (ofNat n).length ≤ Fault.digitLimit) ∧
      ∀ n ∈ p.column, (ofNat n).length ≤ Fault.digitLimit := by
  -- a number is no longer than the numeral it was read from, leading zeros included
  have hnumber {o : Option Text} {m : Option Nat} (hrun : ∀ d ∈ o, IsRun d)
      (hm : readNumeral? o = .ok m) : ∀ n ∈ m, (ofNat n).length ≤ Fault.digitLimit := by
    obtain ⟨rfl, hshort⟩ := of_readNumeral? hm
    intro n hn
    obtain ⟨d, hd, rfl⟩ := Option.map_eq_some_iff.mp hn
    exact Nat.le_trans (length_ofNat_value_le (hrun d hd).ne_nil) (hshort d hd)
  rcases read_eq_ok hs h with ⟨-, rfl⟩ | ⟨_, q, l, c, -, -, hnum, -, hl, hc⟩
  · simp
  · exact ⟨hnumber hnum.isRun.1 hl, hnumber hnum.isRun.2 hc⟩

/-- **A place with both numbers** names a file, and its text is that file, the two numerals and
parentheses. -/
theorem of_read_column {s : Text} {p : Place} {n : Nat} (hs : '\n' ∉ s) (h : read s = .ok p)
    (hn : p.column = some n) :
    ∃ file l c, dropParentheses s = file ++ (':' :: l ++ ':' :: c) ∧ file ≠ [] ∧ IsRun l ∧ IsRun c ∧
      l.length ≤ Fault.digitLimit ∧ c.length ≤ Fault.digitLimit ∧
      p = ⟨some file, some (value l), some (value c)⟩ := by
  rcases read_eq_ok hs h with ⟨-, rfl⟩ | ⟨file, q, l, c, hsplit, hne, hnum, hf, hl, hc⟩
  · cases hn
  · obtain ⟨hlv, hll⟩ := of_readNumeral? hl
    obtain ⟨hcv, hcl⟩ := of_readNumeral? hc
    obtain ⟨pf, pl, pc⟩ := p
    subst hf hlv hcv
    -- only the last of the three shapes gives a column
    cases hnum with
    | nothing => cases hn
    | line => cases hn
    | column hl' hc' => exact ⟨_, _, _, hsplit, hne, hl', hc', hll _ rfl, hcl _ rfl, rfl⟩

/-- What holds of every place that was read off one line. -/
structure OneLine (p : Place) : Prop where
  file_line : ∀ file ∈ p.file, '\n' ∉ file
  -- a column comes with a line, and both can be written
  numbers : ∀ column ∈ p.column, (ofNat column).length ≤ Fault.digitLimit ∧
    ∃ line, p.line = some line ∧ (ofNat line).length ≤ Fault.digitLimit
  file_bare : ∀ file ∈ p.file, p.column.isSome → file ≠ [] ∧ '(' ∉ file ∧ ')' ∉ file

/-- A place that was read off one line fits on one line. -/
theorem oneLine_of_read {s : Text} {p : Place} (hs : '\n' ∉ s) (h : read s = .ok p) :
    OneLine p := by
  have hfile : ∀ file ∈ p.file, '\n' ∉ file := by
    intro file hf
    rcases read_eq_ok hs h with ⟨-, rfl⟩ | ⟨file', q, l, c, hsplit, -, -, hf', -⟩
    · dsimp only at hf
      split at hf
      · cases hf
      · cases hf
        exact hs
    · rw [hf'] at hf
      cases hf
      intro hm
      have hmem : '\n' ∈ dropParentheses s := by
        rw [hsplit]
        exact List.mem_append_left q hm
      exact hs (mem_dropParentheses.mp hmem).1
  -- only a place with a column says something about its numbers and its parentheses
  cases hcol : p.column with
  | none => exact ⟨hfile, by simp [hcol], by simp [hcol]⟩
  | some n =>
    obtain ⟨file, l, c, hsplit, hne, hl, hc, hll, hcl, rfl⟩ := of_read_column hs h hcol
    -- the file is part of a text that has lost its parentheses
    have hbare : ∀ x ∈ file, x ∈ dropParentheses s := by
      intro x hx
      rw [hsplit]
      exact List.mem_append_left _ hx
    refine ⟨hfile, ?_, ?_⟩
    · rintro column ⟨⟩
      exact ⟨Nat.le_trans (length_ofNat_value_le hc.ne_nil) hcl, value l, rfl,
        Nat.le_trans (length_ofNat_value_le hl.ne_nil) hll⟩
    · rintro file ⟨⟩ -
      exact ⟨hne, fun hm => (mem_dropParentheses.mp (hbare _ hm)).2.1 rfl,
        fun hm => (mem_dropParentheses.mp (hbare _ hm)).2.2 rfl⟩

end Stacktrace.Place
