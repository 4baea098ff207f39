import Stacktrace.Proofs.Frame.Legible

/-!
# The shortest file of a location

A location may hold many colons: ports, drive letters, numerals that belong to a file's name. Where
it is split is said here without the search that `Place.cut` makes from left to right:

* `IsSplit` — a text as a non-empty file and the numerals behind it;
* `IsShortestSplit` — such a split with no shorter file;
* `length_cut_le` — no split has a shorter file than the one that the search finds;
* `isShortestSplit_iff` — so every text but the empty one has exactly one shortest split, the one
  that the search finds;
* `read_shortest_file` — and a location with a colon is read as it, whatever its parentheses.
-/

namespace Stacktrace.Place

open Text Numeral

variable {s file : Text} {line column : Option Text}

/-! ## Splits -/

/-- A numeral that was found, with its colon, or nothing. -/
def colonText : Option Text → Text
  | none => []
  | some digits => ':' :: digits

/-- What follows a file is spelt by the numerals that were found. -/
theorem AreNumerals.eq_colonText {q : Text} (h : AreNumerals q line column) :
    q = colonText line ++ colonText column := by
  cases h with
  | nothing => rfl
  | line => exact (List.append_nil _).symm
  | column => rfl

/-- A column never comes without a line. -/
theorem AreNumerals.isSome_line {q : Text} (h : AreNumerals q line column)
    (hc : column.isSome = true) : line.isSome = true := by
  cases h with
  | nothing => exact hc
  | line => rfl
  | column => rfl

/-- A text as a file and the numerals behind it. -/
structure IsSplit (s file : Text) (line column : Option Text) : Prop where
  file_ne_nil : file ≠ []
  numerals : ∃ q, s = file ++ q ∧ AreNumerals q line column

/-- A split with the shortest file there is. -/
structure IsShortestSplit (s file : Text) (line column : Option Text) : Prop
    extends IsSplit s file line column where
  shortest : ∀ f l c, IsSplit s f l c → file.length ≤ f.length

/-- **A split loses nothing**: the numerals found, with their colons, stand behind the file. -/
theorem IsSplit.eq_append (h : IsSplit s file line column) :
    s = file ++ (colonText line ++ colonText column) := by
  obtain ⟨q, rfl, hq⟩ := h.numerals
  rw [← hq.eq_colonText]

/-- The same for splits. -/
theorem IsSplit.isSome_line (h : IsSplit s file line column) (hc : column.isSome = true) :
    line.isSome = true := by
  obtain ⟨q, -, hq⟩ := h.numerals
  exact hq.isSome_line hc

/-- Only a text that is not empty can be split. -/
theorem IsSplit.ne_nil (h : IsSplit s file line column) : s ≠ [] := by
  rw [h.eq_append]
  exact List.append_ne_nil_of_left_ne_nil h.file_ne_nil _

/-- Behind the first character of a file, either the file is at its end or a split goes on. -/
theorem IsSplit.tail {x : Char} (h : IsSplit (x :: s) file line column) :
    (file = [x] ∧ AreNumerals s line column) ∨
      ∃ f, file = x :: f ∧ IsSplit s f line column := by
  obtain ⟨q, hq, hnum⟩ := h.numerals
  obtain ⟨y, f, rfl⟩ := List.exists_cons_of_ne_nil h.file_ne_nil
  obtain ⟨rfl, rfl⟩ := List.cons.inj hq
  cases f with
  | nil => exact .inl ⟨rfl, hnum⟩
  | cons z f => exact .inr ⟨_, rfl, by simp, q, rfl, hnum⟩

/-! ## What the search finds -/

/-- **No split has a shorter file** than the one that the search finds. -/
theorem length_cut_le (h : IsSplit s file line column) : (cut s).1.length ≤ file.length := by
  induction s generalizing file with
  | nil => exact absurd rfl h.ne_nil
  | cons x s ih =>
    unfold cut
    cases hn : numerals? s with
    | some found => exact List.length_pos_iff.mpr h.file_ne_nil
    | none =>
      rcases h.tail with ⟨-, hnum⟩ | ⟨f, rfl, hf⟩
      · -- the search would have stopped here
        rw [numerals?_eq_some_iff.mpr hnum] at hn
        cases hn
      · exact Nat.succ_le_succ (ih hf)

/-- What the search finds is a shortest split. -/
theorem isShortestSplit_cut (h : s ≠ []) :
    IsShortestSplit s (cut s).1 (cut s).2.1 (cut s).2.2 := by
  obtain ⟨q, hq, hf, hnum⟩ := cut_spec h
  exact ⟨⟨hf, q, hq, hnum⟩, fun _ _ _ => length_cut_le⟩

/-- A shortest split is what the search finds. -/
theorem IsShortestSplit.cut_eq (h : IsShortestSplit s file line column) :
    cut s = (file, line, column) := by
  obtain ⟨q, hq, hnum⟩ := h.numerals
  rw [hq]
  refine cut_append h.file_ne_nil hnum fun a b hab ha hb => ?_
  rw [Option.eq_none_iff_forall_ne_some]
  rintro ⟨l, c⟩ hn
  -- the beginning of the file would be a shorter file
  have hsplit : IsSplit s a l c :=
    ⟨ha, b ++ q, by rw [hq, hab, List.append_assoc], numerals?_eq_some_iff.mp hn⟩
  have hle := h.shortest a l c hsplit
  rw [hab, List.length_append] at hle
  have hpos := List.length_pos_iff.mpr hb
  omega

/-- **The shortest split is the one that the search finds**, and there is one of every text but the
empty one. -/
theorem isShortestSplit_iff :
    IsShortestSplit s file line column ↔ s ≠ [] ∧ cut s = (file, line, column) := by
  constructor
  · intro h
    exact ⟨h.ne_nil, h.cut_eq⟩
  · rintro ⟨hne, hcut⟩
    have h := isShortestSplit_cut hne
    rwa [hcut] at h

instance (s file : Text) (line column : Option Text) :
    Decidable (IsShortestSplit s file line column) :=
  decidable_of_iff _ isShortestSplit_iff.symm

/-- Two numerals alone: the first one is the file, since a file is never empty. -/
example : IsShortestSplit ":1:2".toList ":1".toList (some "2".toList) none := by
  decide

/-! ## Reading -/

/-- **What is read is the shortest split** of the text without its parentheses. -/
theorem eq_of_read_of_isShortestSplit {p : Place} (hs : '\n' ∉ s) (hcolon : ':' ∈ s)
    (h : IsShortestSplit (dropParentheses s) file line column) (hp : read s = .ok p) :
    p = ⟨some file, line.map value, column.map value⟩ := by
  rw [read_of_colon hs hcolon, h.cut_eq] at hp
  obtain ⟨l, hl, hp⟩ := Outcome.bind_eq_ok_iff.mp hp
  obtain ⟨c, hc, hp⟩ := Outcome.bind_eq_ok_iff.mp hp
  obtain rfl := (of_readNumeral? hl).1
  obtain rfl := (of_readNumeral? hc).1
  exact (Except.ok.inj hp).symm

/-- A written place holds no character but those of its file, digits and colons. -/
theorem notMem_append_numerals {l c : Text} {x : Char} (hfile : x ∉ file) (hl : IsRun l)
    (hc : IsRun c) (hdigit : isDigit x = false) (hcolon : x ≠ ':') :
    x ∉ file ++ (':' :: l ++ ':' :: c) := by
  simp [hfile, hl.notMem hdigit, hc.notMem hdigit, hcolon]

/-- **A location is read as its shortest split.** On one line, with a colon and without overlong
numerals, every location is read, and as the only split of the text without its parentheses that has
the shortest file. Apart from the parentheses nothing is lost, and a column never comes without a
line. In particular, two numerals behind a file are read as they are, whatever colons and numerals
the file itself holds or ends in. -/
theorem read_shortest_file :
    (∀ s : Text, '\n' ∉ s → ':' ∈ s → ShortRuns (dropParentheses s) →
      ∃ (file : Text) (line column : Option Text),
        (∀ f l c, IsShortestSplit (dropParentheses s) f l c ↔
          f = file ∧ l = line ∧ c = column) ∧
        read s = .ok ⟨some file, line.map value, column.map value⟩ ∧
        dropParentheses s = file ++ (colonText line ++ colonText column) ∧
        (column.isSome = true → line.isSome = true)) ∧
    ∀ file l c : Text, file ≠ [] → '\n' ∉ file → '(' ∉ file → ')' ∉ file →
      IsRun l → IsRun c → l.length ≤ Fault.digitLimit → c.length ≤ Fault.digitLimit →
      read (file ++ (':' :: l ++ ':' :: c)) = .ok ⟨some file, some (value l), some (value c)⟩ := by
  constructor
  · intro s hs hcolon hshort
    have hne : dropParentheses s ≠ [] :=
      List.ne_nil_of_mem (mem_dropParentheses.mpr ⟨hcolon, by decide, by decide⟩)
    have hsplit := isShortestSplit_cut hne
    -- the location is read because its numerals are short, and what is read is the cut
    obtain ⟨p, hp⟩ := exists_read hs hshort
    obtain rfl := eq_of_read_of_isShortestSplit hs hcolon hsplit hp
    refine ⟨_, _, _, fun f l c => ⟨?unique, ?shortest⟩, hp, hsplit.eq_append, hsplit.isSome_line⟩
    case unique =>
      intro h
      rw [h.cut_eq]
      exact ⟨rfl, rfl, rfl⟩
    case shortest =>
      rintro ⟨rfl, rfl, rfl⟩
      exact hsplit
  · intro file l c hf hnl hopen hclose hl hc hll hcl
    have hline : '\n' ∉ file ++ (':' :: l ++ ':' :: c) :=
      notMem_append_numerals hnl hl hc (by decide) (by decide)
    have hwhole := dropParentheses_of_notMem
      (notMem_append_numerals hopen hl hc (by decide) (by decide))
      (notMem_append_numerals hclose hl hc (by decide) (by decide))
    exact read_place hline hwhole hf hl hc hll hcl

/-- A drive letter, parentheses and a file that ends in a numeral. -/
theorem read_shortest_file_driveLetter :
    let location := "(file:///C:/src/(app)/a.js:1:12:34)".toList
    let file := "http://host:80/@scope/a.js:7".toList
    ('\n' ∉ location ∧ ':' ∈ location ∧ ShortRuns (dropParentheses location)) ∧
      read location = .ok ⟨some "file:///C:/src/app/a.js:1".toList, some 12, some 34⟩ ∧
      read (file ++ ":007:42".toList) = .ok ⟨some file, some 7, some 42⟩ := by
  intro location file
  have hnl : '\n' ∉ location := by decide
  have hcolon : ':' ∈ location := by decide
  have hshort : ShortRuns (dropParentheses location) :=
    .of_length_le ((length_dropParentheses_le location).trans (by decide))
  have hsplit : IsShortestSplit (dropParentheses location)
      "file:///C:/src/app/a.js:1".toList (some "12".toList) (some "34".toList) := by decide
  obtain ⟨_, _, _, hunique, hread, -, -⟩ := read_shortest_file.1 location hnl hcolon hshort
  -- the split at hand is a shortest one, so it is the one that was read
  obtain ⟨rfl, rfl, rfl⟩ := (hunique _ _ _).mp hsplit
  have hplace := read_shortest_file.2 file "007".toList "42".toList (by decide) (by decide)
    (by decide) (by decide) (by decide) (by decide) (by decide) (by decide)
  exact ⟨⟨hnl, hcolon, hshort⟩, hread, hplace⟩

end Stacktrace.Place
