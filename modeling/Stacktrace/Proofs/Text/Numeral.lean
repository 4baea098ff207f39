import Mathlib.Data.List.Basic
import Mathlib.Data.List.Induction
import Mathlib.Data.List.TakeWhile
import Stacktrace.Text.Blank
import Stacktrace.Text.Numeral

/-!
# Reading back written numerals

A *run* is a non-empty text of decimal digits of any script. This module ties the two directions of
`Numeral` together:

* `cutDigits?_append` — a run in front of something else is cut off whole;
* `value_ofNat` — the digits of a number read as that number;
* `ofNat_value` — ASCII digits without a leading zero are what their value is written as;
* `length_ofNat_value_le` — no run is shorter than the digits that its value is written with.

Digits are neither blank nor punctuation, so a run never takes part in the layout of a frame.
-/

namespace Stacktrace.Numeral

open Text

/-! ## Digits are not punctuation -/

/-- No run of ten digits reaches into a range of blanks. -/
theorem zeros_apart_blanks : ∀ z ∈ zeros, 32 < z ∧ (z + 9 < 0x85 ∨ 0xa0 < z) ∧
    (z + 9 < 0x1680 ∨ 0x1680 < z) ∧ (z + 9 < 0x2000 ∨ 0x205f < z) ∧
    (z + 9 < 0x3000 ∨ 0x3000 < z) := by
  decide

/-- A digit lies in one of the runs of ten. -/
theorem exists_zero_of_isDigit {c : Char} (h : isDigit c = true) :
    ∃ z ∈ zeros, z ≤ c.toNat ∧ c.toNat ≤ z + 9 := by
  unfold isDigit digit? at h
  rw [Option.isSome_map, List.find?_isSome] at h
  obtain ⟨z, hz, hc⟩ := h
  rw [Bool.and_eq_true, decide_eq_true_eq, decide_eq_true_eq] at hc
  exact ⟨z, hz, hc⟩

/-- No digit of any script is a blank. -/
theorem isBlank_of_isDigit {c : Char} (h : isDigit c = true) : isBlank c = false := by
  obtain ⟨z, hz, hle, hge⟩ := exists_zero_of_isDigit h
  have hap := zeros_apart_blanks z hz
  rw [← Bool.not_eq_true]
  -- the digit lies in its run of ten, and no run reaches into a range of blanks
  unfold isBlank
  simp only [Bool.or_eq_true, Bool.and_eq_true, decide_eq_true_eq, beq_iff_eq]
  omega

/-- The separator of numerals is no digit. -/
theorem isDigit_colon : isDigit ':' = false := by decide

/-! ## ASCII digits -/

/-- An ASCII digit is worth its distance from the zero. -/
theorem digit?_of_ascii {c : Char} (h : c.isDigit = true) :
    digit? c = some (c.toNat - '0'.toNat) := by
  rw [Char.isDigit_iff_toNat] at h
  unfold digit? zeros
  -- the run that starts at the ASCII zero is the first of all
  rw [List.find?_cons_of_pos]
  · rfl
  · rw [Bool.and_eq_true, decide_eq_true_eq, decide_eq_true_eq]
    exact h

/-- ASCII digits are digits. -/
theorem isDigit_of_ascii {c : Char} (h : c.isDigit = true) : isDigit c = true := by
  rw [isDigit, digit?_of_ascii h]
  rfl

/-- On ASCII digits the value is the one that the library gives to their characters. -/
theorem value_eq_ofDigitChars {s : Text} (h : ∀ c ∈ s, c.isDigit = true) :
    value s = Nat.ofDigitChars 10 s 0 := by
  rw [value, Nat.ofDigitChars_eq_foldl]
  apply List.foldl_ext
  intro n c hc
  rw [digit?_of_ascii (h c hc)]
  rfl

/-! ## Runs -/

/-- A text that is one numeral: at least one digit and nothing else. -/
structure IsRun (s : Text) : Prop where
  ne_nil : s ≠ []
  digits : ∀ c ∈ s, isDigit c = true

instance (s : Text) : Decidable (IsRun s) :=
  decidable_of_iff (s ≠ [] ∧ s.all isDigit = true)
    ⟨fun h => ⟨h.1, List.all_eq_true.mp h.2⟩, fun h => ⟨h.ne_nil, List.all_eq_true.mpr h.digits⟩⟩

/-- A run read backwards is a run. -/
theorem IsRun.reverse {s : Text} (h : IsRun s) : IsRun s.reverse :=
  ⟨by simpa using h.ne_nil, fun c hc => h.digits c (List.mem_reverse.mp hc)⟩

/-- Only digits stand in a run. -/
theorem IsRun.notMem {s : Text} (h : IsRun s) {c : Char} (hc : isDigit c = false) : c ∉ s := by
  intro hm
  rw [h.digits c hm] at hc
  exact Bool.noConfusion hc

/-- A digit that is repeated is a run. -/
theorem isRun_replicate {n : Nat} (hn : 0 < n) {c : Char} (hc : isDigit c = true) :
    IsRun (List.replicate n c) where
  ne_nil := List.ne_nil_of_length_pos (by rw [List.length_replicate]; exact hn)
  digits d hd := by
    rw [List.eq_of_mem_replicate hd]
    exact hc

/-- A run in front of something that is no digit is cut off whole. -/
theorem cutDigits?_append {d r : Text} (h : IsRun d) (hr : ∀ c ∈ r.head?, isDigit c = false) :
    cutDigits? (d ++ r) = some (d, r) := by
  -- the rest starts with no digit, so the run stops where it ends
  have htake : r.takeWhile isDigit = [] := by
    cases r with
    | nil => rfl
    | cons c r => simp [hr c rfl]
  have hdrop : r.dropWhile isDigit = r := by
    cases r with
    | nil => rfl
    | cons c r => simp [hr c rfl]
  rw [cutDigits?_eq_some_iff, List.takeWhile_append_of_pos h.digits, List.dropWhile_append_of_pos h.digits,
    htake, hdrop, List.append_nil]
  exact ⟨h.ne_nil, rfl, rfl⟩

/-- What is cut off is a run, and nothing is lost. -/
theorem of_cutDigits? {s d r : Text} (h : cutDigits? s = some (d, r)) : IsRun d ∧ s = d ++ r := by
  obtain ⟨hne, rfl, rfl⟩ := cutDigits?_eq_some_iff.mp h
  exact ⟨⟨hne, fun c hc => List.mem_takeWhile_imp hc⟩, List.takeWhile_append_dropWhile.symm⟩

/-! ## Values and their digits -/

/-- A further digit multiplies the value by ten and adds its own. -/
theorem value_append (s : Text) (c : Char) :
    value (s ++ [c]) = 10 * value s + (digit? c).getD 0 := by
  rw [value, value, List.foldl_append]
  rfl

/-- A digit is worth less than ten, and so is what stands for none. -/
theorem digit?_lt {c : Char} : (digit? c).getD 0 < 10 := by
  unfold digit?
  cases h : zeros.find? fun z => decide (z ≤ c.toNat) && decide (c.toNat ≤ z + 9) with
  | none => exact Nat.zero_lt_succ 9
  | some z =>
    have hz := List.find?_some h
    rw [Bool.and_eq_true, decide_eq_true_eq, decide_eq_true_eq] at hz
    show c.toNat - z < 10
    omega

/-- A text of `k` digits is worth less than `10 ^ k`. -/
theorem value_lt (s : Text) : value s < Nat.pow 10 s.length := by
  induction s using List.reverseRecOn with
  | nil => decide
  | append_singleton s c ih =>
    have hc : (digit? c).getD 0 < 10 := digit?_lt
    -- a further digit multiplies both sides by ten
    have hpow : Nat.pow 10 (s.length + 1) = Nat.pow 10 s.length * 10 := rfl
    rw [value_append, List.length_append, List.length_singleton, hpow]
    omega

/-- Numbers are written in ASCII digits. -/
theorem ascii_of_mem_ofNat {n : Nat} {c : Char} (h : c ∈ ofNat n) : c.isDigit = true :=
  Nat.isDigit_of_mem_toDigits (by decide) (by decide) h

/-- A written number is a run. -/
theorem isRun_ofNat (n : Nat) : IsRun (ofNat n) :=
  ⟨Nat.toDigits_ne_nil, fun _ hc => isDigit_of_ascii (ascii_of_mem_ofNat hc)⟩

/-- **Writing, then reading**: the digits of a number are worth that number. -/
theorem value_ofNat (n : Nat) : value (ofNat n) = n := by
  rw [value_eq_ofDigitChars fun _ hc => ascii_of_mem_ofNat hc]
  exact Nat.ofDigitChars_ten_toDigits

/-- The numbers of at most `k` digits are those below `10 ^ k`. -/
theorem length_ofNat_le_iff {n k : Nat} (h : 0 < k) : (ofNat n).length ≤ k ↔ n < Nat.pow 10 k :=
  Nat.length_toDigits_le_iff (by decide) h

/-- A value is written with no more digits than it was read from. -/
theorem length_ofNat_value_le {s : Text} (h : s ≠ []) : (ofNat (value s)).length ≤ s.length :=
  (length_ofNat_le_iff (List.length_pos_iff.mpr h)).mpr (value_lt s)

/-- ASCII digits in the form in which a number is written: no zero stands in front of others. -/
structure IsCanonical (s : Text) : Prop where
  ne_nil : s ≠ []
  ascii : ∀ c ∈ s, c.isDigit = true
  no_leading_zero : s.head? = some '0' → s = ['0']

instance (s : Text) : Decidable (IsCanonical s) :=
  decidable_of_iff
    (s ≠ [] ∧ s.all Char.isDigit = true ∧ (s.head? = some '0' → s = ['0']))
    ⟨fun h => ⟨h.1, List.all_eq_true.mp h.2.1, h.2.2⟩,
      fun h => ⟨h.ne_nil, List.all_eq_true.mpr h.ascii, h.no_leading_zero⟩⟩

/-- An ASCII digit is the digit character of its value. -/
theorem digitChar_digit? {c : Char} (h : c.isDigit = true) :
    Nat.digitChar ((digit? c).getD 0) = c := by
  rw [digit?_of_ascii h]
  rw [Char.isDigit_iff_toNat] at h
  show Nat.digitChar (c.toNat - 48) = c
  have hall : ∀ k < 10, Nat.digitChar k = Char.ofNat (48 + k) := by decide
  have hlo : 48 ≤ c.toNat := h.1
  have hhi : c.toNat ≤ 57 := h.2
  rw [hall _ (by omega), show 48 + (c.toNat - 48) = c.toNat by omega, Char.ofNat_toNat]

/-- ASCII digits that do not start with a zero are worth something. -/
theorem value_pos {s : Text} (hne : s ≠ []) (h : ∀ c ∈ s, c.isDigit = true)
    (hz : s.head? ≠ some '0') : 0 < value s := by
  induction s using List.reverseRecOn with
  | nil => exact absurd rfl hne
  | append_singleton s c ih =>
    rw [value_append]
    cases s with
    | nil =>
      -- the only digit is not the zero
      have hc := digitChar_digit? (h c (by simp))
      have hc0 : (digit? c).getD 0 ≠ 0 := by
        intro h0
        rw [h0] at hc
        exact hz (by rw [← hc]; rfl)
      omega
    | cons d s =>
      -- the first digit is that of the beginning, which is worth something already
      have hs := ih (by simp) (fun x hx => h x (List.mem_append_left _ hx)) hz
      omega

/-- **Reading, then writing**: digits in the canonical form are what their value is written as. -/
theorem ofNat_value {s : Text} (h : IsCanonical s) : ofNat (value s) = s := by
  obtain ⟨hne, hascii, hzero⟩ := h
  -- by induction on the last digit, as the value is computed
  induction s using List.reverseRecOn with
  | nil => exact absurd rfl hne
  | append_singleton s c ih =>
    have hc := digitChar_digit? (hascii c (by simp))
    have hlt : (digit? c).getD 0 < 10 := digit?_lt
    rw [value_append]
    cases s with
    | nil =>
      show Nat.toDigits 10 (10 * 0 + (digit? c).getD 0) = [c]
      rw [Nat.toDigits_of_lt_base (by omega), Nat.mul_zero, Nat.zero_add, hc]
    | cons d s =>
      have hs : ∀ x ∈ d :: s, x.isDigit = true := fun x hx => hascii x (List.mem_append_left _ hx)
      have hd : (d :: s).head? ≠ some '0' := by
        intro he
        have hl := congrArg List.length (hzero he)
        simp at hl
      -- the value has a digit more than that of the beginning, since the latter is not zero
      have hpos := value_pos (by simp) hs hd
      rw [ofNat, Nat.toDigits_of_base_le (by decide) (by omega)]
      have hdiv : (10 * value (d :: s) + (digit? c).getD 0) / 10 = value (d :: s) := by omega
      have hmod : (10 * value (d :: s) + (digit? c).getD 0) % 10 = (digit? c).getD 0 := by omega
      rw [hdiv, hmod, hc]
      have ih' := ih (by simp) hs fun he => absurd he hd
      rw [ofNat] at ih'
      rw [ih']

/-! ## Reading and writing within the limit -/

/-- A numeral within the limit is read as its value. -/
theorem read_of_le {s : Text} (h : s.length ≤ Fault.digitLimit) : read s = .ok (value s) := by
  rw [read, if_pos h]

/-- What is read is the value of a numeral within the limit. -/
theorem read_eq_ok_iff {s : Text} {n : Nat} :
    read s = .ok n ↔ s.length ≤ Fault.digitLimit ∧ n = value s := by
  unfold read
  by_cases h : s.length ≤ Fault.digitLimit
  · rw [if_pos h, Except.ok.injEq]
    exact ⟨fun hn => ⟨h, hn.symm⟩, fun hn => hn.2.symm⟩
  · rw [if_neg h]
    exact iff_of_false (by simp) fun hn => h hn.1

/-- A numeral is refused for its length and for nothing else. -/
theorem read_eq_error_iff {s : Text} {e : Fault} :
    read s = .error e ↔ Fault.digitLimit < s.length ∧ e = .numeralTooLong s.length := by
  unfold read
  by_cases h : s.length ≤ Fault.digitLimit
  · rw [if_pos h]
    exact iff_of_false (by simp) fun he => Nat.not_lt.mpr h he.1
  · rw [if_neg h, Except.error.injEq]
    exact ⟨fun he => ⟨Nat.lt_of_not_le h, he.symm⟩, fun he => he.2.symm⟩

/-- A number is written as its digits, unless there are too many. -/
theorem write_eq_ok_iff {i : Int} {s : Text} :
    write i = .ok s ↔ (ofNat i.natAbs).length ≤ Fault.digitLimit ∧ s = ofInt i := by
  unfold write
  by_cases h : (ofNat i.natAbs).length ≤ Fault.digitLimit
  · rw [if_pos h, Except.ok.injEq]
    exact ⟨fun hs => ⟨h, hs.symm⟩, fun hs => hs.2.symm⟩
  · rw [if_neg h]
    exact iff_of_false (by simp) fun hs => h hs.1

/-- A number within the limit is written as its digits. -/
theorem write_natCast {n : Nat} (h : (ofNat n).length ≤ Fault.digitLimit) :
    write (n : Int) = .ok (ofNat n) :=
  write_eq_ok_iff.mpr ⟨h, rfl⟩

/-- What is written for a number without a sign is a run. -/
theorem isRun_of_write {i : Int} {s : Text} (hi : 0 ≤ i) (h : write i = .ok s) : IsRun s := by
  obtain ⟨n, rfl⟩ := Int.eq_ofNat_of_zero_le hi
  rw [(write_eq_ok_iff.mp h).2]
  exact isRun_ofNat n

end Stacktrace.Numeral
