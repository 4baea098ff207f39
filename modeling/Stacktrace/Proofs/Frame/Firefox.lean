import Stacktrace.Frame.Firefox
import Stacktrace.Proofs.Frame.Place
import Stacktrace.Proofs.Text.Search

/-!
# What a Firefox frame says

Reading a Firefox frame collapses chains of evaluated code, cuts the name off at an at sign and
splits the rest.

* `collapseEvals_eq_self` — a line without the mark of a chain stays;
* `cutName?_eq_some`, `cutName?_append` — a cut takes exactly one at sign away, the first one where
  there are no quotation marks;
* `read_of_cutName?`, `read_named`, `read_eq_ok` — reading forwards and backwards.
-/

namespace Stacktrace.Firefox

open Text Numeral

/-! ## Chains of evaluated code -/

/-- The text that every chain holds. -/
def chainMark : Text := [' ', '>', ' ', 'e', 'v', 'a', 'l']

/-- A line without the mark of a chain is left as it is. -/
theorem collapseEvals_eq_self {s : Text} (h : ¬ chainMark <:+: s) : collapseEvals s = s := by
  rw [collapseEvals, if_neg]
  rw [occursIn_iff]
  exact h

/-- What is read off is the piece and a run behind it. -/
theorem of_piecedNumeral? {piece s d r : Text} (h : piecedNumeral? piece s = some (d, r)) :
    IsRun d ∧ s = piece ++ (d ++ r) := by
  obtain ⟨t, ht, hcut⟩ := Option.bind_eq_some_iff.mp h
  obtain ⟨hd, rfl⟩ := of_cutDigits? hcut
  exact ⟨hd, dropPrefix?_eq_some_iff.mp ht⟩

/-- A chain starts with the line of the script that evaluated. -/
theorem of_chain? {s line rest : Text} (h : chain? s = some (line, rest)) :
    IsRun line ∧ ∃ tail, s = " line ".toList ++ (line ++ tail) := by
  unfold chain? at h
  obtain ⟨⟨line', tail⟩, hline, h⟩ := Option.bind_eq_some_iff.mp h
  obtain ⟨_, _, h⟩ := Option.bind_eq_some_iff.mp h
  obtain ⟨_, _, h⟩ := Option.bind_eq_some_iff.mp h
  cases h
  obtain ⟨hrun, hs⟩ := of_piecedNumeral? hline
  exact ⟨hrun, tail, hs⟩

/-- Collapsing adds no characters but colons. -/
theorem mem_collapseFrom {k : Nat} {s : Text} {c : Char} (h : c ∈ collapseFrom k s) :
    c = ':' ∨ c ∈ s := by
  fun_induction collapseFrom k s with
  | case1 => exact .inr h
  | case2 k d s ih => exact (ih h).imp_right (List.mem_cons_of_mem d)
  | case3 d s line rest hchain ih =>
    obtain ⟨-, tail, htail⟩ := of_chain? hchain
    -- in place of the chain stand a colon and the line, which the chain starts with
    rcases List.mem_cons.mp h with rfl | h
    · exact .inl rfl
    · rcases List.mem_append.mp h with h | h
      · right
        rw [htail]
        exact List.mem_append_right _ (List.mem_append_left tail h)
      · exact (ih h).imp_right (List.mem_cons_of_mem d)
  | case4 d s _ ih =>
    rcases List.mem_cons.mp h with rfl | h
    · exact .inr List.mem_cons_self
    · exact (ih h).imp_right (List.mem_cons_of_mem d)

/-- The same for the whole line. -/
theorem mem_collapseEvals {s : Text} {c : Char} (h : c ∈ collapseEvals s) : c = ':' ∨ c ∈ s := by
  unfold collapseEvals at h
  split at h
  · exact mem_collapseFrom h
  · exact .inr h

/-- A chain starts with a space. -/
theorem chain?_cons_of_ne {c : Char} (h : c ≠ ' ') (s : Text) : chain? (c :: s) = none := by
  rw [Option.eq_none_iff_forall_ne_some]
  rintro ⟨line, rest⟩ hchain
  obtain ⟨-, tail, htail⟩ := of_chain? hchain
  exact h (List.cons.inj htail).1

/-- So a beginning without spaces stays. -/
theorem collapseFrom_append {a : Text} (h : ' ' ∉ a) (s : Text) :
    collapseFrom 0 (a ++ s) = a ++ collapseFrom 0 s := by
  induction a with
  | nil => rfl
  | cons c a ih =>
    have hc : c ≠ ' ' := fun he => h (by simp [he])
    rw [List.cons_append, collapseFrom, chain?_cons_of_ne hc]
    dsimp only
    rw [ih fun hm => h (List.mem_cons_of_mem c hm)]
    rfl

/-- The first character of a trimmed line stays. -/
theorem head?_collapseEvals {s : Text} (h : ∀ c ∈ s.head?, isBlank c = false) :
    (collapseEvals s).head? = s.head? := by
  unfold collapseEvals
  split
  · cases s with
    | nil => rfl
    | cons c s =>
      -- a chain starts with a space, which a trimmed line does not
      have hc : c ≠ ' ' := by
        rintro rfl
        exact absurd (h ' ' rfl) (by decide)
      rw [collapseFrom, chain?_cons_of_ne hc]
      rfl
  · rfl

/-! ## Names -/

/-- A cut behind a quoted section loses nothing. -/
theorem of_cutQuoted? {older newer : Bool} {s b a : Text}
    (h : cutQuoted? older newer s = some (b, a)) : s = b ++ a := by
  induction s generalizing older newer b a with
  | nil => cases h
  | cons c s ih =>
    rw [cutQuoted?] at h
    by_cases hc : c = '\n'
    · rw [if_pos hc] at h
      cases h
    · rw [if_neg hc] at h
      -- the cut is made as far to the right as possible, so the rest of the text is asked first
      cases hs : cutQuoted? (older || newer) (c == '"') s with
      | some ba =>
        rw [hs] at h
        cases h
        rw [ih hs]
        rfl
      | none =>
        rw [hs] at h
        dsimp only at h
        split at h
        · cases h
          rfl
        · cases h

/-- Without quotation marks there is no quoted section to cut behind. -/
theorem cutQuoted?_of_notMem {older newer : Bool} {s : Text} (h : '"' ∉ s) :
    cutQuoted? older newer s = none := by
  induction s generalizing older newer with
  | nil => rfl
  | cons c s ih =>
    have hc : c ≠ '"' := fun he => h (by simp [he])
    rw [cutQuoted?, ih fun hm => h (List.mem_cons_of_mem c hm)]
    simp [hc]

/-- A text is cut in two at its first at sign. -/
theorem cut_first_at {a b : Text} (ha : '@' ∉ a) :
    (a ++ '@' :: b).takeWhile (· != '@') = a ∧ (a ++ '@' :: b).dropWhile (· != '@') = '@' :: b := by
  have hall : ∀ c ∈ a, (c != '@') = true := bne_of_notMem ha
  constructor
  · rw [List.takeWhile_append_of_pos hall, List.takeWhile_cons_of_neg (by simp), List.append_nil]
  · rw [List.dropWhile_append_of_pos hall, List.dropWhile_cons_of_neg (by simp)]

/-- **A cut takes one at sign away** and nothing else. -/
theorem cutName?_eq_some {s name location : Text} (h : cutName? s = some (name, location)) :
    s = name ++ '@' :: location := by
  -- with or without a quoted section, the name goes on to the first at sign of the rest
  obtain ⟨quoted, rest, hcut, hs⟩ : ∃ quoted rest,
      (cutQuoted? false false s).getD ([], s) = (quoted, rest) ∧ s = quoted ++ rest := by
    cases hq : cutQuoted? false false s with
    | none => exact ⟨[], s, rfl, rfl⟩
    | some qr => exact ⟨qr.1, qr.2, rfl, of_cutQuoted? hq⟩
  rw [cutName?, hcut] at h
  dsimp only at h
  by_cases hat : '@' ∈ rest
  · rw [if_pos (by simpa using hat)] at h
    obtain ⟨a, b, rfl, ha⟩ := List.eq_append_cons_of_mem hat
    rw [(cut_first_at ha).1, (cut_first_at ha).2] at h
    cases h
    rw [hs, List.append_assoc]
    rfl
  · rw [if_neg (by simpa using hat)] at h
    cases h

/-- **Without quotation marks** the first at sign ends the name. -/
theorem cutName?_append {name location : Text} (hq : '"' ∉ name ++ '@' :: location)
    (hn : '@' ∉ name) : cutName? (name ++ '@' :: location) = some (name, location) := by
  rw [cutName?, cutQuoted?_of_notMem hq]
  dsimp only [Option.getD]
  rw [if_pos (by simp), (cut_first_at hn).1, (cut_first_at hn).2]
  rfl

/-- A line that starts with its name has nothing to trim, also where the name is missing. -/
theorem trimStart_named {name : Text} (h : ∀ x ∈ name.head?, isBlank x = false) (location : Text) :
    trimStart (name ++ '@' :: location) = name ++ '@' :: location := by
  refine trimStart_append (w := []) (s := name ++ '@' :: location) (by simp) ?_
  cases name with
  | nil =>
    rintro x ⟨⟩
    decide
  | cons y ys => exact h

/-! ## Reading -/

/-- **Reading a frame whose name is cut off**: the place stands behind the at sign. -/
theorem read_of_cutName? {line name location : Text}
    (h : cutName? (collapseEvals (trimStart line)) = some (name, location)) :
    read line = (Place.read location).map fun place =>
      ⟨if name.isEmpty then none else some name, place⟩ := by
  have hat : '@' ∈ collapseEvals (trimStart line) := by simp [cutName?_eq_some h]
  unfold read
  dsimp only
  rw [if_neg (by simp [hat]), h]
  dsimp only
  cases Place.read location <;> rfl

/-- **Reading a named frame**: the name stands before the first at sign. -/
theorem read_named {line name location : Text} (h : trimStart line = name ++ '@' :: location)
    (hne : name ≠ []) (hchain : ¬ chainMark <:+: name ++ '@' :: location)
    (hq : '"' ∉ name ++ '@' :: location) (hn : '@' ∉ name) :
    read line = (Place.read location).map fun place => ⟨some name, place⟩ := by
  have hcut : cutName? (collapseEvals (trimStart line)) = some (name, location) := by
    rw [h, collapseEvals_eq_self hchain, cutName?_append hq hn]
  rw [read_of_cutName? hcut, if_neg (by simpa using hne)]

/-- **What a read frame says about its line**, once chains are collapsed: it names nothing but a
function, or an at sign separates the name from the place, or all of it is a place. -/
theorem read_eq_ok {line : Text} {raw : RawFrame} (h : read line = .ok raw) :
    raw.place = Place.unknown ∨
    (∃ name location place, collapseEvals (trimStart line) = name ++ '@' :: location ∧
      Place.read location = .ok place ∧ raw = ⟨if name.isEmpty then none else some name, place⟩) ∨
    ∃ place, Place.read (collapseEvals (trimStart line)) = .ok place ∧ raw = ⟨none, place⟩ := by
  unfold read at h
  dsimp only at h
  split at h
  · cases h
    exact .inl rfl
  · right
    -- with a name the place stands behind the at sign, and without one it is all of the line
    cases hcut : cutName? (collapseEvals (trimStart line)) with
    | some cut =>
      left
      rw [hcut] at h
      obtain ⟨place, hp, h⟩ := Outcome.bind_eq_ok_iff.mp h
      cases h
      exact ⟨cut.1, cut.2, place, cutName?_eq_some hcut, hp, rfl⟩
    | none =>
      right
      rw [hcut] at h
      obtain ⟨place, hp, h⟩ := Outcome.bind_eq_ok_iff.mp h
      cases h
      exact ⟨place, hp, rfl⟩

end Stacktrace.Firefox
