import Mathlib.Data.List.Infix
import Stacktrace.Text.Basic

/-!
# Search and replacement

What `occursIn`, `replaceAll` and `replaceFirst` do to a text, said without their loops:

* `occursIn_iff` — a piece occurs exactly where it is a contiguous part;
* `replaceAll_eq_self` — where the piece does not occur, nothing changes;
* `length_replaceAll_le`, `length_replaceAll_lt` — a shorter replacement shortens the text, strictly
  so if there was anything to replace;
* `mem_replaceAll` — no character comes from elsewhere;
* `replaceAll_append`, `replaceAll_append_right` — a beginning that cannot hold the piece's first
  character stays, and so does an end that no occurrence reaches;
* `replaceAll_append_cons` — what stands on the two sides of a foreign character is replaced apart.
-/

namespace Stacktrace.Text

/-! ## Occurrence -/

theorem occursIn_iff {p s : Text} : occursIn p s = true ↔ p <:+: s := by
  induction s with
  | nil =>
    rw [occursIn, List.isEmpty_iff, List.infix_nil]
  | cons c s ih =>
    rw [occursIn, Bool.or_eq_true, ih, List.isPrefixOf_iff_prefix, List.infix_cons_iff]

theorem occursIn_eq_false_iff {p s : Text} : occursIn p s = false ↔ ¬ p <:+: s := by
  rw [← occursIn_iff, Bool.not_eq_true]

/-- A piece that lacks a character occurs on one side of it. -/
theorem infix_append_cons {p a b : Text} {x : Char} (hx : x ∉ p) (h : p <:+: a ++ x :: b) :
    p <:+: a ∨ p <:+: b := by
  obtain ⟨l, r, h⟩ := h
  rw [List.append_assoc, List.append_eq_append_iff] at h
  rcases h with ⟨m, rfl, hm⟩ | ⟨m, rfl, hm⟩
  · -- the piece starts before `x`, so it ends before `x`
    rw [List.append_eq_append_iff] at hm
    rcases hm with ⟨k, rfl, hk⟩ | ⟨k, rfl, hk⟩
    · exact .inl ⟨l, k, by rw [List.append_assoc]⟩
    · cases k with
      | nil => exact .inl ⟨l, [], by simp⟩
      | cons y k =>
        obtain ⟨rfl, -⟩ := List.cons.inj hk
        exact absurd (List.mem_append_right m List.mem_cons_self) hx
  · cases m with
    | nil =>
      cases p with
      | nil => exact .inr List.nil_infix
      | cons y p =>
        obtain ⟨rfl, -⟩ := List.cons.inj hm
        exact absurd List.mem_cons_self hx
    | cons y m =>
      obtain ⟨-, rfl⟩ := List.cons.inj hm
      exact .inr ⟨m, r, List.append_assoc m p r⟩

theorem dropPrefix?_eq_some_iff {p s r : Text} : dropPrefix? p s = some r ↔ s = p ++ r := by
  induction p generalizing s with
  | nil => simp [dropPrefix?, eq_comm]
  | cons c p ih =>
    -- the text is taken apart along with the prefix
    cases s with
    | nil => simp [dropPrefix?]
    | cons d s =>
      rw [dropPrefix?]
      by_cases h : c = d
      · rw [if_pos h, ih, h]
        simp
      · rw [if_neg h]
        simp [Ne.symm h]

/-- Dropping characters from the front stops before one that fails the test. -/
theorem suffix_dropWhile {p : α → Bool} {x : α} {s t : List α} (hx : p x = false)
    (h : x :: t <:+ s) : x :: t <:+ s.dropWhile p := by
  obtain ⟨l, rfl⟩ := h
  have hself : (x :: t).dropWhile p = x :: t := List.dropWhile_cons_of_neg (by simp [hx])
  rw [List.dropWhile_append, hself]
  split
  · exact List.suffix_rfl
  · exact List.suffix_append _ _

/-- An end of the text that lacks a character stands behind every such character. -/
theorem suffix_of_notMem {t a b : Text} {x : Char} (hx : x ∉ t) (h : t <:+ a ++ x :: b) :
    t <:+ b := by
  have hb : x :: b <:+ a ++ x :: b := List.suffix_append a (x :: b)
  rcases List.suffix_or_suffix_of_suffix h hb with hle | hle
  · rcases List.suffix_cons_iff.mp hle with rfl | hle
    · exact absurd List.mem_cons_self hx
    · exact hle
  · -- otherwise the character would stand in the end itself
    exact absurd (hle.mem List.mem_cons_self) hx

/-- A piece does not start in a beginning that lacks its first character. -/
theorem infix_append_iff_of_notMem {o : Char} {p a s : Text} (h : o ∉ a) :
    o :: p <:+: a ++ s ↔ o :: p <:+: s := by
  induction a with
  | nil => exact Iff.rfl
  | cons c a ih =>
    have hc : ¬ o :: p <+: c :: (a ++ s) := fun hp =>
      h ((List.cons_prefix_cons.mp hp).1 ▸ List.mem_cons_self)
    rw [List.cons_append, List.infix_cons_iff, or_iff_right hc,
      ih fun hm => h (List.mem_cons_of_mem c hm)]

/-! ## Replacement everywhere -/

theorem replaceFrom_cons_of_not_starts {old new s : Text} {c : Char} (h : ¬ old <+: c :: s) :
    replaceFrom old new 0 (c :: s) = c :: replaceFrom old new 0 s := by
  rw [replaceFrom, if_neg]
  rwa [List.isPrefixOf_iff_prefix]

theorem replaceFrom_cons_of_starts {old new s : Text} {c : Char} (h : old <+: c :: s) :
    replaceFrom old new 0 (c :: s) = new ++ replaceFrom old new (old.length - 1) s := by
  rw [replaceFrom, if_pos]
  rwa [List.isPrefixOf_iff_prefix]

theorem replaceAll_eq_self {old new s : Text} (h : occursIn old s = false) :
    replaceAll old new s = s := by
  rw [occursIn_eq_false_iff] at h
  unfold replaceAll
  induction s with
  | nil => rfl
  | cons c s ih =>
    rw [List.infix_cons_iff, not_or] at h
    rw [replaceFrom_cons_of_not_starts h.1, ih h.2]

/-- The counter's characters are gone and nothing grows. -/
theorem length_replaceFrom_le {old new : Text} (h : new.length ≤ old.length) (k : Nat) (s : Text) :
    (replaceFrom old new k s).length ≤ s.length - k := by
  induction s generalizing k with
  | nil => cases k <;> simp [replaceFrom]
  | cons c s ih =>
    cases k with
    | succ k =>
      -- the character belongs to an occurrence that is already replaced
      have hs := ih k
      rw [replaceFrom, List.length_cons]
      omega
    | zero =>
      by_cases hp : old <+: c :: s
      · have hs := ih (old.length - 1)
        have hl := hp.length_le
        rw [List.length_cons] at hl
        rw [replaceFrom_cons_of_starts hp, List.length_append, List.length_cons]
        omega
      · have hs := ih 0
        rw [replaceFrom_cons_of_not_starts hp, List.length_cons, List.length_cons]
        omega

theorem length_replaceAll_le {old new : Text} (h : new.length ≤ old.length) (s : Text) :
    (replaceAll old new s).length ≤ s.length :=
  length_replaceFrom_le h 0 s

/-- **A shorter replacement shortens** every text with something to replace. -/
theorem length_replaceAll_lt {old new s : Text} (h : new.length < old.length)
    (ho : occursIn old s = true) : (replaceAll old new s).length < s.length := by
  rw [occursIn_iff] at ho
  unfold replaceAll
  induction s with
  | nil =>
    rw [List.infix_nil] at ho
    rw [ho] at h
    exact absurd h (Nat.not_lt_zero _)
  | cons c s ih =>
    -- one replacement makes it shorter, and the others never make it longer
    by_cases hp : old <+: c :: s
    · have hs := length_replaceFrom_le (Nat.le_of_lt h) (old.length - 1) s
      have hl := hp.length_le
      rw [List.length_cons] at hl
      rw [replaceFrom_cons_of_starts hp, List.length_append, List.length_cons]
      omega
    · have hs := ih ((List.infix_cons_iff.mp ho).resolve_left hp)
      rw [replaceFrom_cons_of_not_starts hp, List.length_cons, List.length_cons]
      omega

/-- Every character of the result stood in the text or in the replacement. -/
theorem mem_replaceFrom {old new s : Text} {k : Nat} {c : Char} (h : c ∈ replaceFrom old new k s) :
    c ∈ new ∨ c ∈ s := by
  induction s generalizing k with
  | nil => cases k <;> simp [replaceFrom] at h
  | cons d s ih =>
    -- in every branch the walk goes on with the rest of the text
    have tail {k : Nat} (h : c ∈ replaceFrom old new k s) : c ∈ new ∨ c ∈ d :: s :=
      (ih h).imp_right (List.mem_cons_of_mem d)
    cases k with
    | succ k => exact tail h
    | zero =>
      by_cases hp : old <+: d :: s
      · rw [replaceFrom_cons_of_starts hp] at h
        rcases List.mem_append.mp h with h | h
        · exact .inl h
        · exact tail h
      · rw [replaceFrom_cons_of_not_starts hp] at h
        rcases List.mem_cons.mp h with rfl | h
        · exact .inr List.mem_cons_self
        · exact tail h

theorem mem_replaceAll {old new s : Text} {c : Char} (h : c ∈ replaceAll old new s) :
    c ∈ new ∨ c ∈ s :=
  mem_replaceFrom h

/-- A beginning without the piece's first character stays as it is. -/
theorem replaceAll_append {o : Char} {old new a : Text} (h : o ∉ a) (s : Text) :
    replaceAll (o :: old) new (a ++ s) = a ++ replaceAll (o :: old) new s := by
  unfold replaceAll
  induction a with
  | nil => rfl
  | cons c a ih =>
    -- no occurrence starts in a part without the first character
    have hc : ¬ o :: old <+: c :: (a ++ s) := by
      intro hp
      exact h (by simp [(List.cons_prefix_cons.mp hp).1])
    rw [List.cons_append, replaceFrom_cons_of_not_starts hc, ih fun hm => h (List.mem_cons_of_mem c hm)]
    rfl

/-- **A text is replaced in parts** if no occurrence reaches from the first part into the second. -/
theorem replaceAll_append_of_starts {old new a t : Text}
    (ha : ∀ b, b <:+ a → b ≠ [] → old <+: b ++ t → old.length ≤ b.length) :
    replaceAll old new (a ++ t) = replaceAll old new a ++ replaceAll old new t := by
  -- the counter never runs beyond `a`, so the occurrences in front of `t` are those of `a`
  have hwalk : ∀ k ≤ a.length,
      replaceFrom old new k (a ++ t) = replaceFrom old new k a ++ replaceAll old new t := by
    induction a with
    | nil =>
      intro k hk
      rw [Nat.le_zero.mp hk]
      rfl
    | cons c a ih =>
      have ih := ih fun b hb => ha b (hb.trans (List.suffix_cons c a))
      intro k hk
      cases k with
      | succ k =>
        rw [List.cons_append, replaceFrom, replaceFrom]
        exact ih k (Nat.le_of_succ_le_succ hk)
      | zero =>
        by_cases hp : old <+: c :: a
        · have hp' : old <+: c :: (a ++ t) := hp.trans (List.prefix_append (c :: a) t)
          have hle := hp.length_le
          rw [List.length_cons] at hle
          rw [List.cons_append, replaceFrom_cons_of_starts hp, replaceFrom_cons_of_starts hp',
            ih _ (by omega), List.append_assoc]
        · have hp' : ¬ old <+: c :: (a ++ t) := by
            intro h
            have hle := ha (c :: a) List.suffix_rfl (by simp) h
            exact hp (List.prefix_of_prefix_length_le h (List.prefix_append (c :: a) t) hle)
          rw [List.cons_append, replaceFrom_cons_of_not_starts hp, replaceFrom_cons_of_not_starts hp',
            ih 0 (Nat.zero_le _)]
          rfl
  exact hwalk 0 (Nat.zero_le _)

/-- **An end of the text stays** if the piece does not occur in it and no occurrence reaches it. -/
theorem replaceAll_append_right {old new t : Text} (ht : ¬ old <:+: t) {a : Text}
    (ha : ∀ b, b <:+ a → b ≠ [] → old <+: b ++ t → old.length ≤ b.length) :
    replaceAll old new (a ++ t) = replaceAll old new a ++ t := by
  rw [replaceAll_append_of_starts ha, replaceAll_eq_self (occursIn_eq_false_iff.mpr ht)]

/-- A piece that starts in front of a character that it lacks ends in front of it. -/
theorem length_le_of_starts {p b t : Text} {x : Char} (hx : x ∉ p) (h : p <+: b ++ x :: t) :
    p.length ≤ b.length := by
  rw [← Nat.not_lt]
  intro hlt
  have hstart : b ++ [x] <+: b ++ x :: t := ⟨t, by simp⟩
  have hin : b ++ [x] <+: p :=
    List.prefix_of_prefix_length_le hstart h (by rw [List.length_append]; exact hlt)
  exact hx (hin.mem (by simp))

/-- A character that the piece lacks keeps the replacements on its two sides apart. -/
theorem replaceAll_append_cons {old : Text} {x : Char} (hx : x ∉ old) (hne : old ≠ [])
    (new a t : Text) :
    replaceAll old new (a ++ x :: t) = replaceAll old new a ++ x :: replaceAll old new t := by
  have hstart : ¬ old <+: x :: t := by
    obtain ⟨o, old, rfl⟩ := List.exists_cons_of_ne_nil hne
    intro hp
    exact hx ((List.cons_prefix_cons.mp hp).1 ▸ List.mem_cons_self)
  have hcons : replaceAll old new (x :: t) = x :: replaceAll old new t :=
    replaceFrom_cons_of_not_starts hstart
  rw [replaceAll_append_of_starts fun _ _ _ h => length_le_of_starts hx h, hcons]

/-! ## Replacement of one occurrence -/

/-- A piece at the end of a text is the one that is replaced if it starts nowhere before. -/
theorem replaceFirst_append {old new a : Text}
    (h : ∀ b, b <:+ a → b ≠ [] → ¬ old <+: b ++ old) (hold : old ≠ []) :
    replaceFirst old new (a ++ old) = a ++ new := by
  induction a with
  | nil =>
    obtain ⟨o, os, rfl⟩ := List.exists_cons_of_ne_nil hold
    rw [List.nil_append, replaceFirst, if_pos (by rw [List.isPrefixOf_iff_prefix]), List.drop_length]
    simp
  | cons c a ih =>
    -- by hypothesis no occurrence starts before the last one
    have hc : ¬ old <+: c :: (a ++ old) := h (c :: a) List.suffix_rfl (by simp)
    rw [List.cons_append, replaceFirst, if_neg (by rwa [List.isPrefixOf_iff_prefix]),
      ih fun b hb => h b (hb.trans (List.suffix_cons c a))]
    rfl

end Stacktrace.Text
