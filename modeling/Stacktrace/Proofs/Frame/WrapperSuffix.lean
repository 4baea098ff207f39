import Stacktrace.Proofs.Frame.Reading

/-!
# Wrapper suffixes

Firefox marks a function inside an anonymous wrapper by a suffix to its name, and inside several
wrappers by several suffixes. Cleaning a name makes one cut, at the leftmost place where a suffix
stands in front of the end, and two suffixes may overlap there:

* `dropWrapperSuffix_append_long`, `dropWrapperSuffix_append_short` — a suffix at the end goes, unless
  it is the short one and what stands in front of it makes it a long one;
* `WrappedName.cleanName_text` — so of several suffixes the last one goes, and with a short one goes
  the end of the suffix before it;
* `WrappedName.cleanName_eq_base_iff` — the function's own name is left exactly if it had one suffix.
-/

namespace Stacktrace

open Text

/-- What Firefox appends to the name of a function inside an anonymous wrapper. -/
inductive WrapperSuffix where
  | short
  | long
deriving DecidableEq, Repr

def WrapperSuffix.text : WrapperSuffix → Text
  | short => ['/', '<']
  | long => ['<', '/', '<']

/-- Either suffix ends in the short one. -/
theorem WrapperSuffix.exists_text_eq (s : WrapperSuffix) : ∃ a, s.text = a ++ ['/', '<'] := by
  cases s with
  | short => exact ⟨[], rfl⟩
  | long => exact ⟨['<'], rfl⟩

/-! ## One suffix -/

namespace Frame

/-- The long suffix is cut off whole. -/
theorem dropWrapperSuffix_append_long (a : Text) : dropWrapperSuffix (a ++ ['<', '/', '<']) = a := by
  have hends : endsWith ['<', '/', '<'] (a ++ ['<', '/', '<']) = true := by simp [endsWith]
  have hlen : (a ++ ['<', '/', '<']).length - 3 = a.length := by simp
  rw [dropWrapperSuffix, cutFinalNewline_append_of_notMem a (by simp) (by decide)]
  dsimp only
  rw [if_pos hends, hlen, List.take_left, List.append_nil]

/-- The short suffix is cut off whole unless it is the end of a long one. -/
theorem dropWrapperSuffix_append_short {a : Text} (h : '<' ∉ a.getLast?) :
    dropWrapperSuffix (a ++ ['/', '<']) = a := by
  -- the longer suffix is tried first and would need a bracket before this one
  have hlong : ¬ ['<', '/', '<'] <:+ a ++ ['/', '<'] := by
    rintro ⟨b, hb⟩
    have hba : (b ++ ['<']) ++ ['/', '<'] = a ++ ['/', '<'] := by
      rw [List.append_assoc]
      exact hb
    exact h (by simp [← List.append_cancel_right hba])
  have hends : endsWith ['/', '<'] (a ++ ['/', '<']) = true := by simp [endsWith]
  have hlen : (a ++ ['/', '<']).length - 2 = a.length := by simp
  rw [dropWrapperSuffix, cutFinalNewline_append_of_notMem a (by simp) (by decide)]
  dsimp only
  rw [if_neg (by simpa [endsWith] using hlong), if_pos hends, hlen, List.take_left, List.append_nil]

end Frame

/-! ## Several suffixes -/

/-- The name of a function under at least one wrapper suffix. -/
structure WrappedName where
  /-- The name that the function was given. -/
  base : Text
  /-- The suffixes in front of the last one. -/
  inner : List WrapperSuffix
  last : WrapperSuffix
  base_ne_nil : base ≠ []
  base_end : ∀ c ∈ base.getLast?, c ≠ '<' ∧ c ≠ '/'

namespace WrappedName

variable (n : WrappedName)

/-- The name without its last suffix. -/
def inside : Text :=
  n.base ++ n.inner.flatMap WrapperSuffix.text

def text : Text :=
  n.inside ++ n.last.text

/-- Under one suffix stands the function's own name. -/
theorem inside_of_nil {n : WrappedName} (h : n.inner = []) : n.inside = n.base := by
  rw [inside, h, List.flatMap_nil, List.append_nil]

/-- What is in front of the last of several suffixes ends in a short one. -/
theorem exists_inside_eq {n : WrappedName} (h : n.inner ≠ []) :
    ∃ a, n.inside = a ++ ['/', '<'] ∧ n.inside.dropLast = a ++ ['/'] ∧ n.base <+: a := by
  obtain ⟨front, s, hinner⟩ := (List.eq_nil_or_concat n.inner).resolve_left h
  obtain ⟨b, hb⟩ := s.exists_text_eq
  have hinside : n.inside = n.base ++ (front.flatMap WrapperSuffix.text ++ b) ++ ['/', '<'] := by
    rw [inside, hinner, List.concat_eq_append, List.flatMap_append, List.flatMap_singleton, hb]
    simp only [List.append_assoc]
  refine ⟨_, hinside, ?_, List.prefix_append _ _⟩
  rw [hinside, List.dropLast_append_of_ne_nil (by simp)]
  rfl

/-- A wrapped name is not empty. -/
theorem text_ne_nil : n.text ≠ [] := by
  intro h
  exact n.base_ne_nil (List.append_eq_nil_iff.mp (List.append_eq_nil_iff.mp h).1).1

/-- The function's own name does not end in what would make a suffix longer. -/
theorem open_notMem_getLast?_base : '<' ∉ n.base.getLast? :=
  fun h => (n.base_end '<' h).1 rfl

/-- **Cleaning cuts once.** The last suffix goes. If it is the short one of several, the end of the
suffix before it goes as well. -/
theorem cleanName_text : Frame.cleanName (some n.text) =
    if n.inner = [] ∨ n.last = .long then n.inside else n.inside.dropLast := by
  rw [Frame.cleanName_some n.text_ne_nil, text]
  cases hlast : n.last with
  | long =>
    rw [if_pos (.inr rfl)]
    exact Frame.dropWrapperSuffix_append_long n.inside
  | short =>
    by_cases hinner : n.inner = []
    · rw [if_pos (.inl hinner), inside_of_nil hinner]
      exact Frame.dropWrapperSuffix_append_short n.open_notMem_getLast?_base
    · -- the two suffixes overlap in a long one
      obtain ⟨a, ha, hdrop, -⟩ := exists_inside_eq hinner
      have htext : n.inside ++ WrapperSuffix.short.text = (a ++ ['/']) ++ ['<', '/', '<'] := by
        rw [ha, WrapperSuffix.text]
        simp
      rw [if_neg (by simp [hinner]), htext, hdrop]
      exact Frame.dropWrapperSuffix_append_long _

/-- A name that ends in neither suffix stays, but a line feed at its end may hide one. -/
theorem cleanName_base_iff :
    Frame.cleanName (some n.base) = n.base ↔ ¬ ['/', '<', '\n'] <:+ n.base := by
  rw [Frame.cleanName_some n.base_ne_nil, Frame.dropWrapperSuffix_eq_self_iff_body, not_iff_not]
  have hwhole := cutFinalNewline_append n.base
  rcases cutFinalNewline_snd_cases n.base with hnone | hnewline
  · rw [hnone, List.append_nil] at hwhole
    rw [hwhole]
    refine iff_of_false ?_ ?_
    · rintro ⟨a, ha⟩
      exact n.open_notMem_getLast?_base (by simp [← ha])
    · -- a line feed at the end would have been cut off
      rintro ⟨a, ha⟩
      have hcut := cutFinalNewline_concat (a ++ ['/', '<'])
      rw [List.append_assoc, show ['/', '<'] ++ ['\n'] = ['/', '<', '\n'] from rfl, ha] at hcut
      rw [hcut] at hnone
      cases hnone
  · rw [hnewline] at hwhole
    have hsuffix : ['/', '<', '\n'] <:+ n.base ↔
        ['/', '<'] ++ ['\n'] <:+ (cutFinalNewline n.base).1 ++ ['\n'] := by
      rw [hwhole]
      rfl
    rw [hsuffix, List.suffix_append_inj_of_length_eq rfl, and_iff_left rfl]

/-- **Cleaning twice** cuts once more if a whole suffix is left: in front of a long one, or hidden by a
line feed. -/
theorem cleanName_cleanName_iff : Frame.cleanName (some (Frame.cleanName (some n.text)))
      = Frame.cleanName (some n.text) ↔
    if n.inner = [] then ¬ ['/', '<', '\n'] <:+ n.base else n.last = .short := by
  rw [n.cleanName_text]
  by_cases hinner : n.inner = []
  · rw [if_pos (.inl hinner), if_pos hinner, inside_of_nil hinner]
    exact n.cleanName_base_iff
  · rw [if_neg hinner]
    obtain ⟨a, ha, hdrop, -⟩ := exists_inside_eq hinner
    -- behind a long suffix the one before it is whole again; a short one has broken it
    cases hlast : n.last with
    | long =>
      rw [if_pos (.inr rfl), ha, Frame.cleanName_some (by simp), Frame.dropWrapperSuffix_eq_self_iff_body,
        cutFinalNewline_append_of_notMem a (by simp) (by decide)]
      simp
    | short =>
      rw [if_neg (by simp [hinner]), hdrop, Frame.cleanName_some (by simp),
        Frame.dropWrapperSuffix_eq_self_iff_body,
        cutFinalNewline_append_of_notMem a (by simp) (by decide)]
      refine iff_of_true ?_ rfl
      rintro ⟨b, hb⟩
      have hend := congrArg List.getLast? hb
      simp at hend

/-- **The function's own name is left** exactly if it stood under one suffix. Of several suffixes the
last one goes, and a short one takes the end of the suffix before it along. Then a stroke is left that
no further cleaning removes, while behind a long one the suffix before it goes the next time. -/
theorem cleanName_eq_base_iff :
    (Frame.cleanName (some n.text) =
      if n.inner = [] ∨ n.last = .long then n.inside else n.inside.dropLast) ∧
    (Frame.cleanName (some n.text) = n.base ↔ n.inner = []) ∧
    (Frame.cleanName (some (Frame.cleanName (some n.text))) = Frame.cleanName (some n.text) ↔
      if n.inner = [] then ¬ ['/', '<', '\n'] <:+ n.base else n.last = .short) := by
  refine ⟨n.cleanName_text, ?_, n.cleanName_cleanName_iff⟩
  rw [n.cleanName_text]
  by_cases hinner : n.inner = []
  · rw [if_pos (.inl hinner), inside_of_nil hinner]
    exact iff_of_true rfl hinner
  · obtain ⟨a, ha, -, hbase⟩ := exists_inside_eq hinner
    -- what is left under several suffixes is longer than the name, whichever of them goes
    have hlen := hbase.length_le
    refine iff_of_false (fun h => ?_) hinner
    have hl := congrArg List.length h
    rw [ha] at hl
    split at hl
    · rw [List.length_append, List.length_cons, List.length_cons] at hl
      omega
    · rw [List.length_dropLast, List.length_append, List.length_cons, List.length_cons,
        List.length_nil] at hl
      omega

/-- A function inside two anonymous wrappers. -/
def nested : WrappedName where
  base := "setup".toList
  inner := [.short]
  last := .short
  base_ne_nil := by decide
  base_end := by
    rintro c ⟨⟩
    decide

/-- Two short suffixes leave a stroke behind, and cleaning again does not help. -/
theorem cleanName_eq_base_iff_nested :
    Frame.cleanName (some nested.text) = "setup/".toList ∧
      Frame.cleanName (some nested.text) ≠ nested.base ∧
      Frame.cleanName (some (Frame.cleanName (some nested.text)))
        = Frame.cleanName (some nested.text) := by
  obtain ⟨hclean, hbase, htwice⟩ := nested.cleanName_eq_base_iff
  have hinside : nested.inside.dropLast = "setup/".toList := by decide
  have hshort : ¬ (nested.inner = [] ∨ nested.last = .long) := by decide
  have hinner : nested.inner ≠ [] := by decide
  refine ⟨by rw [hclean, if_neg hshort, hinside], mt hbase.mp hinner, htwice.mpr ?_⟩
  rw [if_neg hinner]
  rfl

/-- The two suffixes of its name leave a stroke behind. -/
theorem not_forall_cleanName_eq_base :
    ¬ ∀ n : WrappedName, Frame.cleanName (some n.text) = n.base := by
  intro hall
  have hclean : Frame.cleanName (some nested.text) = "setup/".toList := by decide
  exact absurd ((hall nested).symm.trans hclean) (by decide)

end WrappedName

end Stacktrace
