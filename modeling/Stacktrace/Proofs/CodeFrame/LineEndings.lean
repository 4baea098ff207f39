import Stacktrace.CodeFrame.Render

/-!
# The lines of a source

A source is cut at five kinds of line endings, one of which starts with another: a carriage return
in front of a line feed is half of an ending, and elsewhere it is a whole one. `HasLines` says that
without a walk over the text.

* `sourceLines_eq_iff` — the walk finds these lines, and no source has others;
* `hasLines_joinWith` — lines that are joined by one kind of ending are the lines of the result;
* `render_joinWith_lineEnd` — so a code frame does not show which kind it was.
-/

namespace Stacktrace.CodeFrame

open Text

variable {s t e : Text} {ts : List Text} {c : Char}

/-! ## What a source consists of -/

/-- The texts that end a source line. -/
def lineEnds : List Text := [['\r', '\n'], ['\n'], ['\r'], ['\u2028'], ['\u2029']]

/-- A text without the characters that end lines. -/
def IsLine (t : Text) : Prop :=
  ∀ c ∈ t, endsLine c = false

instance (t : Text) : Decidable (IsLine t) :=
  decidable_of_iff ((t.all fun c => !endsLine c) = true) (by simp [IsLine])

/-- The source consists of these lines, with an ending between neighbours. No ending is cut in two:
a carriage return that ends a line has no line feed behind it. -/
inductive HasLines : Text → List Text → Prop where
  | last {t : Text} (ht : IsLine t) : HasLines t [t]
  | more {t e s : Text} {ts : List Text} (ht : IsLine t) (he : e ∈ lineEnds)
      (hwhole : e = ['\r'] → s.head? ≠ some '\n') (h : HasLines s ts) :
      HasLines (t ++ (e ++ s)) (t :: ts)

/-- An empty text ends no line. -/
theorem isLine_nil : IsLine [] := fun _ hc => absurd hc List.not_mem_nil

/-- A text is a line if none of its characters ends one. -/
theorem isLine_cons : IsLine (c :: t) ↔ endsLine c = false ∧ IsLine t :=
  List.forall_mem_cons

/-- A source has at least one line. -/
theorem HasLines.ne_nil (h : HasLines s ts) : ts ≠ [] := by
  cases h <;> simp

/-- The lines of a source hold nothing that ends one. -/
theorem HasLines.isLine (h : HasLines s ts) : ∀ t ∈ ts, IsLine t := by
  induction h with
  | last ht => exact List.forall_mem_singleton.mpr ht
  | more ht _ _ _ ih => exact List.forall_mem_cons.mpr ⟨ht, ih⟩

/-- A character that ends no line belongs to the first one. -/
theorem HasLines.cons (hc : endsLine c = false) (h : HasLines s (t :: ts)) :
    HasLines (c :: s) ((c :: t) :: ts) := by
  cases h with
  | last ht => exact .last (isLine_cons.mpr ⟨hc, ht⟩)
  | more ht he hwhole h => exact .more (isLine_cons.mpr ⟨hc, ht⟩) he hwhole h

/-- Every character that ends a line does so alone. -/
theorem mem_lineEnds_of_endsLine (h : endsLine c = true) : [c] ∈ lineEnds := by
  simp only [endsLine, Bool.or_eq_true, decide_eq_true_eq] at h
  rcases h with ((rfl | rfl) | rfl) | rfl <;> decide

/-! ## The walk over a source -/

/-- The walk puts a character that ends no line in front of the first line. -/
theorem sourceLines_cons_of_not_endsLine (hc : endsLine c = false) (s : Text) :
    sourceLines (c :: s) = consFirst c (sourceLines s) := by
  rw [sourceLines, if_neg (by simp [hc])]
  -- a pair of characters that end a line does not start with `c`
  rintro s rfl rfl
  exact absurd hc (by decide)

/-- The walk starts a new line behind an ending that is not cut in two. -/
theorem sourceLines_lineEnd (he : e ∈ lineEnds) (hwhole : e = ['\r'] → s.head? ≠ some '\n') :
    sourceLines (e ++ s) = [] :: sourceLines s := by
  simp only [lineEnds, List.mem_cons, List.not_mem_nil, or_false] at he
  rcases he with rfl | rfl | rfl | rfl | rfl
  · rfl
  · rfl
  · rw [List.singleton_append, sourceLines]
    · rfl
    · -- a lone return must not be read as the first half of a return and newline
      rintro s' - rfl
      exact hwhole rfl rfl
  · rfl
  · rfl

/-- The walk puts a text that ends no line in front of the first line. -/
theorem sourceLines_append (ht : IsLine t) {l : Text} (hs : sourceLines s = l :: ts) :
    sourceLines (t ++ s) = (t ++ l) :: ts := by
  induction t with
  | nil => exact hs
  | cons c t ih =>
    obtain ⟨hc, ht⟩ := isLine_cons.mp ht
    rw [List.cons_append, sourceLines_cons_of_not_endsLine hc, ih ht]
    rfl

/-- The walk finds the lines that a source consists of. -/
theorem HasLines.sourceLines_eq (h : HasLines s ts) : sourceLines s = ts := by
  -- by induction on the lines: the last one, or one with its ending in front of others
  induction h with
  | last ht =>
    have hend := sourceLines_append ht (show sourceLines [] = [[]] from rfl)
    rwa [List.append_nil] at hend
  | more ht he hwhole _ ih =>
    have hend := sourceLines_append ht (sourceLines_lineEnd he hwhole)
    rwa [List.append_nil, ih] at hend

/-- A source consists of the lines that the walk finds. -/
theorem hasLines_sourceLines (s : Text) : HasLines s (sourceLines s) := by
  fun_induction sourceLines s with
  | case1 => exact .last isLine_nil
  | case2 s ih =>
    have hpair : ['\r', '\n'] ∈ lineEnds := by decide
    exact .more isLine_nil hpair (by simp) ih
  | case3 c s hpair hc ih =>
    refine .more isLine_nil (mem_lineEnds_of_endsLine hc) ?_ ih
    intro hr hn
    -- a line feed behind the carriage return would have been taken together with it
    obtain ⟨s', rfl⟩ : ∃ s', s = '\n' :: s' := by
      cases s with
      | nil => cases hn
      | cons d s => exact ⟨s, by rw [Option.some.inj hn]⟩
    exact hpair s' (List.cons.inj hr).1 rfl
  | case4 c s _ hc ih =>
    obtain ⟨l, ls, hls⟩ := List.exists_cons_of_ne_nil ih.ne_nil
    rw [hls] at ih ⊢
    exact ih.cons (by simpa using hc)

/-- **The lines of a source** are the ones that it consists of. -/
theorem sourceLines_eq_iff : sourceLines s = ts ↔ HasLines s ts := by
  constructor
  · rintro rfl
    exact hasLines_sourceLines s
  · exact HasLines.sourceLines_eq

/-- No source line holds a line feed. -/
theorem notMem_of_mem_sourceLines (h : t ∈ sourceLines s) : '\n' ∉ t := by
  intro hm
  exact absurd ((hasLines_sourceLines s).isLine t h '\n' hm) (by decide)

/-! ## One kind of ending -/

/-- Lines that carriage returns join do not start with a line feed. -/
theorem head?_joinWith_return (h : ∀ t ∈ ts, IsLine t) :
    (joinWith ['\r'] ts).head? ≠ some '\n' := by
  cases ts with
  | nil => simp [joinWith]
  | cons t ts =>
    -- neither a line nor the separator starts with a newline
    have hline : ∀ x : Text, (x = [] ∨ x.head? = some '\r') → (t ++ x).head? ≠ some '\n' := by
      intro x hx
      cases t with
      | nil => rcases hx with rfl | hx <;> simp [*]
      | cons c t =>
        rintro ⟨⟩
        exact absurd (h ('\n' :: t) List.mem_cons_self '\n' List.mem_cons_self) (by decide)
    cases ts with
    | nil =>
      have hlast := hline [] (.inl rfl)
      rwa [List.append_nil] at hlast
    | cons u us =>
      rw [joinWith, List.append_assoc]
      · exact hline _ (.inr rfl)
      · simp

/-- **Joined lines** are the lines of the text that they are joined to. -/
theorem hasLines_joinWith (hne : ts ≠ []) (h : ∀ t ∈ ts, IsLine t) (he : e ∈ lineEnds) :
    HasLines (joinWith e ts) ts := by
  induction ts with
  | nil => exact absurd rfl hne
  | cons t ts ih =>
    obtain ⟨ht, hts⟩ := List.forall_mem_cons.mp h
    cases ts with
    | nil => exact .last ht
    | cons u us =>
      rw [joinWith, List.append_assoc]
      · refine .more ht he ?_ (ih (by simp) hts)
        -- the separator stays whole: no line starts with the newline that would join it
        rintro rfl
        exact head?_joinWith_return hts
      · simp

/-- **Line endings do not matter**: lines that are joined by any of them are found again, and the
outcome of rendering is the same. -/
theorem render_joinWith_lineEnd (hne : ts ≠ []) (h : ∀ t ∈ ts, IsLine t) {e e' : Text}
    (he : e ∈ lineEnds) (he' : e' ∈ lineEnds) (line : Int) (column : Option Int)
    (above below : Int) :
    HasLines (joinWith e ts) ts ∧
      render (joinWith e ts) line column above below
        = render (joinWith e' ts) line column above below := by
  have hlines := hasLines_joinWith hne h he
  refine ⟨hlines, ?_⟩
  -- the source is read through its lines alone
  unfold render
  rw [hlines.sourceLines_eq, (hasLines_joinWith hne h he').sourceLines_eq]

/-- Empty lines in a row: with pairs and with single characters at their ends, `b` is line four. -/
theorem render_joinWith_lineEnd_emptyLines :
    HasLines "a\r\r\rb".toList ["a".toList, [], [], "b".toList] ∧
      render "a\r\r\rb".toList 4 (some 1) 2 3 = render "a\r\n\r\n\r\nb".toList 4 (some 1) 2 3 := by
  have hreturn : ['\r'] ∈ lineEnds := by decide
  have hpair : ['\r', '\n'] ∈ lineEnds := by decide
  have hlines : ∀ t ∈ ["a".toList, [], [], "b".toList], IsLine t := by decide
  exact render_joinWith_lineEnd (by decide) hlines hreturn hpair 4 (some 1) 2 3

end Stacktrace.CodeFrame
