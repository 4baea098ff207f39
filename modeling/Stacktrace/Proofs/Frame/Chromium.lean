import Stacktrace.Frame.Chromium
import Stacktrace.Proofs.Frame.Place
import Stacktrace.Proofs.Text.Search

/-!
# What a Chromium frame says

Reading a Chromium frame first takes eval wrappers and the keyword away; what remains is the *named
part* of the line, a name and a location in parentheses or a location alone.

* `unwrapEvals_of_not_losesText`, `length_unwrapEvals_lt` — a line in which nothing occurs that
  unwrapping removes is left alone, and every other line gets shorter;
* `namedPart_keyword` — behind indentation and keyword the named part is the rest of the line, or
  shorter if something was unwrapped;
* `suffix_namedRest`, `comma_notMem_namedPart` — unwrapping stops at a comma and otherwise leaves the
  last parenthesis alone;
* `findLocation_append`, `findLocation_eq_some` — the location stands behind the leftmost space with
  a parenthesis after it;
* `read_named`, `read_eq_ok` — reading forwards and backwards.
-/

namespace Stacktrace.Chromium

open Text Numeral

/-! ## Eval wrappers -/

/-- What unwrapping replaces by `eval` before it looks for wrappers. -/
def evalCode : Text := ['e', 'v', 'a', 'l', ' ', 'c', 'o', 'd', 'e']

/-- A final line feed is all that a text can lose at its end. -/
theorem cutFinalNewline_snd_sublist (s : Text) : (cutFinalNewline s).2 <:+ s :=
  ⟨(cutFinalNewline s).1, cutFinalNewline_append s⟩

/-- Unwrapping only takes characters away. -/
theorem mem_unwrapFrom {inHead : Bool} {s : Text} {c : Char} (h : c ∈ unwrapFrom inHead s) :
    c ∈ s := by
  -- the cases are those of the walk: end, wrapper opened, wrapper closed, comma, other character
  fun_induction unwrapFrom inHead s with
  | case1 => exact h
  | case2 inHead d s _ ih => exact List.mem_cons_of_mem d (ih h)
  | case3 inHead d s _ _ ih => exact List.mem_cons_of_mem d (ih h)
  | case4 inHead d s _ _ _ =>
    exact List.mem_cons_of_mem d ((cutFinalNewline_snd_sublist s).mem h)
  | case5 inHead d s _ _ _ ih =>
    rcases List.mem_cons.mp h with rfl | h
    · exact List.mem_cons_self
    · exact List.mem_cons_of_mem d (ih h)

/-- No text gets longer by unwrapping. -/
theorem length_unwrapFrom_le (inHead : Bool) (s : Text) :
    (unwrapFrom inHead s).length ≤ s.length := by
  fun_induction unwrapFrom inHead s with
  | case1 => exact Nat.le_refl 0
  | case2 inHead d s _ ih => exact Nat.le_succ_of_le ih
  | case3 inHead d s _ _ ih => exact Nat.le_succ_of_le ih
  | case4 inHead d s _ _ _ =>
    exact Nat.le_succ_of_le (cutFinalNewline_snd_sublist s).length_le
  | case5 inHead d s _ _ _ ih => exact Nat.succ_le_succ ih

/-- On one line every comma ends the frame. -/
theorem onLastLine_of_notMem {s : Text} (h : '\n' ∉ s) : onLastLine s = true := by
  rw [onLastLine, cutFinalNewline_of_notMem h]
  dsimp only
  rw [List.all_eq_true]
  exact bne_of_notMem h

/-- The step of the walk on a character that neither opens a wrapper nor is a comma. -/
theorem unwrapFrom_cons {c : Char} {s : Text} (ho : ¬ '(' :: wrapperHead <+: c :: s) (hc : c ≠ ',') :
    unwrapFrom false (c :: s) = c :: unwrapFrom false s := by
  rw [unwrapFrom, if_neg (by simp), if_neg, if_neg (by simp [hc])]
  rw [Bool.and_eq_true, decide_eq_true_eq, List.isPrefixOf_iff_prefix]
  rintro ⟨rfl, hp⟩
  exact ho (List.cons_prefix_cons.mpr ⟨rfl, hp⟩)

/-- A text with neither a wrapper nor a comma is left as it is. -/
theorem unwrapFrom_eq_self {s : Text} (ho : ¬ '(' :: wrapperHead <:+: s) (hc : ',' ∉ s) :
    unwrapFrom false s = s := by
  induction s with
  | nil => rfl
  | cons c s ih =>
    rw [List.infix_cons_iff, not_or] at ho
    have hne : c ≠ ',' := fun he => hc (by simp [he])
    rw [unwrapFrom_cons ho.1 hne, ih ho.2 fun hm => hc (List.mem_cons_of_mem c hm)]

/-- A line with a wrapper or a comma gets shorter. -/
theorem length_unwrapFrom_lt {s : Text} (hs : '\n' ∉ s)
    (h : '(' :: wrapperHead <:+: s ∨ ',' ∈ s) : (unwrapFrom false s).length < s.length := by
  induction s with
  | nil => exact absurd h (by simp [wrapperHead])
  | cons c s ih =>
    have hns : '\n' ∉ s := fun hm => hs (List.mem_cons_of_mem c hm)
    by_cases ho : '(' :: wrapperHead <+: c :: s
    · -- the parenthesis that opens the wrapper is gone, whatever becomes of the rest
      obtain ⟨rfl, hp⟩ := List.cons_prefix_cons.mp ho
      rw [unwrapFrom, if_neg (by simp), if_pos (by simpa using hp), List.length_cons]
      exact Nat.lt_succ_of_le (length_unwrapFrom_le true s)
    · by_cases hc : c = ','
      · -- on one line the comma takes everything behind it away
        rw [hc, unwrapFrom, if_neg (by simp), if_neg (by simp), if_pos
          (by simp [onLastLine_of_notMem hns]), cutFinalNewline_of_notMem hns]
        exact Nat.zero_lt_succ _
      · rw [unwrapFrom_cons ho hc, List.length_cons, List.length_cons]
        refine Nat.succ_lt_succ (ih hns ?_)
        rcases h with h | h
        · exact .inl ((List.infix_cons_iff.mp h).resolve_left ho)
        · exact .inr ((List.mem_cons.mp h).resolve_left (Ne.symm hc))

/-- The walk copies a beginning with neither parentheses nor commas and goes on behind it. -/
theorem unwrapFrom_append {a s : Text} (ho : '(' ∉ a) (hc : ',' ∉ a) :
    unwrapFrom false (a ++ s) = a ++ unwrapFrom false s := by
  induction a with
  | nil => rfl
  | cons c a ih =>
    -- no wrapper opens here, since its first character is a parenthesis
    have hopen : ¬ '(' :: wrapperHead <+: c :: (a ++ s) := by
      intro hp
      exact ho ((List.cons_prefix_cons.mp hp).1 ▸ List.mem_cons_self)
    have hne : c ≠ ',' := fun he => hc (by simp [he])
    rw [List.cons_append, unwrapFrom_cons hopen hne,
      ih (fun hm => ho (List.mem_cons_of_mem c hm)) fun hm => hc (List.mem_cons_of_mem c hm)]
    rfl

/-- On one line no comma is left: the first one outside a wrapper ends the text. -/
theorem comma_notMem_unwrapFrom {inHead : Bool} {s : Text} (hs : '\n' ∉ s) :
    ',' ∉ unwrapFrom inHead s := by
  fun_induction unwrapFrom inHead s with
  | case1 => exact List.not_mem_nil
  | case2 inHead c s _ ih => exact ih fun hm => hs (List.mem_cons_of_mem c hm)
  | case3 inHead c s _ _ ih => exact ih fun hm => hs (List.mem_cons_of_mem c hm)
  | case4 inHead c s _ _ _ =>
    have hns : '\n' ∉ s := fun hm => hs (List.mem_cons_of_mem c hm)
    rw [cutFinalNewline_of_notMem hns]
    exact List.not_mem_nil
  | case5 inHead c s _ _ hcomma ih =>
    have hns : '\n' ∉ s := fun hm => hs (List.mem_cons_of_mem c hm)
    -- the walk went on, so the character is no comma on the last line, which is this one
    rw [onLastLine_of_notMem hns] at hcomma
    intro hm
    rcases List.mem_cons.mp hm with rfl | hm
    · exact hcomma (by simp)
    · exact ih hns hm

/-- Without commas the text from the last parenthesis on stays, if no wrapper starts there. -/
theorem unwrapFrom_append_paren {t : Text} (ht : ¬ wrapperHead <+: t) (ho : '(' ∉ t) (hc : ',' ∉ t)
    (inHead : Bool) {b : Text} (hb : ',' ∉ b) :
    ∃ x, unwrapFrom inHead (b ++ '(' :: t) = x ++ '(' :: t := by
  -- by induction on what stands in front; the walk may enter that parenthesis inside a wrapper's
  -- head or outside
  induction b generalizing inHead with
  | nil =>
    refine ⟨[], ?_⟩
    have hself : unwrapFrom false t = t :=
      unwrapFrom_eq_self (fun h => ho (h.mem List.mem_cons_self)) hc
    rw [List.nil_append, unwrapFrom, if_neg (by simp), if_neg (by simpa using ht),
      if_neg (by simp), hself]
  | cons c b ih =>
    have hne : c ≠ ',' := fun he => hb (by simp [he])
    have ih := fun inHead => ih inHead fun hm => hb (List.mem_cons_of_mem c hm)
    rw [List.cons_append, unwrapFrom]
    split
    · exact ih true
    · split
      · exact ih true
      · rw [if_neg (by simp [hne])]
        obtain ⟨x, hx⟩ := ih false
        exact ⟨c :: x, by rw [hx]; rfl⟩

/-- A line without the mark of evaluated code is left as it is. -/
theorem unwrapEvals_of_not_occursIn {s : Text} (h : occursIn evalMark s = false) :
    unwrapEvals s = s := by
  rw [unwrapEvals, if_neg (by simp [h])]

/-- The characters of an unwrapped line are characters of the line. -/
theorem mem_unwrapEvals {s : Text} {c : Char} (h : c ∈ unwrapEvals s) : c ∈ s := by
  unfold unwrapEvals at h
  split at h
  · next hmark =>
    rcases mem_replaceAll (mem_unwrapFrom h) with hnew | hs
    · -- the letters of the replacement stand in the mark already
      have hsub : ∀ d ∈ ['e', 'v', 'a', 'l'], d ∈ evalMark := by simp [evalMark]
      exact (occursIn_iff.mp hmark).mem (hsub c hnew)
    · exact hs
  · exact h

/-- What it takes for unwrapping to change a line: the mark of evaluated code, and with it something
to remove. -/
def LosesText (s : Text) : Prop :=
  evalMark <:+: s ∧ (evalCode <:+: s ∨ '(' :: wrapperHead <:+: s ∨ ',' ∈ s)

/-- A line on which unwrapping finds something to remove gets shorter. -/
theorem length_unwrapEvals_lt {s : Text} (hs : '\n' ∉ s) (h : LosesText s) :
    (unwrapEvals s).length < s.length := by
  obtain ⟨hmark, hloss⟩ := h
  have hle : (replaceAll evalCode ['e', 'v', 'a', 'l'] s).length ≤ s.length :=
    length_replaceAll_le (by decide) s
  rw [unwrapEvals, if_pos (occursIn_iff.mpr hmark)]
  change (unwrapFrom false (replaceAll evalCode ['e', 'v', 'a', 'l'] s)).length < s.length
  -- either the replacement shortens the text and unwrapping keeps it short, or nothing is replaced
  by_cases hcode : occursIn evalCode s = true
  · have hlt : (replaceAll evalCode ['e', 'v', 'a', 'l'] s).length < s.length :=
      length_replaceAll_lt (by decide) hcode
    have hun := length_unwrapFrom_le false (replaceAll evalCode ['e', 'v', 'a', 'l'] s)
    omega
  · rw [Bool.not_eq_true] at hcode
    rw [replaceAll_eq_self hcode]
    exact length_unwrapFrom_lt hs (hloss.resolve_left (occursIn_eq_false_iff.mp hcode))

/-- Every other line is left as it is. -/
theorem unwrapEvals_of_not_losesText {s : Text} (h : ¬ LosesText s) : unwrapEvals s = s := by
  unfold LosesText at h
  push Not at h
  -- with the mark, each of the three things to remove is missing; without it, nothing is looked for
  by_cases hmark : evalMark <:+: s
  · obtain ⟨hcode, hhead, hcomma⟩ := h hmark
    rw [unwrapEvals, if_pos (occursIn_iff.mpr hmark)]
    change unwrapFrom false (replaceAll evalCode ['e', 'v', 'a', 'l'] s) = s
    rw [replaceAll_eq_self (occursIn_eq_false_iff.mpr hcode), unwrapFrom_eq_self hhead hcomma]
  · exact unwrapEvals_of_not_occursIn (occursIn_eq_false_iff.mpr hmark)

/-! ## The named part -/

/-- The part of a line behind the keyword, in which the location is looked for. -/
def namedPart (line : Text) : Text :=
  dropKeyword (replaceAll ('(' :: evalCode) ['('] (trimStart (unwrapEvals line)))

/-- Reading a Chromium frame in terms of its named part: the location that is found there is read as
a place, and the name is what is left without it. -/
theorem read_eq (line : Text) :
    read line = match findLocation (namedPart line) with
      | some location =>
        (Place.read location).map fun place =>
          ⟨if (replaceFirst (' ' :: location) [] (namedPart line)).isEmpty then none
            else some (replaceFirst (' ' :: location) [] (namedPart line)), dropPseudoFile place⟩
      | none => (Place.read (namedPart line)).map fun place => ⟨none, dropPseudoFile place⟩ := by
  unfold read
  -- the do block, with its let bindings spelt out
  change (match findLocation (namedPart line) with
    | some location => do
      let place ← Place.read location
      return (⟨if (replaceFirst (' ' :: location) [] (namedPart line)).isEmpty then none
        else some (replaceFirst (' ' :: location) [] (namedPart line)),
        dropPseudoFile place⟩ : RawFrame)
    | none => do
      let place ← Place.read (namedPart line)
      return (⟨none, dropPseudoFile place⟩ : RawFrame)) = _
  cases findLocation (namedPart line) with
  | none =>
    dsimp only
    cases Place.read (namedPart line) <;> rfl
  | some location =>
    dsimp only
    cases Place.read location <;> rfl

/-- The characters behind the keyword are characters of the line. -/
theorem mem_dropKeyword {s : Text} {c : Char} (h : c ∈ dropKeyword s) : c ∈ s := by
  unfold dropKeyword at h
  split at h
  · exact (List.dropWhile_suffix _).mem ((List.dropWhile_suffix _).mem h)
  · exact h

/-- No blank stands in front of what follows the keyword. -/
theorem isBlank_head_dropKeyword (s : Text) : ∀ c ∈ (dropKeyword s).head?, isBlank c = false := by
  intro c hc
  unfold dropKeyword at hc
  split at hc
  · have hhead := List.head?_dropWhile_not isBlank (s.dropWhile fun c => !isBlank c)
    rw [hc] at hhead
    simpa using hhead
  · -- a text without blanks keeps its first character, which is none
    next hany =>
    rw [List.any_eq_true] at hany
    push Not at hany
    simpa using hany c (List.mem_of_mem_head? hc)

/-- No blank stands in front of the named part. -/
theorem isBlank_head_namedPart (line : Text) :
    ∀ c ∈ (namedPart line).head?, isBlank c = false :=
  isBlank_head_dropKeyword _

/-- The named part of one line is one line. -/
theorem notMem_namedPart {s : Text} (h : '\n' ∉ s) : '\n' ∉ namedPart s := by
  intro hm
  rcases mem_replaceAll (mem_dropKeyword hm) with hnew | hm
  · exact absurd hnew (by decide)
  · exact h (mem_unwrapEvals ((List.dropWhile_suffix _).mem hm))

/-- The code marker of an evaluated script contains the mark of evaluated code. -/
theorem evalMark_infix_of_code {s : Text} (h : '(' :: evalCode <:+: s) : evalMark <:+: s :=
  List.IsInfix.trans (by decide) h

/-- A text that unwrapping passes over: nothing that is replaced or removed can start in it. -/
def IsPassed (a : Text) : Prop :=
  ∀ c ∈ ['e', '(', ','], c ∉ a

/-- Nothing can start in an empty text. -/
theorem isPassed_nil : IsPassed [] := fun _ _ => List.not_mem_nil

/-- Texts that are passed over one by one are passed over together. -/
theorem IsPassed.append {a b : Text} (ha : IsPassed a) (hb : IsPassed b) : IsPassed (a ++ b) :=
  fun c hc hm => (List.mem_append.mp hm).elim (ha c hc) (hb c hc)

/-- Indentation is passed over, since nothing that is removed starts with a blank. -/
theorem isPassed_of_isBlank {w : Text} (hw : ∀ c ∈ w, isBlank c = true) : IsPassed w := by
  have hsolid : ∀ c ∈ ['e', '(', ','], isBlank c = false := by simp; decide
  intro c hc hm
  have hblank := hsolid c hc
  rw [hw c hm] at hblank
  exact Bool.noConfusion hblank

/-- What unwrapping leaves of a part of a line. The flag tells whether the line has the mark of
evaluated code. -/
def unwrapRest (marked : Bool) (x : Text) : Text :=
  if marked then unwrapFrom false (replaceAll evalCode ['e', 'v', 'a', 'l'] x) else x

/-- Unwrapping a line is unwrapping its rest, where the mark is looked for in the whole line. -/
theorem unwrapEvals_eq (s : Text) : unwrapEvals s = unwrapRest (occursIn evalMark s) s := rfl

/-- A beginning that is passed over stays, and the rest is unwrapped as if it stood alone. -/
theorem unwrapRest_append {a : Text} (ha : IsPassed a) (marked : Bool) (x : Text) :
    unwrapRest marked (a ++ x) = a ++ unwrapRest marked x := by
  cases marked with
  | false => rfl
  | true =>
    show unwrapFrom false (replaceAll evalCode ['e', 'v', 'a', 'l'] (a ++ x)) = _
    rw [evalCode, replaceAll_append (ha 'e' (by decide)),
      unwrapFrom_append (ha '(' (by decide)) (ha ',' (by decide))]
    rfl

/-- What is left of a part of a line behind the keyword. -/
def namedRest (marked : Bool) (x : Text) : Text :=
  replaceAll ('(' :: evalCode) ['('] (unwrapRest marked x)

/-- A line that loses nothing keeps the rest behind its keyword. -/
theorem namedRest_eq_self {a x : Text} (ha : IsPassed a) (h : ¬ LosesText (a ++ x)) :
    namedRest (occursIn evalMark (a ++ x)) x = x := by
  have hself := unwrapEvals_of_not_losesText h
  rw [unwrapEvals_eq, unwrapRest_append ha, List.append_cancel_left_eq] at hself
  rw [namedRest, hself]
  -- the code marker would bring both the mark and something to remove
  apply replaceAll_eq_self
  rw [occursIn_eq_false_iff]
  intro hcode
  have hline : '(' :: evalCode <:+: a ++ x := hcode.trans (List.suffix_append a x).isInfix
  exact h ⟨evalMark_infix_of_code hline,
    .inl ((List.suffix_cons '(' evalCode).isInfix.trans hline)⟩

/-- A line that loses text loses it behind its keyword. -/
theorem length_namedRest_lt {a x : Text} (ha : IsPassed a) (hs : '\n' ∉ a ++ x)
    (h : LosesText (a ++ x)) : (namedRest (occursIn evalMark (a ++ x)) x).length < x.length := by
  have hlt := length_unwrapEvals_lt hs h
  -- the beginning has the same length on both sides, so the loss is all in the rest
  rw [unwrapEvals_eq, unwrapRest_append ha, List.length_append, List.length_append] at hlt
  exact Nat.lt_of_le_of_lt (length_replaceAll_le (by decide) _) (Nat.lt_of_add_lt_add_left hlt)

/-- **Behind indentation and keyword** the named part is the rest of the line, or shorter if the line
loses text to unwrapping. Either way it keeps a beginning that unwrapping passes over. -/
theorem namedPart_keyword {w a x : Text} (hw : ∀ c ∈ w, isBlank c = true) (ha : IsPassed a)
    (hx : '\n' ∉ w ++ (['a', 't', ' '] ++ (a ++ x))) :
    let rest := namedRest (occursIn evalMark (w ++ (['a', 't', ' '] ++ (a ++ x)))) x
    namedPart (w ++ (['a', 't', ' '] ++ (a ++ x))) = (a ++ rest).dropWhile isBlank ∧
      (¬ LosesText (w ++ (['a', 't', ' '] ++ (a ++ x))) → rest = x) ∧
      (LosesText (w ++ (['a', 't', ' '] ++ (a ++ x))) → rest.length < x.length) := by
  have hpassed : IsPassed (w ++ (['a', 't', ' '] ++ a)) := by
    have hword : IsPassed ['a', 't', ' '] := by simp [IsPassed]
    exact (isPassed_of_isBlank hw).append (hword.append ha)
  have hassoc : ∀ z : Text, w ++ (['a', 't', ' '] ++ (a ++ z)) = (w ++ (['a', 't', ' '] ++ a)) ++ z := by
    intro z
    simp only [List.append_assoc]
  rw [hassoc] at hx ⊢
  refine ⟨?_, namedRest_eq_self hpassed, length_namedRest_lt hpassed hx⟩
  rw [namedPart, unwrapEvals_eq, unwrapRest_append hpassed]
  -- the mark is looked for in the whole line, so it is the same flag for every rest
  generalize occursIn evalMark ((w ++ (['a', 't', ' '] ++ a)) ++ x) = marked
  have hat : ∀ c ∈ (['a', 't', ' '] ++ (a ++ unwrapRest marked x)).head?, isBlank c = false := by
    rintro c ⟨⟩
    decide
  have hparen : '(' ∉ ['a', 't', ' '] ++ a := fun hm =>
    hpassed '(' (by decide) (List.mem_append_right w hm)
  rw [← hassoc, trimStart_append hw hat, ← List.append_assoc, replaceAll_append hparen]
  rfl

/-- **A text in parentheses stays** at the end, if no comma stands in front of it where unwrapping
would cut. -/
theorem suffix_namedRest {marked : Bool} {b t : Text} (hb : marked = true → ',' ∉ b)
    (ht : IsPassed t) : '(' :: t <:+ namedRest marked (b ++ '(' :: t) := by
  have hopen : '(' ∉ t := ht '(' (by decide)
  have hletter : ∀ {p : Text}, ¬ 'e' :: p <+: t := fun h =>
    ht 'e' (by decide) (h.mem List.mem_cons_self)
  -- unwrapping keeps the parenthesis, whatever it makes of the text in front of it
  obtain ⟨x, hx⟩ : ∃ x, unwrapRest marked (b ++ '(' :: t) = x ++ '(' :: t := by
    cases marked with
    | false => exact ⟨b, rfl⟩
    | true =>
      have hcode : ¬ evalCode <:+: '(' :: t := by
        rw [List.infix_cons_iff, not_or]
        exact ⟨fun h => absurd (List.cons_prefix_cons.mp h).1 (by decide),
          fun h => ht 'e' (by decide) (h.mem List.mem_cons_self)⟩
      have hreplace : replaceAll evalCode ['e', 'v', 'a', 'l'] (b ++ '(' :: t)
          = replaceAll evalCode ['e', 'v', 'a', 'l'] b ++ '(' :: t :=
        replaceAll_append_right hcode fun _ _ _ h => length_le_of_starts (by decide) h
      have hcomma : ',' ∉ replaceAll evalCode ['e', 'v', 'a', 'l'] b := fun hm =>
        (mem_replaceAll hm).elim (by decide) (hb rfl)
      rw [unwrapRest, if_pos rfl, hreplace]
      exact unwrapFrom_append_paren hletter hopen (ht ',' (by decide)) false hcomma
  have hmarker : ¬ '(' :: evalCode <:+: '(' :: t := by
    rw [List.infix_cons_iff, not_or]
    exact ⟨fun h => hletter (List.cons_prefix_cons.mp h).2, fun h => hopen (h.mem List.mem_cons_self)⟩
  have hreplace : replaceAll ('(' :: evalCode) ['('] (x ++ '(' :: t)
      = replaceAll ('(' :: evalCode) ['('] x ++ '(' :: t := by
    refine replaceAll_append_right hmarker ?_
    intro c _ hne h
    -- an occurrence that starts in front of the parenthesis has its own one at its start
    obtain ⟨d, c, rfl⟩ := List.exists_cons_of_ne_nil hne
    have hle : evalCode.length ≤ c.length :=
      length_le_of_starts (by decide) (List.cons_prefix_cons.mp h).2
    exact Nat.succ_le_succ hle
  rw [namedRest, hx, hreplace]
  exact List.suffix_append _ _

/-- A line with the mark of evaluated code has no commas left. -/
theorem comma_notMem_namedPart {s : Text} (hs : '\n' ∉ s) (h : occursIn evalMark s = true) :
    ',' ∉ namedPart s := by
  intro hm
  rcases mem_replaceAll (mem_dropKeyword hm) with hnew | hm
  · exact absurd hnew (by decide)
  · rw [unwrapEvals_eq, unwrapRest, if_pos h] at hm
    refine comma_notMem_unwrapFrom ?_ ((List.dropWhile_suffix _).mem hm)
    exact fun hm => (mem_replaceAll hm).elim (by decide) hs

/-! ## The location -/

/-- On one line a text closes if it ends in a parenthesis with something before it. -/
theorem closedToEnd?_eq_some_iff {s b : Text} (hs : '\n' ∉ s) :
    closedToEnd? s = some b ↔ b = s ∧ 2 ≤ s.length ∧ s.getLast? = some ')' := by
  -- on one line the pattern asks only for the last character and for one before it
  have hall : s.all (· != '\n') = true := List.all_eq_true.mpr (bne_of_notMem hs)
  rw [closedToEnd?, cutFinalNewline_of_notMem hs]
  dsimp only
  rw [hall, Bool.and_true]
  by_cases h : 2 ≤ s.length ∧ s.getLast? = some ')'
  · rw [if_pos (by simpa using h)]
    simp [h, eq_comm]
  · rw [if_neg (by simpa using h)]
    simp [h]

/-- The search goes on behind a character that does not open a location. -/
theorem findLocation_cons {c : Char} {s : Text} (h : ¬ [' ', '('] <+: c :: s) :
    findLocation (c :: s) = findLocation s := by
  rw [findLocation]
  rintro t rfl rfl
  exact h ⟨t, rfl⟩

/-- **The location is found** behind a name in which no space is followed by a parenthesis. -/
theorem findLocation_append {name rest : Text} (hn : ¬ [' ', '('] <:+: name)
    (hr : closedToEnd? rest = some rest) :
    findLocation (name ++ ' ' :: '(' :: rest) = some ('(' :: rest) := by
  induction name with
  | nil => rw [List.nil_append, findLocation, hr]
  | cons c name ih =>
    rw [List.infix_cons_iff, not_or] at hn
    -- an earlier space with a parenthesis would stand inside the name
    have hstart : ¬ [' ', '('] <+: c :: (name ++ ' ' :: '(' :: rest) := by
      intro hp
      obtain ⟨rfl, hp'⟩ := List.cons_prefix_cons.mp hp
      cases name with
      | nil => exact absurd (List.cons_prefix_cons.mp hp').1 (by decide)
      | cons d name =>
        obtain ⟨rfl, -⟩ := List.cons_prefix_cons.mp hp'
        exact hn.1 ⟨name, rfl⟩
    rw [List.cons_append, findLocation_cons hstart, ih hn.2]

/-- What is found is everything behind the leftmost space with a parenthesis after it. -/
theorem findLocation_eq_some {s location : Text} (hs : '\n' ∉ s)
    (h : findLocation s = some location) :
    ∃ name rest, s = name ++ ' ' :: '(' :: rest ∧ location = '(' :: rest ∧
      ¬ [' ', '('] <:+: name ∧ 2 ≤ rest.length ∧ rest.getLast? = some ')' := by
  fun_induction findLocation s with
  | case1 s body hbody =>
    have hns : '\n' ∉ s := fun hm => hs (by simp [hm])
    obtain ⟨rfl, hlen, hlast⟩ := (closedToEnd?_eq_some_iff hns).mp hbody
    cases h
    exact ⟨[], _, rfl, rfl, by simp, hlen, hlast⟩
  | case2 s hnone ih =>
    have hns : '\n' ∉ s := fun hm => hs (by simp [hm])
    obtain ⟨name, rest, hsplit, -, -, hlen, hlast⟩ := ih (fun hm => hs (by simp_all)) h
    -- a location further right would close this one too
    have hend : s = ('(' :: s).tail := rfl
    have hsuffix : rest <:+ s := by
      rw [hend, hsplit]
      cases name with
      | nil => exact absurd (List.cons.inj hsplit).1 (by decide)
      | cons d name => exact ⟨name ++ [' ', '('], by simp⟩
    have hclosed : closedToEnd? s = some s := by
      refine (closedToEnd?_eq_some_iff hns).mpr ⟨rfl, Nat.le_trans hlen hsuffix.length_le, ?_⟩
      obtain ⟨pre, rfl⟩ := hsuffix
      rw [List.getLast?_append, hlast]
      rfl
    rw [hclosed] at hnone
    cases hnone
  | case3 c s hother ih =>
    have hns : '\n' ∉ s := fun hm => hs (List.mem_cons_of_mem c hm)
    obtain ⟨name, rest, hsplit, hloc, hname, hlen, hlast⟩ := ih hns h
    refine ⟨c :: name, rest, by rw [hsplit]; rfl, hloc, ?_, hlen, hlast⟩
    rw [List.infix_cons_iff, not_or]
    refine ⟨?_, hname⟩
    rintro ⟨t, ht⟩
    obtain ⟨rfl, hstart⟩ := List.cons.inj ht
    -- the name starts with no parenthesis here, since the walk went on past the space
    refine hother (t ++ ' ' :: '(' :: rest) rfl ?_
    rw [hsplit, ← hstart]
    rfl
  | case4 => cases h

/-- Taking the location away, with the space in front of it, leaves the name. -/
theorem replaceFirst_location {name rest : Text} (hn : ¬ [' ', '('] <:+: name) :
    replaceFirst (' ' :: '(' :: rest) [] (name ++ ' ' :: '(' :: rest) = name := by
  have hfirst : ∀ b, b <:+ name → b ≠ [] → ¬ ' ' :: '(' :: rest <+: b ++ ' ' :: '(' :: rest := by
    intro b hb hne hp
    obtain ⟨c, b, rfl⟩ := List.exists_cons_of_ne_nil hne
    obtain ⟨rfl, hp'⟩ := List.cons_prefix_cons.mp hp
    cases b with
    | nil =>
      -- behind the name's last character stands a space and not a parenthesis
      exact absurd (List.cons_prefix_cons.mp hp').1 (by decide)
    | cons d b =>
      obtain ⟨rfl, -⟩ := List.cons_prefix_cons.mp hp'
      exact hn (List.IsInfix.trans ⟨[], b, rfl⟩ hb.isInfix)
  rw [replaceFirst_append hfirst (by simp), List.append_nil]

/-! ## Pseudo files -/

/-- A pseudo file takes no line with it. -/
@[simp] theorem dropPseudoFile_line (p : Place) : (dropPseudoFile p).line = p.line := by
  unfold dropPseudoFile
  split
  · split <;> rfl
  · rfl

/-- A pseudo file takes no column with it. -/
@[simp] theorem dropPseudoFile_column (p : Place) : (dropPseudoFile p).column = p.column := by
  unfold dropPseudoFile
  split
  · split <;> rfl
  · rfl

/-- The files that are kept are those of the place that are no pseudo files. -/
theorem dropPseudoFile_file_eq_some_iff {p : Place} {file : Text} :
    (dropPseudoFile p).file = some file ↔ p.file = some file ∧ file ∉ pseudoFiles := by
  unfold dropPseudoFile
  cases hp : p.file with
  | none => simp [hp]
  | some f =>
    dsimp only
    by_cases hf : f ∈ pseudoFiles
    · rw [if_pos (by simpa using hf)]
      constructor
      · intro h
        cases h
      · rintro ⟨h, hnot⟩
        cases h
        exact absurd hf hnot
    · rw [if_neg (by simpa using hf), hp]
      constructor
      · intro h
        cases h
        exact ⟨rfl, hf⟩
      · exact fun h => h.1

/-- A place in a real file is kept whole. -/
theorem dropPseudoFile_of_notMem {p : Place} {file : Text} (hp : p.file = some file)
    (h : file ∉ pseudoFiles) : dropPseudoFile p = p := by
  unfold dropPseudoFile
  rw [hp]
  dsimp only
  rw [if_neg (by simpa using h)]

/-- Dropping a pseudo file leaves a place on one line. -/
theorem oneLine_dropPseudoFile {p : Place} (h : p.OneLine) : (dropPseudoFile p).OneLine := by
  have hfile : ∀ file ∈ (dropPseudoFile p).file, file ∈ p.file :=
    fun file hf => (dropPseudoFile_file_eq_some_iff.mp hf).1
  refine ⟨fun file hf => h.file_line file (hfile file hf), ?_, ?_⟩
  · rw [dropPseudoFile_line, dropPseudoFile_column]
    exact h.numbers
  · rw [dropPseudoFile_column]
    exact fun file hf => h.file_bare file (hfile file hf)

/-! ## Reading -/

/-- **Reading a named frame**: the name is what stands before the location. -/
theorem read_named {line name rest : Text} (hnl : '\n' ∉ line)
    (h : namedPart line = name ++ ' ' :: '(' :: rest) (hne : name ≠ [])
    (hn : ¬ [' ', '('] <:+: name) (hlen : 2 ≤ rest.length) (hlast : rest.getLast? = some ')') :
    read line = (Place.read ('(' :: rest)).map fun place => ⟨some name, dropPseudoFile place⟩ := by
  have hrest : '\n' ∉ rest := by
    intro hm
    exact notMem_namedPart hnl (by rw [h]; simp [hm])
  -- the location is closed to the end, so the search stops at it and not at a later one
  rw [read_eq, h, findLocation_append hn ((closedToEnd?_eq_some_iff hrest).mpr ⟨rfl, hlen, hlast⟩)]
  dsimp only
  rw [replaceFirst_location hn, if_neg (by simpa using hne)]

/-- **What a read frame says about its line**: either a name stands before the location, or no
location was found and the whole named part is a place. -/
theorem read_eq_ok {line : Text} {raw : RawFrame} (hnl : '\n' ∉ line) (h : read line = .ok raw) :
    (∃ name rest place, namedPart line = name ++ ' ' :: '(' :: rest ∧ name ≠ [] ∧
      ¬ [' ', '('] <:+: name ∧ rest.getLast? = some ')' ∧ Place.read ('(' :: rest) = .ok place ∧
      raw = ⟨some name, dropPseudoFile place⟩) ∨
    (findLocation (namedPart line) = none ∧ ∃ place, Place.read (namedPart line) = .ok place ∧
      raw = ⟨none, dropPseudoFile place⟩) := by
  have hnl' := notMem_namedPart hnl
  rw [read_eq] at h
  cases hloc : findLocation (namedPart line) with
  | some location =>
    left
    obtain ⟨name, rest, hsplit, rfl, hn, hlen, hlast⟩ := findLocation_eq_some hnl' hloc
    -- without a name the space in front of the location would start the named part
    have hne : name ≠ [] := by
      rintro rfl
      have hhead := isBlank_head_namedPart line ' '
      rw [hsplit] at hhead
      exact absurd (hhead rfl) (by decide)
    rw [hloc] at h
    dsimp only at h
    rw [hsplit, replaceFirst_location hn, if_neg (by simpa using hne)] at h
    obtain ⟨place, hp, rfl⟩ := Outcome.map_eq_ok_iff.mp h
    exact ⟨name, rest, place, hsplit, hne, hn, hlast, hp, rfl⟩
  | none =>
    right
    rw [hloc] at h
    obtain ⟨place, hp, rfl⟩ := Outcome.map_eq_ok_iff.mp h
    exact ⟨rfl, place, hp, rfl⟩

end Stacktrace.Chromium
