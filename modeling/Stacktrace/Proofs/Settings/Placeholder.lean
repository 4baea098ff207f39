import Mathlib.Data.List.Infix
import Stacktrace.Proofs.Text.Lines
import Stacktrace.Proofs.Text.Search
import Stacktrace.Settings.Placeholder

/-!
# One pass over the placeholders of a text

Where placeholders could be cut in several ways, as in nested or adjacent ones, the leftmost place
counts and the search goes on behind it. `IsScan` says this without a search: it lists the matches of
a text, with the text in front of each of them, and no placeholder starts anywhere in such a text.

* `name?_eq_some_iff` — a dollar sign opens a placeholder if a name and a closing brace follow;
* `IsScan.unique`, `exists_isScan` — every text is scanned in one way;
* `pieces_of_isScan` — the pieces that a text is cut into are those of its scan;
* `IsScan.substitute_eq_ok`, `IsScan.substitute_eq_error` — what becomes of the matches;
* `substitute_one_pass` — so the values of the variables go where the matches were, all else stays,
  and the first variable that is not set is a fault.
-/

namespace Stacktrace.Placeholder

variable {a b s t name : Text}

/-! ## Placeholders -/

/-- A name that a placeholder can hold: any text that is not empty and has no closing brace. -/
structure IsName (name : Text) : Prop where
  ne_nil : name ≠ []
  closing_notMem : '\x7d' ∉ name

/-- The placeholder of a name. -/
def text (name : Text) : Text :=
  '$' :: '\x7b' :: (name ++ ['\x7d'])

/-- A placeholder in front of a text, character by character. -/
theorem text_append (name t : Text) : text name ++ t = '$' :: '\x7b' :: (name ++ '\x7d' :: t) := by
  simp [text]

/-- A text starts with a placeholder if dollar sign, brace, name and brace follow each other. -/
theorem text_prefix_iff : text name <+: s ↔ ∃ t, s = '$' :: '\x7b' :: (name ++ '\x7d' :: t) := by
  constructor
  · rintro ⟨t, rfl⟩
    exact ⟨t, text_append name t⟩
  · rintro ⟨t, rfl⟩
    exact ⟨t, text_append name t⟩

/-- A name ends at the first closing brace. -/
theorem name?_closed (h : '\x7d' ∉ name) (t : Text) :
    name? ('\x7b' :: (name ++ '\x7d' :: t)) = if name.isEmpty then none else some name := by
  have hcut : (name ++ '\x7d' :: t).takeWhile (· != '\x7d') = name := by
    rw [List.takeWhile_append_of_pos (Text.bne_of_notMem h), List.takeWhile_cons_of_neg (by decide),
      List.append_nil]
  rw [name?, hcut]
  simp

/-- **A name is read off** behind a dollar sign exactly if the rest of its placeholder is there. -/
theorem name?_eq_some_iff :
    name? s = some name ↔ IsName name ∧ ∃ t, s = '\x7b' :: (name ++ '\x7d' :: t) := by
  constructor
  · intro h
    cases s with
    | nil => cases h
    | cons c s =>
      by_cases hc : c = '\x7b'
      · subst hc
        -- without a closing brace the opening one is a literal
        by_cases hclosed : '\x7d' ∈ s
        · obtain ⟨n, t, rfl, hn⟩ := List.eq_append_cons_of_mem hclosed
          rw [name?_closed hn] at h
          split at h
          · cases h
          · next hne =>
            cases h
            exact ⟨⟨by simpa using hne, hn⟩, t, rfl⟩
        · simp [name?, hclosed] at h
      · simp [name?, hc] at h
  · rintro ⟨hname, t, rfl⟩
    rw [name?_closed hname.closing_notMem, if_neg (by simpa using hname.ne_nil)]

/-- No placeholder starts inside `a` when `t` stands behind it. -/
def NoneStarts (a t : Text) : Prop :=
  ∀ b name, b <:+ a → b ≠ [] → IsName name → ¬ text name <+: b ++ t

/-- Nothing starts in an empty text. -/
theorem noneStarts_nil (t : Text) : NoneStarts [] t := by
  intro b name hb hne
  exact absurd (List.suffix_nil.mp hb) hne

/-- No placeholder starts in a text if none starts at its first character and none behind it. -/
theorem noneStarts_cons_iff {c : Char} :
    NoneStarts (c :: a) t ↔
      (∀ name, IsName name → ¬ text name <+: c :: (a ++ t)) ∧ NoneStarts a t := by
  constructor
  · intro h
    exact ⟨fun name => h (c :: a) name List.suffix_rfl (by simp),
      fun b name hb => h b name (hb.trans (List.suffix_cons c a))⟩
  · rintro ⟨hhead, htail⟩ b name hb hne
    rcases List.suffix_cons_iff.mp hb with rfl | hb
    · exact hhead name
    · exact htail b name hb hne

/-! ## Scans -/

/-- A placeholder that was found, with the text that was passed over on the way to it. -/
structure Match where
  before : Text
  name : Text
deriving DecidableEq, Repr

/-- The matches of a text, from the left, each at the first place behind the one before it, and the
rest behind the last match. -/
inductive IsScan : Text → List Match → Text → Prop where
  | rest {s : Text} (h : NoneStarts s []) : IsScan s [] s
  | found {a name t rest : Text} {ms : List Match} (h : NoneStarts a (text name ++ t))
      (hname : IsName name) (hrest : IsScan t ms rest) :
      IsScan (a ++ (text name ++ t)) (⟨a, name⟩ :: ms) rest

/-- **Two first matches are one**: neither can stand inside the text in front of the other. -/
theorem eq_of_noneStarts {a' t' name' : Text} (h : NoneStarts a (text name ++ t))
    (h' : NoneStarts a' (text name' ++ t')) (hname : IsName name) (hname' : IsName name')
    (heq : a ++ (text name ++ t) = a' ++ (text name' ++ t')) :
    a = a' ∧ name = name' ∧ t = t' := by
  -- one text cannot go on beyond the other, for then the other's match would start inside it
  have hsame : a = a' := by
    rcases List.append_eq_append_iff.mp heq with ⟨b, rfl, hb⟩ | ⟨b, rfl, hb⟩
    · cases b with
      | nil => rw [List.append_nil]
      | cons c b =>
        exact absurd ⟨t, hb⟩ (h' (c :: b) name (List.suffix_append a _) (by simp) hname)
    · cases b with
      | nil => rw [List.append_nil]
      | cons c b =>
        exact absurd ⟨t', hb⟩ (h (c :: b) name' (List.suffix_append a' _) (by simp) hname')
  subst hsame
  have htext := List.append_cancel_left heq
  -- behind the dollar sign one name is read
  rw [text_append, text_append] at htext
  have htail := (List.cons.inj htext).2
  have hread := name?_eq_some_iff.mpr ⟨hname, t, rfl⟩
  have hread' := name?_eq_some_iff.mpr ⟨hname', t', rfl⟩
  rw [htail, hread'] at hread
  obtain rfl := Option.some.inj hread
  have hclosed := List.append_cancel_left (List.cons.inj htail).2
  exact ⟨rfl, rfl, (List.cons.inj hclosed).2⟩

/-- **There is only one scan** of a text. -/
theorem IsScan.unique {ms ms' : List Match} {rest rest' : Text} (h : IsScan s ms rest)
    (h' : IsScan s ms' rest') : ms' = ms ∧ rest' = rest := by
  -- by induction on one scan; the other has its first match at the same place or, like it, none
  induction h generalizing ms' rest' with
  | rest hnone =>
    cases h' with
    | rest _ => exact ⟨rfl, rfl⟩
    | @found a name t _ _ _ hname _ =>
      have hstart : text name <+: (text name ++ t) ++ [] := by simp
      exact absurd hstart (hnone _ name (List.suffix_append a _) (by simp [text]) hname)
  | @found a name t rest ms hnone hname hscan ih =>
    generalize heq : a ++ (text name ++ t) = whole at h'
    cases h' with
    | rest hnone' =>
      subst heq
      have hstart : text name <+: (text name ++ t) ++ [] := by simp
      exact absurd hstart (hnone' _ name (List.suffix_append a _) (by simp [text]) hname)
    | @found a' name' t' _ ms' hnone' hname' hscan' =>
      obtain ⟨rfl, rfl, rfl⟩ := eq_of_noneStarts hnone hnone' hname hname' heq
      obtain ⟨rfl, rfl⟩ := ih hscan'
      exact ⟨rfl, rfl⟩

/-- A text holds no placeholder, or there is a first one. -/
theorem noneStarts_or_exists (s : Text) :
    NoneStarts s [] ∨
      ∃ a name t, s = a ++ (text name ++ t) ∧ IsName name ∧ NoneStarts a (text name ++ t) := by
  induction s with
  | nil => exact .inl (noneStarts_nil [])
  | cons c s ih =>
    -- the first character opens a placeholder, or the first one of the rest is the first of all
    by_cases hstart : ∃ name, IsName name ∧ text name <+: c :: s
    · obtain ⟨name, hname, t, ht⟩ := hstart
      exact .inr ⟨[], name, t, ht.symm, hname, noneStarts_nil _⟩
    · have hhead : ∀ name, IsName name → ¬ text name <+: c :: s := fun name hname hp =>
        hstart ⟨name, hname, hp⟩
      rcases ih with hnone | ⟨a, name, t, rfl, hname, hnone⟩
      · refine .inl (noneStarts_cons_iff.mpr ⟨?_, hnone⟩)
        simpa using hhead
      · exact .inr ⟨c :: a, name, t, rfl, hname, noneStarts_cons_iff.mpr ⟨hhead, hnone⟩⟩

/-- **Every text has a scan.** Behind each match there is less to scan. -/
theorem exists_isScan (s : Text) : ∃ ms rest, IsScan s ms rest := by
  rcases noneStarts_or_exists s with hnone | ⟨a, name, t, rfl, hname, hnone⟩
  · exact ⟨[], s, .rest hnone⟩
  · obtain ⟨ms, rest, hscan⟩ := exists_isScan t
    exact ⟨⟨a, name⟩ :: ms, rest, .found hnone hname hscan⟩
termination_by s.length
decreasing_by
  subst_vars
  simp [text]
  omega

/-! ## Pieces -/

/-- The counter passes over as many characters. -/
theorem piecesFrom_eq_drop (k : Nat) (s : Text) : piecesFrom k s = pieces (s.drop k) := by
  induction s generalizing k with
  | nil => cases k <;> rfl
  | cons c s ih =>
    cases k with
    | zero => rfl
    | succ k => exact ih k

/-- A placeholder is cut off as one piece, and the text goes on behind its brace. -/
theorem pieces_text_append (hname : IsName name) (t : Text) :
    pieces (text name ++ t) = .variable name :: pieces t := by
  have hread : name? ('\x7b' :: (name ++ '\x7d' :: t)) = some name :=
    name?_eq_some_iff.mpr ⟨hname, t, rfl⟩
  have hdrop : ('\x7b' :: (name ++ '\x7d' :: t)).drop (name.length + 2) = t := by
    simp
  rw [text_append, pieces, piecesFrom, if_pos rfl, hread]
  dsimp only
  rw [piecesFrom_eq_drop, hdrop]

/-- A character at which no placeholder starts is cut off as a literal. -/
theorem pieces_cons {c : Char} (h : ∀ name, IsName name → ¬ text name <+: c :: s) :
    pieces (c :: s) = .literal c :: pieces s := by
  -- a dollar sign starts a placeholder only when a name in braces follows
  have hread : (if c = '$' then name? s else none) = none := by
    split
    · next hc =>
      rw [Option.eq_none_iff_forall_ne_some]
      intro name hread
      obtain ⟨hname, t, rfl⟩ := name?_eq_some_iff.mp hread
      exact h name hname (text_prefix_iff.mpr ⟨t, by rw [hc]⟩)
    · rfl
  rw [pieces, piecesFrom, hread]
  rfl

/-- Where no placeholder starts, every character is a piece of its own. -/
theorem pieces_append (h : NoneStarts a t) : pieces (a ++ t) = a.map .literal ++ pieces t := by
  induction a with
  | nil => rfl
  | cons c a ih =>
    obtain ⟨hhead, htail⟩ := noneStarts_cons_iff.mp h
    rw [List.cons_append, pieces_cons hhead, ih htail]
    rfl

/-- The pieces of a match: the characters in front of it and the variable. -/
def Match.pieces (m : Match) : List Piece :=
  m.before.map .literal ++ [.variable m.name]

/-- **A text is cut as it is scanned.** -/
theorem pieces_of_isScan {ms : List Match} {rest : Text} (h : IsScan s ms rest) :
    pieces s = ms.flatMap Match.pieces ++ rest.map .literal := by
  -- the pieces follow the scan: literals up to a match, its variable, then the rest
  induction h with
  | @rest s hnone =>
    have hpieces := pieces_append hnone
    rw [List.append_nil] at hpieces
    rw [hpieces]
    exact List.append_nil _
  | found hnone hname _ ih =>
    rw [pieces_append hnone, pieces_text_append hname, ih, List.flatMap_cons, Match.pieces]
    simp

/-! ## What is no placeholder -/

/-- A placeholder ends in a brace, so it does not reach into a text without any. -/
theorem text_prefix_of_append (hopen : '\x7d' ∉ t) (h : text name <+: s ++ t) : text name <+: s := by
  rcases List.prefix_or_prefix_of_prefix h (List.prefix_append s t) with hp | ⟨v, hv⟩
  · exact hp
  · rw [← hv, List.prefix_append_right_inj] at h
    have hend : v <:+ ('$' :: '\x7b' :: name) ++ '\x7d' :: [] := ⟨s, hv⟩
    have hnil : v = [] :=
      List.suffix_nil.mp (Text.suffix_of_notMem (fun hm => hopen (h.mem hm)) hend)
    rw [← hv, hnil, List.append_nil]

/-- An unclosed end of the text is behind all matches. -/
theorem IsScan.append_open {ms : List Match} {rest : Text} (h : IsScan s ms rest)
    (hopen : '\x7d' ∉ t) : IsScan (s ++ t) ms (rest ++ t) := by
  induction h with
  | @rest s hnone =>
    refine .rest fun b name hb hne hname hstart => ?_
    rw [List.append_nil] at hstart
    obtain ⟨l, hl⟩ := hb
    rcases List.append_eq_append_iff.mp hl with ⟨c, rfl, rfl⟩ | ⟨c, rfl, rfl⟩
    · -- what starts in front of the open end would be a placeholder without it
      have hin := text_prefix_of_append hopen hstart
      have hc : c ≠ [] := List.ne_nil_of_length_pos (Nat.lt_of_lt_of_le (by simp [text]) hin.length_le)
      exact hnone c name (List.suffix_append l c) hc hname (by rwa [List.append_nil])
    · exact hopen (List.mem_append_right c (hstart.mem (by simp [text])))
  | @found a name u rest ms hnone hname _ ih =>
    rw [List.append_assoc, List.append_assoc]
    refine .found (fun b name' hb hne hname' hstart => ?_) hname ih
    rw [← List.append_assoc, ← List.append_assoc] at hstart
    refine hnone b name' hb hne hname' ?_
    rw [← List.append_assoc]
    exact text_prefix_of_append hopen hstart

/-- Empty braces hold no name. -/
theorem noneStarts_emptyBraces (t : Text) : NoneStarts "$\x7b\x7d".toList t := by
  have hdollar : ∀ name (c : Char) (s : Text), c ≠ '$' → ¬ text name <+: c :: s :=
    fun name c s hc hp => hc (List.cons_prefix_cons.mp hp).1.symm
  refine noneStarts_cons_iff.mpr ⟨fun name hname hp => ?_, noneStarts_cons_iff.mpr
    ⟨fun name _ => hdollar name _ _ (by decide), noneStarts_cons_iff.mpr
      ⟨fun name _ => hdollar name _ _ (by decide), noneStarts_nil t⟩⟩⟩
  -- the name would have to start with the closing brace
  obtain ⟨c, cs, rfl⟩ := List.exists_cons_of_ne_nil hname.ne_nil
  obtain ⟨rfl, -⟩ := List.cons_prefix_cons.mp
    (List.cons_prefix_cons.mp (List.cons_prefix_cons.mp hp).2).2
  exact hname.closing_notMem List.mem_cons_self

/-! ## Substitution -/

section

variable {environment : Environment} {value rest : Text} {ps : List Piece} {ms earlier : List Match}
  {m : Match}

/-- Literals are copied. -/
theorem join_literals (environment : Environment) (a : Text) (ps : List Piece) :
    join environment (a.map .literal ++ ps) = (join environment ps).map (a ++ ·) := by
  induction a with
  | nil => cases h : join environment ps <;> simp [h, Except.map]
  | cons c a ih =>
    rw [List.map_cons, List.cons_append, join, ih]
    cases join environment ps <;> rfl

/-- Literals alone are never a fault. -/
theorem join_rest (environment : Environment) (rest : Text) :
    join environment (rest.map .literal) = .ok rest := by
  have h := join_literals environment rest []
  rw [List.append_nil] at h
  rw [h]
  exact congrArg Except.ok (List.append_nil rest)

/-- Literals at the end are copied, unless something before them is a fault. -/
theorem join_append_literals (environment : Environment) (ps : List Piece) (t : Text) :
    join environment (ps ++ t.map .literal) = (join environment ps).map (· ++ t) := by
  induction ps with
  | nil => exact join_rest environment t
  | cons p ps ih =>
    rw [List.cons_append, join, join, ih]
    cases p.value environment with
    | error e => rfl
    | ok v => cases join environment ps <;> simp [bind, Except.bind, Except.map, pure, Except.pure]

/-- A match gives way to the value of its variable, behind the text in front of it. -/
theorem join_match (h : environment.lookup m.name = some value) (ps : List Piece) :
    join environment (m.pieces ++ ps) = (join environment ps).map (m.before ++ value ++ ·) := by
  rw [Match.pieces, List.append_assoc, join_literals, List.singleton_append, join, Piece.value, h]
  cases join environment ps <;> simp [bind, Except.bind, Except.map, pure, Except.pure]

/-- A match whose variable is not set is a fault, whatever comes behind it. -/
theorem join_unset_match (h : environment.lookup m.name = none) (ps : List Piece) :
    join environment (m.pieces ++ ps) = .error (.missingVariable m.name) := by
  rw [Match.pieces, List.append_assoc, join_literals, List.singleton_append, join, Piece.value, h]
  rfl

/-- **The values go where the matches were** if all variables are set. -/
theorem join_of_values {values : Text → Text}
    (h : ∀ m ∈ ms, environment.lookup m.name = some (values m.name)) :
    join environment (ms.flatMap Match.pieces ++ rest.map .literal) =
      .ok (ms.flatMap (fun m => m.before ++ values m.name) ++ rest) := by
  induction ms with
  | nil => exact join_rest environment rest
  | cons m ms ih =>
    obtain ⟨hm, hms⟩ := List.forall_mem_cons.mp h
    rw [List.flatMap_cons, List.append_assoc, join_match hm, ih hms]
    simp [Except.map]

/-- The first match whose variable is not set. -/
def FirstUnset (environment : Environment) (ms : List Match) (m : Match) : Prop :=
  ∃ earlier later, ms = earlier ++ m :: later ∧
    (∀ k ∈ earlier, ∃ value, environment.lookup k.name = some value) ∧
    environment.lookup m.name = none

/-- If the variable of some match is not set, there is a first such match. -/
theorem exists_firstUnset (h : ∃ m ∈ ms, environment.lookup m.name = none) :
    ∃ m, FirstUnset environment ms m := by
  -- the first one is what a search from the left finds
  have hfind : (ms.find? fun m => (environment.lookup m.name).isNone).isSome = true := by
    rw [List.find?_isSome]
    obtain ⟨m, hm, hunset⟩ := h
    exact ⟨m, hm, by rw [hunset, Option.isNone_none]⟩
  obtain ⟨m, hm⟩ := Option.isSome_iff_exists.mp hfind
  obtain ⟨hunset, earlier, later, rfl, hset⟩ := List.find?_eq_some_iff_append.mp hm
  refine ⟨m, earlier, later, rfl, fun k hk => ?_, Option.isNone_iff_eq_none.mp hunset⟩
  exact Option.ne_none_iff_exists'.mp (by simpa using hset k hk)

/-- **The first variable that is not set** is the fault. -/
theorem join_of_firstUnset (h : FirstUnset environment ms m) (ps : List Piece) :
    join environment (ms.flatMap Match.pieces ++ ps) = .error (.missingVariable m.name) := by
  -- the walk gets through the matches before, each of them set
  obtain ⟨earlier, later, rfl, hset, hm⟩ := h
  induction earlier with
  | nil =>
    rw [List.nil_append, List.flatMap_cons, List.append_assoc, join_unset_match hm]
  | cons k earlier ih =>
    obtain ⟨⟨value, hk⟩, hrest⟩ := List.forall_mem_cons.mp hset
    rw [List.cons_append, List.flatMap_cons, List.append_assoc, join_match hk, ih hrest]
    rfl

/-- **The values go where the matches were** if all variables are set. -/
theorem IsScan.substitute_eq_ok (hscan : IsScan s ms rest) (values : Text → Text)
    (h : ∀ m ∈ ms, environment.lookup m.name = some (values m.name)) :
    substitute environment s =
      .ok (ms.flatMap (fun m => m.before ++ values m.name) ++ rest) := by
  rw [substitute, pieces_of_isScan hscan, join_of_values h]

/-- **The first variable that is not set** is the fault. -/
theorem IsScan.substitute_eq_error (hscan : IsScan s ms rest) (h : FirstUnset environment ms m) :
    substitute environment s = .error (.missingVariable m.name) := by
  rw [substitute, pieces_of_isScan hscan, join_of_firstUnset h]

/-- Substitution is a fault exactly if the variable of some match is not set. -/
theorem IsScan.exists_error_iff (hscan : IsScan s ms rest) :
    (∃ e, substitute environment s = .error e) ↔ ∃ m ∈ ms, environment.lookup m.name = none := by
  constructor
  · rintro ⟨e, he⟩
    by_contra hnone
    push Not at hnone
    -- with all variables set there is a result
    have hvalues : ∀ m ∈ ms,
        environment.lookup m.name = some ((environment.lookup m.name).getD []) := by
      intro m hm
      obtain ⟨value, hvalue⟩ := Option.ne_none_iff_exists'.mp (hnone m hm)
      rw [hvalue, Option.getD_some]
    have hok := hscan.substitute_eq_ok (fun name => (environment.lookup name).getD []) hvalues
    cases he.symm.trans hok
  · intro h
    obtain ⟨m, hm⟩ := exists_firstUnset h
    exact ⟨_, hscan.substitute_eq_error hm⟩

/-- Empty braces stay. -/
theorem substitute_emptyBraces (environment : Environment) (s : Text) :
    substitute environment ("$\x7b\x7d".toList ++ s) =
      (substitute environment s).map ("$\x7b\x7d".toList ++ ·) := by
  rw [substitute, pieces_append (noneStarts_emptyBraces s), join_literals]
  rfl

/-- What no brace closes stays. -/
theorem substitute_append_open (environment : Environment) (s : Text) (hopen : '\x7d' ∉ t) :
    substitute environment (s ++ t) = (substitute environment s).map (· ++ t) := by
  obtain ⟨ms, rest, hscan⟩ := exists_isScan s
  rw [substitute, pieces_of_isScan (hscan.append_open hopen), List.map_append, ← List.append_assoc,
    ← pieces_of_isScan hscan, join_append_literals]
  rfl

/-- **Substitution is one pass from the left.** Every text has exactly one scan. It is a fault if the
variable of some match is not set, and the fault names the first of them. Otherwise every match gives
way to the value of its variable, whatever stands in it, and all other characters stay. So empty
braces stay, and so does an end of the text that no brace closes. -/
theorem substitute_one_pass (environment : Environment) (s : Text) :
    ∃ ms rest, (∀ ms' rest', IsScan s ms' rest' ↔ ms' = ms ∧ rest' = rest) ∧
      ((∃ e, substitute environment s = .error e) ↔
        ∃ m ∈ ms, environment.lookup m.name = none) ∧
      (∀ e, substitute environment s = .error e →
        ∃ m, FirstUnset environment ms m ∧ e = .missingVariable m.name ∧
          e.message = some ("Environment variable ".toList ++ m.name ++ " not found".toList)) ∧
      (∀ values : Text → Text,
        (∀ m ∈ ms, environment.lookup m.name = some (values m.name)) →
        substitute environment s =
          .ok (ms.flatMap (fun m => m.before ++ values m.name) ++ rest)) ∧
      substitute environment ("$\x7b\x7d".toList ++ s) =
        (substitute environment s).map ("$\x7b\x7d".toList ++ ·) ∧
      ∀ t, '\x7d' ∉ t →
        substitute environment (s ++ t) = (substitute environment s).map (· ++ t) := by
  obtain ⟨ms, rest, hscan⟩ := exists_isScan s
  refine ⟨ms, rest, fun ms' rest' => ⟨hscan.unique, ?_⟩, hscan.exists_error_iff, fun e he => ?_,
    hscan.substitute_eq_ok, substitute_emptyBraces environment s,
    fun t => substitute_append_open environment s⟩
  · rintro ⟨rfl, rfl⟩
    exact hscan
  · -- a fault needs an unset name, and the first one is what stops the walk
    obtain ⟨m, hm⟩ := exists_firstUnset (hscan.exists_error_iff.mp ⟨e, he⟩)
    obtain rfl := Except.error.inj ((hscan.substitute_eq_error hm).symm.trans he)
    exact ⟨m, hm, rfl, rfl⟩

/-- Braces in braces, braces without a name, a value that looks like a placeholder, and an open end. -/
example : substitute [("a$\x7bb".toList, "$\x7bc\x7d\\1".toList), ("d\n".toList, [])]
    "$\x7ba$\x7bb\x7d\x7d$\x7b\x7d$\x7bd\n\x7d$\x7bc".toList
      = .ok "$\x7bc\x7d\\1\x7d$\x7b\x7d$\x7bc".toList := by
  decide

end

end Stacktrace.Placeholder
