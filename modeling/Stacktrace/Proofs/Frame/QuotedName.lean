import Mathlib.Algebra.Ring.Parity
import Stacktrace.Proofs.Frame.ReportedCall

/-!
# Names with quoted sections

In Firefox's syntax an at sign parts name and location, and both may hold more of them: the file in the
name of a directory, the name inside of quotation marks. The reader does not pair the marks. It looks
for the last mark that has another one somewhere in front of it, though not next to it, and takes the
first at sign behind that.

* `cutQuoted?_append` — that last mark is found;
* `QuotesAts.exists_last_mark` — where all at signs of a name are quoted, it stands behind all of them;
* `cutName?_of_quotesAts` — so the name is cut off where it ends, even if some sections are empty;
* `ReportedCall.read_quoted` — and the frame reports it.
-/

namespace Stacktrace

open Text Numeral

/-- Every at sign stands inside a quoted section: the quotation marks come in pairs, and it has an odd
number of them in front. -/
structure Text.QuotesAts (s : Text) : Prop where
  paired : Even (s.count '"')
  inside : ∀ i (h : i < s.length), s[i] = '@' → Odd ((s.take i).count '"')

namespace Text.QuotesAts

variable {s a b : Text}

/-- The text in front of an at sign has an odd number of marks. -/
theorem odd_count (h : QuotesAts (a ++ '@' :: b)) : Odd (a.count '"') := by
  have hodd := h.inside a.length (by simp) (by simp)
  rwa [List.take_left' rfl] at hodd

/-- An odd number of marks is not none. -/
theorem mem_of_odd_count (h : Odd (a.count '"')) : '"' ∈ a := by
  obtain ⟨k, hk⟩ := h
  exact List.count_pos_iff.mp (by omega)

/-- **The last mark** of a name with at signs stands behind all of them, and behind another mark that is
not next to it. -/
theorem exists_last_mark (h : QuotesAts s) (hat : '@' ∈ s) :
    ∃ a b, s = a ++ '"' :: b ∧ '"' ∉ b ∧ '@' ∉ b ∧ '"' ∈ a.dropLast := by
  obtain ⟨x, y, rfl⟩ := List.append_of_mem hat
  have hx := h.odd_count
  -- the section around the at sign is closed behind it
  have hy : '"' ∈ y := by
    have hpaired := h.paired
    rw [List.count_append, List.count_cons_of_ne (by decide), Nat.even_add] at hpaired
    refine mem_of_odd_count (Nat.not_even_iff_odd.mp fun heven => ?_)
    exact Nat.not_even_iff_odd.mpr hx (hpaired.mpr heven)
  obtain ⟨r, m, hrev, hr⟩ := List.eq_append_cons_of_mem (List.mem_reverse.mpr hy)
  have hsplit : y = m.reverse ++ '"' :: r.reverse := by
    have hrev' := congrArg List.reverse hrev
    simpa using hrev'
  have hlast : '"' ∉ r.reverse := by simpa using hr
  refine ⟨x ++ '@' :: m.reverse, r.reverse, by simp [hsplit], hlast, ?_, ?_⟩
  · -- an at sign behind the last mark would have all marks in front of it
    intro hm
    obtain ⟨u, v, hv⟩ := List.append_of_mem hm
    have hs : x ++ '@' :: y = (x ++ '@' :: (m.reverse ++ '"' :: u)) ++ '@' :: v := by
      simp [hsplit, hv]
    have hzero : v.count '"' = 0 := by
      rw [List.count_eq_zero]
      intro hmem
      exact hlast (hv ▸ List.mem_append_right u (List.mem_cons_of_mem _ hmem))
    rw [hs] at h
    have hodd := h.odd_count
    have hpaired := h.paired
    rw [List.count_append, List.count_cons_of_ne (by decide), hzero, Nat.add_zero] at hpaired
    exact Nat.not_even_iff_odd.mpr hodd hpaired
  · rw [List.dropLast_append_cons]
    exact List.mem_append_left _ (mem_of_odd_count hx)

end Text.QuotesAts

namespace Firefox

/-- A text is cut behind a quotation mark. -/
theorem exists_eq_concat_of_cutQuoted? {older newer : Bool} {s b a : Text}
    (h : cutQuoted? older newer s = some (b, a)) : ∃ x, b = x ++ ['"'] := by
  induction s generalizing older newer b a with
  | nil => cases h
  | cons c s ih =>
    rw [cutQuoted?] at h
    split at h
    · cases h
    · -- the cut is made behind a later mark if there is a good one, and else behind this one
      cases hs : cutQuoted? (older || newer) (c == '"') s with
      | some ba =>
        rw [hs] at h
        cases h
        obtain ⟨x, hx⟩ := ih hs
        exact ⟨c :: x, by rw [hx]; rfl⟩
      | none =>
        rw [hs] at h
        dsimp only at h
        split at h
        · next hmark =>
          cases h
          simp only [Bool.and_eq_true, decide_eq_true_eq] at hmark
          exact ⟨[], by rw [hmark.1.1]; rfl⟩
        · cases h

/-- **The last quotation mark is found**, if it closes a section that holds something and an at sign
stands behind it. -/
theorem cutQuoted?_append {older newer : Bool} {a b : Text} (hb : '"' ∉ b) (hat : '@' ∈ b)
    (hnl : '\n' ∉ a) (hopen : older = true ∨ (newer = true ∧ a ≠ []) ∨ '"' ∈ a.dropLast) :
    cutQuoted? older newer (a ++ '"' :: b) = some (a ++ ['"'], b) := by
  induction a generalizing older newer with
  | nil =>
    have holder : older = true := by simpa using hopen
    rw [List.nil_append, cutQuoted?, cutQuoted?_of_notMem hb]
    simp [holder, hat]
  | cons c a ih =>
    have hc : c ≠ '\n' := fun he => hnl (by simp [he])
    -- one character further on, a mark that was just passed is an older one
    have hopen' : (older || newer) = true ∨ ((c == '"') = true ∧ a ≠ []) ∨ '"' ∈ a.dropLast := by
      rcases hopen with holder | ⟨hnewer, -⟩ | hmem
      · exact .inl (by simp [holder])
      · exact .inl (by simp [hnewer])
      · cases a with
        | nil => cases hmem
        | cons d a =>
          rw [List.dropLast_cons_cons] at hmem
          rcases List.mem_cons.mp hmem with rfl | hmem
          · exact .inr (.inl ⟨by simp, by simp⟩)
          · exact .inr (.inr hmem)
    rw [List.cons_append, cutQuoted?, if_neg hc,
      ih (fun hm => hnl (List.mem_cons_of_mem c hm)) hopen']
    rfl

/-- Behind a quoted part the first at sign ends the name. -/
theorem cutName?_of_cutQuoted? {s quoted rest location : Text}
    (h : (cutQuoted? false false s).getD ([], s) = (quoted, rest ++ '@' :: location))
    (hrest : '@' ∉ rest) : cutName? s = some (quoted ++ rest, location) := by
  rw [cutName?, h]
  dsimp only
  rw [if_pos (by simp), (cut_first_at hrest).1, (cut_first_at hrest).2]
  rfl

/-- **A name whose at signs are quoted is cut off where it ends**, if the location has no marks. -/
theorem cutName?_of_quotesAts {name location : Text} (h : QuotesAts name) (hnl : '\n' ∉ name)
    (hlocation : '"' ∉ location) : cutName? (name ++ '@' :: location) = some (name, location) := by
  have hbehind : '"' ∉ '@' :: location := by simp [hlocation]
  by_cases hat : '@' ∈ name
  · obtain ⟨a, b, rfl, hb, hbat, hopen⟩ := h.exists_last_mark hat
    have hmarks : '"' ∉ b ++ '@' :: location := by simp [hb, hlocation]
    have hcut : cutQuoted? false false (a ++ '"' :: (b ++ '@' :: location))
        = some (a ++ ['"'], b ++ '@' :: location) :=
      cutQuoted?_append hmarks (by simp) (fun hm => hnl (List.mem_append_left _ hm))
        (.inr (.inr hopen))
    have hname : a ++ '"' :: b = (a ++ ['"']) ++ b := by simp
    rw [List.append_assoc, List.cons_append, hname]
    exact cutName?_of_cutQuoted? (by rw [hcut]; rfl) hbat
  · cases hq : cutQuoted? false false (name ++ '@' :: location) with
    | none =>
      have hwhole : (cutQuoted? false false (name ++ '@' :: location)).getD
          ([], name ++ '@' :: location) = ([], name ++ '@' :: location) := by
        rw [hq]
        rfl
      exact cutName?_of_cutQuoted? hwhole hat
    | some cut =>
      obtain ⟨quoted, after⟩ := cut
      -- wherever it is cut, that is behind a mark and so inside the name
      obtain ⟨x, rfl⟩ := exists_eq_concat_of_cutQuoted? hq
      have hsplit := of_cutQuoted? hq
      rw [List.append_assoc, List.singleton_append] at hsplit
      have hsuffix : '@' :: location <:+ x ++ '"' :: after := hsplit ▸ List.suffix_append name _
      obtain ⟨rest, rfl⟩ := suffix_of_notMem hbehind hsuffix
      have hname : name = (x ++ ['"']) ++ rest := by
        refine List.append_cancel_right (hsplit.trans ?_)
        simp
      rw [hname]
      rw [hname] at hat hq
      exact cutName?_of_cutQuoted? (by rw [hq]; rfl) fun hm => hat (List.mem_append_right _ hm)

end Firefox

namespace ReportedCall

/-- What keeps the name of a frame in Firefox's syntax apart from its location, and the frame from all
else that the syntax is used for. -/
structure HasQuotedName (c : ReportedCall) : Prop where
  name_solid : ∀ x ∈ c.name.head?, isBlank x = false
  name_quotes : QuotesAts c.name
  file_open : '(' ∉ c.file
  file_close : ')' ∉ c.file
  file_quote : '"' ∉ c.file
  one_line : '\n' ∉ c.firefox
  keyword : ¬ ['a', 't', ' '] <+: c.firefox
  chain : ¬ Firefox.chainMark <:+: c.firefox

/-- **A frame with a quoted name** reports the whole name, and the place as it is written. -/
theorem read_quoted (c : ReportedCall) (h : c.HasQuotedName) :
    Frame.read c.firefox = .ok (.frame c.fields) := by
  have hname : '\n' ∉ c.name := fun hm => h.one_line (List.mem_append_left _ hm)
  have hlocation : '"' ∉ c.location := c.notMem_location (by decide) (by decide) h.file_quote
  have hcut := Firefox.cutName?_of_quotesAts h.name_quotes hname hlocation
  rw [c.read_firefox h.one_line h.name_solid h.keyword h.chain hcut,
    c.place_of_notMem h.file_open h.file_close]
  rfl

/-- A method that is named by a text with an at sign, in a package of a scope. -/
def quotedMethod : ReportedCall where
  name := "get \"\"/\"a@b\" of \"@\"/<".toList
  file := "http://h:81/@s/b.js".toList
  line := "25".toList
  column := "9".toList
  file_ne_nil := by decide
  line_run := by decide
  column_run := by decide
  line_short := by decide
  column_short := by decide

/-- A name with an empty section, a quoted scope and a wrapper suffix, in a file with an at sign of
its own. -/
theorem read_quoted_quotedMethod :
    Frame.read "get \"\"/\"a@b\" of \"@\"/<@http://h:81/@s/b.js:25:9".toList = .ok (.frame {
      functionName := "get \"\"/\"a@b\" of \"@\"".toList
      file := some "http://h:81/@s/b.js".toList
      line := some 25
      column := some 9 }) := by
  have hquotes : QuotesAts quotedMethod.name := ⟨by decide, by decide⟩
  have hquoted : quotedMethod.HasQuotedName :=
    ⟨by rintro x ⟨⟩; decide, hquotes, by decide, by decide, by decide, by decide, by decide,
      by decide⟩
  have hline : "get \"\"/\"a@b\" of \"@\"/<@http://h:81/@s/b.js:25:9".toList = quotedMethod.firefox := by
    decide
  rw [hline, read_quoted quotedMethod hquoted]
  decide

end ReportedCall

end Stacktrace
