import Stacktrace.Proofs.Frame.Dialects

/-!
# Frames of evaluated code

Chromium reports a frame of evaluated code with the call that evaluated it, as in
`(eval at name (file:1:2), <anonymous>:3:4)`. Where that call stood in evaluated code itself, the
report is nested, and the innermost location is the only one in a real file.

One pass over the line has to find it: it drops the heads of all wrappers one after the other, keeps
the location, and cuts the line at the first comma behind it, where the tails begin.

* `unwrapRest_wrapperHead` — a head is dropped up to the next parenthesis, whatever it names;
* `unwrapRest_location` — a location is kept, and what a comma separates from it is not;
* `unwrapRest_nested` — so of nested wrappers the innermost location is left, at any depth;
* `FrameParts.read_evaluated` — and that is what the frame reports.
-/

namespace Stacktrace

open Text Numeral

/-- A call that evaluates code, and the place inside of that code that was reached. -/
structure EvalCall where
  name : Text
  line : Text
  column : Text
  name_line : '\n' ∉ name
  name_open : '(' ∉ name
  name_close : ')' ∉ name
  line_run : IsRun line
  column_run : IsRun column

namespace EvalCall

/-- What a wrapper adds behind the location of the call. -/
def tail (e : EvalCall) : Text :=
  ',' :: (" <anonymous>".toList ++ (':' :: e.line ++ ':' :: (e.column ++ [')'])))

/-- The location of evaluated code, from the location of the call. -/
def wrap (e : EvalCall) (location : Text) : Text :=
  '(' :: (Chromium.wrapperHead ++ ((e.name ++ [' ']) ++ (location ++ e.tail)))

/-- The location of code behind a chain of such calls, the outermost one first. -/
def nested (calls : List EvalCall) (location : Text) : Text :=
  calls.foldr wrap location

/-- The tail of a wrapper is on one line, whatever the numerals are. -/
theorem newline_notMem_tail (e : EvalCall) : '\n' ∉ e.tail := by
  have hdigit : isDigit '\n' = false := by decide
  have hfile : '\n' ∉ " <anonymous>".toList := by decide
  simp only [tail, List.mem_cons, List.mem_append, hfile, e.line_run.notMem hdigit,
    e.column_run.notMem hdigit]
  decide

/-- Wrappers put no line break around a location. -/
theorem newline_notMem_nested {location : Text} (h : '\n' ∉ location) (calls : List EvalCall) :
    '\n' ∉ nested calls location := by
  induction calls with
  | nil => exact h
  | cons e es ih =>
    show '\n' ∉ e.wrap (nested es location)
    simp [wrap, Chromium.wrapperHead, e.name_line, e.newline_notMem_tail, ih]

/-- Every location is in parentheses if the innermost one is. -/
theorem exists_nested_eq (calls : List EvalCall) (t : Text) :
    ∃ s, nested calls ('(' :: t) = '(' :: s := by
  cases calls with
  | nil => exact ⟨t, rfl⟩
  | cons e es => exact ⟨_, rfl⟩

end EvalCall

/-! ## Unwrapping -/

namespace Chromium

variable {x t : Text} {c : Char}

/-- The text in which unwrapping looks for wrappers: `eval code` is written `eval`. -/
def withoutCode (s : Text) : Text :=
  replaceAll evalCode ['e', 'v', 'a', 'l'] s

/-- In a marked line, the walk runs over the text without code markers. -/
theorem unwrapRest_true (s : Text) : unwrapRest true s = unwrapFrom false (withoutCode s) := rfl

/-- Writing `eval` for `eval code` adds no characters but those of `eval`. -/
theorem notMem_withoutCode (hc : c ∉ ['e', 'v', 'a', 'l']) (h : c ∉ t) : c ∉ withoutCode t :=
  fun hm => (mem_replaceAll hm).elim hc h

/-- A character that is not in `eval code` divides the text for the replacement. -/
theorem withoutCode_append_cons (hc : c ∉ evalCode) (a s : Text) :
    withoutCode (a ++ c :: s) = withoutCode a ++ c :: withoutCode s :=
  replaceAll_append_cons hc (by decide) _ a s

/-- Such a character in front stays there. -/
theorem withoutCode_cons (hc : c ∉ evalCode) (s : Text) :
    withoutCode (c :: s) = c :: withoutCode s :=
  withoutCode_append_cons hc [] s

/-- Without a space there is no `eval code` to replace. -/
theorem withoutCode_eq_self (h : ' ' ∉ t) : withoutCode t = t :=
  replaceAll_eq_self (occursIn_eq_false_iff.mpr fun hin => h (hin.mem (by decide)))

/-- The words of a wrapper's head are not taken for `eval code`. -/
theorem withoutCode_wrapperHead (s : Text) :
    withoutCode (wrapperHead ++ s) = wrapperHead ++ withoutCode s := by
  -- `eval at` and `eval code` part ways behind the space, so the first letter stays
  have hfirst : ¬ evalCode <+: 'e' :: (['v', 'a', 'l', ' ', 'a', 't', ' '] ++ s) := by
    rintro ⟨r, hr⟩
    simp [evalCode] at hr
  have hrest : withoutCode (['v', 'a', 'l', ' ', 'a', 't', ' '] ++ s)
      = ['v', 'a', 'l', ' ', 'a', 't', ' '] ++ withoutCode s :=
    replaceAll_append (by decide) s
  have hhead : withoutCode (wrapperHead ++ s)
      = 'e' :: withoutCode (['v', 'a', 'l', ' ', 'a', 't', ' '] ++ s) :=
    replaceFrom_cons_of_not_starts hfirst
  rw [hhead, hrest]
  rfl

/-- A parenthesis ends the head of a wrapper, so the walk goes on as if outside. -/
theorem unwrapFrom_paren (inHead : Bool) (s : Text) :
    unwrapFrom inHead ('(' :: s) = unwrapFrom false ('(' :: s) := by
  rw [unwrapFrom, unwrapFrom]
  simp

/-- Inside a head everything goes up to the next parenthesis. -/
theorem unwrapFrom_head (ho : '(' ∉ x) (hc : ')' ∉ x) (s : Text) :
    unwrapFrom true (x ++ '(' :: s) = unwrapFrom false ('(' :: s) := by
  induction x with
  | nil => exact unwrapFrom_paren true s
  | cons c x ih =>
    have hopen : c ≠ '(' := fun he => ho (by simp [he])
    have hclose : c ≠ ')' := fun he => hc (by simp [he])
    rw [List.cons_append, unwrapFrom, if_pos (by simp [hopen, hclose])]
    exact ih (fun hm => ho (List.mem_cons_of_mem c hm)) fun hm => hc (List.mem_cons_of_mem c hm)

/-- **A head is dropped** up to the parenthesis behind it. -/
theorem unwrapRest_wrapperHead (ho : '(' ∉ x) (hc : ')' ∉ x) (s : Text) :
    unwrapRest true ('(' :: (wrapperHead ++ (x ++ '(' :: s))) = unwrapRest true ('(' :: s) := by
  -- the words of the head are passed over together with the name
  have hopen : '(' ∉ wrapperHead ++ withoutCode x := by
    rw [List.mem_append, not_or]
    exact ⟨by decide, notMem_withoutCode (by decide) ho⟩
  have hclose : ')' ∉ wrapperHead ++ withoutCode x := by
    rw [List.mem_append, not_or]
    exact ⟨by decide, notMem_withoutCode (by decide) hc⟩
  rw [unwrapRest_true, unwrapRest_true, withoutCode_cons (by decide), withoutCode_cons (by decide),
    withoutCode_wrapperHead, withoutCode_append_cons (by decide), unwrapFrom, if_neg (by simp),
    if_pos (by simp), ← List.append_assoc, unwrapFrom_head hopen hclose]

/-- **A location is kept**, and what a comma separates from it is not. -/
theorem unwrapRest_location (hspace : ' ' ∉ t) (ho : '(' ∉ t) (hc : ',' ∉ t) {s : Text}
    (hs : '\n' ∉ s) : unwrapRest true ('(' :: (t ++ ',' :: s)) = '(' :: t := by
  have hs' : '\n' ∉ withoutCode s := notMem_withoutCode (by decide) hs
  have hstart : ¬ '(' :: wrapperHead <+: '(' :: (t ++ ',' :: withoutCode s) := by
    intro hp
    -- a head has spaces and no comma, so it would have to end inside the location
    have hp := (List.cons_prefix_cons.mp hp).2
    have hle := length_le_of_starts (by decide) hp
    have hin := List.prefix_of_prefix_length_le hp (List.prefix_append t _) hle
    exact hspace (hin.mem (by decide))
  rw [unwrapRest_true, withoutCode_cons (by decide), withoutCode_append_cons (by decide),
    withoutCode_eq_self hspace, unwrapFrom_cons hstart (by decide), unwrapFrom_append ho hc,
    unwrapFrom, if_neg (by simp), if_neg (by simp), if_pos (by simp [onLastLine_of_notMem hs']),
    cutFinalNewline_of_notMem hs', List.append_nil]

/-- **Of nested wrappers** the location of the innermost call is left, at any depth. -/
theorem unwrapRest_nested (hspace : ' ' ∉ t) (ho : '(' ∉ t) (hc : ',' ∉ t) {calls : List EvalCall}
    (hne : calls ≠ []) {s : Text} (hs : '\n' ∉ s) :
    unwrapRest true (EvalCall.nested calls ('(' :: t) ++ s) = '(' :: t := by
  -- by induction on the wrappers; the text behind them grows by one tail at each step
  induction calls generalizing s with
  | nil => exact absurd rfl hne
  | cons e es ih =>
    have hopen : '(' ∉ e.name ++ [' '] := by simp [e.name_open]
    have hclose : ')' ∉ e.name ++ [' '] := by simp [e.name_close]
    have htail : '\n' ∉ e.tail ++ s := by simp [e.newline_notMem_tail, hs]
    obtain ⟨r, hr⟩ := EvalCall.exists_nested_eq es t
    -- the outermost head goes, and its tail stands behind what is left
    have hhead : unwrapRest true (EvalCall.nested (e :: es) ('(' :: t) ++ s)
        = unwrapRest true (EvalCall.nested es ('(' :: t) ++ (e.tail ++ s)) := by
      have hstep := unwrapRest_wrapperHead hopen hclose (r ++ (e.tail ++ s))
      rw [hr, List.cons_append, ← hstep]
      show unwrapRest true (e.wrap (EvalCall.nested es ('(' :: t)) ++ s) = _
      rw [hr, EvalCall.wrap]
      simp only [List.cons_append, List.append_assoc]
    rw [hhead]
    cases es with
    | nil =>
      -- the tail of the innermost call starts with the comma that ends the walk
      have hcut : '\n' ∉ " <anonymous>".toList ++ (':' :: e.line ++ ':' :: (e.column ++ [')'])) ++ s :=
        fun hm => htail (List.mem_cons_of_mem ',' hm)
      exact unwrapRest_location hspace ho hc hcut
    | cons e' es => exact ih (by simp) htail

/-- A name in front of wrappers stays. -/
theorem unwrapRest_name {name : Text} (hspace : ' ' ∉ name) (ho : '(' ∉ name) (hc : ',' ∉ name)
    (s : Text) : unwrapRest true (name ++ ' ' :: '(' :: s)
      = name ++ ' ' :: unwrapRest true ('(' :: s) := by
  have hcode : ¬ evalCode <:+: name ++ [' '] := by
    rw [List.infix_concat_iff, not_or]
    refine ⟨fun hsuffix => ?_, fun hin => hspace (hin.mem (by decide))⟩
    -- the code marker does not end in a space
    obtain ⟨r, hr⟩ := hsuffix
    have hlast := congrArg List.getLast? hr
    simp [evalCode] at hlast
  have hself : withoutCode (name ++ [' ']) = name ++ [' '] :=
    replaceAll_eq_self (occursIn_eq_false_iff.mpr hcode)
  have hsplit : name ++ ' ' :: '(' :: s = (name ++ [' ']) ++ '(' :: s := by simp
  rw [unwrapRest_true, unwrapRest_true, hsplit, withoutCode_append_cons (by decide), hself,
    unwrapFrom_append (by simp [ho]) (by simp [hc]), withoutCode_cons (by decide)]
  simp

end Chromium

/-! ## Reading -/

namespace FrameParts

/-- A name and a file that unwrapping cannot take apart: without blanks, commas or further
parentheses. -/
structure Unbroken (p : FrameParts) : Prop where
  name_solid : ∀ c ∈ p.name, isBlank c = false
  name_open : '(' ∉ p.name
  name_comma : ',' ∉ p.name
  file_solid : ∀ c ∈ p.file, isBlank c = false
  file_comma : ',' ∉ p.file

/-- The place of the frame in parentheses, as far as it stands behind the opening one. -/
def closedPlace (p : FrameParts) : Text :=
  p.placeText ++ [')']

/-- The frame as it is reported from inside of evaluated code. -/
def evaluated (p : FrameParts) (calls : List EvalCall) : Text :=
  p.indent ++ (['a', 't', ' '] ++ (p.name ++ ' ' :: EvalCall.nested calls ('(' :: p.closedPlace)))

variable {p : FrameParts} {calls : List EvalCall}

/-- The frame without wrappers, written in the same way as those with them. -/
theorem chromium_eq_closedPlace (p : FrameParts) :
    p.chromium = p.indent ++ (['a', 't', ' '] ++ (p.name ++ ' ' :: '(' :: p.closedPlace)) := by
  simp [chromium, uniformText, closedPlace, placeText]

/-- The indentation can be split off a frame of evaluated code. -/
theorem evaluated_eq_append (p : FrameParts) (calls : List EvalCall) :
    p.evaluated calls = p.indent ++ p.unindented.evaluated calls := by
  simp [evaluated, unindented, closedPlace, placeText]

/-- A character that is none of the place's punctuation and not in the file is not in the closed
place. -/
theorem notMem_closedPlace {c : Char} (hd : isDigit c = false) (hc : c ≠ ':') (hp : c ≠ ')')
    (hf : c ∉ p.file) : c ∉ p.closedPlace := by
  simp [closedPlace, p.notMem_placeText hd hc hf, hp]

/-- The place opens no parenthesis. -/
theorem open_notMem_closedPlace (p : FrameParts) : '(' ∉ p.closedPlace :=
  notMem_closedPlace (by decide) (by decide) (by decide) p.file_open

namespace Unbroken

/-- Without its indentation the frame is as unbroken as before. -/
theorem unindented (h : p.Unbroken) : p.unindented.Unbroken :=
  ⟨h.name_solid, h.name_open, h.name_comma, h.file_solid, h.file_comma⟩

/-- An unbroken name has no blanks. -/
theorem blank_notMem_name (h : p.Unbroken) {c : Char} (hc : isBlank c = true) : c ∉ p.name :=
  notMem_of_solid h.name_solid hc

/-- The closed place of an unbroken frame has no blanks. -/
theorem blank_notMem_closedPlace (h : p.Unbroken) {c : Char} (hc : isBlank c = true) :
    c ∉ p.closedPlace := by
  -- a blank is no digit, no colon and no parenthesis, and the file holds none
  refine notMem_closedPlace ?_ ?_ ?_ (notMem_of_solid h.file_solid hc)
  · rw [← Bool.not_eq_true]
    intro hdigit
    rw [isBlank_of_isDigit hdigit] at hc
    cases hc
  · rintro rfl
    exact absurd hc (by decide)
  · rintro rfl
    exact absurd hc (by decide)

/-- The frame itself does not look like one of evaluated code. -/
theorem not_losesText (h : p.Unbroken) : ¬ Chromium.LosesText p.chromium := by
  rintro ⟨hmark, -⟩
  have hbefore : '(' ∉ p.indent ++ (['a', 't', ' '] ++ (p.name ++ [' '])) := by
    have hindent := Chromium.isPassed_of_isBlank p.indent_blank '(' (by decide)
    simp [hindent, h.name_open]
  have hsplit : p.chromium
      = (p.indent ++ (['a', 't', ' '] ++ (p.name ++ [' ']))) ++ '(' :: p.closedPlace := by
    simp [p.chromium_eq_closedPlace]
  -- the mark starts with a parenthesis, and the place has the only one
  rw [hsplit, Chromium.evalMark, infix_append_iff_of_notMem hbefore, List.infix_cons_iff] at hmark
  rcases hmark with hmark | hmark
  · have hstart := (List.cons_prefix_cons.mp hmark).2
    exact h.blank_notMem_closedPlace isBlank_space (hstart.mem (by decide))
  · exact p.open_notMem_closedPlace (hmark.mem List.mem_cons_self)

/-- An unbroken frame of evaluated code is on one line if its indentation is. -/
theorem newline_notMem_evaluated (h : p.Unbroken) (hnl : '\n' ∉ p.indent)
    (calls : List EvalCall) : '\n' ∉ p.evaluated calls := by
  have hlocation : '\n' ∉ '(' :: p.closedPlace := by
    simp [h.blank_notMem_closedPlace isBlank_newline]
  simp [evaluated, hnl, h.blank_notMem_name isBlank_newline,
    EvalCall.newline_notMem_nested hlocation calls]

/-- **Unwrapping leaves the frame** that the evaluated code was called from. -/
theorem unwrapEvals_evaluated (h : p.Unbroken) (hne : calls ≠ []) :
    Chromium.unwrapEvals (p.evaluated calls) = p.chromium := by
  have hmark : occursIn Chromium.evalMark (p.evaluated calls) = true := by
    obtain ⟨e, es, rfl⟩ := List.exists_cons_of_ne_nil hne
    rw [occursIn_iff]
    have hstart : Chromium.evalMark <+: EvalCall.nested (e :: es) ('(' :: p.closedPlace) :=
      ⟨_, rfl⟩
    exact hstart.isInfix.trans
      ⟨p.indent ++ (['a', 't', ' '] ++ (p.name ++ [' '])), [], by simp [evaluated]⟩
  -- up to the name the walk finds nothing, then the name stays, then the nested wrappers go
  have hpassed : Chromium.IsPassed (p.indent ++ ['a', 't', ' ']) :=
    (Chromium.isPassed_of_isBlank p.indent_blank).append (by simp [Chromium.IsPassed])
  have hcomma : ',' ∉ p.closedPlace :=
    notMem_closedPlace (by decide) (by decide) (by decide) h.file_comma
  have hnil : '\n' ∉ ([] : Text) := List.not_mem_nil
  have hnested := Chromium.unwrapRest_nested (h.blank_notMem_closedPlace isBlank_space)
    p.open_notMem_closedPlace hcomma hne hnil
  obtain ⟨s, hs⟩ := EvalCall.exists_nested_eq calls p.closedPlace
  rw [List.append_nil, hs] at hnested
  rw [Chromium.unwrapEvals_eq, hmark, evaluated, hs, ← List.append_assoc,
    Chromium.unwrapRest_append hpassed, Chromium.unwrapRest_name (h.blank_notMem_name isBlank_space)
      h.name_open h.name_comma, hnested, p.chromium_eq_closedPlace, List.append_assoc]

end Unbroken

/-- A frame of evaluated code ends in the place that was reached inside of that code. -/
theorem evaluated_cons (p : FrameParts) (e : EvalCall) (es : List EvalCall) :
    ∃ a, p.evaluated (e :: es)
      = p.indent ++ (['a', 't', ' '] ++ (a ++ (':' :: e.line ++ ':' :: (e.column ++ [')'])))) := by
  refine ⟨p.name ++ ' ' :: '(' :: (Chromium.wrapperHead ++ (e.name ++ [' '] ++
    (EvalCall.nested es ('(' :: p.closedPlace) ++ ',' :: " <anonymous>".toList))), ?_⟩
  show p.indent ++ (['a', 't', ' '] ++ (p.name ++ ' ' ::
    e.wrap (EvalCall.nested es ('(' :: p.closedPlace)))) = _
  simp only [EvalCall.wrap, EvalCall.tail, List.append_assoc, List.cons_append]

/-- A frame of evaluated code whose indentation holds no line break reports the innermost location.
-/
theorem read_evaluated_of_newline_notMem (h : p.Unbroken) (hne : calls ≠ [])
    (hnl : '\n' ∉ p.indent) : Frame.read (p.evaluated calls) = .ok (.frame p.fields) := by
  have hevaluated := h.newline_notMem_evaluated hnl calls
  have hchromium : '\n' ∉ p.chromium := by
    rw [p.chromium_eq_closedPlace]
    exact h.newline_notMem_evaluated hnl []
  -- unwrapped, the line is that of the plain frame, and nothing else is read
  have hread : Chromium.read (p.evaluated calls) = Chromium.read p.chromium := by
    unfold Chromium.read
    rw [h.unwrapEvals_evaluated hne, Chromium.unwrapEvals_of_not_losesText h.not_losesText]
  obtain ⟨e, es, rfl⟩ := List.exists_cons_of_ne_nil hne
  obtain ⟨a, ha⟩ := p.evaluated_cons e es
  have hframe := Frame.read_keyword_place p.indent_blank (ha ▸ hevaluated) e.line_run e.column_run
  rw [← ha, hread, p.chromium_read hchromium h.not_losesText] at hframe
  exact hframe

/-- **A frame of evaluated code**, however deeply nested, reports the location of the innermost
call. -/
theorem read_evaluated (h : p.Unbroken) (hne : calls ≠ []) :
    Frame.read (p.evaluated calls) = .ok (.frame p.fields) := by
  have hnil : '\n' ∉ p.unindented.indent := List.not_mem_nil
  have hread := read_evaluated_of_newline_notMem h.unindented hne hnil
  have hnl := h.unindented.newline_notMem_evaluated hnil calls
  -- indentation of any blanks, line breaks among them, is put in front at the end
  rw [p.evaluated_eq_append, Frame.read_append p.indent_blank (by simp [evaluated]) hnl, hread]
  rfl

/-- A function inside an anonymous wrapper. -/
def wrappedCall : FrameParts :=
  ofTexts "\t".toList "f/<".toList "http://h:8/a".toList "1".toList "2".toList (by decide)

/-- Evaluated code that names itself like the code markers of another engine. -/
def markedEval : EvalCall where
  name := "eval code, 2".toList
  line := "5".toList
  column := "6".toList
  name_line := by decide
  name_open := by decide
  name_close := by decide
  line_run := by decide
  column_run := by decide

def anonymousEval : EvalCall where
  name := []
  line := "7".toList
  column := "8".toList
  name_line := List.not_mem_nil
  name_open := List.not_mem_nil
  name_close := List.not_mem_nil
  line_run := by decide
  column_run := by decide

/-- The frame of the wrapped function as it is reported from two levels of evaluated code. -/
def nestedLine : Text :=
  "\tat f/< (eval at eval code, 2 (eval at  (http://h:8/a:1:2)".toList ++
    ", <anonymous>:7:8), <anonymous>:5:6)".toList

/-- Two levels of evaluated code, one of them named like a code marker, around a function in an
anonymous wrapper. -/
theorem read_evaluated_wrappedCall :
    Frame.read nestedLine = .ok (.frame {
      functionName := "f".toList
      file := some "http://h:8/a".toList
      line := some 1
      column := some 2 }) := by
  have hname : (wrappedCall.name.all fun c => !isBlank c) = true := by decide
  have hfile : (wrappedCall.file.all fun c => !isBlank c) = true := by decide
  have hunbroken : wrappedCall.Unbroken :=
    ⟨by simpa using hname, by decide, by decide, by simpa using hfile, by decide⟩
  have hcalls : [markedEval, anonymousEval] ≠ [] := by simp
  have hline : nestedLine = wrappedCall.evaluated [markedEval, anonymousEval] := by decide
  have hread := read_evaluated hunbroken hcalls
  rw [← hline] at hread
  rw [hread]
  decide

end FrameParts

end Stacktrace
