import Stacktrace.Proofs.Frame.Agreement
import Stacktrace.Proofs.Frame.Dialects

/-!
# Chains of evaluated code

Firefox reports a frame of evaluated code with the way that leads to it: the line of the script that
evaluated first, a link for every evaluation inside of that, and the place that was reached in the
innermost code. Only the first of these numbers is a place in a file.

* `chain?_text` — a chain is read as a whole, however many links it has;
* `collapseEvals_text` — it gives way to the line of the script;
* `ChainedCall.read_chained` — so the frame reports that line, and no column.

Behind the file stands one number then, and a file that ends in a number itself would be cut in front
of that. Such files are left out (`ChainedCall.file_unnumbered`).
-/

namespace Stacktrace

open Text Numeral

/-- The way from a script to a place in evaluated code. -/
structure EvalChain where
  /-- The line of the script. -/
  script : Text
  /-- The lines of the evaluations between, the outermost one first. -/
  links : List Text
  line : Text
  column : Text
  script_run : IsRun script
  links_run : ∀ k ∈ links, IsRun k
  line_run : IsRun line
  column_run : IsRun column

namespace EvalChain

def linksText (links : List Text) : Text :=
  links.flatMap fun k => Firefox.linkHead ++ k

/-- The chain in front of its last colon and line. -/
def front (e : EvalChain) : Text :=
  [' ', 'l', 'i', 'n', 'e', ' '] ++ (e.script ++ (linksText e.links ++ Firefox.chainMark))

/-- The place in the innermost code, with the chain in front of it. -/
def placed (e : EvalChain) : Placed where
  before := e.front
  line := e.line
  column := e.column
  closed := false
  line_run := e.line_run
  column_run := e.column_run

def text (e : EvalChain) : Text :=
  e.placed.text

/-- The first link stands in front of the others. -/
theorem linksText_cons (k : Text) (ks : List Text) :
    linksText (k :: ks) = Firefox.linkHead ++ (k ++ linksText ks) := by
  simp [linksText]

/-- A link has at least its head, so no text of links is shorter than their number. -/
theorem length_links_le (links : List Text) : links.length ≤ (linksText links).length := by
  induction links with
  | nil => exact Nat.zero_le _
  | cons k ks ih =>
    have hhead : 0 < Firefox.linkHead.length := by decide
    rw [linksText_cons, List.length_append, List.length_append, List.length_cons]
    omega

/-- A chain is on one line. -/
theorem newline_notMem_text (e : EvalChain) : '\n' ∉ e.text := by
  have hdigit : isDigit '\n' = false := by decide
  have hlinks : '\n' ∉ linksText e.links := by
    rw [linksText, List.mem_flatMap]
    rintro ⟨k, hk, hm⟩
    exact (List.mem_append.mp hm).elim (by decide) ((e.links_run k hk).notMem hdigit)
  have hfront : '\n' ∉ e.front := by
    simp [front, hlinks, e.script_run.notMem hdigit, Firefox.chainMark]
  have hplace : '\n' ∉ e.placed.place := e.placed.notMem_place hdigit (by decide) (by decide)
  exact fun hm => (List.mem_append.mp hm).elim hfront hplace

/-- The chain, cut where its reader cuts it. -/
theorem text_eq (e : EvalChain) : e.text = " line ".toList ++ (e.script ++ (linksText e.links ++
    (" > eval:".toList ++ (e.line ++ ([':'] ++ (e.column ++ [])))))) := by
  have hline : " line ".toList = [' ', 'l', 'i', 'n', 'e', ' '] := by decide
  have hplace : " > eval:".toList = Firefox.chainMark ++ [':'] := by decide
  rw [hline, hplace]
  simp [text, placed, front, Placed.text, Placed.place, Placed.closing]

/-- A chain holds the mark that a reader looks for before it collapses anything. -/
theorem chainMark_infix_text (e : EvalChain) : Firefox.chainMark <:+: e.text :=
  ⟨[' ', 'l', 'i', 'n', 'e', ' '] ++ (e.script ++ linksText e.links), e.placed.place, by
    simp [text, placed, front, Placed.text]⟩

end EvalChain

/-! ## Collapsing -/

namespace Firefox

open EvalChain

/-- A numeral is read off behind the piece that announces it. -/
theorem piecedNumeral?_append (piece : Text) {d r : Text} (hd : IsRun d)
    (hr : ∀ c ∈ r.head?, isDigit c = false) :
    piecedNumeral? piece (piece ++ (d ++ r)) = some (d, r) := by
  rw [piecedNumeral?, dropPrefix?_eq_some_iff.mpr rfl, Option.bind_some, cutDigits?_append hd hr]

/-- **All links are passed over**, if the bound allows for so many. -/
theorem dropLinks_append {links : List Text} (h : ∀ k ∈ links, IsRun k) {t : Text}
    (ht : ∀ c ∈ t.head?, isDigit c = false) (hnone : piecedNumeral? linkHead t = none) {n : Nat}
    (hn : links.length ≤ n) : dropLinks n (linksText links ++ t) = t := by
  -- by induction on the links; each of them uses up one step of the bound
  induction links generalizing n with
  | nil =>
    cases n with
    | zero => rfl
    | succ n => rw [linksText, List.flatMap_nil, List.nil_append, dropLinks, hnone]
  | cons k ks ih =>
    obtain ⟨m, rfl⟩ : ∃ m, n = m + 1 := ⟨n - 1, by rw [List.length_cons] at hn; omega⟩
    have hrest : ∀ c ∈ (linksText ks ++ t).head?, isDigit c = false := by
      cases ks with
      | nil => exact ht
      | cons k' ks =>
        -- the next link starts with a space
        rintro c ⟨⟩
        decide
    rw [linksText_cons, List.append_assoc, List.append_assoc, dropLinks,
      piecedNumeral?_append linkHead (h k List.mem_cons_self) hrest]
    exact ih (fun k' hk' => h k' (List.mem_cons_of_mem k hk')) (Nat.le_of_succ_le_succ hn)

/-- **A chain is read as a whole.** -/
theorem chain?_text (e : EvalChain) : chain? e.text = some (e.script, []) := by
  have hplace : ∀ c ∈ (" > eval:".toList ++ (e.line ++ ([':'] ++ (e.column ++ [])))).head?,
      isDigit c = false := by
    rintro c ⟨⟩
    decide
  have hlinks : ∀ c ∈ (linksText e.links ++
      (" > eval:".toList ++ (e.line ++ ([':'] ++ (e.column ++ []))))).head?, isDigit c = false := by
    cases hk : e.links with
    | nil => exact hplace
    | cons k ks =>
      rintro c ⟨⟩
      decide
  -- the reader bounds the links by the length of the text, which is enough
  have hbound : e.links.length ≤ (linksText e.links ++
      (" > eval:".toList ++ (e.line ++ ([':'] ++ (e.column ++ []))))).length := by
    rw [List.length_append]
    exact Nat.le_add_right_of_le (length_links_le e.links)
  have hlast : piecedNumeral? linkHead (" > eval:".toList ++ (e.line ++ ([':'] ++ (e.column ++ []))))
      = none := rfl
  rw [e.text_eq, chain?, piecedNumeral?_append _ e.script_run hlinks]
  simp only [Option.bind_eq_bind, Option.bind_some]
  rw [dropLinks_append e.links_run hplace hlast hbound,
    piecedNumeral?_append _ e.line_run (by simp [isDigit_colon]), Option.bind_some,
    piecedNumeral?_append _ e.column_run (by simp)]
  rfl

/-- A counter as long as the text passes over all of it. -/
theorem collapseFrom_length (s : Text) : collapseFrom s.length s = [] := by
  induction s with
  | nil => rfl
  | cons c s ih => exact ih

/-- **A chain gives way to the line of the script**, behind a text without spaces. -/
theorem collapseEvals_text (e : EvalChain) {a : Text} (ha : ' ' ∉ a) :
    collapseEvals (a ++ e.text) = a ++ ':' :: e.script := by
  have hmark : occursIn " > eval".toList (a ++ e.text) = true :=
    occursIn_iff.mpr (e.chainMark_infix_text.trans (List.suffix_append a _).isInfix)
  have hne : e.text ≠ [] := by
    rw [e.text_eq]
    exact List.cons_ne_nil _ _
  obtain ⟨c, s, hcons⟩ := List.exists_cons_of_ne_nil hne
  have hchain := chain?_text e
  rw [hcons] at hchain
  -- no chain starts in front, for a chain starts with a space; behind it nothing is left
  rw [collapseEvals, if_pos hmark, collapseFrom_append ha, hcons, collapseFrom, hchain]
  dsimp only
  rw [List.length_nil, Nat.sub_zero, collapseFrom_length, List.append_nil]

end Firefox

/-! ## Frames -/

/-- A function of evaluated code, the file of the script that evaluated, and the way in between. -/
structure ChainedCall where
  name : Text
  file : Text
  chain : EvalChain
  name_solid : ∀ c ∈ name, isBlank c = false
  name_at : '@' ∉ name
  name_quote : '"' ∉ name
  file_ne_nil : file ≠ []
  file_solid : ∀ c ∈ file, isBlank c = false
  file_open : '(' ∉ file
  file_close : ')' ∉ file
  file_quote : '"' ∉ file
  /-- The file does not end in a number. -/
  file_unnumbered : ∀ a d, file = a ++ ':' :: d → ¬ IsRun d
  script_short : chain.script.length ≤ Fault.digitLimit

namespace ChainedCall

/-- The line, from the first character of the name on. -/
def text (c : ChainedCall) : Text :=
  (c.name ++ '@' :: c.file) ++ c.chain.text

/-- The place in the innermost code, with all of the line in front of it. -/
def placed (c : ChainedCall) : Placed :=
  c.chain.placed.behind ((c.name ++ '@' :: c.file) ++ c.chain.front)

/-- What is to be reported: the name, and the line of the script in its file. -/
def fields (c : ChainedCall) : FrameFields where
  functionName := Frame.cleanName (some c.name)
  file := some c.file
  line := some (value c.chain.script)
  column := none

variable (c : ChainedCall)

/-- The line ends in the place of the innermost code. -/
theorem text_eq_placed : c.text = c.placed.text :=
  (List.append_assoc _ c.chain.front c.chain.placed.place).symm

/-- There is no blank in front of the chain. -/
theorem blank_notMem_front {x : Char} (hx : isBlank x = true) : x ∉ c.name ++ '@' :: c.file := by
  have hat : x ≠ '@' := ne_of_isBlank hx (by decide)
  simp [notMem_of_solid c.name_solid hx, notMem_of_solid c.file_solid hx, hat]

/-- A chained call is on one line. -/
theorem newline_notMem_text : '\n' ∉ c.text := by
  rw [text, List.mem_append, not_or]
  exact ⟨c.blank_notMem_front isBlank_newline, c.chain.newline_notMem_text⟩

/-- The line starts with no blank. -/
theorem trimStart_text : trimStart c.text = c.text := by
  rw [text, List.append_assoc, List.cons_append]
  exact Firefox.trimStart_named (fun x hx => c.name_solid x (List.mem_of_mem_head? hx)) _

/-- The keyword of the other dialect would need a space in front of the chain. -/
theorem dialect_text : Frame.dialect c.text = .firefox := by
  have hkeyword : ¬ ['a', 't', ' '] <+: trimStart c.text := by
    rw [c.trimStart_text, text, List.append_assoc, List.cons_append]
    intro hstart
    have hle := length_le_of_starts (by decide) hstart
    have hname := List.prefix_of_prefix_length_le hstart (List.prefix_append c.name _) hle
    have hspace := c.name_solid ' ' (hname.mem (by decide))
    exact absurd hspace (by decide)
  rw [Frame.dialect, Frame.speaksChromium_of_trimStart hkeyword]
  rfl

/-- Once the chain is collapsed, the name is cut off in front of the file and the line of the
script. -/
theorem cutName?_collapsed :
    Firefox.cutName? (Firefox.collapseEvals (trimStart c.text))
      = some (c.name, c.file ++ ':' :: c.chain.script) := by
  have hquote : '"' ∉ c.name ++ '@' :: (c.file ++ ':' :: c.chain.script) := by
    simp [c.name_quote, c.file_quote, c.chain.script_run.notMem (c := '"') (by decide)]
  rw [c.trimStart_text, text, Firefox.collapseEvals_text c.chain (c.blank_notMem_front isBlank_space),
    List.append_assoc, List.cons_append]
  exact Firefox.cutName?_append hquote c.name_at

/-- What stands behind the name once the chain is collapsed is a file with one number. -/
theorem read_collapsed :
    Place.read (c.file ++ ':' :: c.chain.script)
      = .ok ⟨some c.file, some (value c.chain.script), none⟩ := by
  -- a character of no numeral, no file and no separator is nowhere in the collapsed line
  have hrun {x : Char} (hd : isDigit x = false) (hcolon : x ≠ ':') (hfile : x ∉ c.file) :
      x ∉ c.file ++ ':' :: c.chain.script := by
    simp [hfile, hcolon, c.chain.script_run.notMem hd]
  have hnl : '\n' ∉ c.file := fun hm => absurd (c.file_solid _ hm) (by decide)
  refine Place.read_line (hrun (by decide) (by decide) hnl) ?_ c.file_ne_nil c.chain.script_run
    c.script_short c.file_unnumbered
  exact Place.dropParentheses_of_notMem (hrun (by decide) (by decide) c.file_open)
    (hrun (by decide) (by decide) c.file_close)

/-- **A frame behind a chain of evaluations** reports the line of the script, at any length of the chain
and behind any indentation. -/
theorem read_chained {w : Text} (hw : ∀ x ∈ w, isBlank x = true) :
    Frame.read (w ++ c.text) = .ok (.frame c.fields) := by
  have hnl := c.newline_notMem_text
  have hcut := c.cutName?_collapsed
  have hdialect := c.dialect_text
  rw [Frame.read_append hw (by simp [text]) hnl]
  rw [c.text_eq_placed] at hnl hcut hdialect ⊢
  rw [Frame.read_of_cutName? hnl hdialect hcut, c.read_collapsed]
  rfl

/-- A file whose last character is no digit does not end in a number. -/
theorem unnumbered_of_getLast? {file : Text} (h : ∀ x ∈ file.getLast?, isDigit x = false)
    (a d : Text) (hfile : file = a ++ ':' :: d) : ¬ IsRun d := by
  intro hd
  obtain ⟨ds, x, rfl⟩ := (List.eq_nil_or_concat d).resolve_left hd.ne_nil
  have hlast : file = (a ++ ':' :: ds) ++ [x] := by simp [hfile]
  have hx := h x (by rw [hlast, List.getLast?_concat]; rfl)
  rw [hd.digits x (by simp)] at hx
  cases hx

/-- An evaluation inside of two others, without a name, in a script that a port serves. -/
def nestedCall : ChainedCall where
  name := []
  file := "http://h:80/@s/a.js".toList
  chain := {
    script := "0012".toList
    links := ["20".toList, "33".toList]
    line := "13".toList
    column := "15".toList
    script_run := by decide
    links_run := by decide
    line_run := by decide
    column_run := by decide }
  name_solid := by simp
  name_at := by simp
  name_quote := by simp
  file_ne_nil := by decide
  file_solid x hx := Bool.eq_false_iff.mpr (List.any_eq_false.mp (by decide) x hx)
  file_open := by decide
  file_close := by decide
  file_quote := by decide
  file_unnumbered := unnumbered_of_getLast? (by rintro x ⟨⟩; decide)
  script_short := by decide

/-- Two evaluations between the script and the code, on indented lines, without a name. -/
theorem read_chained_nestedCall :
    Frame.read ("\n\t @http://h:80/@s/a.js line 0012".toList ++
        " > eval line 20 > eval line 33 > eval:13:15".toList) = .ok (.frame {
      functionName := "<unknown>".toList
      file := some "http://h:80/@s/a.js".toList
      line := some 12
      column := none }) := by
  have hline : "\n\t @http://h:80/@s/a.js line 0012".toList ++
      " > eval line 20 > eval line 33 > eval:13:15".toList = "\n\t ".toList ++ nestedCall.text := by
    decide
  rw [hline, read_chained nestedCall (List.all_eq_true.mp (by decide))]
  decide

end ChainedCall

end Stacktrace
