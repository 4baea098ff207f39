import Stacktrace.Proofs.Stack.Building

/-!
# What the project root and the table of names change

Two runs over one stack with one resolver may differ in the root of the project or in the table of
names. Each of the two has fields of its own, and nothing else depends on it:

* `ReadsAs.under`, `reconstruct_under` — another root changes the absolute file of a frame, which is
  not part of its text;
* `ReadsAs.exists_renamed` — another table of names changes the name of a frame, if the resolver
  knows the source of that frame;
* `ReadsAs.keeps` — a frame without a known source stays as it was read;
* `SourceStack.root_and_names_apart` — what this means for two runs over any stack.
-/

namespace Stacktrace

open Text

variable {resolver : Resolver} {root root' : Text} {rewrites rewrites' : Rewrites}
variable {line : Text} {p p' : ParsedLine} {generated : FrameFields}

/-! ## Another root -/

/-- The frame under another project root. -/
def FrameLine.under (root : Text) (f : FrameLine) : FrameLine :=
  { f with absoluteFile := Stacktrace.absoluteFile root f.relativeFile }

def ParsedLine.under (root : Text) : ParsedLine → ParsedLine
  | .message m => .message m
  | .frame f => .frame (f.under root)

/-- **Another root** has a say in the absolute file only. -/
theorem ReadsAs.under (h : ReadsAs resolver root rewrites line p) (root' : Text) :
    ReadsAs resolver root' rewrites line (p.under root') := by
  cases h with
  | message hread => exact .message hread
  | placeless hread => exact .placeless hread
  | frame hread hmap => exact .frame hread hmap

theorem reconstruct_under (p : ParsedLine) (root : Text) :
    (p.under root).reconstruct = p.reconstruct := by
  cases p <;> rfl

theorem reconstructLines_under (ps : List ParsedLine) (root : Text) :
    reconstructLines (ps.map (ParsedLine.under root)) = reconstructLines ps := by
  induction ps with
  | nil => rfl
  | cons p ps ih => rw [List.map_cons, reconstructLines, reconstruct_under, ih, reconstructLines]

/-! ## Another table of names -/

/-- The resolver knows where the code of a generated frame comes from. -/
def Resolver.Resolves (resolver : Resolver) (generated : FrameFields) : Prop :=
  ∃ file line source, generated.file = some file ∧ file ≠ [] ∧ generated.line = some line ∧
    (resolver.position file ⟨file, line, generated.column.getD 0⟩).outcome = .ok (some source)

/-- A frame that says what was read, and nothing else. -/
structure FrameLine.Keeps (f : FrameLine) (generated : FrameFields) : Prop where
  functionName : f.functionName = generated.functionName
  fileUrl : f.fileUrl = generated.file
  relativeFile : f.relativeFile = generated.file
  line : f.line = generated.line
  column : f.column = generated.column

/-- A frame that nobody knows the source of is mapped to itself. -/
theorem MapsTo.eq_self {source : FrameFields} (h : MapsTo resolver rewrites generated source)
    (hunresolved : ¬ resolver.Resolves generated) : source = generated := by
  cases h with
  | unasked _ => rfl
  | unresolved _ _ _ _ => rfl
  | resolved hfile hne hline hsource =>
    exact absurd ⟨_, _, _, hfile, hne, hline, hsource⟩ hunresolved

/-- **A frame without a known source keeps what was read.** -/
theorem ReadsAs.keeps (hnl : '\n' ∉ line) (h : ReadsAs resolver root rewrites line p)
    (hread : Frame.read line = .ok (.frame generated))
    (hunresolved : ¬ resolver.Resolves generated) : ∃ f, p = .frame f ∧ f.Keeps generated := by
  cases h with
  | message hread' => cases hread.symm.trans hread'
  | placeless hread' => cases hread.symm.trans hread'
  | frame hread' hmap =>
    cases hread.symm.trans hread'
    rw [hmap.eq_self hunresolved]
    -- the column of a frame that was not mapped is displayed as it is
    obtain ⟨-, raw, -, rfl⟩ := Frame.of_read_frame hnl hread
    exact ⟨_, rfl, rfl, rfl, rfl, rfl, rfl⟩

/-- What another table of names makes of an entry: the same, or the same frame under the name that it
gives, and the latter only if the resolver knows the source. -/
inductive RenamesTo (resolver : Resolver) (rewrites : Rewrites) (line : Text) :
    ParsedLine → ParsedLine → Prop where
  | same (p : ParsedLine) : RenamesTo resolver rewrites line p p
  | renamed {generated : FrameFields} (f : FrameLine)
      (hread : Frame.read line = .ok (.frame generated)) (hknown : resolver.Resolves generated) :
      RenamesTo resolver rewrites line (.frame f)
        (.frame { f with functionName := rewrites.apply generated.functionName })

theorem MapsTo.exists_renamed {source : FrameFields}
    (h : MapsTo resolver rewrites generated source) (rewrites' : Rewrites) :
    MapsTo resolver rewrites' generated source ∨
      resolver.Resolves generated ∧ MapsTo resolver rewrites' generated
        { source with functionName := rewrites'.apply generated.functionName } := by
  cases h with
  | unasked h => exact .inl (.unasked h)
  | unresolved hfile hne hline h => exact .inl (.unresolved hfile hne hline h)
  | resolved hfile hne hline h =>
    -- only an answer rewrites the name, so only a resolved frame is renamed
    exact .inr ⟨⟨_, _, _, hfile, hne, hline, h⟩, .resolved hfile hne hline h⟩

/-- **Another table of names** has a say in the names of mapped frames only. -/
theorem ReadsAs.exists_renamed (h : ReadsAs resolver root rewrites line p) (rewrites' : Rewrites) :
    ∃ p', ReadsAs resolver root rewrites' line p' ∧ RenamesTo resolver rewrites' line p p' := by
  cases h with
  | message hread => exact ⟨_, .message hread, .same _⟩
  | placeless hread => exact ⟨_, .placeless hread, .same _⟩
  | frame hread hmap =>
    rcases hmap.exists_renamed rewrites' with hmap' | ⟨hknown, hmap'⟩
    · exact ⟨_, .frame hread hmap', .same _⟩
    · exact ⟨_, .frame hread hmap', .renamed _ hread hknown⟩

/-- A name can always be written. -/
theorem RenamesTo.exists_reconstruct {t : Text} (h : RenamesTo resolver rewrites line p p')
    (hwrites : p.reconstruct = .ok t) : ∃ t', p'.reconstruct = .ok t' := by
  cases h with
  | same => exact ⟨t, hwrites⟩
  | renamed f _ _ =>
    obtain ⟨l, c, hl, hc, -⟩ := FrameLine.reconstruct_eq_ok_iff.mp hwrites
    exact ⟨_, FrameLine.reconstruct_eq_ok_iff.mpr ⟨l, c, hl, hc, rfl⟩⟩

theorem exists_forall₂_renamed {ls : List Text} {ps : List ParsedLine} {ts : List Text}
    (hreads : List.Forall₂ (ReadsAs resolver root rewrites) ls ps)
    (hwrites : List.Forall₂ (fun p t => p.reconstruct = .ok t) ps ts) (rewrites' : Rewrites) :
    ∃ ps' ts', List.Forall₂ (ReadsAs resolver root rewrites') ls ps' ∧
      List.Forall₂ (fun p t => p.reconstruct = .ok t) ps' ts' := by
  induction hreads generalizing ts with
  | nil => exact ⟨[], [], .nil, .nil⟩
  | cons hread _ ih =>
    cases hwrites with
    | cons hwrite hwrites =>
      obtain ⟨p', hread', hrenames⟩ := hread.exists_renamed rewrites'
      -- another name changes no number, so the line can still be written
      obtain ⟨t', hwrite'⟩ := hrenames.exists_reconstruct hwrite
      obtain ⟨ps', ts', hreads', hwrites'⟩ := ih hwrites
      exact ⟨p' :: ps', t' :: ts', .cons hread' hreads', .cons hwrite' hwrites'⟩

/-! ## Two runs -/

namespace SourceStack

variable {stack : Text} {s : SourceStack}

theorem outcome_under (h : (ofValue resolver root rewrites (.text stack)).outcome = .ok (some s))
    (root' : Text) :
    (ofValue resolver root' rewrites (.text stack)).outcome =
      .ok (some ⟨s.parsed.map (ParsedLine.under root'), s.sourceMapped⟩) := by
  obtain ⟨hreads, pieces, hpieces, hmapped⟩ := outcome_ofValue_text_eq_ok_iff.mp h
  refine outcome_ofValue_text_eq_ok_iff.mpr ⟨?_, pieces, ?_, hmapped⟩
  · exact List.forall₂_map_right_iff.mpr (hreads.imp fun _ _ hread => hread.under root')
  · exact (reconstructLines_under s.parsed root').trans hpieces

/-- **Root and names touch only their own fields.** Under another root the same stack gives the same
text, and its frames differ in the absolute file only. With another table of names it is built as well,
and its entries differ in the names of frames with a known source only: a frame without one keeps name,
file, line and column as they were read, with both tables. -/
theorem root_and_names_apart
    (h : (ofValue resolver root rewrites (.text stack)).outcome = .ok (some s)) :
    (∀ root', (ofValue resolver root' rewrites (.text stack)).outcome =
      .ok (some ⟨s.parsed.map (ParsedLine.under root'), s.sourceMapped⟩)) ∧
    ∀ rewrites', ∃ s', (ofValue resolver root rewrites' (.text stack)).outcome = .ok (some s') ∧
      s.parsed.length = (lines stack).length ∧ s'.parsed.length = (lines stack).length ∧
      ∀ (i : Nat) (line : Text), (lines stack)[i]? = some line →
        ∃ p p', s.parsed[i]? = some p ∧ s'.parsed[i]? = some p' ∧
          RenamesTo resolver rewrites' line p p' ∧
          ∀ generated, Frame.read line = .ok (.frame generated) →
            ¬ resolver.Resolves generated →
            ∃ f, p = .frame f ∧ p' = .frame f ∧ f.Keeps generated := by
  refine ⟨outcome_under h, fun rewrites' => ?_⟩
  obtain ⟨hreads, pieces, hpieces, -⟩ := outcome_ofValue_text_eq_ok_iff.mp h
  obtain ⟨ps', ts', hreads', hwrites'⟩ :=
    exists_forall₂_renamed hreads (reconstructLines_eq_ok_iff.mp hpieces) rewrites'
  refine ⟨⟨ps', joinLines ts'⟩, outcome_ofValue_text_eq_ok_iff.mpr
    ⟨hreads', ts', reconstructLines_eq_ok_iff.mpr hwrites', rfl⟩, hreads.length_eq.symm,
    hreads'.length_eq.symm, fun i line hi => ?_⟩
  obtain ⟨p, hp, hread⟩ := exists_getElem?_of_forall₂ hreads hi
  obtain ⟨p', hp', hread'⟩ := exists_getElem?_of_forall₂ hreads' hi
  -- a line becomes one entry only, so this is the renamed one
  obtain ⟨q, hq, hrenames⟩ := hread.exists_renamed rewrites'
  obtain rfl := hq.unique hread'
  refine ⟨p, q, hp, hp', hrenames, fun generated hline hunresolved => ?_⟩
  obtain ⟨f, rfl, hkeeps⟩ := hread.keeps (notMem_of_mem_lines (List.mem_of_getElem? hi)) hline
    hunresolved
  cases hrenames with
  | same => exact ⟨f, rfl, rfl, hkeeps⟩
  | renamed _ hline' hknown =>
    cases hline.symm.trans hline'
    exact absurd hknown hunresolved

end SourceStack

/-- A resolver that knows the bundle and nothing else. -/
def mixedTables : PositionTables :=
  PositionTables.empty.addMapping
    ⟨"app.js".toList, 1, 2, some ⟨some "spec.js".toList, some 5, some 1⟩⟩

/-- A message, a frame of the bundle and a frame of a library, both of the same name. -/
def mixedStack : Text :=
  "boom\nContext.eval@app.js:1:2\nContext.eval@lib.js:3:4".toList

/-- A frame of the bundle, mapped, under some name. -/
def mappedFrame (root name : Text) : FrameLine where
  functionName := name
  fileUrl := some "app.js".toList
  relativeFile := some "spec.js".toList
  absoluteFile := absoluteFile root (some "spec.js".toList)
  line := some 5
  column := some 2

/-- A frame of the library, which nobody knows the source of. -/
def libraryFrame (root : Text) : FrameLine where
  functionName := "Context.eval".toList
  fileUrl := some "lib.js".toList
  relativeFile := some "lib.js".toList
  absoluteFile := absoluteFile root (some "lib.js".toList)
  line := some 3
  column := some 4

def mixedSource (root name : Text) : SourceStack where
  parsed := [.message { message := "boom".toList }, .frame (mappedFrame root name),
    .frame (libraryFrame root)]
  sourceMapped := "boom\nat ".toList ++ name ++
    " (spec.js:5:2)\nat Context.eval (lib.js:3:4)".toList

theorem SourceStack.outcome_mixedStack :
    (SourceStack.ofValue mixedTables.resolver "/srv".toList .standard (.text mixedStack)).outcome
      = .ok (some (mixedSource "/srv".toList "Test.run".toList)) := by
  rfl

theorem SourceStack.root_and_names_apart_mixed :
    (SourceStack.ofValue mixedTables.resolver "/home".toList .standard
        (.text mixedStack)).outcome
      = .ok (some (mixedSource "/home".toList "Test.run".toList)) ∧
    ∃ s', (SourceStack.ofValue mixedTables.resolver "/srv".toList [] (.text mixedStack)).outcome
        = .ok (some s') ∧
      s'.parsed[2]? = some (.frame (libraryFrame "/srv".toList)) := by
  obtain ⟨hroot, hnames⟩ := SourceStack.root_and_names_apart SourceStack.outcome_mixedStack
  refine ⟨hroot "/home".toList, ?_⟩
  obtain ⟨s', hs', -, -, hentry⟩ := hnames []
  obtain ⟨p, p', hp, hp', -, hkeeps⟩ := hentry 2 "Context.eval@lib.js:3:4".toList rfl
  have hread : Frame.read "Context.eval@lib.js:3:4".toList = .ok (.frame
      ⟨"Context.eval".toList, some "lib.js".toList, some 3, some 4, false⟩) := by rfl
  have hunresolved : ¬ mixedTables.resolver.Resolves
      ⟨"Context.eval".toList, some "lib.js".toList, some 3, some 4, false⟩ := by
    rintro ⟨file, line, source, hfile, -, hline, hsource⟩
    cases hfile
    cases hline
    cases hsource
  obtain ⟨f, rfl, rfl, -⟩ := hkeeps _ hread hunresolved
  cases hp
  exact ⟨s', hs', hp'⟩

end Stacktrace
