import PictureReport.Proofs.Picture.LineFeeds
import PictureReport.Proofs.Reading.Records

/-!
# Which printed lines are recognized

A composed line is the texts of its fields laid between its literals, without the blanks at its end.  When
every field fills its columns, the pattern of the line matches it just if it still reaches the column at
which the last field starts.
-/

namespace PictureReport

namespace PictureLine

/-- The texts of fields that show variables, and whether the values of these are empty, in order. -/
def composeFields (page : Int) : List (Field × String) → Composing (List (Text × Bool))
  | [] => pure []
  | (f, name) :: bindings => do
    let made ← composeField page f name
    let others ← composeFields page bindings
    pure (made :: others)

/-- `composeSegments` composes field by field, and lays the texts between the literals. -/
theorem composeSegments_eq (page : Int) {segments : List Segment} {names : List String}
    (hnames : names.length = (segments.filterMap Segment.field?).length) :
    composeSegments page segments names =
      (fun made => (Segment.lay segments (made.map (·.1)), made.all (·.2))) <$>
        composeFields page ((segments.filterMap Segment.field?).zip names) := by
  induction segments generalizing names with
  | nil =>
    obtain rfl := List.length_eq_zero_iff.mp hnames
    rfl
  | cons segment segments ih =>
    cases segment with
    | literal t =>
      have hsegments := ih hnames
      simp only [composeSegments, hsegments, map_eq_pure_bind, bind_assoc, pure_bind]
      rfl
    | field f =>
      cases names with
      | nil => cases hnames
      | cons name names =>
        have hsegments := ih (Nat.succ.inj hnames)
        simp only [composeSegments, hsegments, map_eq_pure_bind, bind_assoc, pure_bind]
        simp only [List.filterMap_cons, Segment.field?, List.zip_cons_cons, composeFields, bind_assoc,
          pure_bind]
        rfl

/-! ## Line feeds -/

/-- None of the variables shows a line feed. -/
def Feedless (names : List String) (desk : Desk) : Prop :=
  ∀ name ∈ names, '\n' ∉ (Record.resolve desk.journal.source.entries name).shown

variable {page : Int} {names : List String} {desk : Desk}

theorem Feedless.write (h : Feedless names desk) (name : String) {rest : Text} (hrest : '\n' ∉ rest) :
    Ends (Desk.write name (.text rest)) desk (fun _ after => Feedless names after) fun _ _ => True := by
  simp only [Desk.write, ends_modify]
  intro other hother
  show '\n' ∉ (Record.resolve (Entries.set name (.text rest) desk.journal.source.entries) other).shown
  by_cases hname : name = other
  · subst hname
    rw [Record.resolve_set_self (by simp)]
    exact hrest
  · rw [Record.resolve_set_of_ne hname]
    exact h other hother

theorem composeField_feedless (f : Field) {name : String} (hname : name ∈ names)
    (h : Feedless names desk) :
    Ends (composeField page f name) desk (fun made after => '\n' ∉ made.1 ∧ Feedless names after)
      fun _ _ => True := by
  simp only [composeField, ends_bind]
  refine Desk.read_ends.mono ?_ fun _ _ _ => trivial
  rintro value after ⟨rfl, rfl⟩
  split
  · trivial
  · rename_i made hmade
    obtain ⟨htext, hrests⟩ := Field.lineFeed_not_mem_format hmade (h name hname)
    simp only [Desk.warn, ends_bind, ends_modify]
    cases hrest : made.rest with
    | none => exact ⟨htext, h⟩
    | some rest =>
      have hwarned : Feedless names { after with warnings := after.warnings ++ made.warnings } := h
      simp only [ends_bind]
      exact (hwarned.write name (hrests rest hrest)).mono (fun _ _ hafter => ⟨htext, hafter⟩) fun _ _ he => he

theorem composeFields_feedless {bindings : List (Field × String)}
    (hnames : ∀ binding ∈ bindings, binding.2 ∈ names) (h : Feedless names desk) :
    Ends (composeFields page bindings) desk (fun made _ => ∀ shown ∈ made, '\n' ∉ shown.1)
      fun _ _ => True := by
  induction bindings generalizing desk with
  | nil => exact fun shown hs => absurd hs List.not_mem_nil
  | cons binding bindings ih =>
    rw [List.forall_mem_cons] at hnames
    simp only [composeFields, ends_bind]
    refine (composeField_feedless binding.1 hnames.1 h).mono ?_ fun _ _ he => he
    rintro made after ⟨hmade, hafter⟩
    refine (ih hnames.2 hafter).mono (fun others _ hothers => ?_) fun _ _ he => he
    exact List.forall_mem_cons.mpr ⟨hmade, hothers⟩

/-! ## Recognized lines -/

/-- Each field that is composed is as wide as it is drawn. -/
def Fills (line : PictureLine) (page : Int) (desk : Desk) : Prop :=
  Ends (composeFields page (line.fields.zip line.names)) desk
    (fun made _ => List.Forall₂ (fun (f : Field) shown => shown.1.length = f.width) line.fields made)
    fun _ _ => True

/-- A composed line is made of the texts of its fields (`composeFields`). -/
theorem compose_eq_some {line : PictureLine} (hnames : line.names.length = line.fields.length)
    {text : Text} {after : Desk} (h : line.compose page desk = (.ok (some text), after)) :
    ∃ made, composeFields page (line.fields.zip line.names) desk = (.ok made, after) ∧
      text = (Segment.lay line.segments (made.map (·.1))).trimRight := by
  have hbindings : line.bindings = .ok (line.fields.zip line.names) := if_pos hnames.symm
  simp only [compose, hbindings, composeSegments_eq page hnames, map_eq_pure_bind, bind_assoc,
    pure_bind] at h
  rw [bind_apply] at h
  split at h
  · rename_i made left hmade
    obtain ⟨hshown, rfl⟩ := Prod.mk.inj h
    have hsome := Except.ok.inj hshown
    split at hsome
    · cases hsome
    · exact ⟨made, hmade, (Option.some.inj hsome).symm⟩
  · cases h

end PictureLine

namespace LinePattern

open PictureLine in
/-- A composed line whose fields fill their columns is recognized if it reaches its last field: the fields
then take what they show, the last one perhaps without the blanks at its end.  A line that ends before the
column of its last field is dropped. -/
theorem matchLine_composed {spec : Spec} {lines : List PictureLine} (hspec : spec.compile = .ok lines)
    {line : PictureLine} (hline : line ∈ lines) {page : Int} {desk after : Desk}
    (hvalues : ∀ name ∈ line.names, '\n' ∉ (Record.resolve desk.journal.source.entries name).shown)
    (hfills : line.Fills page desk) {text : Text} (h : line.compose page desk = (.ok (some text), after)) :
    ∃ pattern made, ofLine line = .ok pattern ∧
      composeFields page (line.fields.zip line.names) desk = (.ok made, after) ∧
      ∀ record,
        (Segment.lastColumn line.segments ≤ text.length →
          pattern.matchLine text record =
            let saved := saveAll pattern.bindings (Segment.taken line.segments (made.map (·.1))) record
            (saved.1.map fun _ => true, saved.2)) ∧
        (text.length < Segment.lastColumn line.segments →
          pattern.matchLine text record = (.ok false, record)) := by
  have hcompiled := (Spec.compile_compiled hspec line hline).1
  obtain ⟨made, hmade, rfl⟩ := compose_eq_some hcompiled.names h
  have hwidths := Ends.of_ok hfills hmade
  have hfeeds := Ends.of_ok (composeFields_feedless
    (fun binding hb => (List.of_mem_zip hb).2) hvalues) hmade
  have hfilled : Segment.Filled line.segments (made.map (·.1)) := by
    refine List.forall₂_map_right_iff.mpr (List.forall₂_iff_zip.mpr ⟨hwidths.length_eq, fun hshown => ?_⟩)
    exact ⟨List.forall₂_zip hwidths hshown, hfeeds _ (List.of_mem_zip hshown).2⟩
  refine ⟨of line, made, ofLine_eq hcompiled.names, hmade, fun record => ⟨fun hreach => ?_, fun hshort => ?_⟩⟩
  · have hmatch := Part.search?_of_matchAt? (Segment.matchAt?_lay hcompiled.drawn.alternate hfilled hreach)
    simp only [matchLine, of, hmatch]
  · simp only [matchLine, of, Segment.search?_lay hshort]

section Names

/-- A name behind a label. -/
def nameLine : PictureLine :=
  ⟨[.literal "Name: ".toList, .field ⟨.text .left 4, false⟩], false, false, ["n"], "Name: @<<<".toList⟩

/-- The desk on which the variable `n` shows a text. -/
def nameDesk (t : Text) : Desk := ⟨.start ⟨.mapping, [("n", .text t)]⟩, []⟩

/-- A name is recognized, and its field takes it without the padding.  Without a name the line ends before the
column of its field, and it is dropped. -/
theorem matchLine_composed_name :
    (Spec.text "Name: @<<<\nn\n".toList).compile = .ok [nameLine] ∧
      nameLine.compose 1 (nameDesk "Ann".toList) =
        (.ok (some "Name: Ann".toList), nameDesk "Ann".toList) ∧
      nameLine.compose 1 (nameDesk []) = (.ok (some "Name:".toList), nameDesk []) ∧
      ∃ pattern, ofLine nameLine = .ok pattern ∧
        pattern.matchLine "Name: Ann".toList [] = (.ok true, [("n", .text "Ann".toList)]) ∧
        pattern.matchLine "Name:".toList [] = (.ok false, []) := by
  have hspec : (Spec.text "Name: @<<<\nn\n".toList).compile = .ok [nameLine] := by rfl
  have hline : nameLine ∈ [nameLine] := List.mem_singleton_self _
  have hfeeds : ∀ t ∈ ["Ann".toList, []], ∀ name ∈ nameLine.names,
      '\n' ∉ (Record.resolve (nameDesk t).journal.source.entries name).shown := by decide
  have hnamed : nameLine.compose 1 (nameDesk "Ann".toList) =
      (.ok (some "Name: Ann".toList), nameDesk "Ann".toList) := by rfl
  have hblank : nameLine.compose 1 (nameDesk []) = (.ok (some "Name:".toList), nameDesk []) := by rfl
  obtain ⟨pattern, made, hpattern, hmade, hnamedMatch⟩ :=
    matchLine_composed hspec hline (hfeeds _ (by simp)) (.cons (by rfl) .nil) hnamed
  obtain ⟨other, _, hother, -, hblankMatch⟩ :=
    matchLine_composed hspec hline (hfeeds _ (by simp)) (.cons (by rfl) .nil) hblank
  obtain rfl := Except.ok.inj (hpattern.symm.trans hother)
  refine ⟨hspec, hnamed, hblank, pattern, hpattern, ?_, (hblankMatch []).2 (by decide)⟩
  rw [(hnamedMatch []).1 (by decide)]
  obtain rfl : of nameLine = pattern := Except.ok.inj hpattern
  have hshown : PictureLine.composeFields 1 (nameLine.fields.zip nameLine.names) (nameDesk "Ann".toList) =
      (.ok [("Ann ".toList, false)], nameDesk "Ann".toList) := by rfl
  obtain rfl := Except.ok.inj (Prod.mk.inj (hmade.symm.trans hshown)).1
  rfl

/-- Without a name the label loses its last space, which the pattern asks for. -/
theorem blank_name_dropped :
    (Spec.text "Name: @<<<\nn\n".toList).compile = .ok [nameLine] ∧
      nameLine.fields ≠ [] ∧ nameLine.Fills 1 (nameDesk []) ∧
      (∀ name ∈ nameLine.names,
        '\n' ∉ (Record.resolve (nameDesk []).journal.source.entries name).shown) ∧
      nameLine.compose 1 (nameDesk []) = (.ok (some "Name:".toList), nameDesk []) ∧
      (ofLine nameLine).map (fun pattern => (pattern.matchLine "Name:".toList []).1) = .ok (.ok false) := by
  refine ⟨by rfl, by decide, ?_, by decide, by rfl, by rfl⟩
  exact .cons (by rfl) .nil

end Names

end LinePattern

end PictureReport
