import PictureReport.Proofs.Picture.Drawing
import PictureReport.Proofs.Picture.Grammar
import PictureReport.Proofs.Reading.Recognition

/-!
# Columns of the picture and of the text

The columns of a printed line are those of its picture.  Where every field fills its columns, the text of a
field starts at the column of its introducer, and everywhere else the line has the character of the picture,
or a space where the picture has a tilde.
-/

namespace PictureReport

/-! ## Introducers -/

namespace PictureLine

/-- The columns of the introducers of a text that starts at the given column. -/
def introducersFrom (start : Nat) (t : Text) : List Nat :=
  ((t.zipIdx start).filter fun entry => isIntroducer entry.1).map (·.2)

theorem introducerColumns_eq (line : Text) : introducerColumns line = introducersFrom 0 line := rfl

variable {start : Nat}

theorem introducersFrom_cons (start : Nat) (c : Char) (rest : Text) :
    introducersFrom start (c :: rest) =
      if isIntroducer c then start :: introducersFrom (start + 1) rest
      else introducersFrom (start + 1) rest := by
  unfold introducersFrom
  rw [List.zipIdx_cons]
  by_cases hc : isIntroducer c = true
  · rw [if_pos hc, List.filter_cons, if_pos hc, List.map_cons]
  · rw [if_neg hc, List.filter_cons, if_neg hc]

theorem introducersFrom_append (start : Nat) (t u : Text) :
    introducersFrom start (t ++ u) = introducersFrom start t ++ introducersFrom (start + t.length) u := by
  unfold introducersFrom
  rw [List.zipIdx_append, List.filter_append, List.map_append]

theorem introducersFrom_plain {t : Text} (h : ∀ c ∈ t, isIntroducer c = false) :
    introducersFrom start t = [] := by
  induction t generalizing start with
  | nil => rfl
  | cons c rest ih =>
    rw [List.forall_mem_cons] at h
    rw [introducersFrom_cons, h.1]
    exact ih h.2

theorem introducersFrom_map (t : Text) :
    introducersFrom start (t.map blankTilde) = introducersFrom start t := by
  induction t generalizing start with
  | nil => rfl
  | cons c rest ih =>
    rw [List.map_cons, introducersFrom_cons, introducersFrom_cons, isIntroducer_blankTilde, ih]

end PictureLine

/-- A mark of a field is no introducer and no space. -/
theorem Shape.marks_plain (shape : Shape) : ∀ c ∈ shape.marks, isIntroducer c = false ∧ c ≠ ' ' := by
  have hradix : ∀ radix, ∀ c ∈ radixMark radix, isIntroducer c = false ∧ c ≠ ' ' := by
    intro radix c hc
    cases radix with
    | false => cases hc
    | true =>
      rw [List.mem_singleton.mp hc]
      decide
  have hletter : ∀ letter : ExponentLetter, isIntroducer letter.char = false ∧ letter.char ≠ ' ' := by
    rintro ⟨_ | _, _ | _⟩ <;> decide
  have hrun : ∀ count (mark : Char), isIntroducer mark = false ∧ mark ≠ ' ' →
      ∀ c ∈ List.replicate count mark, isIntroducer c = false ∧ c ≠ ' ' := by
    intro count mark hmark c hc
    rw [List.eq_of_mem_replicate hc]
    exact hmark
  cases shape with
  | text align width => exact hrun _ _ (by cases align <;> decide)
  | page width => exact hrun _ _ (by decide)
  | fixed number =>
    intro c hc
    simp only [marks, FixedPoint.marks, List.mem_append] at hc
    obtain (hc | hc) | hc := hc
    · exact hrun _ _ (by decide) c hc
    · exact hradix _ c hc
    · exact hrun _ _ (by decide) c hc
  | scientific number =>
    intro c hc
    simp only [marks, Scientific.marks, List.mem_append, List.mem_singleton] at hc
    obtain (((hc | hc) | hc) | rfl) | hc := hc
    · exact hrun _ _ (by decide) c hc
    · exact hradix _ c hc
    · exact hrun _ _ (by decide) c hc
    · exact hletter _
    · exact hrun _ _ (by decide) c hc

namespace Segment

variable {line : Text} {segments : List Segment} {texts : List Text} {start : Nat}

/-- The literal texts hold no introducer. -/
def IsPlain (segments : List Segment) : Prop :=
  ∀ t, literal t ∈ segments → ∀ c ∈ t, isIntroducer c = false

theorem pieces_plain (line : Text) :
    (∀ c ∈ (pieces line).1, isIntroducer c = false) ∧
      ∀ piece ∈ (pieces line).2, ∀ c ∈ piece.2, isIntroducer c = false := by
  induction line with
  | nil => simp [pieces]
  | cons c rest ih =>
    obtain ⟨hleading, hothers⟩ := ih
    unfold pieces
    by_cases hc : isIntroducer c = true
    · simp only [hc, if_true]
      exact ⟨by simp, List.forall_mem_cons.mpr ⟨hleading, hothers⟩⟩
    · simp only [hc, Bool.false_eq_true, if_false]
      exact ⟨List.forall_mem_cons.mpr ⟨by simpa using hc, hleading⟩, hothers⟩

theorem ofLiteral_plain {t : Text} (h : ∀ c ∈ t, isIntroducer c = false) : IsPlain (ofLiteral t) := by
  intro u hu c hc
  unfold ofLiteral at hu
  split at hu
  · cases hu
  · obtain rfl := literal.inj (List.mem_singleton.mp hu)
    obtain ⟨d, hd, rfl⟩ := List.mem_map.mp hc
    exact (isIntroducer_blankTilde d).trans (h d hd)

theorem IsPlain.append {more : List Segment} (h : IsPlain segments) (hmore : IsPlain more) :
    IsPlain (segments ++ more) :=
  fun t ht => (List.mem_append.mp ht).elim (h t) (hmore t)

theorem ofPieces_plain {pieces : List (Char × Text)}
    (hpieces : ∀ piece ∈ pieces, ∀ c ∈ piece.2, isIntroducer c = false)
    (h : ofPieces line pieces = .ok segments) : IsPlain segments := by
  induction pieces generalizing segments with
  | nil =>
    cases h
    exact fun t ht => absurd ht List.not_mem_nil
  | cons piece others ih =>
    rw [List.forall_mem_cons] at hpieces
    obtain ⟨following, shape, rest, hfollowing, hshape, rfl⟩ := ofPieces_cons.mp h
    have hrest : IsPlain (ofLiteral rest) :=
      ofLiteral_plain fun c hc => hpieces.1 c ((Shape.read?_reads hshape).suffix.subset hc)
    intro t ht
    rcases List.mem_cons.mp ht with ht | ht
    · cases ht
    · exact hrest.append (ih hpieces.2 hfollowing) t ht

theorem ofLine_plain (h : ofLine line = .ok segments) : IsPlain segments := by
  obtain ⟨following, hfollowing, rfl⟩ := ofLine_eq_ok.mp h
  obtain ⟨hleading, hothers⟩ := pieces_plain line
  exact (ofLiteral_plain hleading).append (ofPieces_plain hothers hfollowing)

/-! ## Columns of segments -/

/-- The columns at which the fields of segments start, where the segments start at the given column. -/
def columns (start : Nat) : List Segment → List Nat
  | [] => []
  | literal t :: rest => columns (start + t.length) rest
  | field f :: rest => start :: columns (start + f.width) rest

/-- Fields start where their introducers are drawn. -/
theorem introducersFrom_drawing (hplain : IsPlain segments)
    (hsized : ∀ segment ∈ segments, segment.IsSized) :
    PictureLine.introducersFrom start (drawing segments) = columns start segments := by
  induction segments generalizing start with
  | nil => rfl
  | cons segment rest ih =>
    rw [List.forall_mem_cons] at hsized
    have hlater := fun start => @ih start (fun t ht => hplain t (List.mem_cons_of_mem _ ht)) hsized.2
    rw [drawing_cons, PictureLine.introducersFrom_append, hlater]
    cases segment with
    | literal t =>
      rw [source, PictureLine.introducersFrom_plain (hplain t List.mem_cons_self), columns, List.nil_append]
    | field f =>
      have hstart : isIntroducer (introducer f.chomp) = true := by cases f.chomp <;> decide
      have hmarks := fun c hc => (f.shape.marks_plain c hc).1
      have hwidth : f.width = f.source.length := hsized.1
      rw [source, Field.source, PictureLine.introducersFrom_cons, if_pos hstart,
        PictureLine.introducersFrom_plain hmarks, columns, hwidth]
      rfl

theorem columns_of_ofLine (h : ofLine line = .ok segments) :
    PictureLine.introducerColumns line = columns 0 segments := by
  obtain ⟨hfaithful, -⟩ := ofLine_faithful h
  rw [PictureLine.introducerColumns_eq, ← PictureLine.introducersFrom_map, ← hfaithful.drawing]
  exact introducersFrom_drawing (ofLine_plain h) hfaithful.sized

/-! ## Columns of texts -/

@[simp] theorem length_columns : (columns start segments).length = (segments.filterMap field?).length := by
  induction segments generalizing start with
  | nil => rfl
  | cons segment rest ih =>
    cases segment with
    | literal t => exact ih
    | field f => exact congrArg Nat.succ ih

/-- Each text is as wide as its field. -/
def Spans (segments : List Segment) (texts : List Text) : Prop :=
  List.Forall₂ (fun (f : Field) shown => shown.length = f.width) (segments.filterMap field?) texts

theorem drop_past {t u : Text} {n start : Nat} (h : start + t.length ≤ n) :
    (t ++ u).drop (n - start) = u.drop (n - (start + t.length)) := by
  rw [List.drop_append, List.drop_eq_nil_of_le (by omega), List.nil_append, Nat.sub_sub]

/-- Laid between the literals, each text starts at the column of its field. -/
theorem Spans.lay_columns (h : Spans segments texts) :
    ∀ entry ∈ (columns start segments).zip ((segments.filterMap field?).zip texts),
      start ≤ entry.1 ∧ ((lay segments texts).drop (entry.1 - start)).take entry.2.1.width = entry.2.2 := by
  induction segments generalizing start texts with
  | nil => exact fun entry he => absurd he (by simp [columns])
  | cons segment rest ih =>
    cases segment with
    | literal t =>
      intro entry he
      obtain ⟨hstart, htake⟩ := ih h entry he
      refine ⟨by omega, ?_⟩
      rw [lay, drop_past hstart]
      exact htake
    | field f =>
      obtain _ | ⟨hwidth, hrest⟩ := h
      rename_i shown texts
      intro entry he
      rcases List.mem_cons.mp he with rfl | he
      · refine ⟨Nat.le_refl _, ?_⟩
        rw [Nat.sub_self, List.drop_zero, lay, ← hwidth, List.take_left]
      · obtain ⟨hstart, htake⟩ := ih hrest entry he
        rw [← hwidth] at hstart htake
        refine ⟨by omega, ?_⟩
        rw [lay, drop_past hstart]
        exact htake

/-- A text that is laid is as long as the `drawing`. -/
theorem Spans.length_lay (h : Spans segments texts) (hsized : ∀ segment ∈ segments, segment.IsSized) :
    (lay segments texts).length = (drawing segments).length := by
  induction segments generalizing texts with
  | nil => rfl
  | cons segment rest ih =>
    rw [List.forall_mem_cons] at hsized
    cases segment with
    | literal t => rw [lay, drawing_cons, List.length_append, List.length_append, ih h hsized.2, source]
    | field f =>
      obtain _ | ⟨hwidth, hrest⟩ := h
      have hsource : f.width = (field f).source.length := hsized.1
      rw [lay, drawing_cons, List.length_append, List.length_append, ih hrest hsized.2, hwidth, hsource]

/-- Outside of the fields the text that is laid has the characters of the `drawing`. -/
theorem Spans.lay_outside (h : Spans segments texts)
    (hsized : ∀ segment ∈ segments, segment.IsSized) {i : Nat}
    (hi : ∀ entry ∈ (columns start segments).zip (segments.filterMap field?),
      ¬ (entry.1 ≤ start + i ∧ start + i < entry.1 + entry.2.width)) :
    (lay segments texts)[i]? = (drawing segments)[i]? := by
  induction segments generalizing start texts i with
  | nil => rfl
  | cons segment rest ih =>
    rw [List.forall_mem_cons] at hsized
    cases segment with
    | literal t =>
      rw [lay, drawing_cons, source]
      rcases Nat.lt_or_ge i t.length with hin | hpast
      · rw [List.getElem?_append_left hin, List.getElem?_append_left hin]
      · rw [List.getElem?_append_right hpast, List.getElem?_append_right hpast]
        have hlater : ∀ entry ∈ (columns (start + t.length) rest).zip (rest.filterMap field?),
            ¬ (entry.1 ≤ start + t.length + (i - t.length) ∧
              start + t.length + (i - t.length) < entry.1 + entry.2.width) := by
          intro entry he
          have hentry := hi entry he
          omega
        exact ih h hsized.2 hlater
    | field f =>
      obtain _ | ⟨hwidth, hrest⟩ := h
      rename_i shown texts
      have hsource : f.width = (field f).source.length := hsized.1
      have hfields : (field f :: rest).filterMap field? = f :: rest.filterMap field? := rfl
      rw [columns, hfields, List.zip_cons_cons, List.forall_mem_cons] at hi
      obtain ⟨hself, hothers⟩ := hi
      -- the column is not one of the first field, so it is behind it
      have hpast : f.width ≤ i := by
        simp only at hself
        omega
      have hlater : ∀ entry ∈ (columns (start + f.width) rest).zip (rest.filterMap field?),
          ¬ (entry.1 ≤ start + f.width + (i - f.width) ∧
            start + f.width + (i - f.width) < entry.1 + entry.2.width) := by
        intro entry he
        have hentry := hothers entry he
        omega
      rw [lay, drawing_cons, List.getElem?_append_right (by omega), List.getElem?_append_right (by omega),
        hwidth, ← hsource]
      exact ih hrest hsized.2 hlater

/-- The source of a field holds no space, so where blanked tildes give it, it stands in the line as well. -/
theorem eq_source_of_map {t : Text} {f : Field} (h : t.map blankTilde = f.source) : t = f.source := by
  have hsource : ∀ c ∈ f.source, c ≠ ' ' := by
    intro c hc
    rcases List.mem_cons.mp hc with rfl | hc
    · cases f.chomp <;> decide
    · exact (f.shape.marks_plain c hc).2
  have hsame : ∀ c ∈ t, blankTilde c = c := by
    intro c hc
    refine if_neg fun htilde => ?_
    have hmem : blankTilde c ∈ f.source := h ▸ List.mem_map_of_mem hc
    exact hsource _ hmem (if_pos htilde)
  rw [← h, List.map_congr_left hsame, List.map_id']

/-- The `drawing` lays the fields themselves. -/
theorem drawing_eq_lay : drawing segments = lay segments ((segments.filterMap field?).map Field.source) := by
  induction segments with
  | nil => rfl
  | cons segment rest ih =>
    rw [drawing_cons, ih]
    cases segment <;> rfl

theorem sources_span (hsized : ∀ segment ∈ segments, segment.IsSized) :
    Spans segments ((segments.filterMap field?).map Field.source) := by
  refine List.forall₂_map_right_iff.mpr (List.forall₂_same.mpr fun f hf => ?_)
  obtain ⟨segment, hs, hfield⟩ := List.mem_filterMap.mp hf
  cases segment with
  | literal t => cases hfield
  | field g =>
    obtain rfl := Option.some.inj hfield
    exact (hsized _ hs).symm

end Segment

/-! ## The texts of fields -/

/-- The desk after a field has shown a variable: it may have warned, and left the rest of a text. -/
def Desk.after (desk : Desk) (name : String) (made : Formatted) : Desk :=
  ⟨made.rest.elim desk.journal fun rest => desk.journal.set name (.text rest),
    desk.warnings ++ made.warnings⟩

namespace PictureLine

variable {page : Int} {desk : Desk}

/-- On page `page` the fields show these texts one after the other, each the value that its variable has by
then. -/
inductive Formats (page : Int) : Desk → List (Field × String) → List Text → Desk → Prop
  | nil (desk : Desk) : Formats page desk [] [] desk
  | cons {desk after : Desk} {f : Field} {name : String} {made : Formatted} {bindings : List (Field × String)}
    {texts : List Text} :
    f.format (Record.resolve desk.journal.source.entries name) page true = .ok made →
    Formats page (desk.after name made) bindings texts after →
    Formats page desk ((f, name) :: bindings) (made.text :: texts) after

theorem composeField_formats (f : Field) (name : String) :
    Ends (composeField page f name) desk
      (fun shown after => ∃ made,
        f.format (Record.resolve desk.journal.source.entries name) page true = .ok made ∧
        shown.1 = made.text ∧ after = desk.after name made)
      fun _ _ => True := by
  simp only [composeField, ends_bind]
  refine Desk.read_ends.mono ?_ fun _ _ _ => trivial
  rintro value after ⟨rfl, rfl⟩
  split
  · trivial
  · rename_i made hmade
    simp only [Desk.warn, ends_bind, ends_modify]
    cases hrest : made.rest with
    | none => exact ⟨made, hmade, rfl, by rw [Desk.after, hrest]; rfl⟩
    | some rest => exact ⟨made, hmade, rfl, by rw [Desk.after, hrest]; rfl⟩

theorem composeFields_formats (bindings : List (Field × String)) :
    Ends (composeFields page bindings) desk
      (fun made after => Formats page desk bindings (made.map (·.1)) after) fun _ _ => True := by
  induction bindings generalizing desk with
  | nil => exact .nil desk
  | cons binding bindings ih =>
    obtain ⟨f, name⟩ := binding
    simp only [composeFields, ends_bind]
    refine (composeField_formats f name).mono ?_ fun _ _ he => he
    rintro shown after ⟨made, hmade, htext, rfl⟩
    refine ih.mono (fun others last hothers => ?_) fun _ _ he => he
    rw [ends_pure, List.map_cons, htext]
    exact .cons hmade hothers

/-! ## Placed lines -/

theorem ofSource_ofLine {raw : Text} {line : PictureLine} (h : ofSource raw = .ok line) :
    Segment.ofLine line.source = .ok line.segments := by
  obtain ⟨segments, hsegments, hline⟩ := bind_eq_ok.mp h
  cases hline
  exact hsegments

end PictureLine

theorem Spec.Grammar.ofLine {raws : List Text} {lines : List PictureLine} (h : Grammar raws lines) :
    ∀ line ∈ lines, Segment.ofLine line.source = .ok line.segments := by
  induction h with
  | nil => exact fun line hl => absurd hl List.not_mem_nil
  | plain hsource _ _ ih =>
    have hline := PictureLine.ofSource_ofLine hsource
    exact List.forall_mem_cons.mpr ⟨hline, ih⟩
  | named hsource _ _ _ ih =>
    have hline := PictureLine.ofSource_ofLine hsource
    exact List.forall_mem_cons.mpr ⟨hline, ih⟩

namespace PictureLine

variable {page : Int} {desk after : Desk} {texts : List Text}

/-- A field is drawn at the column of its introducer. -/
theorem source_at {line : PictureLine} (hline : Segment.ofLine line.source = .ok line.segments) {p : Nat}
    {f : Field} (hmem : (p, f) ∈ (introducerColumns line.source).zip line.fields) :
    (line.source.drop p).take f.width = f.source := by
  obtain ⟨⟨hdrawing, hsized⟩, -⟩ := Segment.ofLine_faithful hline
  rw [Segment.columns_of_ofLine hline] at hmem
  have hself : line.fields.zip (line.fields.map Field.source) = line.fields.map fun f => (f, f.source) := by
    have hzip : (line.fields.map id).zip (line.fields.map Field.source) =
        line.fields.map fun f => (f, f.source) := List.zip_map'
    rwa [List.map_id] at hzip
  have hentry : (p, f, f.source) ∈
      (Segment.columns 0 line.segments).zip (line.fields.zip (line.fields.map Field.source)) := by
    rw [hself, List.zip_map_right]
    exact List.mem_map_of_mem hmem
  obtain ⟨-, htake⟩ := (Segment.sources_span hsized).lay_columns _ hentry
  refine Segment.eq_source_of_map ?_
  rw [List.map_take, List.map_drop, ← hdrawing, Segment.drawing_eq_lay]
  exact htake

/-- For every line that compiles and on every desk: where the fields fill their columns, the line is the row
of their texts at the columns of their introducers, with the characters of the picture between them, and
without the blanks at its end. -/
theorem compose_placed {spec : Spec} {lines : List PictureLine} (hspec : spec.compile = .ok lines)
    {line : PictureLine} (hline : line ∈ lines) (hfills : line.Fills page desk) {text : Text}
    (h : line.compose page desk = (.ok (some text), after)) :
    ∃ (texts : List Text) (u : Text), Formats page desk (line.fields.zip line.names) texts after ∧
      text = u.trimRight ∧ u.length = line.source.length ∧
      (introducerColumns line.source).length = line.fields.length ∧ texts.length = line.fields.length ∧
      (∀ p f, (p, f) ∈ (introducerColumns line.source).zip line.fields →
        (line.source.drop p).take f.width = f.source) ∧
      (∀ p f t, (p, f, t) ∈ (introducerColumns line.source).zip (line.fields.zip texts) →
        (u.drop p).take f.width = t) ∧
      ∀ i, (∀ entry ∈ (introducerColumns line.source).zip line.fields,
          ¬ (entry.1 ≤ i ∧ i < entry.1 + entry.2.width)) →
        u[i]? = line.source[i]?.map blankTilde := by
  have hsegments := (Spec.compile_eq_ok.mp hspec).ofLine line hline
  obtain ⟨⟨hdrawing, hsized⟩, -⟩ := Segment.ofLine_faithful hsegments
  obtain ⟨made, hmade, rfl⟩ := compose_eq_some (Spec.compile_compiled hspec line hline).1.names h
  have hwidths := Ends.of_ok hfills hmade
  have hspans : Segment.Spans line.segments (made.map (·.1)) := List.forall₂_map_right_iff.mpr hwidths
  have hcolumns := Segment.columns_of_ofLine hsegments
  have hformats := Ends.of_ok (composeFields_formats _) hmade
  refine ⟨made.map (·.1), _, hformats, rfl, ?_, ?_, hspans.length_eq.symm,
    fun p f => source_at hsegments, fun p f t hmem => ?_, fun i hi => ?_⟩
  · rw [hspans.length_lay hsized, hdrawing, List.length_map]
  · rw [hcolumns]
    exact Segment.length_columns
  · rw [hcolumns] at hmem
    exact (hspans.lay_columns _ hmem).2
  · have houtside : ∀ entry ∈ (Segment.columns 0 line.segments).zip line.fields,
        ¬ (entry.1 ≤ 0 + i ∧ 0 + i < entry.1 + entry.2.width) := by
      intro entry he
      rw [← hcolumns] at he
      have hentry := hi entry he
      omega
    rw [hspans.lay_outside hsized houtside, hdrawing, List.getElem?_map]

/-- A tilde, two fields side by side, a text and a page number. -/
def stubLine : PictureLine :=
  ⟨[.literal " ".toList, .field ⟨.text .right 3, false⟩, .field ⟨.text .left 3, true⟩,
    .literal "!".toList, .field ⟨.page 3, false⟩], true, false, ["a", "b", "p"], "~@>>^<<!@&&".toList⟩

def stubDesk : Desk := ⟨.start ⟨.mapping, [("a", .int 7), ("b", .text "one two".toList)]⟩, []⟩

theorem compose_placed_stub :
    (Spec.text "~@>>^<<!@&&\na,b,p\n".toList).compile = .ok [stubLine] ∧ stubLine.Fills 12 stubDesk ∧
    (stubLine.compose 12 stubDesk).1 = .ok (some "   7one!12".toList) ∧
    introducerColumns stubLine.source = [1, 4, 8] ∧
    ∃ (texts : List Text) (u : Text),
      Formats 12 stubDesk (stubLine.fields.zip stubLine.names) texts (stubLine.compose 12 stubDesk).2 ∧
      "   7one!12".toList = u.trimRight ∧ u.length = 11 ∧ texts.length = 3 ∧
      (∀ t, (4, ⟨.text .left 3, true⟩, t) ∈ [1, 4, 8].zip (stubLine.fields.zip texts) →
        (u.drop 4).take 3 = t) ∧
      u[0]? = some ' ' ∧ u[7]? = some '!' := by
  have hspec : (Spec.text "~@>>^<<!@&&\na,b,p\n".toList).compile = .ok [stubLine] := by rfl
  have hfills : stubLine.Fills 12 stubDesk := .cons (by rfl) (.cons (by rfl) (.cons (by rfl) .nil))
  have hcompose : (stubLine.compose 12 stubDesk).1 = .ok (some "   7one!12".toList) := by decide +kernel
  have hcolumns : introducerColumns stubLine.source = [1, 4, 8] := by decide
  obtain ⟨texts, u, hformats, htrim, hlength, -, htexts, -, hplaced, houtside⟩ :=
    compose_placed hspec (List.mem_singleton_self _) hfills (Prod.ext hcompose rfl)
  rw [hcolumns] at hplaced houtside
  refine ⟨hspec, hfills, hcompose, hcolumns, texts, u, hformats, htrim, hlength, htexts,
    fun t ht => hplaced 4 _ t ht, ?_, ?_⟩
  · exact houtside 0 (by decide)
  · exact houtside 7 (by decide)

end PictureLine

end PictureReport
