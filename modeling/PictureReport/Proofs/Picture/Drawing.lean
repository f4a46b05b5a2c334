import PictureReport.Proofs.Picture.Compiled

/-!
# Drawing a picture line

The segments of a picture line, drawn one after the other, are the line again, with spaces for its tildes,
and together they are as wide as the line is long.  A tilde is no mark of a field, so the drawing is read
as the same segments.
-/

namespace PictureReport

/-- A tilde stands for a space. -/
def blankTilde (c : Char) : Char := if c = '~' then ' ' else c

theorem blankTilde_eq_iff {c : Char} (mark : Char) (htilde : mark ≠ '~') (hspace : mark ≠ ' ') :
    blankTilde c = mark ↔ c = mark := by
  unfold blankTilde
  by_cases hc : c = '~'
  · subst hc
    rw [if_pos rfl]
    exact ⟨fun h => absurd h.symm hspace, fun h => absurd h.symm htilde⟩
  · rw [if_neg hc]

theorem blankTilde_blankTilde (c : Char) : blankTilde (blankTilde c) = blankTilde c := by
  by_cases hc : c = '~'
  · subst hc
    decide
  · have hsame : blankTilde c = c := if_neg hc
    rw [hsame, hsame]

@[simp] theorem isIntroducer_blankTilde (c : Char) : isIntroducer (blankTilde c) = isIntroducer c := by
  unfold isIntroducer
  rw [decide_eq_decide.mpr (blankTilde_eq_iff '@' (by decide) (by decide)),
    decide_eq_decide.mpr (blankTilde_eq_iff '^' (by decide) (by decide))]

/-! ## Marks -/

namespace Shape

variable {t : Text}

theorem run_map (mark : Char) (htilde : mark ≠ '~') (hspace : mark ≠ ' ') (t : Text) :
    run mark (t.map blankTilde) = ((run mark t).1, (run mark t).2.map blankTilde) := by
  have hmark : ((fun c => decide (c = mark)) ∘ blankTilde) = fun c => decide (c = mark) := by
    funext c
    exact decide_eq_decide.mpr (blankTilde_eq_iff mark htilde hspace)
  simp only [run, List.takeWhile_map, List.dropWhile_map, hmark, List.length_map]

theorem point_map (t : Text) : point (t.map blankTilde) = ((point t).1, (point t).2.map blankTilde) := by
  cases t with
  | nil => rfl
  | cons c rest =>
    by_cases hc : c = '.'
    · subst hc
      rfl
    · have hblank : blankTilde c ≠ '.' := fun h => hc ((blankTilde_eq_iff '.' (by decide) (by decide)).mp h)
      rw [List.map_cons]
      unfold point
      split
      · rename_i h
        exact absurd (List.cons.inj h).1 hblank
      · split
        · rename_i h
          exact absurd (List.cons.inj h).1 hc
        · rfl

theorem ofChar?_blankTilde (c : Char) :
    ExponentLetter.ofChar? (blankTilde c) = ExponentLetter.ofChar? c := by
  by_cases hc : c = '~'
  · subst hc
    rfl
  · have hsame : blankTilde c = c := if_neg hc
    rw [hsame]

/-- The rule reads the same marks when spaces stand for the tildes. -/
def IgnoresTildes (rule : Text → Option (Shape × Text)) : Prop :=
  ∀ t, rule (t.map blankTilde) = (rule t).map fun found => (found.1, found.2.map blankTilde)

theorem marksRule_ignoresTildes {mark : Char} (htilde : mark ≠ '~') (hspace : mark ≠ ' ')
    (build : Nat → Shape) : IgnoresTildes (marksRule mark build) := by
  intro t
  unfold marksRule
  rw [run_map mark htilde hspace]
  generalize run mark t = found
  obtain ⟨_ | count, left⟩ := found <;> rfl

theorem scientificRule_ignoresTildes : IgnoresTildes scientificRule := by
  intro t
  have hrun := run_map '#' (by decide) (by decide)
  unfold scientificRule
  simp only [hrun, point_map]
  generalize (run '#' (point (run '#' t).2).2).2 = rest
  cases rest with
  | nil => rfl
  | cons c rest =>
    simp only [List.map_cons, ofChar?_blankTilde, hrun]
    generalize run '#' rest = found
    cases ExponentLetter.ofChar? c with
    | none => rfl
    | some letter => obtain ⟨_ | count, left⟩ := found <;> rfl

theorem wholeRule_ignoresTildes : IgnoresTildes wholeRule := by
  intro t
  have hrun := run_map '#' (by decide) (by decide)
  unfold wholeRule
  rw [hrun]
  generalize run '#' t = found
  obtain ⟨_ | count, left⟩ := found
  · rfl
  · simp only [point_map, hrun]
    rfl

theorem fractionRule_ignoresTildes : IgnoresTildes fractionRule := by
  intro t
  have hrun := run_map '#' (by decide) (by decide)
  unfold fractionRule
  simp only [hrun, point_map]
  generalize point (run '#' t).2 = found
  obtain ⟨_ | _, rest⟩ := found
  · rfl
  · simp only [hrun]
    generalize run '#' rest = found
    obtain ⟨_ | count, left⟩ := found <;> rfl

theorem findSome?_ignoresTildes {rules : List (Text → Option (Shape × Text))}
    (h : ∀ rule ∈ rules, IgnoresTildes rule) : IgnoresTildes fun t => rules.findSome? (· t) := by
  intro t
  induction rules with
  | nil => rfl
  | cons rule others ih =>
    rw [List.forall_mem_cons] at h
    simp only [List.findSome?_cons, h.1 t]
    cases rule t with
    | none => exact ih h.2
    | some found => rfl

theorem read?_ignoresTildes : IgnoresTildes read? := by
  refine findSome?_ignoresTildes fun rule hrule => ?_
  simp only [rules, List.mem_cons, List.not_mem_nil, or_false] at hrule
  obtain rfl | rfl | rfl | rfl | rfl | rfl | rfl := hrule
  · exact marksRule_ignoresTildes (by decide) (by decide) _
  · exact marksRule_ignoresTildes (by decide) (by decide) _
  · exact scientificRule_ignoresTildes
  · exact wholeRule_ignoresTildes
  · exact fractionRule_ignoresTildes
  · exact marksRule_ignoresTildes (by decide) (by decide) _
  · exact marksRule_ignoresTildes (by decide) (by decide) _

end Shape

/-! ## Segments -/

namespace Segment

variable {line t : Text} {segments : List Segment}

/-- The segments as they are drawn, one after the other. -/
def drawing (segments : List Segment) : Text := segments.flatMap source

@[simp] theorem drawing_nil : drawing [] = [] := rfl

@[simp] theorem drawing_cons (segment : Segment) (segments : List Segment) :
    drawing (segment :: segments) = segment.source ++ drawing segments := rfl

@[simp] theorem drawing_append (segments more : List Segment) :
    drawing (segments ++ more) = drawing segments ++ drawing more := List.flatMap_append

/-- The segment is as wide as its drawing. -/
def IsSized (segment : Segment) : Prop := segment.width = segment.source.length

/-- The width of a line whose segments are all `IsSized` is the length of their `drawing`. -/
theorem foldr_width (h : ∀ segment ∈ segments, segment.IsSized) :
    segments.foldr (fun segment width => segment.width + width) 0 = (drawing segments).length := by
  induction segments with
  | nil => rfl
  | cons segment segments ih =>
    rw [List.forall_mem_cons] at h
    rw [List.foldr_cons, ih h.2, h.1, drawing_cons, List.length_append]

theorem drawing_ofLiteral (t : Text) : drawing (ofLiteral t) = t.map blankTilde := by
  cases t with
  | nil => rfl
  | cons c rest => exact List.append_nil _

theorem ofLiteral_isSized : ∀ segment ∈ ofLiteral t, segment.IsSized := by
  intro segment hs
  unfold ofLiteral at hs
  split at hs
  · cases hs
  · rw [List.mem_singleton.mp hs]
    rfl

theorem ofLiteral_map (t : Text) : ofLiteral (t.map blankTilde) = ofLiteral t := by
  cases t with
  | nil => rfl
  | cons c rest =>
    have hmap : ((c :: rest).map blankTilde).map blankTilde = (c :: rest).map blankTilde := by
      rw [List.map_map, Function.comp_def]
      simp only [blankTilde_blankTilde]
    exact congrArg (fun t => [literal t]) hmap

/-! ## The pieces of a line -/

theorem blankTilde_of_isIntroducer {start : Char} (h : isIntroducer start = true) :
    blankTilde start = start := by
  refine if_neg fun htilde => ?_
  rw [htilde] at h
  exact absurd h (by decide)

/-- An introducer and the text up to the next one. -/
def pieceText (piece : Char × Text) : Text := piece.1 :: piece.2

/-- A piece with spaces for the tildes of its text. -/
def blankPiece (piece : Char × Text) : Char × Text := (piece.1, piece.2.map blankTilde)

theorem pieces_text (line : Text) : (pieces line).1 ++ (pieces line).2.flatMap pieceText = line := by
  induction line with
  | nil => rfl
  | cons c rest ih =>
    unfold pieces
    by_cases hc : isIntroducer c = true
    · simp only [hc, if_true, List.nil_append, List.flatMap_cons, pieceText, List.cons_append]
      exact congrArg (c :: ·) ih
    · simp only [hc, Bool.false_eq_true, if_false, List.cons_append]
      exact congrArg (c :: ·) ih

theorem isIntroducer_of_mem_pieces {piece : Char × Text} (h : piece ∈ (pieces line).2) :
    isIntroducer piece.1 = true := by
  induction line with
  | nil => cases h
  | cons c rest ih =>
    unfold pieces at h
    by_cases hc : isIntroducer c = true
    · simp only [hc, if_true] at h
      rcases List.mem_cons.mp h with rfl | h
      · exact hc
      · exact ih h
    · simp only [hc, Bool.false_eq_true, if_false] at h
      exact ih h

theorem pieces_map (line : Text) :
    pieces (line.map blankTilde) = ((pieces line).1.map blankTilde, (pieces line).2.map blankPiece) := by
  induction line with
  | nil => rfl
  | cons c rest ih =>
    rw [List.map_cons]
    unfold pieces
    rw [ih, isIntroducer_blankTilde]
    by_cases hc : isIntroducer c = true
    · simp only [hc, if_true, blankTilde_of_isIntroducer hc, List.map_nil, List.map_cons, blankPiece]
    · simp only [hc, Bool.false_eq_true, if_false, List.map_cons]

/-! ## The segments of a line -/

/-- A field is drawn by its introducer and its marks. -/
theorem source_field {start : Char} (hstart : isIntroducer start = true) (shape : Shape) :
    (field ⟨shape, [start] = ['^']⟩).source = start :: shape.marks := by
  refine congrArg (· :: shape.marks) ?_
  simp only [isIntroducer, Bool.or_eq_true, decide_eq_true_eq] at hstart
  obtain rfl | rfl := hstart <;> rfl

/-- The segments are as wide as they are drawn, and they draw `line`, with spaces for its tildes. -/
structure Faithful (line : Text) (segments : List Segment) : Prop where
  drawing : drawing segments = line.map blankTilde
  sized : ∀ segment ∈ segments, segment.IsSized

theorem ofPieces_faithful {pieces : List (Char × Text)}
    (hpieces : ∀ piece ∈ pieces, isIntroducer piece.1 = true) (h : ofPieces line pieces = .ok segments) :
    Faithful (pieces.flatMap pieceText) segments ∧
      ∀ other, ofPieces other (pieces.map blankPiece) = .ok segments := by
  induction pieces generalizing segments with
  | nil =>
    cases h
    exact ⟨⟨rfl, fun segment hs => absurd hs List.not_mem_nil⟩, fun _ => rfl⟩
  | cons piece others ih =>
    obtain ⟨start, tail⟩ := piece
    rw [List.forall_mem_cons] at hpieces
    obtain ⟨hstart, hothers⟩ := hpieces
    obtain ⟨following, shape, rest, hfollowing, hshape, rfl⟩ := ofPieces_cons.mp h
    obtain ⟨⟨hdrawing, hsized⟩, hagain⟩ := ih hothers hfollowing
    have hreads := Shape.read?_reads hshape
    have hblank : Shape.read? (tail.map blankTilde) = some (shape, rest.map blankTilde) := by
      rw [Shape.read?_ignoresTildes, hshape]
      rfl
    refine ⟨⟨?_, ?_⟩, fun other => ?_⟩
    · -- The marks hold no tilde: they are read from the text without tildes as well.
      have hmarks := (Shape.read?_reads hblank).drawn
      rw [drawing_cons, drawing_append, source_field hstart, drawing_ofLiteral, hdrawing,
        List.flatMap_cons, List.map_append, pieceText, List.map_cons, blankTilde_of_isIntroducer hstart,
        ← hmarks, List.cons_append, List.cons_append, List.append_assoc]
    · rw [List.forall_mem_cons, List.forall_mem_append]
      refine ⟨?_, ofLiteral_isSized, hsized⟩
      show shape.width = _
      rw [source_field hstart, hreads.width, List.length_cons]
    · rw [List.map_cons]
      exact ofPieces_cons.mpr ⟨following, shape, _, hagain other, hblank, by rw [ofLiteral_map]⟩

theorem ofLine_faithful (h : ofLine line = .ok segments) :
    Faithful line segments ∧ ofLine (line.map blankTilde) = .ok segments := by
  obtain ⟨following, hpieces, rfl⟩ := ofLine_eq_ok.mp h
  obtain ⟨⟨hdrawing, hsized⟩, hagain⟩ :=
    ofPieces_faithful (fun piece hp => isIntroducer_of_mem_pieces hp) hpieces
  refine ⟨⟨?_, ?_⟩, ofLine_eq_ok.mpr ⟨following, ?_, ?_⟩⟩
  · rw [drawing_append, drawing_ofLiteral, hdrawing, ← List.map_append, pieces_text]
  · rw [List.forall_mem_append]
    exact ⟨ofLiteral_isSized, hsized⟩
  · rw [pieces_map]
    exact hagain _
  · rw [pieces_map, ofLiteral_map]

/-- Nothing of a line is lost in its segments: drawn again they are the line with spaces for its tildes,
they are as wide as the line is long, and their drawing has the same segments. -/
theorem ofLine_lossless (h : ofLine line = .ok segments) :
    drawing segments = line.map blankTilde ∧
      (∀ picture : PictureLine, picture.segments = segments → picture.width = line.length) ∧
      ofLine (drawing segments) = .ok segments := by
  obtain ⟨hfaithful, hagain⟩ := ofLine_faithful h
  refine ⟨hfaithful.drawing, ?_, ?_⟩
  · rintro picture rfl
    unfold PictureLine.width
    rw [foldr_width hfaithful.sized, hfaithful.drawing, List.length_map]
  · rw [hfaithful.drawing]
    exact hagain

/-- A line with a tilde pair, a page number, a text that chomps and two numbers side by side. -/
theorem ofLine_lossless_invoice :
    let line := "~~No. @&& ^<< @.##@#.E##!".toList
    let segments := [literal "  No. ".toList, field ⟨.page 3, false⟩, literal " ".toList,
      field ⟨.text .left 3, true⟩, literal " ".toList, field ⟨.fixed ⟨1, 2, true⟩, false⟩,
      field ⟨.scientific ⟨1, 0, true, ⟨false, true⟩, 2⟩, false⟩, literal "!".toList]
    ofLine line = .ok segments ∧ drawing segments = line.map blankTilde ∧
      (∀ picture : PictureLine, picture.segments = segments → picture.width = line.length) ∧
      ofLine (drawing segments) = .ok segments := by
  intro line segments
  have hline : ofLine line = .ok segments := by rfl
  exact ⟨hline, ofLine_lossless hline⟩

end Segment

end PictureReport
