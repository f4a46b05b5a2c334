import PictureReport.Picture.Spec
import PictureReport.Proofs.Composing
import PictureReport.Proofs.Text

/-!
# Compiled picture lines

What is known of a picture line that was compiled.  Its segments are drawn by its source: a literal
text stands before a field or at the end of the line, and its characters are those of the source, with
spaces for the tildes.  There is one name for each field.
-/

namespace PictureReport

theorem Spec.isBreak_of_mem_lines {spec : Spec} {raw : Text} (hraw : raw ∈ spec.lines) {c : Char}
    (hc : c ∈ raw) : Text.isBreak c = false := by
  cases spec with
  | text t => exact Text.isBreak_of_mem_lines hraw hc
  | chunks ts =>
    obtain ⟨t, -, ht⟩ := List.mem_flatMap.mp hraw
    by_cases hempty : t.isEmpty = true
    · rw [if_pos hempty] at ht
      obtain rfl : raw = [] := List.mem_singleton.mp ht
      cases hc
    · rw [if_neg hempty] at ht
      exact Text.isBreak_of_mem_lines ht hc

/-! ## Marks -/

namespace Shape

/-- The marks of `shape`, drawn before `rest`, are `t`, and with the introducer they fill its columns.  Digits
after a point are read only where there is a point. -/
structure Reads (t : Text) (shape : Shape) (rest : Text) : Prop where
  drawn : shape.marks ++ rest = t
  width : shape.width = shape.marks.length + 1
  pointless : ∀ number, shape = .fixed number → number.radix = false → number.fraction = 0

variable {t rest : Text} {shape : Shape}

theorem Reads.suffix (h : Reads t shape rest) : rest <:+ t := ⟨shape.marks, h.drawn⟩

theorem run_drawn (mark : Char) (t : Text) : List.replicate (run mark t).1 mark ++ (run mark t).2 = t := by
  have hmarks : t.takeWhile (· = mark) = List.replicate (run mark t).1 mark := by
    refine List.eq_replicate_iff.mpr ⟨rfl, fun c hc => ?_⟩
    exact of_decide_eq_true (List.all_eq_true.mp List.all_takeWhile c hc)
  rw [← hmarks]
  exact List.takeWhile_append_dropWhile

theorem point_drawn (t : Text) : radixMark (point t).1 ++ (point t).2 = t := by
  unfold point
  split <;> rfl

theorem point_of_fst (h : (point t).1 = false) : point t = (false, t) := by
  unfold point at h ⊢
  split at h
  · cases h
  · rfl

/-- After a `run` of a mark there is no further one. -/
theorem run_run (mark : Char) (t : Text) : (run mark (run mark t).2).1 = 0 := by
  simp only [run, List.length_eq_zero_iff]
  induction t with
  | nil => rfl
  | cons c rest ih =>
    by_cases hc : c = mark
    · rw [List.dropWhile_cons_of_pos (by simpa using hc)]
      exact ih
    · rw [List.dropWhile_cons_of_neg (by simpa using hc), List.takeWhile_cons_of_neg (by simpa using hc)]

@[simp] theorem length_radixMark (radix : Bool) : (radixMark radix).length = radixWidth radix := by
  cases radix <;> rfl

theorem char_of_ofChar? {c : Char} {letter : ExponentLetter} (h : ExponentLetter.ofChar? c = some letter) :
    letter.char = c := by
  unfold ExponentLetter.ofChar? at h
  split at h <;> cases h <;> rfl

theorem marksRule_reads {mark : Char} {build : Nat → Shape} (hbuild : ∀ n number, build n ≠ .fixed number)
    (hmarks : ∀ n, (build (n + 1)).marks = List.replicate n mark) (hwidth : ∀ n, (build n).width = n)
    (h : marksRule mark build t = some (shape, rest)) : Reads t shape rest := by
  unfold marksRule at h
  have hdrawn := run_drawn mark t
  generalize run mark t = found at h hdrawn
  obtain ⟨count, left⟩ := found
  cases count with
  | zero => cases h
  | succ count =>
    cases h
    refine ⟨?_, ?_, fun number hs => absurd hs (hbuild _ number)⟩
    · rw [hmarks]
      exact hdrawn
    · rw [hwidth, hmarks, List.length_replicate]

theorem scientificRule_reads (h : scientificRule t = some (shape, rest)) : Reads t shape rest := by
  unfold scientificRule at h
  have hwhole := run_drawn '#' t
  generalize run '#' t = found at h hwhole
  obtain ⟨whole, t1⟩ := found
  have hpoint := point_drawn t1
  simp only at h hwhole
  generalize point t1 = found at h hpoint
  obtain ⟨radix, t2⟩ := found
  have hfraction := run_drawn '#' t2
  simp only at h hpoint
  generalize run '#' t2 = found at h hfraction
  obtain ⟨fraction, t3⟩ := found
  simp only at h hfraction
  cases t3 with
  | nil => cases h
  | cons c t4 =>
    have hexponent := run_drawn '#' t4
    simp only at h
    generalize run '#' t4 = found at h hexponent
    obtain ⟨exponent, t5⟩ := found
    cases hletter : ExponentLetter.ofChar? c with
    | none => simp [hletter] at h
    | some letter =>
      cases exponent with
      | zero => simp [hletter] at h
      | succ exponent =>
        rw [hletter] at h
        cases h
        refine ⟨?_, ?_, fun number hs => by cases hs⟩
        · rw [← hwhole, ← hpoint, ← hfraction, ← hexponent, ← char_of_ofChar? hletter]
          simp [marks, Scientific.marks]
        · simp only [Shape.width, Scientific.width, marks, Scientific.marks, List.length_append,
            List.length_replicate, length_radixMark, List.length_singleton]
          omega

theorem wholeRule_reads (h : wholeRule t = some (shape, rest)) : Reads t shape rest := by
  unfold wholeRule at h
  have hwhole := run_drawn '#' t
  have hnone := run_run '#' t
  generalize run '#' t = found at h hwhole hnone
  obtain ⟨whole, t1⟩ := found
  cases whole with
  | zero => cases h
  | succ whole =>
    have hpoint := point_drawn t1
    have hpointless := point_of_fst (t := t1)
    simp only at h hwhole hnone
    generalize point t1 = found at h hpoint hpointless
    obtain ⟨radix, t2⟩ := found
    have hfraction := run_drawn '#' t2
    simp only at h hpoint
    generalize hfound : run '#' t2 = found at h hfraction
    obtain ⟨fraction, t3⟩ := found
    cases h
    refine ⟨?_, ?_, ?_⟩
    · rw [← hwhole, ← hpoint, ← hfraction]
      simp [marks, FixedPoint.marks]
    · simp only [Shape.width, FixedPoint.width, marks, FixedPoint.marks, List.length_append,
        List.length_replicate, length_radixMark]
      omega
    · rintro number hs hradix
      cases hs
      obtain ⟨-, rfl⟩ := Prod.mk.inj (hpointless hradix)
      rw [hfound] at hnone
      exact hnone

theorem fractionRule_reads (h : fractionRule t = some (shape, rest)) : Reads t shape rest := by
  unfold fractionRule at h
  have hwhole := run_drawn '#' t
  generalize run '#' t = found at h hwhole
  obtain ⟨whole, t1⟩ := found
  have hpoint := point_drawn t1
  simp only at h hwhole
  generalize point t1 = found at h hpoint
  obtain ⟨radix, t2⟩ := found
  have hfraction := run_drawn '#' t2
  cases radix with
  | false => cases h
  | true =>
    simp only at h hpoint
    generalize run '#' t2 = found at h hfraction
    obtain ⟨fraction, t3⟩ := found
    cases fraction with
    | zero => cases h
    | succ fraction =>
      cases h
      refine ⟨?_, ?_, ?_⟩
      · rw [← hwhole, ← hpoint, ← hfraction]
        simp [marks, FixedPoint.marks]
      · simp only [Shape.width, FixedPoint.width, marks, FixedPoint.marks, List.length_append,
          List.length_replicate, length_radixMark]
        omega
      · rintro number hs hradix
        cases hs
        cases hradix

theorem read?_reads (h : read? t = some (shape, rest)) : Reads t shape rest := by
  obtain ⟨rule, hrule, hr⟩ := List.exists_of_findSome?_eq_some h
  simp only [rules, List.mem_cons, List.not_mem_nil, or_false] at hrule
  obtain rfl | rfl | rfl | rfl | rfl | rfl | rfl := hrule
  · exact marksRule_reads (by simp) (fun _ => rfl) (fun _ => rfl) hr
  · exact marksRule_reads (by simp) (fun _ => rfl) (fun _ => rfl) hr
  · exact scientificRule_reads hr
  · exact wholeRule_reads hr
  · exact fractionRule_reads hr
  · exact marksRule_reads (by simp) (fun _ => rfl) (fun _ => rfl) hr
  · exact marksRule_reads (by simp) (fun _ => rfl) (fun _ => rfl) hr

end Shape

/-! ## Segments -/

namespace Segment

/-- Each literal text stands before a field or at the end. -/
def Alternate : List Segment → Prop
  | [] => True
  | literal _ :: rest => (∀ next ∈ rest.head?, next.field?.isSome) ∧ Alternate rest
  | field _ :: rest => Alternate rest

/-- The segments as `source` draws them. -/
structure Drawn (source : Text) (segments : List Segment) : Prop where
  alternate : Alternate segments
  literals : ∀ t, literal t ∈ segments → ∀ c ∈ t, c ∈ source ∨ c = ' '
  chomps : ∀ f, field f ∈ segments → f.chomp = true → '^' ∈ source
  pointless : ∀ f, field f ∈ segments → ∀ number, f.shape = .fixed number → number.radix = false →
    number.fraction = 0

variable {source : Text} {segments : List Segment}

theorem drawn_nil (source : Text) : Drawn source [] := by
  refine ⟨trivial, ?_, ?_, ?_⟩
  · exact fun t ht => absurd ht List.not_mem_nil
  · exact fun f hf => absurd hf List.not_mem_nil
  · exact fun f hf => absurd hf List.not_mem_nil

/-- A text before a field: its characters are those of the source. -/
theorem Drawn.ofLiteral (h : Drawn source segments) (hnext : ∀ next ∈ segments.head?, next.field?.isSome)
    {t : Text} (ht : ∀ c ∈ t, c ∈ source) : Drawn source (ofLiteral t ++ segments) := by
  by_cases hempty : t.isEmpty = true
  · rw [Segment.ofLiteral, if_pos hempty]
    exact h
  · rw [Segment.ofLiteral, if_neg hempty, List.singleton_append]
    refine ⟨⟨hnext, h.alternate⟩, fun u hu c hc => ?_, fun f hf => ?_, fun f hf => ?_⟩
    · rcases List.mem_cons.mp hu with hu | hu
      · obtain rfl := Segment.literal.inj hu
        obtain ⟨d, hd, rfl⟩ := List.mem_map.mp hc
        by_cases htilde : d = '~'
        · exact .inr (if_pos htilde)
        · rw [if_neg htilde]
          exact .inl (ht d hd)
      · exact h.literals u hu c hc
    · rcases List.mem_cons.mp hf with hf | hf
      · cases hf
      · exact h.chomps f hf
    · rcases List.mem_cons.mp hf with hf | hf
      · cases hf
      · exact h.pointless f hf

theorem Drawn.field {f : Field} (h : Drawn source segments) (hchomp : f.chomp = true → '^' ∈ source)
    (hpointless : ∀ number, f.shape = .fixed number → number.radix = false → number.fraction = 0) :
    Drawn source (field f :: segments) := by
  refine ⟨h.alternate, fun t ht => ?_, fun g hg => ?_, fun g hg => ?_⟩
  · rcases List.mem_cons.mp ht with ht | ht
    · cases ht
    · exact h.literals t ht
  · rcases List.mem_cons.mp hg with hg | hg
    · obtain rfl := Segment.field.inj hg
      exact hchomp
    · exact h.chomps g hg
  · rcases List.mem_cons.mp hg with hg | hg
    · obtain rfl := Segment.field.inj hg
      exact hpointless
    · exact h.pointless g hg

/-- The `pieces` of a line hold characters of the line only. -/
theorem pieces_subset (line : Text) :
    (∀ c ∈ (pieces line).1, c ∈ line) ∧
      ∀ piece ∈ (pieces line).2, piece.1 ∈ line ∧ ∀ c ∈ piece.2, c ∈ line := by
  induction line with
  | nil => simp [pieces]
  | cons c rest ih =>
    obtain ⟨hleading, hothers⟩ := ih
    have hlater : ∀ piece ∈ (pieces rest).2, piece.1 ∈ c :: rest ∧ ∀ d ∈ piece.2, d ∈ c :: rest := by
      intro piece hp
      obtain ⟨h1, h2⟩ := hothers piece hp
      exact ⟨List.mem_cons_of_mem _ h1, fun d hd => List.mem_cons_of_mem _ (h2 d hd)⟩
    have hfirst : ∀ d ∈ (pieces rest).1, d ∈ c :: rest :=
      fun d hd => List.mem_cons_of_mem _ (hleading d hd)
    unfold pieces
    by_cases hc : isIntroducer c = true
    · simp only [hc, if_true]
      refine ⟨fun d hd => absurd hd List.not_mem_nil, fun piece hp => ?_⟩
      rcases List.mem_cons.mp hp with rfl | hp
      · exact ⟨List.mem_cons_self, hfirst⟩
      · exact hlater piece hp
    · simp only [hc]
      refine ⟨fun d hd => ?_, hlater⟩
      rcases List.mem_cons.mp hd with rfl | hd
      · exact List.mem_cons_self
      · exact hfirst d hd

/-- A piece gives a field and the literal text after it, before the segments of the other pieces. -/
theorem ofPieces_cons {line : Text} {segments : List Segment} {start : Char} {tail : Text}
    {others : List (Char × Text)} :
    ofPieces line ((start, tail) :: others) = .ok segments ↔
      ∃ following shape rest, ofPieces line others = .ok following ∧
        Shape.read? tail = some (shape, rest) ∧
        segments = field ⟨shape, [start] = ['^']⟩ :: (ofLiteral rest ++ following) := by
  simp only [ofPieces, readField, bind, Except.bind, pure, Except.pure]
  cases hothers : ofPieces line others with
  | error fault => simp
  | ok following =>
    cases hshape : Shape.read? tail with
    | none => simp
    | some found =>
      obtain ⟨shape, rest⟩ := found
      constructor
      · intro h
        exact ⟨following, shape, rest, rfl, rfl, (Except.ok.inj h).symm⟩
      · rintro ⟨_, _, _, hf, hs, rfl⟩
        cases hf
        cases hs
        rfl

theorem ofLine_eq_ok {line : Text} {segments : List Segment} :
    ofLine line = .ok segments ↔
      ∃ following, ofPieces line (pieces line).2 = .ok following ∧
        segments = ofLiteral (pieces line).1 ++ following := by
  refine bind_eq_ok.trans (exists_congr fun following => and_congr_right fun _ => ?_)
  exact ⟨fun h => (Except.ok.inj h).symm, fun h => congrArg Except.ok h.symm⟩

theorem ofPieces_drawn {line : Text} {pieces : List (Char × Text)}
    (hpieces : ∀ piece ∈ pieces, piece.1 ∈ line ∧ ∀ c ∈ piece.2, c ∈ line) {segments : List Segment}
    (h : ofPieces line pieces = .ok segments) :
    Drawn line segments ∧ ∀ next ∈ segments.head?, next.field?.isSome := by
  induction pieces generalizing segments with
  | nil =>
    cases h
    exact ⟨drawn_nil line, by simp⟩
  | cons piece others ih =>
    obtain ⟨start, tail⟩ := piece
    rw [List.forall_mem_cons] at hpieces
    obtain ⟨⟨hstart, htail⟩, hothers⟩ := hpieces
    obtain ⟨following, shape, rest, hfollowing, hshape, rfl⟩ := ofPieces_cons.mp h
    obtain ⟨hdrawn, hhead⟩ := ih hothers hfollowing
    have hreads := Shape.read?_reads hshape
    refine ⟨?_, by simp [field?]⟩
    refine Drawn.field (hdrawn.ofLiteral hhead fun c hc => htail c (hreads.suffix.subset hc)) ?_
      hreads.pointless
    intro hchomp
    obtain rfl : start = '^' := by simpa using hchomp
    exact hstart

theorem ofLine_drawn {line : Text} {segments : List Segment} (h : ofLine line = .ok segments) :
    Drawn line segments := by
  obtain ⟨hleading, hothers⟩ := pieces_subset line
  obtain ⟨following, hpieces, rfl⟩ := ofLine_eq_ok.mp h
  obtain ⟨hdrawn, hhead⟩ := ofPieces_drawn hothers hpieces
  exact hdrawn.ofLiteral hhead hleading

theorem literal_nil_not_mem_ofLiteral (t : Text) : literal [] ∉ ofLiteral t := by
  unfold ofLiteral
  split
  · exact List.not_mem_nil
  · rename_i hne
    intro h
    have hmap := literal.inj (List.mem_singleton.mp h)
    exact hne (List.isEmpty_iff.mpr (List.map_eq_nil_iff.mp hmap.symm))

/-- No literal text of a line is empty. -/
theorem ofLine_literal_ne_nil {line : Text} {segments : List Segment} (h : ofLine line = .ok segments) :
    literal [] ∉ segments := by
  have hlater : ∀ pieces following, ofPieces line pieces = .ok following → literal [] ∉ following := by
    intro pieces
    induction pieces with
    | nil =>
      intro following h
      cases h
      exact List.not_mem_nil
    | cons piece others ih =>
      intro following h
      obtain ⟨later, shape, rest, hothers, -, rfl⟩ := ofPieces_cons.mp h
      rw [List.mem_cons, List.mem_append, not_or, not_or]
      exact ⟨fun hf => (by cases hf), literal_nil_not_mem_ofLiteral rest, ih later hothers⟩
  obtain ⟨following, hpieces, rfl⟩ := ofLine_eq_ok.mp h
  rw [List.mem_append, not_or]
  exact ⟨literal_nil_not_mem_ofLiteral _, hlater _ following hpieces⟩

end Segment

/-! ## Picture lines -/

namespace PictureLine

variable {line : PictureLine}

/-- A picture line as it is compiled from its source. -/
structure Compiled (line : PictureLine) : Prop where
  drawn : Segment.Drawn line.source line.segments
  suppressed : line.suppressed = line.source.contains '~'
  repeated : line.repeated = hasRepeatMark line.source
  names : line.names.length = line.fields.length

theorem hasRepeatMark_of_not_mem {t : Text} (h : '~' ∉ t) : hasRepeatMark t = false := by
  fun_induction hasRepeatMark t with
  | case1 rest => simp at h
  | case2 => rfl
  | case3 c rest _ ih => exact ih fun hc => h (List.mem_cons_of_mem _ hc)

theorem Compiled.isPlain (h : line.Compiled) (htilde : '~' ∉ line.source) : line.IsPlain := by
  refine ⟨?_, ?_⟩
  · rw [h.suppressed]
    simpa using htilde
  · rw [h.repeated]
    exact hasRepeatMark_of_not_mem htilde

/-- Two tildes that stand together are tildes: a repeated line is suppressed as well. -/
theorem Compiled.suppressed_of_repeated (h : line.Compiled) (hrepeated : line.repeated = true) :
    line.suppressed = true := by
  rw [h.suppressed, List.contains_eq_mem, decide_eq_true_eq]
  by_contra hnone
  rw [h.repeated, hasRepeatMark_of_not_mem hnone] at hrepeated
  cases hrepeated

theorem mem_fields {f : Field} : f ∈ line.fields ↔ .field f ∈ line.segments := by
  unfold fields
  rw [List.mem_filterMap]
  constructor
  · rintro ⟨segment, hs, hf⟩
    cases segment with
    | literal t => cases hf
    | field g =>
      obtain rfl := Option.some.inj hf
      exact hs
  · exact fun hf => ⟨.field f, hf, rfl⟩

theorem Compiled.chomp (h : line.Compiled) (hcaret : '^' ∉ line.source) {f : Field}
    (hf : f ∈ line.fields) : f.chomp = false := by
  cases hc : f.chomp with
  | false => rfl
  | true => exact absurd (h.drawn.chomps f (mem_fields.mp hf) hc) hcaret

/-- A line whose variables are named is `Compiled`. -/
theorem ofSource_compiled {raw : Text} (h : ofSource raw = .ok line) {names : List String}
    (hnames : names.length = line.fields.length) :
    ({ line with names } : PictureLine).Compiled ∧ line.source = raw ∧ line.names = [] := by
  obtain ⟨segments, hsegments, hline⟩ := bind_eq_ok.mp h
  cases hline
  exact ⟨⟨Segment.ofLine_drawn hsegments, rfl, rfl, hnames⟩, rfl, rfl⟩

end PictureLine

namespace Spec

theorem expectNames_length {expected : Nat} {raw : Text} {names : List String}
    (h : expectNames expected raw = .ok names) : names.length = expected := by
  unfold expectNames at h
  by_cases hlength : ((namesOf raw).length : Int) = (expected : Int)
  · simp only [hlength, if_true] at h
    cases h
    exact Int.ofNat.inj hlength
  · simp only [hlength, if_false] at h
    cases h

/-- A line that waits for its names is `Compiled` when they are found. -/
theorem picturesFrom_compiled {raws all : List Text} {pending : Option PictureLine}
    {lines : List PictureLine} (h : picturesFrom pending raws = .ok lines) (hraws : raws ⊆ all)
    (hpending : ∀ line ∈ pending, ∃ raw ∈ all, PictureLine.ofSource raw = .ok line) :
    ∀ line ∈ lines, line.Compiled ∧ line.source ∈ all := by
  -- on the lines, with the picture line before them that waits for its names, if one does
  induction raws generalizing pending lines with
  | nil =>
    cases pending with
    | none =>
      cases h
      exact fun line hl => absurd hl List.not_mem_nil
    | some line => cases h
  | cons raw rest ih =>
    rw [List.cons_subset] at hraws
    obtain ⟨hraw, hrest⟩ := hraws
    unfold picturesFrom at h
    by_cases hcomment : isComment raw = true
    · rw [if_pos hcomment] at h
      exact ih h hrest hpending
    · rw [if_neg hcomment] at h
      cases pending with
      | some line =>
        obtain ⟨written, hwritten, hsource⟩ := hpending line rfl
        obtain ⟨names, hnames, h⟩ := bind_eq_ok.mp h
        obtain ⟨others, hothers, h⟩ := bind_eq_ok.mp h
        cases h
        rw [List.forall_mem_cons]
        refine ⟨?_, ih hothers hrest (by simp)⟩
        obtain ⟨hcompiled, hs, -⟩ := PictureLine.ofSource_compiled hsource (expectNames_length hnames)
        exact ⟨hcompiled, by rw [← hs] at hwritten; exact hwritten⟩
      | none =>
        obtain ⟨line, hsource, h⟩ := bind_eq_ok.mp h
        by_cases hfields : line.fields.isEmpty = true
        · rw [if_pos hfields] at h
          obtain ⟨others, hothers, h⟩ := bind_eq_ok.mp h
          cases h
          rw [List.forall_mem_cons]
          refine ⟨?_, ih hothers hrest (by simp)⟩
          have hlength : ([] : List String).length = line.fields.length := by
            rw [List.isEmpty_iff.mp hfields]
            rfl
          obtain ⟨hcompiled, hs, hnames⟩ := PictureLine.ofSource_compiled hsource hlength
          rw [← hnames] at hcompiled
          exact ⟨hcompiled, by rw [hs]; exact hraw⟩
        · rw [if_neg hfields] at h
          refine ih h hrest ?_
          rintro waiting hwaiting
          obtain rfl := Option.some.inj hwaiting
          exact ⟨raw, hraw, hsource⟩

/-- Every line of a compiled specification is compiled from one of its lines. -/
theorem compile_compiled {spec : Spec} {lines : List PictureLine} (h : spec.compile = .ok lines) :
    ∀ line ∈ lines, line.Compiled ∧ line.source ∈ spec.lines :=
  picturesFrom_compiled h (List.Subset.refl _) (by simp)

/-- No literal text of a compiled line has a character that ends a line. -/
theorem unbroken_of_literal {spec : Spec} {lines : List PictureLine} (hspec : spec.compile = .ok lines)
    {line : PictureLine} (hl : line ∈ lines) {t : Text} (ht : .literal t ∈ line.segments) :
    ∀ c ∈ t, Text.isBreak c = false := by
  intro c hc
  obtain ⟨hcompiled, hsource⟩ := compile_compiled hspec line hl
  obtain hc | rfl := hcompiled.drawn.literals t ht c hc
  · exact isBreak_of_mem_lines hsource hc
  · decide

end Spec

end PictureReport
