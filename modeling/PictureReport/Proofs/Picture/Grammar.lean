import PictureReport.Proofs.Picture.Compiled
import PictureReport.Proofs.Picture.Names

/-!
# The grammar of specifications

A specification without its comments is a sequence of picture lines, each one with fields followed by the
line that names them.  `Grammar` says this of lines and the pictures that they give, and `Offends` says
what is wrong with lines that begin otherwise.  Compiling a specification succeeds just with the pictures
of its grammar and fails just with the first offence, and the pictures can be written as a specification
that gives them again (`compile_grammar`).
-/

namespace PictureReport

/-! ## Lines that are refused -/

theorem Segment.ofPieces_error {line : Text} {pieces : List (Char × Text)} {fault : Fault}
    (h : ofPieces line pieces = .error fault) : ∃ fragment, fault = .malformedField fragment (some line) := by
  induction pieces with
  | nil => cases h
  | cons piece others ih =>
    obtain ⟨start, tail⟩ := piece
    simp only [ofPieces, readField, bind, Except.bind] at h
    cases hothers : ofPieces line others with
    | error other =>
      rw [hothers] at h
      cases h
      exact ih hothers
    | ok following =>
      rw [hothers] at h
      cases hshape : Shape.read? tail with
      | none =>
        rw [hshape] at h
        cases h
        exact ⟨_, rfl⟩
      | some found =>
        rw [hshape] at h
        cases h

/-- A picture line is refused for a malformed field, and the fault names the line. -/
theorem PictureLine.ofSource_error {raw : Text} {fault : Fault} (h : ofSource raw = .error fault) :
    ∃ fragment, fault = .malformedField fragment (some raw) := by
  cases hpieces : Segment.ofPieces raw (Segment.pieces raw).2 with
  | error other =>
    simp only [ofSource, Segment.ofLine, hpieces, bind, Except.bind] at h
    cases h
    exact Segment.ofPieces_error hpieces
  | ok segments =>
    simp only [ofSource, Segment.ofLine, hpieces, bind, Except.bind] at h
    cases h

namespace Spec

/-! ## The grammar -/

/-- The lines that are no comments. -/
def written (spec : Spec) : List Text := spec.lines.filter fun raw => ¬ isComment raw

/-- The lines give the pictures: each is a picture line, and the line after one with fields names as many
variables. -/
inductive Grammar : List Text → List PictureLine → Prop where
  | nil : Grammar [] []
  | plain {raw : Text} {raws : List Text} {line : PictureLine} {lines : List PictureLine} :
    PictureLine.ofSource raw = .ok line → line.fields = [] → Grammar raws lines →
      Grammar (raw :: raws) (line :: lines)
  | named {raw below : Text} {raws : List Text} {line : PictureLine} {lines : List PictureLine} :
    PictureLine.ofSource raw = .ok line → line.fields ≠ [] →
      (namesOf below).length = line.fields.length → Grammar raws lines →
      Grammar (raw :: below :: raws) ({ line with names := namesOf below } :: lines)

/-- The lines begin with one that is wrong, for which there is the fault: a picture line with a malformed
field, or one with fields before a line that holds another number of names, or before none. -/
inductive Offends : List Text → Fault → Prop where
  | picture {raw fragment : Text} {raws : List Text} :
    PictureLine.ofSource raw = .error (.malformedField fragment (some raw)) →
      Offends (raw :: raws) (.malformedField fragment (some raw))
  | names {raw below : Text} {raws : List Text} {line : PictureLine} :
    PictureLine.ofSource raw = .ok line → line.fields ≠ [] →
      (namesOf below).length ≠ line.fields.length →
      Offends (raw :: below :: raws)
        (.arity line.fields.length (namesOf below).length (.nameLine below))
  | owed {raw : Text} {line : PictureLine} :
    PictureLine.ofSource raw = .ok line → line.fields ≠ [] →
      Offends [raw] (.arity line.fields.length 0 (.noNameLine raw))

/-- Comments make no difference to `picturesFrom`, be it before a picture line or before a line of names. -/
theorem picturesFrom_filter (pending : Option PictureLine) (raws : List Text) :
    picturesFrom pending (raws.filter fun raw => ¬ isComment raw) = picturesFrom pending raws := by
  induction raws generalizing pending with
  | nil => rfl
  | cons raw rest ih =>
    by_cases hcomment : isComment raw = true
    · rw [List.filter_cons_of_neg (by simpa using hcomment), ih]
      simp only [picturesFrom, hcomment, if_true]
    · rw [List.filter_cons_of_pos (by simpa using hcomment)]
      simp only [picturesFrom, hcomment, ih]

section Lines

variable {raw below : Text} {raws rest : List Text} {line : PictureLine} {lines : List PictureLine}
variable {fault : Fault}

/-! ### One line -/

theorem picturesFrom_refused (hraw : isComment raw = false) (h : PictureLine.ofSource raw = .error fault) :
    picturesFrom none (raw :: raws) = .error fault := by
  simp only [picturesFrom, hraw, h]
  rfl

theorem picturesFrom_plain (hraw : isComment raw = false) (h : PictureLine.ofSource raw = .ok line)
    (hfields : line.fields = []) :
    picturesFrom none (raw :: raws) = (line :: ·) <$> picturesFrom none raws := by
  simp only [picturesFrom, hraw, h, bind, Except.bind, hfields, List.isEmpty_nil, if_true]
  rfl

/-- A picture line with fields waits for the next line. -/
theorem picturesFrom_waiting (hraw : isComment raw = false) (h : PictureLine.ofSource raw = .ok line)
    (hfields : line.fields ≠ []) : picturesFrom none (raw :: raws) = picturesFrom (some line) raws := by
  have hnonempty : line.fields.isEmpty = false := by simpa using hfields
  simp only [picturesFrom, hraw, h, bind, Except.bind, hnonempty]
  rfl

theorem picturesFrom_named (hbelow : isComment below = false)
    (hlength : (namesOf below).length = line.fields.length) :
    picturesFrom (some line) (below :: raws) =
      (({ line with names := namesOf below } : PictureLine) :: ·) <$> picturesFrom none raws := by
  simp only [picturesFrom, hbelow, expectNames, hlength, if_true, bind, Except.bind]
  rfl

theorem picturesFrom_misnamed (hbelow : isComment below = false)
    (hlength : (namesOf below).length ≠ line.fields.length) :
    picturesFrom (some line) (below :: raws) =
      .error (.arity line.fields.length (namesOf below).length (.nameLine below)) := by
  have hcount : ¬ ((namesOf below).length : Int) = line.fields.length :=
    fun h => hlength (Int.ofNat.inj h)
  simp only [picturesFrom, hbelow, expectNames, hcount, if_false, bind, Except.bind]
  rfl

theorem picturesFrom_owed (h : PictureLine.ofSource raw = .ok line) :
    picturesFrom (some line) [] = .error (.arity line.fields.length 0 (.noNameLine raw)) := by
  obtain ⟨segments, -, hline⟩ := bind_eq_ok.mp h
  cases hline
  rfl

/-! ### All lines -/

theorem Offends.picturesFrom (h : Offends raws fault) (hraws : ∀ raw ∈ raws, isComment raw = false) :
    picturesFrom none raws = .error fault := by
  cases h with
  | picture hsource => exact picturesFrom_refused (hraws _ List.mem_cons_self) hsource
  | names hsource hfields hlength =>
    rw [List.forall_mem_cons, List.forall_mem_cons] at hraws
    rw [picturesFrom_waiting hraws.1 hsource hfields, picturesFrom_misnamed hraws.2.1 hlength]
  | owed hsource hfields =>
    rw [picturesFrom_waiting (hraws _ List.mem_cons_self) hsource hfields, picturesFrom_owed hsource]

/-- Behind lines of the `Grammar` compiling starts anew. -/
theorem Grammar.picturesFrom_append (h : Grammar raws lines) (hraws : ∀ raw ∈ raws, isComment raw = false)
    (rest : List Text) :
    Spec.picturesFrom none (raws ++ rest) = (lines ++ ·) <$> Spec.picturesFrom none rest := by
  -- on the derivation: each of its lines is compiled in one step, or with the names below it in two
  induction h with
  | nil =>
    rw [List.nil_append]
    exact (id_map (Spec.picturesFrom none rest)).symm
  | plain hsource hfields _ ih =>
    rw [List.forall_mem_cons] at hraws
    rw [List.cons_append, picturesFrom_plain hraws.1 hsource hfields, ih hraws.2]
    exact (comp_map _ _ (Spec.picturesFrom none rest)).symm
  | named hsource hfields hlength _ ih =>
    rw [List.forall_mem_cons, List.forall_mem_cons] at hraws
    rw [List.cons_append, List.cons_append, picturesFrom_waiting hraws.1 hsource hfields,
      picturesFrom_named hraws.2.1 hlength, ih hraws.2.2]
    exact (comp_map _ _ (Spec.picturesFrom none rest)).symm

theorem Grammar.picturesFrom (h : Grammar raws lines) (hraws : ∀ raw ∈ raws, isComment raw = false) :
    picturesFrom none raws = .ok lines := by
  have happend := h.picturesFrom_append hraws []
  rw [List.append_nil] at happend
  rw [happend]
  exact congrArg Except.ok (List.append_nil lines)

end Lines

/-- Lines are in the `Grammar` up to their end or up to the first one that `Offends`. -/
theorem grammar_until : ∀ raws : List Text, ∃ accepted rest lines,
    raws = accepted ++ rest ∧ Grammar accepted lines ∧ (rest = [] ∨ ∃ fault, Offends rest fault)
  | [] => ⟨[], [], [], rfl, .nil, .inl rfl⟩
  | [raw] => by
    cases hsource : PictureLine.ofSource raw with
    | error fault =>
      obtain ⟨fragment, rfl⟩ := PictureLine.ofSource_error hsource
      exact ⟨[], [raw], [], rfl, .nil, .inr ⟨_, .picture hsource⟩⟩
    | ok line =>
      by_cases hfields : line.fields = []
      · exact ⟨[raw], [], [line], rfl, .plain hsource hfields .nil, .inl rfl⟩
      · exact ⟨[], [raw], [], rfl, .nil, .inr ⟨_, .owed hsource hfields⟩⟩
  | raw :: below :: raws => by
    cases hsource : PictureLine.ofSource raw with
    | error fault =>
      obtain ⟨fragment, rfl⟩ := PictureLine.ofSource_error hsource
      exact ⟨[], raw :: below :: raws, [], rfl, .nil, .inr ⟨_, .picture hsource⟩⟩
    | ok line =>
      by_cases hfields : line.fields = []
      · obtain ⟨accepted, rest, lines, hraws, hlines, hrest⟩ := grammar_until (below :: raws)
        refine ⟨raw :: accepted, rest, line :: lines, ?_, .plain hsource hfields hlines, hrest⟩
        rw [hraws, List.cons_append]
      · by_cases hlength : (namesOf below).length = line.fields.length
        · obtain ⟨accepted, rest, lines, hraws, hlines, hrest⟩ := grammar_until raws
          have hnamed := Grammar.named hsource hfields hlength hlines
          refine ⟨raw :: below :: accepted, rest, _, ?_, hnamed, hrest⟩
          rw [hraws, List.cons_append, List.cons_append]
        · exact ⟨[], raw :: below :: raws, [], rfl, .nil, .inr ⟨_, .names hsource hfields hlength⟩⟩

/-! ## Compiling -/

section Compiling

variable {spec : Spec} {lines : List PictureLine} {fault : Fault}

theorem not_comment_of_mem_written {raw : Text} (h : raw ∈ spec.written) : isComment raw = false := by
  simpa using (List.mem_filter.mp h).2

theorem compile_eq (spec : Spec) : spec.compile = picturesFrom none spec.written :=
  (picturesFrom_filter none spec.lines).symm

/-- Compiling fails where the `Grammar` is left, with what is wrong there. -/
theorem compile_of_offends {accepted rest : List Text} (hwritten : spec.written = accepted ++ rest)
    (h : Grammar accepted lines) (hoffends : Offends rest fault) : spec.compile = .error fault := by
  have hcomments : ∀ raw ∈ accepted ++ rest, isComment raw = false := by
    rw [← hwritten]
    exact fun raw hraw => not_comment_of_mem_written hraw
  rw [List.forall_mem_append] at hcomments
  rw [compile_eq, hwritten, h.picturesFrom_append hcomments.1, hoffends.picturesFrom hcomments.2]
  rfl

theorem compile_of_grammar (h : Grammar spec.written lines) : spec.compile = .ok lines := by
  rw [compile_eq]
  exact h.picturesFrom fun raw hraw => not_comment_of_mem_written hraw

theorem compile_eq_ok : spec.compile = .ok lines ↔ Grammar spec.written lines := by
  refine ⟨fun h => ?_, compile_of_grammar⟩
  obtain ⟨accepted, rest, others, hwritten, hothers, rfl | ⟨fault, hoffends⟩⟩ := grammar_until spec.written
  · rw [List.append_nil] at hwritten
    rw [← hwritten] at hothers
    have hcompile := compile_of_grammar hothers
    rw [h] at hcompile
    obtain rfl := Except.ok.inj hcompile
    exact hothers
  · have hcompile := compile_of_offends hwritten hothers hoffends
    rw [h] at hcompile
    cases hcompile

theorem compile_eq_error : spec.compile = .error fault ↔
    ∃ accepted rest lines, spec.written = accepted ++ rest ∧ Grammar accepted lines ∧
      Offends rest fault := by
  refine ⟨fun h => ?_, fun ⟨accepted, rest, lines, hwritten, hlines, hoffends⟩ =>
    compile_of_offends hwritten hlines hoffends⟩
  obtain ⟨accepted, rest, others, hwritten, hothers, rfl | ⟨other, hoffends⟩⟩ := grammar_until spec.written
  · rw [List.append_nil] at hwritten
    rw [← hwritten] at hothers
    have hcompile := compile_of_grammar hothers
    rw [h] at hcompile
    cases hcompile
  · have hcompile := compile_of_offends hwritten hothers hoffends
    rw [h] at hcompile
    obtain rfl := Except.error.inj hcompile
    exact ⟨accepted, rest, others, hwritten, hothers, hoffends⟩

/-! ## Writing pictures back -/

/-- Where compiling succeeds, each field of a line is bound to a name. -/
theorem bindings_of_compile (h : spec.compile = .ok lines) :
    ∀ line ∈ lines, line.names.length = line.fields.length ∧
      line.bindings = .ok (line.fields.zip line.names) := by
  intro line hl
  have hnames := (compile_compiled h line hl).1.names
  exact ⟨hnames, if_pos hnames.symm⟩

end Compiling

end Spec

/-- A picture line as it is written, with its names below it if it has fields. -/
def PictureLine.sources (line : PictureLine) : List Text :=
  if line.fields.isEmpty then [line.source] else [line.source, Spec.nameLine line.names]

namespace Spec

/-- The pictures as a specification, without comments. -/
def ofPictures (lines : List PictureLine) : Spec := .chunks (lines.flatMap PictureLine.sources)

section Writing

variable {spec : Spec} {raws : List Text} {lines : List PictureLine}

/-- Chunks without separators of lines are the lines. -/
theorem lines_chunks {ts : List Text} (h : ∀ t ∈ ts, ∀ c ∈ t, Text.isBreak c = false) :
    (Spec.chunks ts).lines = ts := by
  have hchunk : ∀ t ∈ ts, (if t.isEmpty then [[]] else t.lines) = [t] := by
    intro t ht
    by_cases hempty : t.isEmpty = true
    · rw [if_pos hempty, List.isEmpty_iff.mp hempty]
    · rw [if_neg hempty]
      exact Text.lines_of_unbroken (fun hnil => hempty (List.isEmpty_iff.mpr hnil)) (h t ht)
  change ts.flatMap (fun t => if t.isEmpty then [[]] else t.lines) = ts
  rw [List.flatMap_congr hchunk]
  exact List.flatMap_singleton' ts

theorem sources_plain {raw : Text} {line : PictureLine} (h : PictureLine.ofSource raw = .ok line)
    (hfields : line.fields = []) : line.sources = [raw] := by
  obtain ⟨segments, -, hline⟩ := bind_eq_ok.mp h
  unfold PictureLine.sources
  rw [hfields]
  cases hline
  rfl

theorem sources_named {raw : Text} {line : PictureLine} (h : PictureLine.ofSource raw = .ok line)
    (hfields : line.fields ≠ []) (names : List String) :
    PictureLine.sources { line with names } = [raw, nameLine names] := by
  obtain ⟨segments, -, hline⟩ := bind_eq_ok.mp h
  have hnonempty : PictureLine.fields { line with names } ≠ [] := hfields
  unfold PictureLine.sources
  rw [if_neg (by simpa using hnonempty)]
  cases hline
  rfl

/-- The `sources` of pictures give the pictures. -/
theorem Grammar.sources (h : Grammar raws lines) : Grammar (lines.flatMap PictureLine.sources) lines := by
  induction h with
  | nil => exact .nil
  | plain hsource hfields _ ih =>
    rw [List.flatMap_cons, sources_plain hsource hfields]
    exact .plain hsource hfields ih
  | @named raw below raws line lines hsource hfields hlength _ ih =>
    have hne : namesOf below ≠ [] := by
      intro hnil
      rw [hnil] at hlength
      exact hfields (List.length_eq_zero_iff.mp hlength.symm)
    have hnames : namesOf (nameLine (namesOf below)) = namesOf below :=
      namesOf_nameLine (namesOf_names below) hne
    have hnamed := Grammar.named hsource hfields (hnames.symm ▸ hlength) ih
    rw [hnames] at hnamed
    rw [List.flatMap_cons, sources_named hsource hfields]
    exact hnamed

/-- Each line of `sources` is one of the lines or holds the names of one. -/
theorem Grammar.mem_sources (h : Grammar raws lines) {t : Text}
    (ht : t ∈ lines.flatMap PictureLine.sources) :
    t ∈ raws ∨ ∃ below ∈ raws, t = nameLine (namesOf below) := by
  induction h with
  | nil => cases ht
  | plain hsource hfields _ ih =>
    rw [List.flatMap_cons, sources_plain hsource hfields] at ht
    rcases List.mem_cons.mp ht with rfl | ht
    · exact .inl List.mem_cons_self
    · obtain hraw | ⟨below, hbelow, rfl⟩ := ih ht
      · exact .inl (List.mem_cons_of_mem _ hraw)
      · exact .inr ⟨below, List.mem_cons_of_mem _ hbelow, rfl⟩
  | @named raw below raws line lines hsource hfields hlength _ ih =>
    rw [List.flatMap_cons, sources_named hsource hfields] at ht
    rcases List.mem_cons.mp ht with rfl | ht
    · exact .inl List.mem_cons_self
    · rcases List.mem_cons.mp ht with rfl | ht
      · exact .inr ⟨below, by simp, rfl⟩
      · obtain hraw | ⟨other, hother, rfl⟩ := ih ht
        · exact .inl (List.mem_cons_of_mem _ (List.mem_cons_of_mem _ hraw))
        · exact .inr ⟨other, List.mem_cons_of_mem _ (List.mem_cons_of_mem _ hother), rfl⟩

theorem compile_ofPictures (h : spec.compile = .ok lines) : (ofPictures lines).compile = .ok lines := by
  have hgrammar := compile_eq_ok.mp h
  have hunbroken : ∀ t ∈ lines.flatMap PictureLine.sources, ∀ c ∈ t, Text.isBreak c = false := by
    intro t ht c hc
    obtain hraw | ⟨below, hbelow, rfl⟩ := hgrammar.mem_sources ht
    · exact isBreak_of_mem_lines (List.mem_filter.mp hraw).1 hc
    · exact isBreak_of_mem_nameLine (fun d hd => isBreak_of_mem_lines (List.mem_filter.mp hbelow).1 hd) hc
  have hcomments : ∀ t ∈ lines.flatMap PictureLine.sources, isComment t = false := by
    intro t ht
    obtain hraw | ⟨below, -, rfl⟩ := hgrammar.mem_sources ht
    · exact not_comment_of_mem_written hraw
    · exact not_comment_nameLine _
  have hwritten : (ofPictures lines).written = lines.flatMap PictureLine.sources := by
    have hlines : (ofPictures lines).lines = lines.flatMap PictureLine.sources := lines_chunks hunbroken
    unfold written
    rw [hlines]
    exact List.filter_eq_self.mpr fun t ht => by simpa using hcomments t ht
  rw [compile_eq_ok, hwritten]
  exact hgrammar.sources

end Writing

/-! ## The main result -/

/-- Compiling gives the pictures of the lines just if these are in the grammar, and else the fault of the
first line that is not.  The pictures of a specification have a name for each field, and they are the
pictures of what is written of them. -/
theorem compile_grammar (spec : Spec) :
    (∀ lines, spec.compile = .ok lines ↔ Grammar spec.written lines) ∧
      (∀ fault, spec.compile = .error fault ↔
        ∃ accepted rest lines, spec.written = accepted ++ rest ∧ Grammar accepted lines ∧
          Offends rest fault) ∧
      ∀ lines, spec.compile = .ok lines →
        (∀ line ∈ lines, line.names.length = line.fields.length ∧
          line.bindings = .ok (line.fields.zip line.names)) ∧
        (ofPictures lines).compile = .ok lines :=
  ⟨fun _ => compile_eq_ok, fun _ => compile_eq_error,
    fun _ h => ⟨bindings_of_compile h, compile_ofPictures h⟩⟩

/-- Two fields and the line of their names, among comments. -/
def pairSpec : Spec := .text "# a pair\n@<< @<<\n# its names\na ,b,\n".toList

def pair : PictureLine :=
  ⟨[.field ⟨.text .left 3, false⟩, .literal [' '], .field ⟨.text .left 3, false⟩], false, false, ["a", "b"],
    "@<< @<<".toList⟩

theorem compile_grammar_pair : pairSpec.compile = .ok [pair] ∧ Grammar pairSpec.written [pair] ∧
    (∀ line ∈ [pair], line.names.length = line.fields.length ∧
      line.bindings = .ok (line.fields.zip line.names)) ∧
    (ofPictures [pair]).compile = .ok [pair] := by
  have hcompile : pairSpec.compile = .ok [pair] := by rfl
  exact ⟨hcompile, ((compile_grammar pairSpec).1 [pair]).mp hcompile,
    (compile_grammar pairSpec).2.2 [pair] hcompile⟩

end Spec

end PictureReport
