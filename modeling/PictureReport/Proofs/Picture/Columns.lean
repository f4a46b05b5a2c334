import Mathlib.Data.List.Forall2
import PictureReport.Picture.Formatting
import PictureReport.Reading.Records
import PictureReport.Proofs.Composing
import PictureReport.Proofs.Integers

/-!
# The columns of a value

A text field that is wide enough shows its whole text, and a field for whole numbers shows all digits
of an integer.  What the columns of such a field show is read back as the value, also when the blanks
at their end are dropped.
-/

namespace PictureReport

namespace Text

variable {t : Text}

theorem isBlank_of_isBreak {c : Char} (h : isBreak c = true) : isBlank c = true := by
  simp only [isBreak, Bool.or_eq_true, Bool.and_eq_true, decide_eq_true_eq, beq_iff_eq] at h
  simp only [isBlank, Bool.or_eq_true, Bool.and_eq_true, decide_eq_true_eq, beq_iff_eq]
  omega

theorem isBreak_of_mem_spaces {c : Char} {count : Nat} (h : c ∈ spaces count) : isBreak c = false := by
  rw [eq_space_of_mem_spaces h]
  decide

/-- However a text is justified, it stands between spaces. -/
theorem justify_eq (align : Align) {width : Nat} (h : t.length ≤ width) :
    ∃ left right, justify align t width = spaces left ++ t ++ spaces right ∧
      left + t.length + right = width ∧ (align = .left → left = 0) ∧ (align = .right → right = 0) := by
  cases align with
  | left => exact ⟨0, width - t.length, rfl, by omega, fun _ => rfl, fun he => by cases he⟩
  | center =>
    refine ⟨(width - t.length) / 2, width - t.length - (width - t.length) / 2, rfl, by omega, ?_, ?_⟩
    · intro he
      cases he
    · intro he
      cases he
  | right =>
    refine ⟨width - t.length, 0, (List.append_nil _).symm, by omega, ?_, fun _ => rfl⟩
    intro he
    cases he

end Text

theorem FixedPoint.format_whole {f : FixedPoint} (hradix : f.radix = false) (hfraction : f.fraction = 0)
    {t : Text} (hpoint : '.' ∉ t) (hfits : t.length ≤ f.width) :
    ∃ left right, f.format t = .ok (Text.spaces left ++ t ++ Text.spaces right) ∧
      left + t.length + right = f.width := by
  have hwidth : f.width = f.whole := by simp [width, hradix, hfraction, radixWidth]
  unfold format
  by_cases hone : t.length = 1
  · rw [if_pos hone]
    exact ⟨0, f.width - t.length, rfl, by omega⟩
  · rw [if_neg hone]
    refine ⟨f.width - t.length, 0, ?_, by omega⟩
    have hshort : ¬ f.whole < t.length := by omega
    simp only [Text.separate_of_not_mem hpoint, List.headD_cons, hshort, if_false, hfraction, hradix,
      radixWidth, Bool.false_eq_true, if_true, bind, Except.bind, pure, Except.pure, List.append_nil]
    exact congrArg Except.ok (List.append_nil _).symm

namespace Field

variable {f : Field} {value : Value}

/-- Is the field one for texts or for whole numbers? -/
def IsReadable (f : Field) : Prop :=
  match f.shape with
  | .text _ _ => True
  | .fixed number => number.radix = false
  | _ => False

/-- The field neither cuts a text and keeps the rest nor rounds a number. -/
structure IsExact (f : Field) : Prop where
  readable : f.IsReadable
  chomp : f.chomp = false
  pointless : ∀ number, f.shape = .fixed number → number.radix = false → number.fraction = 0

/-- The field shows the whole value, and its padding can be told from the value.  Only integers with not too
many digits have a text. -/
def Holds (f : Field) (value : Value) : Prop :=
  match f.shape, value with
  | .text align width, .text t =>
    t.length ≤ width ∧ (∀ c ∈ t, Text.isBreak c = false) ∧ Text.IsTrimmed t ∧
      (align = .center → Text.IsSingleSpaced t)
  | .fixed number, .int i =>
    (decimalDigits i.natAbs).length ≤ Numeral.maxDigits ∧ (integerText i).length ≤ number.width
  | _, _ => False

/-- `shown` is the value in the columns of the field: it is read back as the value, also without the blanks at
its end. -/
structure Shows (f : Field) (value : Value) (shown : Text) : Prop where
  width : shown.length = f.width
  unbroken : ∀ c ∈ shown, Text.isBreak c = false
  reads : f.valueOf shown = .ok value
  trimmed : value.shown ≠ [] → f.valueOf shown.trimRight = .ok value
  visible : value.shown ≠ [] → ¬ Text.AllBlank shown

theorem IsReadable.radix (h : f.IsReadable) {number : FixedPoint} (hs : f.shape = .fixed number) :
    number.radix = false := by
  unfold IsReadable at h
  rw [hs] at h
  exact h

theorem Holds.hasText (h : f.Holds value) : value.HasText := by
  unfold Holds at h
  split at h
  · exact Value.hasText_text _
  · exact Value.hasText_int.mpr h.1
  · exact h.elim

theorem Holds.isTrimmed (h : f.Holds value) : Text.IsTrimmed value.shown := by
  unfold Holds at h
  split at h
  · exact h.2.2.1
  · exact Numeral.isTrimmed_integerText _
  · exact h.elim

theorem Holds.unbroken (h : f.Holds value) : ∀ c ∈ value.shown, Text.isBreak c = false := by
  unfold Holds at h
  split at h
  · exact h.2.1
  · intro c hc
    have hblank := Numeral.isBlank_of_mem_integerText hc
    cases hbreak : Text.isBreak c with
    | false => rfl
    | true =>
      rw [Text.isBlank_of_isBreak hbreak] at hblank
      cases hblank
  · exact h.elim

/-- The spaces around a value do not change what `valueOf` reads, but a left-justified text may have none
before it and a right-justified one none after it. -/
theorem Holds.valueOf (hreadable : f.IsReadable) (h : f.Holds value) {left right : Nat}
    (hleft : ∀ width, f.shape = .text .left width → left = 0)
    (hright : ∀ width, f.shape = .text .right width → right = 0) :
    f.valueOf (Text.spaces left ++ value.shown ++ Text.spaces right) = .ok value := by
  have htrimmed := h.isTrimmed
  unfold Holds at h
  split at h
  · rename_i align width t hs
    obtain ⟨-, -, -, hspaced⟩ := h
    have hshown : (Value.text t).shown = t := rfl
    rw [hshown] at htrimmed ⊢
    unfold Field.valueOf
    rw [hs]
    cases align with
    | left =>
      obtain rfl := hleft width hs
      have hdrop := Text.dropEnd_append_spaces htrimmed.2 right
      exact congrArg (fun u => Except.ok (Value.text u)) hdrop
    -- a centred text is read as its words, which the spaces around it do not change
    | center =>
      have hwords : (Text.spaces left ++ t ++ Text.spaces right).words = t.words := by
        rw [Text.words_append_allBlank (Text.allBlank_spaces right),
          Text.allBlank_append_words (Text.allBlank_spaces left)]
      simp only [hwords, Text.joinWith_words htrimmed (hspaced rfl)]
    | right =>
      obtain rfl := hright width hs
      have hdrop := Text.dropWhile_spaces_append htrimmed.1 left
      rw [show Text.spaces 0 = [] from rfl, List.append_nil]
      exact congrArg (fun u => Except.ok (Value.text u)) hdrop
  · rename_i number i hs
    have hshown : (Value.int i).shown = integerText i := rfl
    rw [hshown] at htrimmed ⊢
    have htrim : (Text.spaces left ++ integerText i ++ Text.spaces right).trim = integerText i :=
      Text.trim_of_isTrimmed htrimmed (Text.allBlank_spaces left) (Text.allBlank_spaces right)
    have hsome : (integerText i).isEmpty = false := by
      simpa using Numeral.integerText_ne_nil i
    have hradix := hreadable.radix hs
    unfold Field.valueOf
    rw [hs]
    simp only [Shape.hasRadix, hradix, Value.ofNumeral, htrim, hsome, Bool.false_eq_true, if_false,
      Numeral.integer_integerText h.1]
  · exact h.elim

theorem Holds.shows (hreadable : f.IsReadable) (h : f.Holds value) {left right : Nat}
    (hwidth : left + value.shown.length + right = f.width)
    (hleft : ∀ width, f.shape = .text .left width → left = 0)
    (hright : ∀ width, f.shape = .text .right width → right = 0) :
    f.Shows value (Text.spaces left ++ value.shown ++ Text.spaces right) := by
  have hvisible : value.shown ≠ [] → ¬ Text.AllBlank (Text.spaces left ++ value.shown) := by
    intro hne hblank
    exact Text.not_allBlank_of_last hne h.isTrimmed.2 fun c hc => hblank c (List.mem_append_right _ hc)
  refine ⟨?_, ?_, h.valueOf hreadable hleft hright, fun hne => ?_, fun hne hblank => ?_⟩
  · simp only [List.length_append, Text.length_spaces]
    exact hwidth
  · intro c hc
    rcases List.mem_append.mp hc with hc | hc
    · rcases List.mem_append.mp hc with hc | hc
      · exact Text.isBreak_of_mem_spaces hc
      · exact h.unbroken c hc
    · exact Text.isBreak_of_mem_spaces hc
  · have hvalue : f.valueOf (Text.spaces left ++ value.shown ++ Text.spaces 0) = .ok value :=
      h.valueOf hreadable hleft fun _ _ => rfl
    have hlast : ∀ c ∈ (Text.spaces left ++ value.shown).getLast?, isBlank c = false := by
      intro c hc
      rw [List.getLast?_append_of_ne_nil _ hne] at hc
      exact h.isTrimmed.2 c hc
    rw [Text.trimRight_append_blank (Text.allBlank_spaces right), Text.trimRight_of_last hlast]
    rw [show Text.spaces 0 = [] from rfl, List.append_nil] at hvalue
    exact hvalue
  · exact hvisible hne fun c hc => hblank c (List.mem_append_left _ hc)

/-- A value that the field `Holds` is shown without warnings, and nothing of it is left. -/
theorem IsExact.format (hexact : f.IsExact) (h : f.Holds value) (page : Int) (writable : Bool) :
    ∃ shown, f.format value page writable = .ok ⟨shown, none, []⟩ ∧ f.Shows value shown := by
  obtain ⟨hreadable, hchomp, hpointless⟩ := hexact
  have hholds := h
  unfold Holds at h
  split at h
  · rename_i align width t hs
    obtain ⟨left, right, hjustify, hwidth, hleft, hright⟩ := Text.justify_eq align h.1
    refine ⟨Text.spaces left ++ t ++ Text.spaces right, ?_, hholds.shows hreadable ?_ ?_ ?_⟩
    · have htake : (Value.text t).shown.take width = t := List.take_of_length_le h.1
      refine Field.format_eq_ok.mpr ⟨Field.obstacle_eq (by simp [hs]) _ _, ?_⟩
      simp only [Field.fit, Field.textFor, hs, hchomp, Bool.false_and, Bool.false_eq_true, if_false, htake,
        hjustify]
    · rw [Field.width, hs]
      exact hwidth
    · intro _ he
      rw [hs] at he
      cases he
      exact hleft rfl
    · intro _ he
      rw [hs] at he
      cases he
      exact hright rfl
  · rename_i number i hs
    have hradix := hreadable.radix hs
    have hpoint : '.' ∉ integerText i := by
      intro hc
      obtain he | hd := Numeral.mem_integerText hc
      · cases he
      · exact absurd hd (by decide)
    obtain ⟨left, right, hformat, hwidth⟩ :=
      FixedPoint.format_whole hradix (hpointless number hs hradix) hpoint h.2
    refine ⟨Text.spaces left ++ integerText i ++ Text.spaces right, ?_,
      hholds.shows hreadable ?_ ?_ ?_⟩
    · have hplain : (Value.int i).shownPlain = integerText i := rfl
      have hobstacle : f.obstacle (.int i) page = none :=
        (Field.obstacle_eq (by simp [hs]) _ _).trans (Value.hasText_int.mpr h.1)
      refine Field.format_eq_ok.mpr ⟨hobstacle, ?_⟩
      simp only [Field.fit, Field.textFor, hs, hplain, hformat, bind, Except.bind, pure, Except.pure]
    · rw [Field.width, hs]
      exact hwidth
    · intro _ he
      rw [hs] at he
      cases he
    · intro _ he
      rw [hs] at he
      cases he
  · exact h.elim

end Field

/-! ## Rows -/

/-- The text of segments whose fields show `values`, each in its columns. -/
inductive Row : List Segment → List Value → Text → Prop
  | nil : Row [] [] []
  | literal (t : Text) {segments : List Segment} {values : List Value} {row : Text} :
    Row segments values row → Row (.literal t :: segments) values (t ++ row)
  | field {f : Field} {value : Value} {shown : Text} {segments : List Segment} {values : List Value}
    {row : Text} : f.Shows value shown → Row segments values row →
    Row (.field f :: segments) (value :: values) (shown ++ row)

/-- Each field of a line `Holds` what its variable shows. -/
def PictureLine.Holds (line : PictureLine) (record : Record) : Prop :=
  List.Forall₂ (fun (f : Field) name => f.Holds (Record.resolve record name)) line.fields line.names

section Composing

variable {record : Record} {desk : Desk}

theorem Desk.read_holds (hsource : desk.journal.source = ⟨.mapping, record⟩) {f : Field} {name : String}
    (h : f.Holds (Record.resolve record name)) :
    Ends (Desk.read name) desk (fun value after => value = Record.resolve record name ∧ after = desk)
      fun _ _ => False := by
  have hget : desk.journal.get name = .ok (Record.resolve record name) := by
    simp [Journal.get, Source.get, hsource]
  have htext : (Record.resolve record name).obstacle = none := h.hasText
  simp only [Desk.read, ends_bind, ends_get, hget, htext]
  exact ⟨rfl, rfl⟩

theorem Desk.texts_holds (hsource : desk.journal.source = ⟨.mapping, record⟩) {fields : List Field}
    {names : List String}
    (h : List.Forall₂ (fun (f : Field) name => f.Holds (Record.resolve record name)) fields names) :
    Ends (Desk.texts names) desk (fun _ after => after = desk) fun _ _ => False := by
  induction h with
  | nil => rfl
  | cons hf _ ih =>
    simp only [Desk.texts, ends_bind]
    refine (Desk.read_holds hsource hf).mono ?_ fun _ _ h => h
    rintro value after ⟨-, rfl⟩
    exact ih.mono (fun _ _ h => h) fun _ _ h => h

namespace PictureLine

theorem composeField_shows (hsource : desk.journal.source = ⟨.mapping, record⟩) {f : Field}
    (hexact : f.IsExact) {name : String} (h : f.Holds (Record.resolve record name)) (page : Int) :
    Ends (composeField page f name) desk
      (fun made after => f.Shows (Record.resolve record name) made.1 ∧ after.journal = desk.journal)
      fun _ _ => False := by
  obtain ⟨shown, hformat, hshows⟩ := hexact.format h page true
  simp only [composeField, ends_bind]
  refine (Desk.read_holds hsource h).mono ?_ fun _ _ h => h
  rintro value after ⟨rfl, rfl⟩
  simp only [hformat, Desk.warn, ends_bind, ends_modify, ends_pure]
  exact ⟨hshows, trivial⟩

theorem composeSegments_row {segments : List Segment} (hexact : ∀ f, .field f ∈ segments → f.IsExact)
    {names : List String} (h : List.Forall₂ (fun (f : Field) name => f.Holds (Record.resolve record name))
      (segments.filterMap Segment.field?) names) (page : Int) :
    ∀ {desk : Desk}, desk.journal.source = ⟨.mapping, record⟩ →
      Ends (composeSegments page segments names) desk
        (fun made after => Row segments (names.map (Record.resolve record)) made.1 ∧
          after.journal = desk.journal)
        fun _ _ => False := by
  -- on the segments; each field is shown from the record, which composing it does not change
  induction segments generalizing names with
  | nil =>
    intro desk hsource
    cases h
    exact ⟨.nil, rfl⟩
  | cons segment segments ih =>
    intro desk hsource
    have hlater : ∀ f, .field f ∈ segments → f.IsExact :=
      fun f hf => hexact f (List.mem_cons_of_mem _ hf)
    cases segment with
    | literal t =>
      simp only [composeSegments, ends_bind]
      refine (ih hlater h hsource).mono ?_ fun _ _ h => h
      rintro ⟨row, blank⟩ after ⟨hrow, hjournal⟩
      exact ⟨.literal t hrow, hjournal⟩
    | field f =>
      cases h with
      | cons hf hrest =>
        simp only [composeSegments, ends_bind]
        refine (composeField_shows hsource (hexact f List.mem_cons_self) hf page).mono ?_ fun _ _ h => h
        rintro ⟨shown, empty⟩ middle ⟨hshown, hmiddle⟩
        refine (ih hlater hrest (by rw [hmiddle]; exact hsource)).mono ?_ fun _ _ h => h
        rintro ⟨row, blank⟩ after ⟨hrow, hafter⟩
        exact ⟨.field hshown hrow, hafter.trans hmiddle⟩

/-- A plain line with exact fields is composed to its `Row`, without the blanks at its end. -/
theorem compose_row {line : PictureLine} (hplain : line.IsPlain) (hexact : ∀ f ∈ line.fields, f.IsExact)
    (h : line.Holds record) (hsource : desk.journal.source = ⟨.mapping, record⟩) (page : Int) :
    Ends (line.compose page) desk
      (fun shown after => (∃ row, Row line.segments (line.names.map (Record.resolve record)) row ∧
        shown = some row.trimRight) ∧ after.journal = desk.journal)
      fun _ _ => False := by
  have hbindings : line.bindings = .ok (line.fields.zip line.names) := if_pos h.length_eq
  have hsegments : ∀ f, .field f ∈ line.segments → f.IsExact :=
    fun f hf => hexact f (List.mem_filterMap.mpr ⟨.field f, hf, rfl⟩)
  simp only [compose, hbindings, ends_bind]
  refine (composeSegments_row hsegments h page hsource).mono ?_ fun _ _ h => h
  rintro ⟨row, blank⟩ after ⟨hrow, hjournal⟩
  simp only [hplain.1, Bool.false_and, ends_pure]
  exact ⟨⟨row, hrow, rfl⟩, hjournal⟩

end PictureLine

end Composing

end PictureReport
