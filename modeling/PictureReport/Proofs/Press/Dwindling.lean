import Mathlib.Data.List.Dedup
import PictureReport.Proofs.Press.Rules

/-!
# Values only get shorter

The only thing that printing sets is what a chomping field leaves of a text, and that is an end of the text.
So whatever is printed, be it a line, a band or the end of a page, each variable shows an end of what it
showed before (`Dwindles`).  The number of characters that variables hold together never grows, and it
shrinks as soon as one of them shows something else.
-/

namespace PictureReport

namespace Journal

/-- Each variable shows in `k` an end of what it shows in `j`. -/
def Dwindles (j k : Journal) : Prop :=
  ∀ name, (Record.resolve k.source.entries name).shown <:+ (Record.resolve j.source.entries name).shown

variable {j k l : Journal}

theorem Dwindles.refl (j : Journal) : Dwindles j j := fun _ => List.suffix_rfl

theorem Dwindles.trans (h : Dwindles j k) (h' : Dwindles k l) : Dwindles j l :=
  fun name => (h' name).trans (h name)

theorem Dwindles.of_eq (h : k = j) : Dwindles j k := h ▸ Dwindles.refl j

theorem dwindles_set {name : String} {rest : Text}
    (h : rest <:+ (Record.resolve j.source.entries name).shown) : Dwindles j (j.set name (.text rest)) := by
  intro other
  show (Record.resolve (Entries.set name (.text rest) j.source.entries) other).shown <:+ _
  by_cases hname : name = other
  · subst hname
    rw [Record.resolve_set_self (by simp)]
    exact h
  · simp only [Record.resolve_set_of_ne hname, List.suffix_rfl]

end Journal

/-! ## Sizes -/

namespace Desk

variable {desk after : Desk} {names more : List String}

theorem textSize_cons (desk : Desk) (name : String) (names : List String) :
    desk.textSize (name :: names) =
      (Record.resolve desk.journal.source.entries name).shown.length + desk.textSize names := rfl

theorem textSize_le (h : Journal.Dwindles desk.journal after.journal) (names : List String) :
    after.textSize names ≤ desk.textSize names := by
  induction names with
  | nil => exact Nat.le_refl 0
  | cons name names ih =>
    have hname := (h name).length_le
    rw [textSize_cons, textSize_cons]
    omega

/-- If a variable shows something else afterwards, all of them together hold fewer characters (`textSize`). -/
theorem textSize_lt (h : Journal.Dwindles desk.journal after.journal) {name : String} (hmem : name ∈ names)
    (hne : (Record.resolve after.journal.source.entries name).shown ≠
      (Record.resolve desk.journal.source.entries name).shown) :
    after.textSize names < desk.textSize names := by
  induction names with
  | nil => cases hmem
  | cons other names ih =>
    have hother := (h other).length_le
    have hrest := textSize_le h names
    rw [textSize_cons, textSize_cons]
    rcases List.mem_cons.mp hmem with rfl | hmem
    · have hlength : (Record.resolve after.journal.source.entries name).shown.length ≠
          (Record.resolve desk.journal.source.entries name).shown.length :=
        fun heq => hne ((h name).eq_of_length heq)
      omega
    · have hlt := ih hmem
      omega

theorem textSize_sublist (desk : Desk) (h : more.Sublist names) :
    desk.textSize more ≤ desk.textSize names := by
  induction h with
  | slnil => exact Nat.le_refl 0
  | cons name _ ih =>
    rw [textSize_cons]
    omega
  | cons_cons name _ ih =>
    rw [textSize_cons, textSize_cons]
    omega

/-- `texts` gives what the variables show, and leaves the desk as it is. -/
theorem texts_eq (names : List String) (desk : Desk) :
    Ends (texts names) desk
      (fun held after => after = desk ∧
        held = names.map fun name => (Record.resolve desk.journal.source.entries name).shown)
      fun _ after => after = desk := by
  induction names with
  | nil => exact ⟨rfl, rfl⟩
  | cons name rest ih =>
    simp only [texts, ends_bind, ends_pure]
    refine read_ends.mono ?_ fun _ _ h => h
    rintro value after ⟨rfl, rfl⟩
    refine ih.mono ?_ fun _ _ h => h
    rintro others last ⟨rfl, rfl⟩
    exact ⟨rfl, rfl⟩

end Desk

/-! ## Lines -/

theorem Text.chomp_suffix (t : Text) (width : Nat) : (t.chomp width).2 <:+ t :=
  (List.dropWhile_suffix _).trans (List.drop_suffix _ _)

theorem Field.fit_rest_suffix {f : Field} {t : Text} {writable : Bool} {made : Formatted}
    (h : f.fit t writable = .ok made) {rest : Text} (hrest : made.rest = some rest) :
    rest <:+ t ∧ ∃ align width, f.shape = .text align width := by
  unfold fit at h
  split at h
  · cases h
    cases hrest
  · obtain ⟨t, -, h⟩ := bind_eq_ok.mp h
    cases h
    cases hrest
  · cases h
    cases hrest
  · rename_i align width hs
    split at h
    · cases h
      obtain rfl := Option.some.inj hrest
      exact ⟨Text.chomp_suffix _ _, align, width, hs⟩
    · cases h
      cases hrest

/-- What `format` leaves of a text is an end of it. -/
theorem Field.format_rest_suffix {f : Field} {value : Value} {page : Int} {writable : Bool} {made : Formatted}
    (h : f.format value page writable = .ok made) {rest : Text} (hrest : made.rest = some rest) :
    rest <:+ value.shown := by
  obtain ⟨hsuffix, align, width, hs⟩ := Field.fit_rest_suffix (Field.format_eq_ok.mp h).2 hrest
  rwa [Field.textFor, hs] at hsuffix

namespace PictureLine

variable {page : Int}

theorem composeField_dwindles (f : Field) (name : String) (desk : Desk) :
    Ends (composeField page f name) desk (fun _ after => Journal.Dwindles desk.journal after.journal)
      fun _ after => Journal.Dwindles desk.journal after.journal := by
  simp only [composeField, ends_bind]
  refine Desk.read_ends.mono ?_ fun _ _ h => .of_eq (congrArg Desk.journal h)
  rintro value after ⟨rfl, rfl⟩
  split
  · exact .refl _
  · rename_i made hmade
    cases hrest : made.rest with
    | none =>
      simp only [Desk.warn, ends_bind, ends_modify, ends_pure]
      exact .refl _
    | some rest =>
      simp only [Desk.warn, Desk.write, ends_bind, ends_modify, ends_pure]
      exact Journal.dwindles_set (Field.format_rest_suffix hmade hrest)

theorem composeSegments_dwindles (segments : List Segment) (names : List String) (desk : Desk) :
    Ends (composeSegments page segments names) desk
      (fun _ after => Journal.Dwindles desk.journal after.journal)
      fun _ after => Journal.Dwindles desk.journal after.journal := by
  induction segments generalizing names desk with
  | nil => exact .refl _
  | cons segment segments ih =>
    cases segment with
    | literal t =>
      simp only [composeSegments, ends_bind]
      exact (ih names desk).mono (fun _ _ h => h) fun _ _ h => h
    | field f =>
      cases names with
      | nil => exact .refl _
      | cons name names =>
        simp only [composeSegments, ends_bind]
        refine (composeField_dwindles f name desk).mono (fun _ middle hmiddle => ?_) fun _ _ h => h
        exact (ih names middle).mono (fun _ _ h => hmiddle.trans h) fun _ _ h => hmiddle.trans h

theorem compose_dwindles (line : PictureLine) (page : Int) (desk : Desk) :
    Ends (line.compose page) desk (fun _ after => Journal.Dwindles desk.journal after.journal)
      fun _ after => Journal.Dwindles desk.journal after.journal := by
  unfold compose
  split
  · exact .refl _
  · simp only [ends_bind]
    exact (composeSegments_dwindles line.segments line.names desk).mono (fun _ _ h => h) fun _ _ h => h

end PictureLine

/-! ## Pages -/

namespace Press

/-- Each variable shows in `q` an end of what it shows in `p`: `Journal.Dwindles` of their journals. -/
def Dwindles (p q : Press) : Prop := Journal.Dwindles p.desk.journal q.desk.journal

variable {form : Form} {p q r : Press}

theorem Dwindles.refl (p : Press) : Dwindles p p := Journal.Dwindles.refl _

theorem Dwindles.trans (h : Dwindles p q) (h' : Dwindles q r) : Dwindles p r :=
  Journal.Dwindles.trans h h'

theorem onDesk_compose_dwindles (line : PictureLine) (page : Int) (p : Press) :
    Ends (onDesk (line.compose page)) p (fun _ q => Dwindles p q) fun _ q => Dwindles p q := by
  rw [ends_onDesk]
  exact line.compose_dwindles page p.desk

theorem emitBand_dwindles (band : Band) (lines : List PictureLine) (p : Press) :
    Ends (emitBand band lines) p (fun _ q => Dwindles p q) fun _ _ => True := by
  have loop : ∀ line ∈ lines, Loop (pure ()) (fun line => do
      write (.band band) line
      onPager (·.consume 1 false)) line (fun _ q => Dwindles p q) (fun _ q => Dwindles p q)
      fun _ _ _ => True := by
    refine fun line _ => ⟨fun _ _ h => h, fun _ _ h => h, ?_, fun _ _ _ h => h, ?_,
      fun _ _ _ _ _ _ => trivial⟩
    · rintro _ q page hq desk rfl
      exact hq.trans (ends_state.mp (line.compose_dwindles page q.desk))
    · intro _ q text hq
      simp only [write, ends_bind, ends_modify, ends_onPager]
      exact hq
  simp only [emitBand, ends_bind, ends_note, ends_pure]
  refine (composeAll_ends loop 0 p (.refl p)).mono (fun _ q hq => ?_) fun _ _ _ => trivial
  exact hq.1

theorem Whole.dwindles {band : Band} {made : List Composed} (h : Whole form band made p q) : Dwindles p q := by
  cases hband : form.band? band with
  | none =>
    have hjournal := h.quiet (by rw [Form.lines_of_none hband]; simp)
    exact .of_eq hjournal
  | some lines => exact (emitBand_dwindles band lines p).of_ok (h.run lines hband)

theorem endPage_dwindles (form : Form) (feed : Option Bool) (p : Press) :
    Ends (endPage form feed) p (fun _ q => Dwindles p q) fun _ _ => True := by
  refine endPage_ends (fun made q hq => ?_) fun _ _ _ _ => trivial
  have hdue : Dwindles p.due q := hq.dwindles
  exact hdue

theorem openPage_dwindles (form : Form) (p : Press) :
    Ends (openPage form) p (fun _ q => Dwindles p q) fun _ _ => True := by
  have hopened : ∀ {band made q}, Whole form band made p.opened q → Dwindles p q := fun hq => hq.dwindles
  refine openPage_ends (fun _ => .refl p) (fun _ _ => .refl p) (fun _ _ made q hq _ => hopened hq) ?_
    (fun _ _ _ _ _ _ => trivial) fun _ _ _ _ _ _ _ _ _ _ => trivial
  exact fun _ _ made q hq _ made' r hr => (hopened hq).trans hr.dwindles

theorem printTop_dwindles (form : Form) (p : Press) :
    Ends (printTop form) p (fun _ q => Dwindles p q) fun _ _ => True := by
  refine printTop_ends (fun _ => ?_) fun _ => openPage_dwindles form p
  refine (endPage_dwindles form none p).mono (fun _ q hq => ?_) fun _ _ _ => trivial
  exact (openPage_dwindles form q).mono (fun _ _ hr => hq.trans hr) fun _ _ he => he

theorem flushPartial_dwindles (form : Form) (p : Press) :
    Ends (flushPartial form) p (fun _ q => Dwindles p q) fun _ _ => True := by
  refine flushPartial_ends rfl fun q _ hdesk => ?_
  refine (endPage_dwindles form none _).mono (fun _ r hr => ?_) fun _ _ he => he
  have hq : Dwindles q r := hr
  unfold Dwindles at hq ⊢
  rwa [hdesk] at hq

theorem splitFullPage_dwindles (form : Form) (p : Press) :
    Ends (splitFullPage form) p (fun _ q => Dwindles p q) fun _ _ => True := by
  refine splitFullPage_ends (fun _ => .refl p) fun _ => ?_
  refine (printTop_dwindles form p).mono (fun _ q hq => ⟨fun _ => hq, fun _ => ?_⟩) fun _ _ he => he
  exact (flushPartial_dwindles form q).mono (fun _ _ hr => hq.trans hr) fun _ _ he => he

end Press

end PictureReport
