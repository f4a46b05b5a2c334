import PictureReport.Composing
import PictureReport.Proofs.Ends
import PictureReport.Proofs.Journal
import PictureReport.Proofs.Showing

/-!
# What composing a line reads and writes

Composing reads the variables of a line and writes only those of chomping text fields.  A line
without such fields is *quiet*: it leaves the journal as it is.  A line without page fields shows the
same on every page, and from journals that are alike.
-/

namespace PictureReport

namespace Field

/-- The field leaves the rest of its text to its variable, as only a chomping text field does. -/
def chomps (f : Field) : Bool :=
  match f.shape with
  | .text _ _ => f.chomp
  | _ => false

/-- The field shows the page number, as only a field of `Shape.page` does. -/
def showsPage (f : Field) : Bool :=
  match f.shape with
  | .page _ => true
  | _ => false

theorem given_page {f : Field} (h : f.showsPage = false) (value : Value) (page other : Int) :
    f.given value page = f.given value other := by
  unfold given
  cases hs : f.shape with
  | page width =>
    simp [showsPage, hs] at h
  | _ => rfl

theorem format_page {f : Field} (h : f.showsPage = false) (value : Value) (page other : Int)
    (writable : Bool) : f.format value page writable = f.format value other writable := by
  rw [format, given_page h value page other, format]

theorem fit_rest {f : Field} (h : f.chomps = false) {t : Text} {made : Formatted}
    (hm : f.fit t true = .ok made) : made.rest = none := by
  unfold chomps at h
  unfold fit at hm
  split at hm
  · cases hm; rfl
  · obtain ⟨u, -, hmade⟩ := bind_eq_ok.mp hm
    cases hmade
    rfl
  · cases hm; rfl
  · rename_i hs
    rw [hs] at h
    simp only at h
    rw [h] at hm
    cases hm
    rfl

theorem format_rest {f : Field} (h : f.chomps = false) {value : Value} {page : Int}
    {made : Formatted} (hm : f.format value page true = .ok made) : made.rest = none :=
  fit_rest h (format_eq_ok.mp hm).2

end Field

namespace PictureLine

/-- No field of the line `chomps`, so that composing it writes to no variable. -/
def IsQuiet (line : PictureLine) : Prop := ∀ f ∈ line.fields, f.chomps = false

/-- No field of the line `showsPage`. -/
def IsPageless (line : PictureLine) : Prop := ∀ f ∈ line.fields, f.showsPage = false

/-- The line has no tilde: it is neither `suppressed` nor `repeated` and is printed exactly once. -/
def IsPlain (line : PictureLine) : Prop := line.suppressed = false ∧ line.repeated = false

instance (line : PictureLine) : Decidable line.IsQuiet :=
  inferInstanceAs (Decidable (∀ f ∈ line.fields, _))

instance (line : PictureLine) : Decidable line.IsPageless :=
  inferInstanceAs (Decidable (∀ f ∈ line.fields, _))

instance (line : PictureLine) : Decidable line.IsPlain :=
  inferInstanceAs (Decidable (_ ∧ _))

/-- Composing the line from `desk`, or reading its variables with `Desk.texts`, fails with `fault` and leaves
`after`. -/
def FaultsTo (line : PictureLine) (fault : Fault) (desk after : Desk) : Prop :=
  (∃ page, line.compose page desk = (.error fault, after)) ∨
    Desk.texts line.names desk = (.error fault, after)

end PictureLine

namespace Desk

variable {E : Fault → Desk → Prop}

theorem read_ends {name : String} {desk : Desk} :
    Ends (read name) desk
      (fun value after => value = Record.resolve desk.journal.source.entries name ∧ after = desk)
      (fun _ after => after = desk) := by
  simp only [read, ends_bind, ends_get]
  split
  · rename_i value hget
    have hvalue : value = Record.resolve desk.journal.source.entries name := by
      unfold Journal.get Source.get at hget
      split at hget
      · cases hget
      · exact (Except.ok.inj hget).symm
    split
    · exact ⟨hvalue, rfl⟩
    · rfl
  · rfl

theorem texts_ends (names : List String) (desk : Desk) :
    Ends (texts names) desk (fun _ after => after = desk) (fun _ after => after = desk) := by
  induction names with
  | nil => rfl
  | cons name rest ih =>
    simp only [texts, ends_bind]
    refine read_ends.mono ?_ fun _ _ h => h
    rintro _ _ ⟨-, rfl⟩
    refine ih.mono ?_ fun _ _ h => h
    rintro _ _ rfl
    rfl

theorem read_follows {name : String} {desk other : Desk}
    (h : Journal.Alike desk.journal other.journal) :
    Follows (fun d e : Desk => Journal.Alike d.journal e.journal) (fun _ _ => False) (read name)
      (read name) desk other := by
  unfold read
  refine follows_get ?_
  rw [h.get name]
  cases other.journal.get name with
  | error fault => exact follows_throw fault
  | ok value =>
    simp only
    split
    · exact follows_pure value h
    · exact follows_throw _

theorem texts_follows (names : List String) {desk other : Desk}
    (h : Journal.Alike desk.journal other.journal) :
    Follows (fun d e : Desk => Journal.Alike d.journal e.journal) (fun _ _ => False) (texts names)
      (texts names) desk other := by
  induction names generalizing desk other with
  | nil => exact follows_pure [] h
  | cons name rest ih =>
    unfold texts
    refine (read_follows h).bind fun value d e hd => ?_
    exact (ih hd).bind fun others d e hd => follows_pure _ hd

theorem textSize_alike (names : List String) {desk other : Desk}
    (h : Journal.Alike desk.journal other.journal) : desk.textSize names = other.textSize names := by
  unfold textSize
  congr 1
  funext name size
  rw [h.values name]

end Desk

namespace PictureLine

variable {page : Int} {P : Journal → Prop}

theorem composeField_keeps {f : Field}
    (hset : f.chomps = true → ∀ j name value, P j → P (j.set name value)) (name : String)
    {desk : Desk} (h : P desk.journal) :
    Ends (composeField page f name) desk (fun _ after => P after.journal)
      (fun _ after => P after.journal) := by
  simp only [composeField, ends_bind]
  refine Desk.read_ends.mono ?_ ?_
  · rintro value _ ⟨-, rfl⟩
    split
    · exact h
    · rename_i made hm
      cases hr : made.rest with
      | none =>
        simp only [Desk.warn, ends_bind, ends_modify, ends_pure]
        exact h
      | some rest =>
        have hc : f.chomps = true := by
          cases hc : f.chomps with
          | true => rfl
          | false =>
            rw [Field.format_rest hc hm] at hr
            cases hr
        simp only [Desk.warn, Desk.write, ends_bind, ends_modify, ends_pure]
        exact hset hc _ _ _ h
  · rintro _ _ rfl
    exact h

theorem composeSegments_keeps {segments : List Segment}
    (hset : ∀ f ∈ segments.filterMap Segment.field?, f.chomps = true →
      ∀ j name value, P j → P (j.set name value)) :
    ∀ (names : List String) {desk : Desk}, P desk.journal →
      Ends (composeSegments page segments names) desk (fun _ after => P after.journal)
        (fun _ after => P after.journal) := by
  induction segments with
  | nil => exact fun names desk h => h
  | cons segment segments ih =>
    intro names desk h
    cases segment with
    | literal t =>
      simp only [composeSegments, ends_bind]
      exact (ih (by simpa [Segment.field?] using hset) names h).mono (fun _ _ h => h) fun _ _ h => h
    | field f =>
      simp only [List.filterMap_cons, Segment.field?, List.mem_cons, forall_eq_or_imp] at hset
      cases names with
      | nil => exact h
      | cons name names =>
        simp only [composeSegments, ends_bind]
        refine (composeField_keeps hset.1 name h).mono (fun _ after ha => ?_) fun _ _ ha => ha
        exact (ih hset.2 names ha).mono (fun _ _ hl => hl) fun _ _ hl => hl

/-- What every `Journal.set` keeps is kept when a line is composed; only fields that `chomps` set anything. -/
theorem compose_keeps {line : PictureLine}
    (hset : ∀ f ∈ line.fields, f.chomps = true → ∀ j name value, P j → P (j.set name value))
    {desk : Desk} (h : P desk.journal) :
    Ends (line.compose page) desk (fun _ after => P after.journal)
      (fun _ after => P after.journal) := by
  unfold compose
  split
  · exact h
  · simp only [ends_bind]
    exact (composeSegments_keeps hset line.names h).mono (fun _ _ h => h) fun _ _ h => h

theorem compose_journal {line : PictureLine} (h : line.IsQuiet) (page : Int) (desk : Desk) :
    Ends (line.compose page) desk (fun _ after => after.journal = desk.journal)
      (fun _ after => after.journal = desk.journal) := by
  refine compose_keeps (P := fun j => j = desk.journal) (fun f hf hc => ?_) rfl
  rw [h f hf] at hc
  cases hc

theorem FaultsTo.journal {line : PictureLine} (h : line.IsQuiet) {fault : Fault} {desk after : Desk}
    (hf : line.FaultsTo fault desk after) : after.journal = desk.journal := by
  rcases hf with ⟨page, hf⟩ | hf
  · exact (compose_journal h page desk).of_error hf
  · rw [(Desk.texts_ends line.names desk).of_error hf]

theorem composeField_follows {f : Field} (hf : f.showsPage = false) (name : String) (m n : Int)
    {desk other : Desk} (h : Journal.Alike desk.journal other.journal) :
    Follows (fun d e : Desk => Journal.Alike d.journal e.journal) (fun _ _ => False)
      (composeField m f name) (composeField n f name) desk other := by
  unfold composeField
  refine (Desk.read_follows h).bind fun value d e hd => ?_
  rw [Field.format_page hf value m n true]
  cases f.format value n true with
  | error fault => exact follows_throw _
  | ok made =>
    refine Follows.bind (R := fun d e : Desk => Journal.Alike d.journal e.journal)
      (follows_modify hd) fun _ d e hd => ?_
    cases made.rest with
    | none => exact follows_pure _ hd
    | some rest =>
      refine Follows.bind (R := fun d e : Desk => Journal.Alike d.journal e.journal)
        (follows_modify (hd.set name (.text rest))) fun _ d e hd => ?_
      exact follows_pure _ hd

theorem composeSegments_follows {segments : List Segment}
    (hpage : ∀ f ∈ segments.filterMap Segment.field?, f.showsPage = false) (m n : Int) :
    ∀ (names : List String) {desk other : Desk}, Journal.Alike desk.journal other.journal →
      Follows (fun d e : Desk => Journal.Alike d.journal e.journal) (fun _ _ => False)
        (composeSegments m segments names) (composeSegments n segments names) desk other := by
  induction segments with
  | nil => exact fun names desk other h => follows_pure _ h
  | cons segment segments ih =>
    intro names desk other h
    cases segment with
    | literal t =>
      unfold composeSegments
      refine (ih (by simpa [Segment.field?] using hpage) names h).bind fun _ d e hd => ?_
      exact follows_pure _ hd
    | field f =>
      simp only [List.filterMap_cons, Segment.field?, List.mem_cons, forall_eq_or_imp] at hpage
      cases names with
      | nil => exact follows_pure _ h
      | cons name names =>
        unfold composeSegments
        refine (composeField_follows hpage.1 name m n h).bind fun _ d e hd => ?_
        refine (ih hpage.2 names hd).bind fun _ d e hd => ?_
        exact follows_pure _ hd

/-- On any two pages and from journals that are `Journal.Alike`, a line that `IsPageless` shows the same and
leaves journals that are alike. -/
theorem compose_follows {line : PictureLine} (hpage : line.IsPageless) (m n : Int)
    {desk other : Desk} (h : Journal.Alike desk.journal other.journal) :
    Follows (fun d e : Desk => Journal.Alike d.journal e.journal) (fun _ _ => False)
      (line.compose m) (line.compose n) desk other := by
  unfold compose
  split
  · exact follows_throw _
  · refine (composeSegments_follows hpage m n line.names h).bind fun shown d e hd => ?_
    exact follows_pure _ hd

/-- A line that is not `suppressed` gives a text whenever composing it ends. -/
theorem compose_isSome {line : PictureLine} (h : line.suppressed = false) (desk : Desk) :
    Ends (line.compose page) desk (fun shown _ => shown.isSome) (fun _ _ => True) := by
  unfold compose
  split
  · trivial
  · simp only [ends_bind, ends_pure, h, Bool.false_and]
    exact ends_of_forall (fun _ _ => rfl) fun _ _ => trivial

end PictureLine

end PictureReport
