import PictureReport.Press.Records
import PictureReport.Proofs.Composing

/-!
# What printing does to the press

The rules for printing give the press that each step leaves.  `Prints` says that lines are printed
and counted and that nothing else happens; `Emits` says it of the lines of a band.  The rules for
composing lines and for opening and closing a page are stated for any assertions about the press, so
that an invariant of the press is proved from its steps alone.
-/

namespace PictureReport

/-- The page after `count` lines of the given origin. -/
def Page.taking (page : Page) (origin : Origin) (count : Nat) : Page :=
  { page with
    linesLeft := page.linesLeft - count
    bodyPrinted := page.bodyPrinted || (origin = .body && count ≠ 0)
    feedPending := page.feedPending && count = 0 }

namespace Press

/-- All that happened so far, in order: the log as a list. -/
def events (p : Press) : List Event := p.log.toList

/-- The press after an event is noted. -/
def noted (p : Press) (event : Event) : Press := { p with log := p.log.push event }

/-- The press with its pager changed by `f`. -/
def paged (p : Press) (f : Pager → Pager) : Press := { p with pager := f p.pager }

/-- The press whose journal keeps all that is set. -/
def committed (p : Press) : Press :=
  { p with desk := { p.desk with journal := p.desk.journal.commit } }

/-- The press whose journal sets all values back. -/
def rolledBack (p : Press) : Press :=
  { p with desk := { p.desk with journal := p.desk.journal.rollback } }

/-- The press on which the lines `pending` are pending. -/
def holding (p : Press) (pending : List Composed) : Press := { p with pending }

section Fields

variable (p : Press) (event : Event) (f : Pager → Pager) (pending : List Composed)

@[simp] theorem events_noted : (p.noted event).events = p.events ++ [event] := by
  simp [events, noted]

@[simp] theorem pager_noted : (p.noted event).pager = p.pager := rfl
@[simp] theorem page_noted : (p.noted event).page = p.page := rfl
@[simp] theorem pending_noted : (p.noted event).pending = p.pending := rfl
@[simp] theorem formFeed_noted : (p.noted event).formFeed = p.formFeed := rfl
@[simp] theorem desk_noted : (p.noted event).desk = p.desk := rfl
@[simp] theorem events_paged : (p.paged f).events = p.events := rfl
@[simp] theorem pager_paged : (p.paged f).pager = f p.pager := rfl
@[simp] theorem page_paged : (p.paged f).page = (f p.pager).page := rfl
@[simp] theorem pending_paged : (p.paged f).pending = p.pending := rfl
@[simp] theorem formFeed_paged : (p.paged f).formFeed = p.formFeed := rfl
@[simp] theorem desk_paged : (p.paged f).desk = p.desk := rfl
@[simp] theorem events_committed : p.committed.events = p.events := rfl
@[simp] theorem pager_committed : p.committed.pager = p.pager := rfl
@[simp] theorem page_committed : p.committed.page = p.page := rfl
@[simp] theorem pending_committed : p.committed.pending = p.pending := rfl
@[simp] theorem formFeed_committed : p.committed.formFeed = p.formFeed := rfl
@[simp] theorem journal_committed : p.committed.desk.journal = p.desk.journal.commit := rfl
@[simp] theorem events_rolledBack : p.rolledBack.events = p.events := rfl
@[simp] theorem pager_rolledBack : p.rolledBack.pager = p.pager := rfl
@[simp] theorem page_rolledBack : p.rolledBack.page = p.page := rfl
@[simp] theorem pending_rolledBack : p.rolledBack.pending = p.pending := rfl
@[simp] theorem formFeed_rolledBack : p.rolledBack.formFeed = p.formFeed := rfl
@[simp] theorem journal_rolledBack : p.rolledBack.desk.journal = p.desk.journal.rollback := rfl
@[simp] theorem events_holding : (p.holding pending).events = p.events := rfl
@[simp] theorem pager_holding : (p.holding pending).pager = p.pager := rfl
@[simp] theorem page_holding : (p.holding pending).page = p.page := rfl
@[simp] theorem pending_holding : (p.holding pending).pending = pending := rfl
@[simp] theorem formFeed_holding : (p.holding pending).formFeed = p.formFeed := rfl
@[simp] theorem desk_holding : (p.holding pending).desk = p.desk := rfl

end Fields

section Room

variable {p : Press} {buffered bottom : Int}

theorem fits_iff : p.pager.fits buffered bottom = true ↔ buffered + bottom ≤ p.page.linesLeft := by
  simp [Pager.fits, page]

theorem isFull_iff : p.pager.isFull bottom = true ↔
    p.page.topPending = false ∧ p.page.linesLeft ≤ bottom := by
  simp [Pager.isFull, page]

theorem fillsFreshPage_iff : p.pager.fillsFreshPage buffered bottom = true ↔
    0 < buffered ∧ p.page.bodyPrinted = false ∧ p.page.linesLeft ≤ buffered + bottom := by
  simp [Pager.fillsFreshPage, page, and_assoc]

theorem capacity_eq : p.pager.capacity bottom = max (p.page.linesLeft - bottom) 1 := rfl

end Room

section Rules

variable {α : Type} {p : Press} {E : Fault → Press → Prop} {Q : Unit → Press → Prop}

@[simp] theorem ends_onPager {f : Pager → Pager} : Ends (onPager f) p Q E ↔ Q () (p.paged f) := Iff.rfl

@[simp] theorem ends_note {event : Event} : Ends (note event) p Q E ↔ Q () (p.noted event) := Iff.rfl

@[simp] theorem ends_commit : Ends commit p Q E ↔ Q () p.committed := Iff.rfl

@[simp] theorem ends_rollback : Ends rollback p Q E ↔ Q () p.rolledBack := Iff.rfl

theorem ends_onDesk {x : Composing α} {Q : α → Press → Prop} :
    Ends (onDesk x) p Q E ↔
      Ends x p.desk (fun a desk => Q a { p with desk }) (fun e desk => E e { p with desk }) := by
  unfold Ends onDesk
  rcases x p.desk with ⟨e | a, desk⟩ <;> rfl

end Rules

/-! ## Printing lines -/

/-- The lines as `p` prints them: a form feed that is due goes before the first one. -/
def printing (p : Press) (origin : Origin) : List Composed → List Printed
  | [] => []
  | line :: rest =>
    ⟨line, origin, p.page.number, p.page.feedPending, p.pager.state⟩ ::
      rest.map fun line => ⟨line, origin, p.page.number, false, p.pager.state⟩

/-- Between `p` and `q` the lines are printed and counted, and nothing else happens to the page. -/
structure Prints (origin : Origin) (lines : List Composed) (p q : Press) : Prop where
  events : q.events = p.events ++ (p.printing origin lines).map .printed
  page : q.page = p.page.taking origin lines.length
  state : q.pager.state = p.pager.state
  formFeed : q.formFeed = p.formFeed
  pending : q.pending = p.pending

section Printing

variable {origin : Origin} {lines more : List Composed} {p q r : Press}

@[simp] theorem length_printing : (p.printing origin lines).length = lines.length := by
  cases lines <;> simp [printing]

theorem mem_printing {line : Printed} (h : line ∈ p.printing origin lines) :
    line.line ∈ lines ∧ line.origin = origin ∧ line.page = p.page.number ∧
      (line.feed = true → p.page.feedPending = true) := by
  cases lines with
  | nil => cases h
  | cons first rest =>
    simp only [printing, List.mem_cons, List.mem_map] at h
    rcases h with rfl | ⟨line, hl, rfl⟩
    · simp
    · simp [hl]

theorem map_line_printing : (p.printing origin lines).map (·.line) = lines := by
  cases lines with
  | nil => rfl
  | cons first rest => simp [printing, Function.comp_def]

theorem Prints.refl (origin : Origin) (p : Press) : Prints origin [] p p :=
  ⟨by simp [printing], by simp [Page.taking], rfl, rfl, rfl⟩

theorem Prints.trans (h : Prints origin lines p q) (h' : Prints origin more q r) :
    Prints origin (lines ++ more) p r := by
  refine ⟨?_, ?_, h'.state.trans h.state, h'.formFeed.trans h.formFeed, h'.pending.trans h.pending⟩
  · rw [h'.events, h.events, List.append_assoc, ← List.map_append]
    congr 2
    cases lines with
    | nil =>
      cases more <;> simp [printing, h.page, h.state, Page.taking]
    | cons first rest =>
      cases more <;> simp [printing, h.page, h.state, Page.taking]
  · rw [h'.page, h.page]
    simp only [Page.taking, List.length_append, Int.natCast_add]
    congr 1
    · omega
    · cases lines <;> cases more <;> simp
    · cases lines <;> cases more <;> simp

theorem prints_desk (h : Prints origin lines p q) (desk : Desk) :
    Prints origin lines p { q with desk } :=
  ⟨h.events, h.page, h.state, h.formFeed, h.pending⟩

theorem writeAll_ends (origin : Origin) (lines : List Composed) (p : Press) :
    Ends (writeAll origin lines) p
      (fun _ q => q.events = p.events ++ (p.printing origin lines).map .printed ∧
        q = { p with
          pager := { p.pager with page := { p.page with
            feedPending := p.page.feedPending && lines.length = 0 } }
          log := q.log })
      fun _ _ => False := by
  induction lines generalizing p with
  | nil => simp [writeAll, printing, page]
  | cons line rest ih =>
    simp only [writeAll, write, ends_bind, ends_modify]
    refine (ih _).mono ?_ fun _ _ h => h
    rintro _ q ⟨hev, hq⟩
    refine ⟨?_, by rw [hq]; simp [page]⟩
    rw [hev]
    cases rest <;> simp [printing, events, page]

theorem writeBody_ends (lines : List Composed) (p : Press) :
    Ends (writeBody lines) p (fun _ q => Prints .body lines p q ∧ q.desk = p.desk)
      fun _ _ => False := by
  simp only [writeBody, ends_bind, ends_onPager]
  refine (writeAll_ends .body lines p).mono ?_ fun _ _ h => h
  rintro _ q ⟨hev, hq⟩
  refine ⟨⟨by simpa using hev, ?_, ?_, ?_, ?_⟩, ?_⟩ <;> rw [hq]
  · simp [Pager.consume, Page.taking]
  all_goals simp [Pager.consume]

end Printing

/-! ## Composing the lines of a form -/

section Composing

variable {before : Printing Unit} {emit : Composed → Printing Unit} {line : PictureLine}
variable {I J : Nat → Press → Prop} {E : Nat → Fault → Press → Prop}

/-- What a loop over picture lines keeps: `I n` holds when `n` lines are handed on, and `J n` when `before` is
done besides.  A fault after `n` lines leaves `E n`. -/
structure Loop (before : Printing Unit) (emit : Composed → Printing Unit) (line : PictureLine)
    (I J : Nat → Press → Prop) (E : Nat → Fault → Press → Prop) : Prop where
  before : ∀ n p, I n p → Ends before p (fun _ q => J n q) (E n)
  weaken : ∀ n p, J n p → I n p
  composed : ∀ n p (page : Int), J n p → ∀ desk, (line.compose page p.desk).2 = desk →
    J n { p with desk }
  warned : ∀ n p warnings, I n p → I n { p with desk := { p.desk with warnings } }
  emit : ∀ n p text, J n p → Ends (emit ⟨text, p.page.number⟩) p (fun _ q => I (n + 1) q) (E n)
  fault : ∀ n p fault desk, I n p → line.FaultsTo fault desk p.desk → E n fault p

theorem Loop.texts (h : Loop before emit line I J E) {n : Nat} {p : Press}
    {K : List Text → Press → Prop} {F : Fault → Press → Prop} (hp : I n p) (hK : ∀ held, K held p)
    (hF : ∀ fault q, E n fault q → F fault q) : Ends (onDesk (Desk.texts line.names)) p K F := by
  rw [ends_onDesk]
  cases hx : Desk.texts line.names p.desk with
  | mk outcome desk =>
    cases outcome with
    | ok held =>
      obtain rfl : desk = p.desk := (Desk.texts_ends line.names p.desk).of_ok hx
      exact (ends_of_eq_ok hx).mpr (hK held)
    | error fault =>
      obtain rfl : desk = p.desk := (Desk.texts_ends line.names p.desk).of_error hx
      exact (ends_of_eq_error hx).mpr (hF _ _ (h.fault n p fault p.desk hp (.inr hx)))

theorem composeTurns_ends (h : Loop before emit line I J E) (turns : Nat) :
    ∀ n p, I n p → Ends (composeTurns before emit line turns) p
      (fun count q => I (n + count) q ∧ (line.IsPlain → 0 < turns → count = 1))
      fun fault q => ∃ m, (line.IsPlain → m = n) ∧ E m fault q := by
  -- on the turns, for every count of lines so far: a plain line is composed in the first turn and ends there
  induction turns with
  | zero => exact fun n p hp => ⟨hp, fun _ h0 => absurd h0 (Nat.lt_irrefl 0)⟩
  | succ turns ih =>
    intro n p hp
    simp only [composeTurns, ends_bind, ends_get]
    refine (h.before n p hp).mono (fun _ p hp => ?_) fun _ _ he => ⟨n, fun _ => rfl, he⟩
    refine h.texts (h.weaken n p hp) (fun held => ?_) fun _ _ he => ⟨n, fun _ => rfl, he⟩
    rw [ends_onDesk]
    cases hx : line.compose p.page.number p.desk with
    | mk outcome desk =>
      have hdesk := h.composed n p _ hp desk (by rw [hx])
      cases outcome with
      | error fault =>
        rw [ends_of_eq_error hx]
        exact ⟨n, fun _ => rfl, h.fault n _ fault p.desk (h.weaken n _ hdesk) (.inl ⟨_, hx⟩)⟩
      | ok shown =>
        rw [ends_of_eq_ok hx]
        cases shown with
        | none =>
          refine ⟨h.weaken n _ hdesk, fun hl _ => ?_⟩
          have hs := (PictureLine.compose_isSome hl.1 p.desk).of_ok hx
          cases hs
        | some shown =>
          simp only [ends_bind]
          refine (h.emit n _ shown hdesk).mono (fun _ p hp => ?_) fun _ _ he => ⟨n, fun _ => rfl, he⟩
          rw [ends_ite]
          split
          · rename_i hr
            have notPlain : ¬ line.IsPlain := fun hl => by rw [hl.2] at hr; cases hr
            simp only [ends_bind]
            refine h.texts hp (fun left => ?_) fun _ _ he => ⟨_, fun hl => absurd hl notPlain, he⟩
            rw [ends_ite]
            split
            · simp only [ends_bind, ends_onDesk, Desk.warn, ends_modify, ends_pure]
              exact ⟨h.warned _ _ _ hp, fun hl => absurd hl notPlain⟩
            · simp only [ends_bind, ends_pure]
              refine (ih (n + 1) p hp).mono ?_ ?_
              · rintro count q ⟨hq, -⟩
                refine ⟨?_, fun hl => absurd hl notPlain⟩
                have hn : n + (count + 1) = n + 1 + count := by omega
                rw [hn]
                exact hq
              · rintro fault q ⟨m, -, he⟩
                exact ⟨m, fun hl => absurd hl notPlain, he⟩
          · exact ⟨hp, fun _ _ => rfl⟩

theorem composeAll_ends {lines : List PictureLine}
    (h : ∀ line ∈ lines, Loop before emit line I J E) :
    ∀ n p, I n p → Ends (composeAll before emit lines) p
      (fun count q => I (n + count) q ∧ ((∀ line ∈ lines, line.IsPlain) → count = lines.length))
      fun fault q => ∃ m, ((∀ line ∈ lines, line.IsPlain) → m < n + lines.length) ∧ E m fault q := by
  induction lines with
  | nil => exact fun n p hp => ⟨hp, fun _ => rfl⟩
  | cons line rest ih =>
    intro n p hp
    simp only [composeAll, ends_bind, ends_get, ends_pure]
    refine (composeTurns_ends (h line (by simp)) _ n p hp).mono ?_ ?_
    · rintro count q ⟨hq, hcount⟩
      refine (ih (fun line hl => h line (by simp [hl])) _ q hq).mono ?_ ?_
      · rintro others r ⟨hr, hothers⟩
        refine ⟨by rw [← Nat.add_assoc]; exact hr, fun hl => ?_⟩
        rw [hcount (hl line (by simp)) (Nat.succ_pos _), hothers fun line h => hl line (by simp [h]),
          List.length_cons, Nat.add_comm]
      · rintro fault r ⟨m, hm, he⟩
        refine ⟨m, fun hl => ?_, he⟩
        have hlt := hm fun line h => hl line (by simp [h])
        have hone := hcount (hl line (by simp)) (Nat.succ_pos _)
        rw [List.length_cons]
        omega
    · rintro fault q ⟨m, hm, he⟩
      refine ⟨m, fun hl => ?_, he⟩
      rw [hm (hl line (by simp)), List.length_cons]
      omega

end Composing

/-! ## Bands -/

/-- Between `p` and `q` the composed lines `made` of a band are printed, and quiet lines set nothing. -/
structure Emits (band : Band) (lines : List PictureLine) (made : List Composed) (p q : Press) :
    Prop where
  prints : Prints (.band band) made p q
  pages : ∀ line ∈ made, line.page = p.page.number
  quiet : (∀ line ∈ lines, line.IsQuiet) → q.desk.journal = p.desk.journal

/-- `emitBand` prints a band to its end, or to a line that cannot be composed. -/
theorem emitBand_ends (band : Band) (lines : List PictureLine) (p : Press) :
    Ends (emitBand band lines) p
      (fun count q => ∃ made r, Emits band lines made p r ∧ made.length = count ∧
        q = r.noted (.emitted band count) ∧ ((∀ line ∈ lines, line.IsPlain) → count = lines.length))
      fun fault q => ∃ made, Emits band lines made p q ∧
        ((∀ line ∈ lines, line.IsPlain) → made.length < lines.length) ∧
        ∃ line ∈ lines, ∃ desk, line.FaultsTo fault desk q.desk := by
  let I : Nat → Press → Prop := fun n q => ∃ made, Emits band lines made p q ∧ made.length = n
  let E : Nat → Fault → Press → Prop := fun n fault q =>
    I n q ∧ ∃ line ∈ lines, ∃ desk, line.FaultsTo fault desk q.desk
  -- the lines made so far are carried along, and quiet ones leave the journal as it was
  have loop : ∀ line ∈ lines, Loop (pure ()) (fun line => do
      write (.band band) line
      onPager (·.consume 1 false)) line I I E := by
    intro line hl
    refine ⟨fun n q h => h, fun n q h => h, ?_, ?_, ?_, fun n q fault desk h hf => ⟨h, line, hl, desk, hf⟩⟩
    · rintro n q page ⟨made, hm, rfl⟩ desk rfl
      refine ⟨made, ⟨prints_desk hm.prints _, hm.pages, fun hq => ?_⟩, rfl⟩
      have hj := PictureLine.compose_journal (hq line hl) page q.desk
      unfold Ends at hj
      split at hj <;> rename_i hx <;> rw [hx] <;> exact hj.trans (hm.quiet hq)
    · rintro n q warnings ⟨made, hm, rfl⟩
      exact ⟨made, ⟨prints_desk hm.prints _, hm.pages, hm.quiet⟩, rfl⟩
    · rintro n q text ⟨made, hm, rfl⟩
      simp only [write, ends_bind, ends_modify, ends_onPager]
      refine ⟨made ++ [⟨text, q.page.number⟩], ⟨hm.prints.trans ?_, ?_, hm.quiet⟩, by simp⟩
      · refine ⟨?_, ?_, rfl, rfl, rfl⟩
        · simp [events, paged, printing, page]
        · simp [page, Page.taking, Pager.consume]
      · intro line hline
        rcases List.mem_append.mp hline with h | h
        · exact hm.pages line h
        · rw [List.mem_singleton.mp h, hm.prints.page]
          rfl
  simp only [emitBand, ends_bind, ends_note, ends_pure]
  have start : I 0 p := ⟨[], ⟨Prints.refl _ p, by simp, fun _ => rfl⟩, rfl⟩
  refine (composeAll_ends loop 0 p start).mono ?_ ?_
  · rintro count q ⟨⟨made, hm, hc⟩, hplain⟩
    exact ⟨made, q, hm, by omega, rfl, hplain⟩
  · rintro fault q ⟨m, hlt, ⟨made, hm, rfl⟩, hf⟩
    exact ⟨made, hm, fun hl => by have := hlt hl; omega, hf⟩

end Press

namespace Form

/-- The picture lines of a band; none without the band. -/
def lines (form : Form) (band : Band) : List PictureLine := (form.band? band).getD []

theorem band?_of_bands {form : Form} (h : form.bands = []) (band : Band) : form.band? band = none := by
  unfold band?
  rw [h]
  rfl

theorem lines_of_none {form : Form} {band : Band} (h : form.band? band = none) : form.lines band = [] := by
  unfold lines
  rw [h]
  rfl

theorem lines_of_some {form : Form} {band : Band} {lines : List PictureLine}
    (h : form.band? band = some lines) : form.lines band = lines := by
  unfold Form.lines
  rw [h]
  rfl

/-- The event that a band of the form ends with; none without the band. -/
def marks (form : Form) (band : Band) (count : Nat) : List Event :=
  if (form.band? band).isSome then [.emitted band count] else []

/-- The group header follows the top, unless top and header are all that the page shows. -/
def HeaderDue (form : Form) (page : Page) : Prop :=
  (form.band? .top).isSome ∧ (form.band? .groupHeader).isSome ∧
    ((form.bandSize .top + form.bandSize .groupHeader : Nat) : Int) + page.linesLeft ≠ page.length

/-- Composing some line of the band fails and leaves `after`. -/
def BandFaults (form : Form) (band : Band) (fault : Fault) (after : Desk) : Prop :=
  ∃ line ∈ form.lines band, ∃ desk, line.FaultsTo fault desk after

end Form

namespace Press

/-- Between `p` and `q` a band of the form is printed to its end (`Emits` and its mark); without the band
nothing is. -/
structure Whole (form : Form) (band : Band) (made : List Composed) (p q : Press) : Prop where
  events : q.events = p.events ++ (p.printing (.band band) made).map .printed ++
    form.marks band made.length
  page : q.page = p.page.taking (.band band) made.length
  state : q.pager.state = p.pager.state
  formFeed : q.formFeed = p.formFeed
  pending : q.pending = p.pending
  pages : ∀ line ∈ made, line.page = p.page.number
  size : (∀ line ∈ form.lines band, line.IsPlain) → made.length = form.bandSize band
  absent : form.band? band = none → made = []
  run : ∀ lines, form.band? band = some lines → emitBand band lines p = (.ok made.length, q)
  quiet : (∀ line ∈ form.lines band, line.IsQuiet) → q.desk.journal = p.desk.journal

/-- Between `p` and `q` a band is printed up to a line that cannot be composed. -/
structure Partly (form : Form) (band : Band) (fault : Fault) (made : List Composed) (p q : Press) :
    Prop where
  emits : Emits band (form.lines band) made p q
  size : (∀ line ∈ form.lines band, line.IsPlain) → made.length < form.bandSize band
  fault : form.BandFaults band fault q.desk

section Bands

variable {form : Form} {band : Band} {p : Press} {E : Fault → Press → Prop}

theorem whole_of_none (h : form.band? band = none) : Whole form band [] p p := by
  refine ⟨?_, ?_, rfl, rfl, rfl, ?_, ?_, fun _ => rfl, fun lines hl => ?_, fun _ => rfl⟩
  · simp [printing, Form.marks, h]
  · simp [Page.taking]
  · simp
  · simp [Form.bandSize, h]
  · rw [h] at hl
    cases hl

/-- A band of the form is printed `Whole` or `Partly`. -/
theorem emitBand_whole {lines : List PictureLine} (h : form.band? band = some lines)
    {Q : Nat → Press → Prop}
    (hdone : ∀ made q, Whole form band made p q → Q made.length q)
    (hfault : ∀ fault made q, Partly form band fault made p q → E fault q) :
    Ends (emitBand band lines) p Q E := by
  have hlines : form.lines band = lines := by simp [Form.lines, h]
  have hsize : form.bandSize band = lines.length := by simp [Form.bandSize, h]
  refine ((emitBand_ends band lines p).and (ends_self _ p)).mono ?_ ?_
  · rintro _ _ ⟨⟨made, r, hm, rfl, rfl, hplain⟩, hrun⟩
    refine hdone made _ ⟨?_, hm.prints.page, hm.prints.state, hm.prints.formFeed, hm.prints.pending,
      hm.pages, ?_, fun hn => ?_, fun others hl => ?_, ?_⟩
    · simp [hm.prints.events, Form.marks, h]
    · rwa [hlines, hsize]
    · rw [hn] at h
      cases h
    · rw [h] at hl
      obtain rfl := Option.some.inj hl
      exact hrun
    · rw [hlines]
      exact hm.quiet
  · rintro fault q ⟨⟨made, hm, hplain, hf⟩, -⟩
    refine hfault fault made q ⟨?_, ?_, ?_⟩
    · rwa [hlines]
    · rwa [hlines, hsize]
    · unfold Form.BandFaults
      rwa [hlines]

/-! ## Opening and closing a page -/

/-- The press when the bottom is due. -/
def due (p : Press) : Press := p.paged Pager.requestBottom

/-- The press after its page is closed and that is noted. -/
def closed (p : Press) (feed bottomPrinted : Bool) : Press :=
  (p.paged (·.endPage feed bottomPrinted)).noted (.closed feed bottomPrinted)

/-- The press after its page is begun and that is noted. -/
def opened (p : Press) : Press := (p.noted .opened).paged fun pager => pager.beginPage.2

section Fields

variable (feed bottomPrinted : Bool) (p : Press)

@[simp] theorem events_due : p.due.events = p.events := rfl
@[simp] theorem page_due : p.due.page = { p.page with bottomPending := true } := rfl
@[simp] theorem pending_due : p.due.pending = p.pending := rfl
@[simp] theorem formFeed_due : p.due.formFeed = p.formFeed := rfl
@[simp] theorem desk_due : p.due.desk = p.desk := rfl

@[simp] theorem events_closed :
    (p.closed feed bottomPrinted).events = p.events ++ [.closed feed bottomPrinted] := by
  simp [closed]

@[simp] theorem page_closed : (p.closed feed bottomPrinted).page =
    { p.page with
      linesLeft := p.page.length
      number := if bottomPrinted then p.page.number + 1 else p.page.number
      topPending := true
      bodyPrinted := false
      bottomPending := false
      feedPending := feed } := rfl

@[simp] theorem pending_closed : (p.closed feed bottomPrinted).pending = p.pending := rfl
@[simp] theorem formFeed_closed : (p.closed feed bottomPrinted).formFeed = p.formFeed := rfl
@[simp] theorem desk_closed : (p.closed feed bottomPrinted).desk = p.desk := rfl

@[simp] theorem events_opened : p.opened.events = p.events ++ [.opened] := by simp [opened]
@[simp] theorem pending_opened : p.opened.pending = p.pending := rfl
@[simp] theorem formFeed_opened : p.opened.formFeed = p.formFeed := rfl
@[simp] theorem desk_opened : p.opened.desk = p.desk := rfl

theorem page_opened {p : Press} (h : p.page.topPending = true) :
    p.opened.page = { p.page with topPending := false, bodyPrinted := false } := by
  have hpage : p.pager.page = p.page := rfl
  simp [opened, Pager.beginPage, hpage, h]

end Fields

theorem endPage_ends {feed : Option Bool} {Q : Unit → Press → Prop}
    (hdone : ∀ made q, Whole form .bottom made p.due q →
      Q () (q.closed (feed.getD p.formFeed) (0 < made.length)))
    (hfault : ∀ fault made q, Partly form .bottom fault made p.due q → E fault q) :
    Ends (endPage form feed) p Q E := by
  simp only [endPage, ends_bind, ends_onPager]
  cases hb : form.band? .bottom with
  | none =>
    simp only [ends_bind, ends_pure, ends_get, ends_onPager, ends_note]
    exact hdone [] p.due (whole_of_none hb)
  | some lines =>
    simp only [ends_bind, ends_get, ends_onPager, ends_note]
    refine emitBand_whole hb (fun made q hm => ?_) hfault
    have hq := hdone made q hm
    rwa [show p.formFeed = q.formFeed from hm.formFeed.symm] at hq

/-- Begin the page that is owed, and print its top and after it the group header: what `printTop` does once
the page before is closed. -/
def openPage (form : Form) : Printing Unit := do
  if ← beginPage then
    if let some top := form.band? .top then
      let _ ← emitBand .top top
      if let some header := form.band? .groupHeader then
        let page := (← get).page
        if ((top.length + header.length : Nat) : Int) + page.linesLeft ≠ page.length then
          let _ ← emitBand .groupHeader header

theorem printTop_eq (form : Form) : printTop form = (do
    if (← get).page.bottomPending then endPage form none
    openPage form) := rfl

theorem openPage_ends {Q : Unit → Press → Prop}
    (hopen : p.page.topPending = false → Q () p)
    (hused : p.page.topPending = true → p.page.isFresh = false → Q () p.opened)
    (hbare : p.page.topPending = true → p.page.isFresh = true → ∀ made q,
      Whole form .top made p.opened q → ¬ form.HeaderDue q.page → Q () q)
    (hheaded : p.page.topPending = true → p.page.isFresh = true → ∀ made q,
      Whole form .top made p.opened q → form.HeaderDue q.page → ∀ made' r,
        Whole form .groupHeader made' q r → Q () r)
    (htop : p.page.topPending = true → p.page.isFresh = true → ∀ fault made q,
      Partly form .top fault made p.opened q → E fault q)
    (hheader : p.page.topPending = true → p.page.isFresh = true → ∀ made q,
      Whole form .top made p.opened q → form.HeaderDue q.page → ∀ fault made' r,
        Partly form .groupHeader fault made' q r → E fault r) :
    Ends (openPage form) p Q E := by
  have hpage : p.pager.page = p.page := rfl
  simp only [openPage, beginPage, ends_bind, ends_get, Pager.beginPage]
  cases ht : p.page.topPending with
  | false =>
    simp only [ends_bind, hpage, ht, Bool.false_eq_true, if_false, ends_onPager, ends_pure]
    exact hopen ht
  | true =>
    simp only [ends_bind, hpage, ht, if_true, ends_note, ends_onPager, ends_pure]
    have hfresh : ({ p.page with topPending := false, bodyPrinted := false } : Page).isFresh =
      p.page.isFresh := rfl
    have hstart : (p.noted .opened).paged (fun _ =>
        ⟨{ p.page with topPending := false, bodyPrinted := false }, .body⟩) = p.opened := by
      simp [opened, paged, Pager.beginPage, hpage, ht]
    rw [hfresh, hstart]
    cases hf : p.page.isFresh with
    | false => exact hused ht hf
    | true =>
      simp only [if_true]
      cases hb : form.band? .top with
      | none => exact hbare ht hf [] _ (whole_of_none hb) (by simp [Form.HeaderDue, hb])
      | some top =>
        simp only [ends_bind]
        refine emitBand_whole hb (fun made q hm => ?_) (htop ht hf)
        cases hh : form.band? .groupHeader with
        | none => exact hbare ht hf made q hm (by simp [Form.HeaderDue, hh])
        | some header =>
          have hdue : form.HeaderDue q.page ↔
              ((top.length + header.length : Nat) : Int) + q.page.linesLeft ≠ q.page.length := by
            simp [Form.HeaderDue, Form.bandSize, hb, hh]
          simp only [ends_bind, ends_get]
          rw [ends_ite]
          split
          · rename_i hd
            simp only [ends_bind, ends_pure]
            exact emitBand_whole hh
              (fun made' r hr => hheaded ht hf made q hm (hdue.mpr hd) made' r hr)
              fun fault made' r hr => hheader ht hf made q hm (hdue.mpr hd) fault made' r hr
          · rename_i hd
            exact hbare ht hf made q hm fun h => hd (hdue.mp h)

/-- Between `p` and `q` the page is closed, and its lines are there again. -/
structure Between (p q : Press) : Prop where
  topPending : q.page.topPending = true
  bottomPending : q.page.bottomPending = false
  bodyPrinted : q.page.bodyPrinted = false
  length : q.page.length = p.page.length
  linesLeft : q.page.linesLeft = p.page.length
  pending : q.pending = p.pending
  formFeed : q.formFeed = p.formFeed

theorem endPage_between (form : Form) (feed : Option Bool) (p : Press) :
    Ends (endPage form feed) p (fun _ q => Between p q) fun _ _ => True := by
  refine endPage_ends (fun made q hq => ?_) fun _ _ _ _ => trivial
  refine ⟨by simp, by simp, by simp, by simp [hq.page, Page.taking], by simp [hq.page, Page.taking], ?_, ?_⟩
  · simpa using hq.pending
  · simpa using hq.formFeed

/-- Between `p` and `q` a page is begun, unless one was begun already and is not to be closed. -/
structure Begun (p q : Press) : Prop where
  topPending : q.page.topPending = false
  bottomPending : q.page.bottomPending = false
  length : q.page.length = p.page.length
  pending : q.pending = p.pending
  formFeed : q.formFeed = p.formFeed
  same : p.page.topPending = false → p.page.bottomPending = false → q = p
  number : p.page.bottomPending = false → q.page.number = p.page.number
  fresh : p.page.topPending = true ∨ p.page.bottomPending = true → q.page.bodyPrinted = false

theorem openPage_begun (form : Form) {p : Press} (h : p.page.bottomPending = false) :
    Ends (openPage form) p (fun _ q => Begun p q) fun _ _ => True := by
  have taken : ∀ (band : Band) (made : List Composed) (q r : Press), p.page.topPending = true →
      (Begun p q ∧ q.page.bodyPrinted = false) → Whole form band made q r →
      Begun p r ∧ r.page.bodyPrinted = false := by
    rintro band made q r ht ⟨hq, hb⟩ hr
    have hbody : r.page.bodyPrinted = false := by rw [hr.page]; simp [Page.taking, hb]
    refine ⟨⟨?_, ?_, ?_, hr.pending.trans hq.pending, hr.formFeed.trans hq.formFeed, ?_, ?_,
      fun _ => hbody⟩, hbody⟩
    · rw [hr.page]; exact hq.topPending
    · rw [hr.page]; exact hq.bottomPending
    · rw [hr.page]; exact hq.length
    · intro h0
      rw [ht] at h0
      cases h0
    · rw [hr.page]; exact hq.number
  have start : p.page.topPending = true → Begun p p.opened ∧ p.opened.page.bodyPrinted = false := by
    intro ht
    have hpage := page_opened ht
    refine ⟨⟨by rw [hpage], by rw [hpage]; exact h, by rw [hpage], rfl, rfl, ?_, ?_, ?_⟩, by rw [hpage]⟩
    · intro h0
      rw [ht] at h0
      cases h0
    · intro _
      rw [hpage]
    · intro _
      rw [hpage]
  refine openPage_ends ?_ ?_ ?_ ?_ (fun _ _ _ _ _ _ => trivial) fun _ _ _ _ _ _ _ _ _ _ => trivial
  · intro ht
    refine ⟨ht, h, rfl, rfl, rfl, fun _ _ => rfl, fun _ => rfl, fun h0 => ?_⟩
    simp [ht, h] at h0
  · exact fun ht _ => (start ht).1
  · exact fun ht _ made q hq _ => (taken _ _ _ _ ht (start ht) hq).1
  · exact fun ht _ made q hq _ made' r hr => (taken _ _ _ _ ht (taken _ _ _ _ ht (start ht) hq) hr).1

theorem printTop_begun (form : Form) (p : Press) :
    Ends (printTop form) p (fun _ q => Begun p q) fun _ _ => True := by
  simp only [printTop_eq, ends_bind, ends_get]
  rw [ends_ite]
  split
  · rename_i hb
    simp only [ends_bind]
    refine (endPage_between form none p).mono (fun _ q hq => ?_) fun _ _ _ => trivial
    refine (openPage_begun form hq.bottomPending).mono (fun _ r hr => ?_) fun _ _ h => h
    refine ⟨hr.topPending, hr.bottomPending, hr.length.trans hq.length, hr.pending.trans hq.pending,
      hr.formFeed.trans hq.formFeed, ?_, ?_, fun _ => hr.fresh (.inl hq.topPending)⟩
    · intro _ h0
      rw [hb] at h0
      cases h0
    · intro h0
      rw [hb] at h0
      cases h0
  · rename_i hb
    exact openPage_begun form (by simpa using hb)

theorem finishPage_ends {feed : Bool} {Q : Unit → Press → Prop}
    (hidle : p.page.topPending = true → Q () p)
    (hopen : p.page.topPending = false → ∀ q,
      Prints .padding (List.replicate (p.page.linesLeft - form.bandSize .bottom).toNat
        ⟨[], p.page.number⟩) p q → q.desk = p.desk → Ends (endPage form (some feed)) q Q E) :
    Ends (finishPage form feed) p Q E := by
  simp only [finishPage, ends_bind, ends_get]
  rw [ends_ite]
  split
  · rename_i ht
    exact hidle ht
  · rename_i ht
    simp only [ends_bind, ends_onPager]
    refine (writeAll_ends .padding _ p).mono ?_ fun _ _ h => h.elim
    rintro _ q ⟨hev, hq⟩
    refine hopen (by simpa using ht) _ ⟨by simpa using hev, ?_, ?_, ?_, ?_⟩ ?_ <;> rw [hq]
    · simp [Pager.consume, Page.taking]
    all_goals simp [Pager.consume]

end Bands

end Press

end PictureReport
