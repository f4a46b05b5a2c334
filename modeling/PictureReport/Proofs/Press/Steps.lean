import PictureReport.Proofs.Press.Keeping
import PictureReport.Proofs.Press.Transparency

/-!
# Records without bands

What each step of printing a record keeps wherever it is done, printing a record keeps, whether it fails
or not (`Stable`).  With a form that has no bands and without form feeds only lines of records are printed
(`Bare`).
-/

namespace PictureReport.Press

/-- Each step of printing a record of the form keeps `I`, whether it fails or not. -/
structure Stable (form : Form) (I : Press → Prop) : Prop where
  desk : ∀ p desk, I p → I { p with desk }
  holding : ∀ p pending, I p → I (p.holding pending)
  moved : ∀ p state, I p → I (p.paged (·.transition state))
  due : ∀ p, I p → I p.due
  flushed : ∀ p left, I p → I (p.noted (.flushed left))
  deferred : ∀ p count, I p → I (p.noted (.deferred count))
  body : ∀ p q lines, Prints .body lines p q → I p → I q
  endPage : ∀ p, I p → Ends (endPage form none) p (fun _ q => I q) fun _ q => I q
  printTop : ∀ p, I p → Ends (printTop form) p (fun _ q => I q) fun _ q => I q

section Stable

variable {form : Form} {I : Press → Prop} {p : Press}

/-- A stable assertion is one that `RecordSteps` keeps for both outcomes. -/
theorem Stable.steps (h : Stable form I) : RecordSteps form I fun _ => I where
  due := fun p _ hp => h.due p hp
  endPage := fun p _ hp => h.endPage p hp
  printTop := h.printTop
  desk := h.desk
  holding := h.holding
  moved := h.moved
  flushed := fun p left _ hp => h.flushed p left hp
  deferred := fun p count _ hp => h.deferred p count hp
  body := fun p q lines _ hq hp => h.body p q lines hq hp
  fault := fun _ _ hp => hp

theorem Stable.printRecord (h : Stable form I) (hp : I p) :
    Ends (printRecord form) p (fun _ q => I q) fun _ q => I q :=
  h.steps.printRecord hp

end Stable

/-! ## Forms without bands -/

/-- Only lines of records are printed (`Origin.body`), and no form feeds are set. -/
structure Bare (p : Press) : Prop where
  formFeed : p.formFeed = false
  feedPending : p.page.feedPending = false
  printed : ∀ line ∈ p.printed, line.origin = .body ∧ line.feed = false

section Bare

variable {form : Form} {p q : Press}

theorem bare_start (length : Int) : Bare (start (Page.first length) false) :=
  ⟨rfl, rfl, fun _ hl => absurd hl List.not_mem_nil⟩

theorem Bare.congr (h : Bare p) (hf : q.formFeed = p.formFeed)
    (hfeed : q.page.feedPending = p.page.feedPending) (he : q.printed = p.printed) : Bare q := by
  refine ⟨hf.trans h.formFeed, hfeed.trans h.feedPending, fun line hl => ?_⟩
  rw [he] at hl
  exact h.printed line hl

theorem printed_noted {event : Event} (h : event.line? = none) : (p.noted event).printed = p.printed := by
  have hevents : p.printed = p.events.filterMap Event.line? := rfl
  change (p.noted event).events.filterMap Event.line? = _
  rw [events_noted, List.filterMap_append, hevents]
  simp [h]

/-- Where only records are printed, the report `p.lines` is the texts of their lines. -/
theorem Bare.lines (h : Bare p) : p.lines = bodyTexts p.events := by
  have hfilter : p.printed.filter (·.origin = .body) = p.printed := by
    refine List.filter_eq_self.mpr fun line hl => ?_
    rw [(h.printed line hl).1]
    rfl
  have hevents : bodyTexts p.events = (p.printed.filter (·.origin = .body)).map (·.line.text) := rfl
  rw [hevents, hfilter]
  refine List.map_congr_left fun line hl => ?_
  unfold Printed.shown
  rw [(h.printed line hl).2]
  rfl

theorem Bare.endPage (hbottom : form.band? .bottom = none) (h : Bare p) :
    Ends (endPage form none) p (fun _ q => Bare q) fun _ q => Bare q := by
  simp only [Press.endPage, hbottom, ends_bind, ends_onPager, ends_get, ends_pure, ends_note]
  refine ⟨h.formFeed, h.formFeed, ?_⟩
  rw [printed_noted rfl]
  exact h.printed

/-- A band that the form does not have prints nothing, so `Bare` goes through it. -/
theorem Bare.whole {band : Band} (hband : form.band? band = none) {made : List Composed}
    (hw : Whole form band made p q) (h : Bare p) : Bare q := by
  obtain rfl := hw.absent hband
  refine h.congr hw.formFeed ?_ ?_
  · rw [hw.page]
    simp [Page.taking]
  · have hevents := hw.events
    simp only [printing, Form.marks, hband, List.map_nil, List.append_nil, Option.isSome_none,
      Bool.false_eq_true, if_false] at hevents
    exact congrArg (List.filterMap Event.line?) hevents

theorem Bare.openPage (hband : ∀ band, form.band? band = none) (h : Bare p) :
    Ends (openPage form) p (fun _ q => Bare q) fun _ q => Bare q := by
  have hopened : Bare p.opened := by
    refine h.congr rfl ?_ (printed_noted rfl)
    simp only [opened, page_paged, Pager.beginPage]
    split <;> rfl
  have hnone : ∀ {band fault made q r}, ¬ Partly form band fault made q r := by
    intro band fault made q r hpartly
    obtain ⟨line, hl, -⟩ := hpartly.fault
    rw [Form.lines_of_none (hband band)] at hl
    cases hl
  have hdue : ∀ page, ¬ form.HeaderDue page := by
    intro page hd
    have htop := hd.1
    rw [hband] at htop
    cases htop
  refine openPage_ends (fun _ => h) (fun _ _ => hopened) ?_ ?_ ?_ ?_
  · exact fun _ _ made q hq _ => hopened.whole (hband .top) hq
  · exact fun _ _ made q _ hd => absurd hd (hdue q.page)
  · exact fun _ _ fault made q hq => absurd hq hnone
  · exact fun _ _ made q _ hd => absurd hd (hdue q.page)

theorem Bare.printTop (hband : ∀ band, form.band? band = none) (h : Bare p) :
    Ends (printTop form) p (fun _ q => Bare q) fun _ q => Bare q := by
  refine printTop_ends (fun _ => ?_) fun _ => h.openPage hband
  exact (h.endPage (hband .bottom)).mono (fun _ q hq => hq.openPage hband) fun _ _ he => he

theorem bare_stable (hband : ∀ band, form.band? band = none) : Stable form Bare := by
  refine ⟨?_, ?_, ?_, ?_, ?_, ?_, ?_, ?_, ?_⟩
  · exact fun p _ hp => hp.congr rfl rfl rfl
  · exact fun p _ hp => hp.congr rfl rfl rfl
  · exact fun p _ hp => hp.congr rfl rfl rfl
  · exact fun p hp => hp.congr rfl rfl rfl
  · exact fun p left hp => hp.congr rfl rfl (printed_noted rfl)
  · exact fun p count hp => hp.congr rfl rfl (printed_noted rfl)
  · intro p q lines hq hp
    refine ⟨hq.formFeed.trans hp.formFeed, ?_, fun line hl => ?_⟩
    · rw [hq.page]
      simp [Page.taking, hp.feedPending]
    · have hprinted : q.printed = p.printed ++ p.printing .body lines := by
        have hevents : q.printed = q.events.filterMap Event.line? := rfl
        rw [hevents, hq.events, List.filterMap_append, List.filterMap_map]
        exact congrArg (p.printed ++ ·) (List.filterMap_some)
      rw [hprinted] at hl
      rcases List.mem_append.mp hl with hl | hl
      · exact hp.printed line hl
      · obtain ⟨-, horigin, -, hfeed⟩ := mem_printing hl
        refine ⟨horigin, ?_⟩
        cases hf : line.feed with
        | false => rfl
        | true =>
          have hpending := hfeed hf
          rw [hp.feedPending] at hpending
          cases hpending
  · exact fun p hp => hp.endPage (hband .bottom)
  · exact fun p hp => hp.printTop hband

/-- A record of a form without bands prints just the lines that `collect` gives for its body, whatever is
known of them (`P`). -/
theorem printRecord_collects (hband : ∀ band, form.band? band = none)
    (hpageless : ∀ line ∈ form.body, line.IsPageless) (hsaved : p.desk.journal.saved = [])
    (hbare : Bare p) {P : List Text → Prop} (hcollect : Ends (collect form.body) (p.holding [])
      (fun _ q => P (q.pending.map (·.text))) fun _ _ => False) :
    Ends (printRecord form) p
      (fun _ q => Bare q ∧ ∃ ts, P ts ∧ bodyTexts q.events = bodyTexts p.events ++ ts)
      fun _ _ => False := by
  have hnone : ∀ band line, line ∉ form.lines band := by
    intro band line
    rw [Form.lines_of_none (hband band)]
    exact List.not_mem_nil
  have hquiet : form.IsQuiet := fun band _ line hl => absurd hl (hnone band line)
  have hprints := printRecord_transparent (p := p) (u := p.holding []) hpageless hquiet
    (Journal.Alike.refl _) hsaved rfl
  have hkept := (bare_stable hband).printRecord hbare
  refine (hprints.and hkept).mono ?_ ?_
  · rintro _ q ⟨⟨count, r, hr, htexts, -⟩, hq⟩
    exact ⟨hq, _, hcollect.of_ok hr, htexts⟩
  · rintro fault q ⟨hfault | ⟨r, hr⟩, -⟩
    · obtain ⟨band, -, line, hl, -⟩ := hfault
      exact hnone band line hl
    · exact hcollect.of_error hr

end Bare

end PictureReport.Press
