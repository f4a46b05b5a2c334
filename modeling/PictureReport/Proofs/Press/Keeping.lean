import PictureReport.Proofs.Press.Operations

/-!
# What all steps of printing keep

A task is done in steps: lines are composed and printed, pages are closed and begun.  What each of these
steps keeps, the task keeps, and what each step leaves that fails, the task leaves that fails
(`PageSteps`, `RecordSteps`, `BandSteps`).  A step is told where it is done: lines are printed and pages
are closed only when a page is begun.

Placing a record is such a task where a flush is one step (`PlaceSteps`): what a flush does to the press
between its first line and the end of its page does not matter then.
-/

namespace PictureReport.Press

/-- Closing and beginning pages keeps `I`, or fails and leaves `E`. -/
structure PageSteps (form : Form) (I : Press → Prop) (E : Fault → Press → Prop) : Prop where
  due : ∀ p, p.page.topPending = false → I p → I p.due
  endPage : ∀ p, p.page.topPending = false → I p → Ends (endPage form none) p (fun _ q => I q) E
  printTop : ∀ p, I p → Ends (printTop form) p (fun _ q => I q) E

/-- Each step of printing a record keeps `I`, or fails and leaves `E`: those of `PageSteps`, and what is done
to the lines of the record. -/
structure RecordSteps (form : Form) (I : Press → Prop) (E : Fault → Press → Prop) : Prop
    extends PageSteps form I E where
  desk : ∀ p desk, I p → I { p with desk }
  holding : ∀ p pending, I p → I (p.holding pending)
  moved : ∀ p state, I p → I (p.paged (·.transition state))
  flushed : ∀ p left, p.page.topPending = false → I p → I (p.noted (.flushed left))
  deferred : ∀ p count, p.page.topPending = false → I p → I (p.noted (.deferred count))
  body : ∀ p q lines, (lines ≠ [] → p.page.topPending = false) → Prints .body lines p q → I p → I q
  fault : ∀ p fault, I p → E fault p

/-- Each step of placing a record keeps `I`, or fails and leaves `E`.  A flush is one step here, so `I` may
fail inside it. -/
structure PlaceSteps (form : Form) (I : Press → Prop) (E : Fault → Press → Prop) : Prop where
  endPage : ∀ p, p.page.topPending = false → I p → Ends (endPage form none) p (fun _ q => I q) E
  printTop : ∀ p, I p → Ends (printTop form) p (fun _ q => I q) E
  desk : ∀ p desk, I p → I { p with desk }
  holding : ∀ p pending, I p → I (p.holding pending)
  flush : ∀ p, p.page.topPending = false → I p → Ends (flushPartial form) p (fun _ q => I q) E
  deferred : ∀ p count, p.page.topPending = false → I p → I (p.noted (.deferred count))
  body : ∀ p q lines, (lines ≠ [] → p.page.topPending = false) → Prints .body lines p q → I p → I q
  fault : ∀ p fault, I p → E fault p

/-- The press on which the summary is not printed again: its flag `summaryPending` is cleared. -/
def summarized (p : Press) : Press :=
  p.paged (·.onPage fun page => { page with summaryPending := false })

/-- Each step of printing a band on demand and of finishing a page keeps `I`, or fails and leaves `E`. -/
structure BandSteps (form : Form) (I : Press → Prop) (E : Fault → Press → Prop) : Prop
    extends PageSteps form I E where
  finish : ∀ p q (feed : Bool), p.page.topPending = false →
    Prints .padding (List.replicate (p.page.linesLeft - (form.bandSize .bottom : Int)).toNat
      ⟨[], p.page.number⟩) p q →
    I p → Ends (Press.endPage form (some feed)) q (fun _ q => I q) E
  band : ∀ band made p q, band ≠ .top → band ≠ .bottom → p.page.topPending = false →
    p.page.bottomPending = false → Whole form band made p q → I p → I q
  partly : ∀ band fault made p q, band ≠ .top → band ≠ .bottom → p.page.topPending = false →
    p.page.bottomPending = false → Partly form band fault made p q → I p → E fault q
  summary : ∀ p, I p → I p.summarized

section Steps

variable {form : Form} {I : Press → Prop} {E : Fault → Press → Prop} {p : Press}

/-! ## Pages -/

/-- `printTop` closes a page whose bottom is due before it opens the next one, so it keeps what both keep. -/
theorem printTop_keeps (hbegun : ∀ p, I p → p.page.bottomPending = true → p.page.topPending = false)
    (hend : ∀ p, p.page.topPending = false → I p → Ends (endPage form none) p (fun _ q => I q) E)
    (hopen : ∀ p, p.page.bottomPending = false → I p → Ends (openPage form) p (fun _ q => I q) E)
    (hp : I p) : Ends (printTop form) p (fun _ q => I q) E := by
  refine printTop_ends (fun hb => ?_) fun hb => hopen p hb hp
  refine ((hend p (hbegun p hp hb) hp).and_ok (endPage_between form none p)).mono ?_ fun _ _ he => he
  rintro _ q ⟨hq, hbetween⟩
  exact hopen q hbetween.bottomPending hq

theorem PageSteps.begun (h : PageSteps form I E) (hp : I p) :
    Ends (Press.printTop form) p (fun _ q => I q ∧ Begun p q) E :=
  (h.printTop p hp).and_ok (printTop_begun form p)

theorem PageSteps.endPageIfFull (h : PageSteps form I E) (hp : I p) :
    Ends (endPageIfFull form) p (fun _ q => I q) E :=
  endPageIfFull_ends (fun _ => hp) (fun ht _ _ => h.endPage p ht hp) fun ht _ => h.due p ht hp

/-! ## Records -/

theorem PlaceSteps.begun (h : PlaceSteps form I E) (hp : I p) :
    Ends (Press.printTop form) p (fun _ q => I q ∧ Begun p q) E :=
  (h.printTop p hp).and_ok (printTop_begun form p)

theorem PlaceSteps.writeBody (h : PlaceSteps form I E) {lines : List Composed}
    (hlines : lines ≠ [] → p.page.topPending = false) (hp : I p) :
    Ends (writeBody lines) p (fun _ q => I q) E := by
  refine (writeBody_ends lines p).mono ?_ fun _ _ he => he.elim
  rintro _ q ⟨hq, -⟩
  exact h.body p q lines hlines hq hp

theorem PlaceSteps.splitFullPage (h : PlaceSteps form I E) (hp : I p) :
    Ends (splitFullPage form) p (fun _ q => I q) E := by
  refine splitFullPage_ends (fun _ => hp) fun _ => ?_
  refine (h.begun hp).mono (fun _ q hq => ?_) fun _ _ he => he
  exact ⟨fun _ => hq.1, fun _ => h.flush q hq.2.topPending hq.1⟩

/-- Where `flushRest` leaves lines pending, it has begun a page for them. -/
theorem PlaceSteps.flushRest (h : PlaceSteps form I E) (rounds : Nat)
    (ht : p.pending ≠ [] → p.page.topPending = false) (hp : I p) :
    Ends (flushRest form rounds) p
      (fun _ q => I q ∧ (q.pending ≠ [] → q.page.topPending = false)) E := by
  -- the pages are begun only where lines stay, so the invariant of the rounds says so
  let J : Nat → Press → Prop := fun _ q => I q ∧ (q.pending ≠ [] → q.page.topPending = false)
  refine flushRest_ends (J := J) (fun _ hq => hq) (fun _ _ hq _ => hq) ?_ rounds p ⟨hp, ht⟩
  rintro _ q ⟨hq, hqt⟩ hne -
  refine (h.flush q (hqt hne) hq).mono (fun _ r hr => ⟨fun hempty => ?_, fun _ => ?_⟩) fun _ _ he => he
  · exact ⟨hr, fun hne => absurd hempty hne⟩
  · exact (h.begun hr).mono (fun _ s hs => ⟨hs.1, fun _ => hs.2.topPending⟩) fun _ _ he => he

theorem PlaceSteps.loop (h : PlaceSteps form I E) (line : PictureLine) :
    Loop (Press.splitFullPage form)
      (fun line => modify fun press => { press with pending := press.pending ++ [line] }) line
      (fun _ p => I p) (fun _ p => I p) fun _ => E := by
  refine ⟨fun _ p hp => h.splitFullPage hp, fun _ p hp => hp, ?_, ?_, ?_,
    fun _ p fault _ hp _ => h.fault p fault hp⟩
  · exact fun _ p _ hp desk _ => h.desk p desk hp
  · exact fun _ p _ hp => h.desk p _ hp
  · exact fun _ p _ hp => h.holding p _ hp

/-- `placeRecord` begins a page, so it is enough that `printTop` leaves `I`. -/
theorem PlaceSteps.placeRecord (h : PlaceSteps form I E)
    (hp : Ends (Press.printTop form) p (fun _ q => I q) E) :
    Ends (placeRecord form) p (fun _ q => I q) E := by
  refine placeRecord_ends (I := I) ?_ (fun r hr _ _ => hr) fun r hr _ => ?_
  · refine hp.mono (fun _ q hq => ?_) fun _ _ he => he
    refine (composeAll_ends (fun line _ => h.loop line) 0 _ (h.holding q [] hq)).mono ?_ ?_
    · exact fun _ r hr => hr.1
    · rintro fault r ⟨_, -, hr⟩
      exact hr
  · refine (h.begun hr).mono ?_ fun _ _ he => he
    rintro _ s ⟨hs, hbegun⟩
    have htop := hbegun.topPending
    refine ⟨fun _ => h.writeBody (fun _ => htop) hs, fun _ _ => ?_, fun _ _ => ?_⟩
    · -- the record is cut, and what is left of it is written below the last cut
      exact (h.flushRest _ (fun _ => htop) hs).mono (fun _ t ht => h.writeBody ht.2 ht.1) fun _ _ he => he
    · exact h.endPage _ htop (h.desk _ _ (h.deferred s _ htop hs))

theorem RecordSteps.flushPartial (h : RecordSteps form I E) (ht : p.page.topPending = false) (hp : I p) :
    Ends (flushPartial form) p (fun _ q => I q) E := by
  refine flushPartial_ends rfl fun q hq _ => ?_
  have htop : q.page.topPending = false := by
    rw [hq.page]
    exact ht
  have hprinted := h.body (p.paged (·.transition .partialFlush)) q _ (fun _ => ht) hq (h.moved p _ hp)
  exact h.endPage _ htop (h.desk _ _ (h.flushed _ _ htop (h.holding q _ hprinted)))

theorem RecordSteps.placing (h : RecordSteps form I E) : PlaceSteps form I E where
  endPage := h.endPage
  printTop := h.printTop
  desk := h.desk
  holding := h.holding
  flush := fun _ ht hp => h.flushPartial ht hp
  deferred := h.deferred
  body := h.body
  fault := h.fault

theorem RecordSteps.printRecord (h : RecordSteps form I E) (hp : I p) :
    Ends (printRecord form) p (fun _ q => I q) E := by
  refine printRecord_ends (P := I) ?_ fun q state hq => h.endPageIfFull ?_
  · refine (h.placing.placeRecord (h.printTop p hp)).mono (fun _ q hq => ?_) fun _ _ he => he
    exact ⟨fun _ => hq, fun _ => h.placing.placeRecord (h.printTop q hq)⟩
  · exact h.moved _ state (h.desk q _ hq)

/-! ## Bands on demand -/

theorem BandSteps.finishPage (h : BandSteps form I E) (feed : Bool) (hp : I p) :
    Ends (finishPage form feed) p (fun _ q => I q) E :=
  finishPage_ends (fun _ => hp) fun ht q hq _ => h.finish p q feed ht hq hp

theorem BandSteps.skipPage (h : BandSteps form I E) (hp : I p) :
    Ends (skipPage form) p (fun _ q => I q) E := by
  simp only [Press.skipPage, ends_bind, ends_get]
  exact h.finishPage _ hp

/-- Wherever `makeRoom` finds room, a page is begun and its bottom is not due. -/
theorem BandSteps.makeRoom (h : BandSteps form I E) (size : Nat) (hp : I p) :
    Ends (makeRoom form size) p
      (fun _ q => I q ∧ q.page.topPending = false ∧ q.page.bottomPending = false) E := by
  simp only [Press.makeRoom, ends_bind, ends_get]
  refine (h.begun hp).mono (fun _ q hq => ?_) fun _ _ he => he
  rw [ends_ite]
  split
  · simp only [ends_bind]
    refine (h.skipPage hq.1).mono (fun _ r hr => ?_) fun _ _ he => he
    exact (h.begun hr).mono (fun _ s hs => ⟨hs.1, hs.2.topPending, hs.2.bottomPending⟩) fun _ _ he => he
  · exact ⟨hq.1, hq.2.topPending, hq.2.bottomPending⟩

theorem BandSteps.emitBand (h : BandSteps form I E) {band : Band} (htop : band ≠ .top)
    (hbottom : band ≠ .bottom) {lines : List PictureLine} (hl : form.band? band = some lines)
    (hp : I p ∧ p.page.topPending = false ∧ p.page.bottomPending = false) :
    Ends (emitBand band lines) p (fun _ q => I q) E := by
  obtain ⟨hp, ht, hb⟩ := hp
  exact emitBand_whole hl (fun made q hq => h.band band made p q htop hbottom ht hb hq hp)
    fun fault made q hq => h.partly band fault made p q htop hbottom ht hb hq hp

theorem BandSteps.printBand (h : BandSteps form I E) {band : Band} (htop : band ≠ .top)
    (hbottom : band ≠ .bottom) (hp : I p) : Ends (printBand form band) p (fun _ q => I q) E := by
  simp only [Press.printBand]
  cases hl : form.band? band with
  | none => exact hp
  | some lines =>
    simp only [ends_bind]
    refine (h.makeRoom lines.length hp).mono (fun _ q hq => ?_) fun _ _ he => he
    refine (h.emitBand htop hbottom hl hq).mono (fun _ r hr => ?_) fun _ _ he => he
    exact h.endPageIfFull hr

theorem BandSteps.printGroupHeader (h : BandSteps form I E) (hp : I p) :
    Ends (printGroupHeader form) p (fun _ q => I q) E := by
  simp only [Press.printGroupHeader]
  cases hl : form.band? .groupHeader with
  | none => exact hp
  | some header =>
    simp only [ends_bind, ends_get]
    refine (h.makeRoom header.length hp).mono (fun _ q hq => ?_) fun _ _ he => he
    rw [ends_ite]
    split
    · simp only [ends_bind]
      refine (h.emitBand (by simp) (by simp) hl hq).mono (fun _ r hr => ?_) fun _ _ he => he
      exact h.endPageIfFull hr
    · exact h.endPageIfFull hq.1

theorem BandSteps.printSummary (h : BandSteps form I E) (hp : I p) :
    Ends (printSummary form) p (fun _ q => I q) E := by
  simp only [Press.printSummary, ends_bind, ends_get]
  rw [ends_ite]
  split
  · simp only [ends_bind, ends_onPager]
    exact h.printBand (by simp) (by simp) (h.summary p hp)
  · exact hp

/-! ## Tasks -/

/-- A task keeps `I` as far as printing a record does, which is the only task that is not one of bands. -/
theorem BandSteps.task (h : BandSteps form I E)
    (hrecord : ∀ p, I p → Ends (Press.printRecord form) p (fun _ q => I q) E) (task : Task) (hp : I p) :
    Ends (task.run form) p (fun _ q => I q) E := by
  cases task with
  | record => exact hrecord p hp
  | groupHeader => exact h.printGroupHeader hp
  | groupDetail => exact h.printBand (by simp) (by simp) hp
  | groupFooter => exact h.printBand (by simp) (by simp) hp
  | group =>
    simp only [Task.run, printGroup, ends_bind]
    refine (h.printGroupHeader hp).mono (fun _ q hq => ?_) fun _ _ he => he
    refine (h.printBand (by simp) (by simp) hq).mono (fun _ r hr => ?_) fun _ _ he => he
    exact h.printBand (by simp) (by simp) hr
  | summary => exact h.printSummary hp
  | finishPage feed => exact h.finishPage feed hp
  | skipPage => exact h.skipPage hp

end Steps

end PictureReport.Press
