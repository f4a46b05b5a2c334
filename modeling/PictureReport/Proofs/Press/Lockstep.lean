import PictureReport.Proofs.Press.Effects
import PictureReport.Session

/-!
# Two presses in step

A relation between two presses that every single step keeps is kept by whole tasks.  The presses may set
their form feeds differently: whether one is due decides nothing but the first character of a line.  So
the only steps at which they do not do the same are the closes of pages, and what they leave there is left
to the relation (`Closes`).
-/

namespace PictureReport

namespace Pager

/-- The pager with or without a form feed that is due. -/
def withFeed (pager : Pager) (feed : Bool) : Pager :=
  { pager with page := { pager.page with feedPending := feed } }

/-- It does not matter to `f` whether a form feed is due. -/
def IgnoresFeed (f : Pager → Pager) : Prop := ∀ pager feed, f (pager.withFeed feed) = (f pager).withFeed feed

section Feed

variable (pager : Pager) (feed : Bool) (buffered bottom : Int)

@[simp] theorem fits_withFeed : (pager.withFeed feed).fits buffered bottom = pager.fits buffered bottom := rfl
@[simp] theorem isFull_withFeed : (pager.withFeed feed).isFull bottom = pager.isFull bottom := rfl
@[simp] theorem capacity_withFeed : (pager.withFeed feed).capacity bottom = pager.capacity bottom := rfl

@[simp] theorem fillsFreshPage_withFeed :
    (pager.withFeed feed).fillsFreshPage buffered bottom = pager.fillsFreshPage buffered bottom := rfl

@[simp] theorem beginPage_withFeed : (pager.withFeed feed).beginPage =
    (pager.beginPage.1, pager.beginPage.2.withFeed feed) := by
  unfold beginPage withFeed
  cases h : pager.page.topPending <;> simp [h, Page.isFresh]

end Feed

end Pager

/-- Do the pages that the task closes have a form feed behind them?  Only `finishPage` says so itself. -/
def Task.feed (formFeed : Bool) : Task → Bool
  | finishPage feed => feed
  | _ => formFeed

/-- No line is printed and no page is closed. -/
def Event.IsQuiet : Event → Prop
  | .printed _ | .closed _ _ => False
  | _ => True

namespace Press

/-- The press after a line is written; it takes the form feed that is due. -/
def wrote (origin : Origin) (line : Composed) (p : Press) : Press :=
  { p with
    pager := p.pager.withFeed false
    log := p.log.push
      (.printed ⟨line, origin, p.page.number, p.page.feedPending, p.pager.state⟩) }

/-- Two presses print in step: they differ at most in the form feeds that are due, and what is done on both
keeps `R`.  Their own settings of form feeds are `x` and `y`. -/
structure Lockstep (x y : Bool) (R : Press → Press → Prop) : Prop where
  pager : ∀ {p q}, R p q → ∃ feed, q.pager = p.pager.withFeed feed
  pending : ∀ {p q}, R p q → q.pending = p.pending
  desk : ∀ {p q}, R p q → q.desk = p.desk
  formFeed : ∀ {p q}, R p q → p.formFeed = x ∧ q.formFeed = y
  withDesk : ∀ {p q} desk, R p q → R { p with desk } { q with desk }
  holding : ∀ {p q} pending, R p q → R (p.holding pending) (q.holding pending)
  paged : ∀ {p q f}, Pager.IgnoresFeed f → R p q → R (p.paged f) (q.paged f)
  noted : ∀ {p q event}, event.IsQuiet → R p q → R (p.noted event) (q.noted event)
  wrote : ∀ {p q} origin line, R p q → R (p.wrote origin line) (q.wrote origin line)

/-- Closing the pages of two presses, with `feed` and `feed'` before the next ones, keeps `R`. -/
def Closes (R : Press → Press → Prop) (feed feed' : Bool) : Prop :=
  ∀ p q printed, R p q → R (p.closed feed printed) (q.closed feed' printed)

/-- Done on two presses of which `R` holds, `x` ends in the same way and keeps `R`. -/
def InStep {α : Type} (R : Press → Press → Prop) (x : Printing α) : Prop := ∀ p q, R p q → Mirrors R x x p q

/-- A picture line is read and composed `InStep`. -/
structure LineInStep (R : Press → Press → Prop) (line : PictureLine) : Prop where
  size : ∀ {p q}, R p q → q.desk.textSize line.names = p.desk.textSize line.names
  texts : InStep R (onDesk (Desk.texts line.names))
  compose : ∀ page, InStep R (onDesk (line.compose page))

/-- The lines of a form that are composed when records are printed are `LineInStep`. -/
structure FormInStep (R : Press → Press → Prop) (form : Form) : Prop where
  body : ∀ line ∈ form.body, LineInStep R line
  top : ∀ line ∈ form.lines .top, LineInStep R line
  header : ∀ line ∈ form.lines .groupHeader, LineInStep R line
  bottom : ∀ line ∈ form.lines .bottom, LineInStep R line

/-- As `Lockstep`, but the values at hand may differ: what lines show is the same where they are `LineInStep`.
-/
structure Coupled (x y : Bool) (R : Press → Press → Prop) : Prop where
  pager : ∀ {p q}, R p q → ∃ feed, q.pager = p.pager.withFeed feed
  pending : ∀ {p q}, R p q → q.pending = p.pending
  formFeed : ∀ {p q}, R p q → p.formFeed = x ∧ q.formFeed = y
  warn : ∀ warnings, InStep R (onDesk (Desk.warn warnings))
  commit : InStep R commit
  rollback : InStep R rollback
  holding : ∀ {p q} pending, R p q → R (p.holding pending) (q.holding pending)
  paged : ∀ {p q f}, Pager.IgnoresFeed f → R p q → R (p.paged f) (q.paged f)
  noted : ∀ {p q event}, event.IsQuiet → R p q → R (p.noted event) (q.noted event)
  wrote : ∀ {p q} origin line, R p q → R (p.wrote origin line) (q.wrote origin line)

section Steps

variable {α : Type} {x y : Bool} {R : Press → Press → Prop} {p q : Press} {form : Form}
variable {lines : List PictureLine}

/-! ## Single steps -/

theorem Coupled.page (h : Coupled x y R) (hR : R p q) :
    ∃ feed, q.page = { p.page with feedPending := feed } := by
  obtain ⟨feed, hq⟩ := h.pager hR
  exact ⟨feed, congrArg Pager.page hq⟩

theorem Coupled.onPager (h : Coupled x y R) {f : Pager → Pager} (hf : Pager.IgnoresFeed f) :
    InStep R (onPager f) := fun _ _ hR => mirrors_modify (h.paged hf hR)

theorem Coupled.note (h : Coupled x y R) {event : Event} (he : event.IsQuiet) : InStep R (note event) :=
  fun _ _ hR => mirrors_modify (h.noted he hR)

theorem Coupled.write (h : Coupled x y R) (origin : Origin) (line : Composed) :
    InStep R (write origin line) := fun _ _ hR => mirrors_modify (h.wrote origin line hR)

theorem Coupled.hold (h : Coupled x y R) (line : Composed) :
    InStep R (modify fun press => { press with pending := press.pending ++ [line] }) := by
  intro p q hR
  refine mirrors_modify (?_ : R (p.holding _) (q.holding _))
  rw [h.pending hR]
  exact h.holding _ hR

theorem Coupled.writeAll (h : Coupled x y R) (origin : Origin) (lines : List Composed) :
    InStep R (writeAll origin lines) := by
  induction lines with
  | nil => exact fun _ _ hR => mirrors_pure () hR
  | cons line rest ih => exact fun p q hR => (h.write origin line p q hR).bind fun _ => ih

/-! ## Composing -/

theorem Coupled.composeTurns (h : Coupled x y R) {before : Printing Unit} {emit : Composed → Printing Unit}
    (hbefore : InStep R before) (hemit : ∀ line, InStep R (emit line)) {line : PictureLine}
    (hline : LineInStep R line) (turns : Nat) : InStep R (composeTurns before emit line turns) := by
  induction turns with
  | zero => exact fun _ _ hR => mirrors_pure 0 hR
  | succ turns ih =>
    intro p q hR
    unfold Press.composeTurns
    refine (hbefore p q hR).bind fun _ p q hR => ?_
    refine (hline.texts p q hR).bind fun held p q hR => mirrors_get ?_
    obtain ⟨feed, hpage⟩ := h.page hR
    have hnumber : q.page.number = p.page.number := by rw [hpage]
    dsimp only
    rw [hnumber]
    refine (hline.compose _ p q hR).bind fun shown p q hR => ?_
    cases shown with
    | none => exact mirrors_pure 0 hR
    | some shown =>
      refine (hemit _ p q hR).bind fun _ p q hR => ?_
      split
      · refine (hline.texts p q hR).bind fun left p q hR => ?_
        split
        · exact (h.warn _ p q hR).bind fun _ p q hR => mirrors_pure 1 hR
        · exact (ih p q hR).bind fun further p q hR => mirrors_pure _ hR
      · exact mirrors_pure 1 hR

theorem Coupled.composeAll (h : Coupled x y R) {before : Printing Unit} {emit : Composed → Printing Unit}
    (hbefore : InStep R before) (hemit : ∀ line, InStep R (emit line))
    (hlines : ∀ line ∈ lines, LineInStep R line) : InStep R (composeAll before emit lines) := by
  induction lines with
  | nil => exact fun _ _ hR => mirrors_pure 0 hR
  | cons line rest ih =>
    intro p q hR
    rw [List.forall_mem_cons] at hlines
    refine mirrors_get ?_
    dsimp only
    rw [hlines.1.size hR]
    refine (h.composeTurns hbefore hemit hlines.1 _ p q hR).bind fun count p q hR => ?_
    exact (ih hlines.2 p q hR).bind fun others p q hR => mirrors_pure _ hR

/-! ## Pages -/

theorem ignoresFeed_consume (count : Int) (body : Bool) : Pager.IgnoresFeed (·.consume count body) :=
  fun _ _ => rfl

theorem ignoresFeed_transition (state : PageState) : Pager.IgnoresFeed (·.transition state) := fun _ _ => rfl

theorem ignoresFeed_requestBottom : Pager.IgnoresFeed Pager.requestBottom := fun _ _ => rfl

theorem Coupled.emitBand (h : Coupled x y R) (band : Band) (hlines : ∀ line ∈ lines, LineInStep R line) :
    InStep R (emitBand band lines) := by
  intro p q hR
  have hemit : ∀ line, InStep R (do
      Press.write (.band band) line
      Press.onPager (·.consume 1 false)) := fun line p q hR =>
    (h.write _ line p q hR).bind fun _ => h.onPager (ignoresFeed_consume 1 false)
  refine (h.composeAll (fun _ _ hR => mirrors_pure () hR) hemit hlines p q hR).bind fun count p q hR => ?_
  refine (h.note (?_ : Event.IsQuiet (.emitted band count)) p q hR).bind fun _ p q hR => mirrors_pure count hR
  trivial

/-- Both pages are closed, each with the form feed that is asked for there, or else the one it is set to. -/
theorem Coupled.endPage (h : Coupled x y R) (hform : FormInStep R form) {feed feed' : Option Bool}
    (hc : Closes R (feed.getD x) (feed'.getD y)) (hR : R p q) :
    Mirrors R (endPage form feed) (endPage form feed') p q := by
  have hclose : ∀ count p q, R p q → Mirrors R
      (do
        let feed := feed.getD (← get).formFeed
        Press.onPager (·.endPage feed (0 < count))
        Press.note (.closed feed (0 < count)) : Printing Unit)
      (do
        let feed := feed'.getD (← get).formFeed
        Press.onPager (·.endPage feed (0 < count))
        Press.note (.closed feed (0 < count)) : Printing Unit) p q := by
    intro count p q hR
    refine ⟨rfl, ?_⟩
    obtain ⟨hp, hq⟩ := h.formFeed hR
    have hclosed := hc p q (0 < count) hR
    rw [← hp, ← hq] at hclosed
    exact hclosed
  unfold Press.endPage
  refine (h.onPager ignoresFeed_requestBottom p q hR).bind fun _ p q hR => ?_
  cases hbottom : form.band? .bottom with
  | none => exact hclose 0 p q hR
  | some lines =>
    have hlines := hform.bottom
    rw [Form.lines_of_some hbottom] at hlines
    exact (h.emitBand .bottom hlines p q hR).bind fun count => hclose count

theorem Coupled.close (h : Coupled x y R) (hform : FormInStep R form) (hc : Closes R x y) :
    InStep R (Press.endPage form none) := by
  have hdefault : Closes R (Option.getD none x) (Option.getD none y) := hc
  exact fun p q hR => h.endPage hform hdefault hR

theorem Coupled.beginPage (h : Coupled x y R) : InStep R beginPage := by
  intro p q hR
  obtain ⟨feed, hpager⟩ := h.pager hR
  have htop : q.page.topPending = p.page.topPending := by
    rw [Press.page, hpager]
    rfl
  have hbegun : Pager.IgnoresFeed fun pager => pager.beginPage.2 := by
    intro pager feed
    change (pager.withFeed feed).beginPage.2 = pager.beginPage.2.withFeed feed
    rw [Pager.beginPage_withFeed]
  -- what is said of the page is computed before it is noted, so it is moved to the presses after the note
  have hmove : ∀ r s : Press, R r s → r.pager = p.pager → s.pager = q.pager →
      Mirrors R (do
        Press.onPager fun _ => p.pager.beginPage.2
        pure p.pager.beginPage.1 : Printing Bool) (do
        Press.onPager fun _ => q.pager.beginPage.2
        pure q.pager.beginPage.1 : Printing Bool) r s := by
    intro r s hrs hr hs
    have hstep := h.paged hbegun hrs
    unfold Press.paged at hstep
    rw [hr, hs] at hstep
    refine ⟨?_, hstep⟩
    change Except.ok p.pager.beginPage.1 = Except.ok q.pager.beginPage.1
    rw [hpager, Pager.beginPage_withFeed]
  unfold Press.beginPage
  refine mirrors_get (mirrors_get ?_)
  dsimp only
  rw [htop]
  split
  · exact hmove (p.noted .opened) (q.noted .opened) (h.noted trivial hR) rfl rfl
  · exact hmove p q hR rfl rfl

theorem Coupled.printTop (h : Coupled x y R) (hform : FormInStep R form) (hc : Closes R x y) :
    InStep R (printTop form) := by
  have hopen : InStep R (openPage form) := by
    intro p q hR
    refine (h.beginPage p q hR).bind fun fresh p q hR => ?_
    cases fresh with
    | false => exact mirrors_pure () hR
    | true =>
      simp only [if_true]
      cases htop : form.band? .top with
      | none => exact mirrors_pure () hR
      | some top =>
        have hlines := hform.top
        rw [Form.lines_of_some htop] at hlines
        refine (h.emitBand .top hlines p q hR).bind fun _ p q hR => ?_
        cases hheader : form.band? .groupHeader with
        | none => exact mirrors_pure () hR
        | some header =>
          have hlines := hform.header
          rw [Form.lines_of_some hheader] at hlines
          obtain ⟨feed, hpage⟩ := h.page hR
          refine mirrors_get ?_
          rw [hpage]
          split
          · exact (h.emitBand .groupHeader hlines p q hR).bind fun _ _ _ hR => mirrors_pure () hR
          · exact mirrors_pure () hR
  intro p q hR
  rw [printTop_eq]
  obtain ⟨feed, hpage⟩ := h.page hR
  refine mirrors_get ?_
  rw [hpage]
  split
  · exact (h.close hform hc p q hR).bind fun _ => hopen
  · exact hopen p q hR

theorem Coupled.endPageIfFull (h : Coupled x y R) (hform : FormInStep R form) (hc : Closes R x y) :
    InStep R (endPageIfFull form) := by
  intro p q hR
  obtain ⟨feed, hpager⟩ := h.pager hR
  refine mirrors_get ?_
  rw [hpager, Pager.isFull_withFeed]
  split
  · split
    · exact h.close hform hc p q hR
    · exact h.onPager ignoresFeed_requestBottom p q hR
  · exact mirrors_pure () hR

theorem Coupled.finishPage (h : Coupled x y R) (hform : FormInStep R form) {feed feed' : Bool}
    (hc : Closes R feed feed') (hR : R p q) :
    Mirrors R (finishPage form feed) (finishPage form feed') p q := by
  obtain ⟨due, hpage⟩ := h.page hR
  unfold Press.finishPage
  refine mirrors_get ?_
  dsimp only
  rw [hpage]
  dsimp only
  split
  · exact mirrors_pure () hR
  · refine (h.writeAll _ _ p q hR).bind fun _ p q hR => ?_
    refine (h.onPager (ignoresFeed_consume _ false) p q hR).bind fun _ p q hR => ?_
    exact h.endPage hform hc hR

theorem Coupled.skipPage (h : Coupled x y R) (hform : FormInStep R form) (hc : Closes R x y) :
    InStep R (skipPage form) := by
  intro p q hR
  obtain ⟨hp, hq⟩ := h.formFeed hR
  refine mirrors_get ?_
  rw [hp, hq]
  exact h.finishPage hform hc hR

/-! ## Records -/

theorem Coupled.writeBody (h : Coupled x y R) (lines : List Composed) : InStep R (writeBody lines) :=
  fun p q hR => (h.writeAll .body lines p q hR).bind fun _ => h.onPager (ignoresFeed_consume _ true)

theorem Coupled.flushPartial (h : Coupled x y R) (hform : FormInStep R form) (hc : Closes R x y) :
    InStep R (flushPartial form) := by
  intro p q hR
  unfold Press.flushPartial
  refine (h.onPager (ignoresFeed_transition _) p q hR).bind fun _ p q hR => mirrors_get ?_
  obtain ⟨feed, hpager⟩ := h.pager hR
  have hpending := h.pending hR
  dsimp only
  rw [hpager, hpending, Pager.capacity_withFeed]
  generalize hcount : (p.pager.capacity (form.bandSize .bottom)).toNat = count
  generalize hleft : p.pending.drop count = left
  refine (h.writeBody _ p q hR).bind fun _ p q hR => ?_
  refine Mirrors.bind (mirrors_modify (?_ : R (p.holding _) (q.holding _))) fun _ p q hR => ?_
  · rw [h.pending hR]
    exact h.holding _ hR
  refine (h.note (?_ : Event.IsQuiet (.flushed left.length)) p q hR).bind fun _ p q hR => ?_
  · trivial
  · exact (h.commit p q hR).bind fun _ => h.close hform hc

theorem Coupled.splitFullPage (h : Coupled x y R) (hform : FormInStep R form) (hc : Closes R x y) :
    InStep R (splitFullPage form) := by
  intro p q hR
  have hempty : q.pending.isEmpty = p.pending.isEmpty := by rw [h.pending hR]
  refine mirrors_get ?_
  rw [hempty]
  split
  · exact mirrors_pure () hR
  · refine (h.printTop hform hc p q hR).bind fun _ p q hR => mirrors_get ?_
    obtain ⟨feed, hpager⟩ := h.pager hR
    rw [hpager, h.pending hR, Pager.fillsFreshPage_withFeed]
    split
    · exact h.flushPartial hform hc p q hR
    · exact mirrors_pure () hR

theorem Coupled.flushRest (h : Coupled x y R) (hform : FormInStep R form) (hc : Closes R x y)
    (rounds : Nat) : InStep R (flushRest form rounds) := by
  induction rounds with
  | zero => exact fun _ _ hR => mirrors_pure () hR
  | succ rounds ih =>
    intro p q hR
    obtain ⟨feed, hpager⟩ := h.pager hR
    refine mirrors_get ?_
    rw [hpager, h.pending hR, Pager.fits_withFeed]
    split
    · exact mirrors_pure () hR
    · refine (h.flushPartial hform hc p q hR).bind fun _ p q hR => mirrors_get ?_
      rw [h.pending hR]
      split
      · exact ih p q hR
      · exact (h.printTop hform hc p q hR).bind fun _ => ih

theorem Coupled.placeRecord (h : Coupled x y R) (hform : FormInStep R form) (hc : Closes R x y) :
    InStep R (placeRecord form) := by
  intro p q hR
  unfold Press.placeRecord
  refine (h.printTop hform hc p q hR).bind fun _ p q hR => ?_
  refine Mirrors.bind (mirrors_modify (h.holding [] hR)) fun _ p q hR => ?_
  refine (h.composeAll (h.splitFullPage hform hc) h.hold hform.body p q hR).bind fun _ p q hR => ?_
  refine mirrors_get ?_
  obtain ⟨feed, hpage⟩ := h.page hR
  rw [h.pending hR, hpage]
  split
  · exact mirrors_pure true hR
  · refine (h.printTop hform hc p q hR).bind fun _ p q hR => mirrors_get ?_
    obtain ⟨feed, hpager⟩ := h.pager hR
    have hbody : q.page.bodyPrinted = p.page.bodyPrinted := by
      rw [Press.page, hpager]
      rfl
    rw [h.pending hR, hbody, hpager, Pager.fits_withFeed]
    split
    · exact (h.writeBody _ p q hR).bind fun _ p q hR => mirrors_pure true hR
    · split
      · refine (h.flushRest hform hc _ p q hR).bind fun _ p q hR => mirrors_get ?_
        rw [h.pending hR]
        exact (h.writeBody _ p q hR).bind fun _ p q hR => mirrors_pure true hR
      · refine (h.note (?_ : Event.IsQuiet (.deferred p.pending.length)) p q hR).bind fun _ p q hR => ?_
        · trivial
        · refine (h.rollback p q hR).bind fun _ p q hR => ?_
          exact (h.close hform hc p q hR).bind fun _ p q hR => mirrors_pure false hR

theorem Coupled.printRecord (h : Coupled x y R) (hform : FormInStep R form) (hc : Closes R x y) :
    InStep R (printRecord form) := by
  have hfinish : InStep R (do
      Press.commit
      unless (← get).page.topPending do Press.onPager (·.transition .body)
      Press.endPageIfFull form) := by
    intro p q hR
    refine (h.commit p q hR).bind fun _ p q hR => mirrors_get ?_
    obtain ⟨feed, hpage⟩ := h.page hR
    rw [hpage]
    split
    · exact h.endPageIfFull hform hc p q hR
    · exact (h.onPager (ignoresFeed_transition _) p q hR).bind fun _ => h.endPageIfFull hform hc
  intro p q hR
  unfold Press.printRecord
  refine (h.placeRecord hform hc p q hR).bind fun placed p q hR => ?_
  cases placed with
  | true => exact hfinish p q hR
  | false => exact (h.placeRecord hform hc p q hR).bind fun _ => hfinish

/-! ## Bands on demand -/

theorem Coupled.makeRoom (h : Coupled x y R) (hform : FormInStep R form) (hc : Closes R x y) (size : Nat) :
    InStep R (makeRoom form size) := by
  intro p q hR
  unfold Press.makeRoom
  refine (h.printTop hform hc p q hR).bind fun _ p q hR => mirrors_get ?_
  obtain ⟨feed, hpage⟩ := h.page hR
  rw [hpage]
  split
  · exact (h.skipPage hform hc p q hR).bind fun _ => h.printTop hform hc
  · exact mirrors_pure () hR

theorem Coupled.printBand (h : Coupled x y R) (hform : FormInStep R form) (hc : Closes R x y) {band : Band}
    (hlines : ∀ line ∈ form.lines band, LineInStep R line) : InStep R (printBand form band) := by
  intro p q hR
  unfold Press.printBand
  cases hband : form.band? band with
  | none => exact mirrors_pure () hR
  | some lines =>
    rw [Form.lines_of_some hband] at hlines
    refine (h.makeRoom hform hc lines.length p q hR).bind fun _ p q hR => ?_
    exact (h.emitBand band hlines p q hR).bind fun _ => h.endPageIfFull hform hc

theorem Coupled.printGroupHeader (h : Coupled x y R) (hform : FormInStep R form) (hc : Closes R x y) :
    InStep R (printGroupHeader form) := by
  intro p q hR
  unfold Press.printGroupHeader
  cases hheader : form.band? .groupHeader with
  | none => exact mirrors_pure () hR
  | some header =>
    have hlines := hform.header
    rw [Form.lines_of_some hheader] at hlines
    refine (h.makeRoom hform hc header.length p q hR).bind fun _ p q hR => mirrors_get ?_
    obtain ⟨feed, hpage⟩ := h.page hR
    dsimp only
    rw [hpage]
    split
    · exact (h.emitBand .groupHeader hlines p q hR).bind fun _ => h.endPageIfFull hform hc
    · exact h.endPageIfFull hform hc p q hR

theorem Coupled.printSummary (h : Coupled x y R) (hform : FormInStep R form) (hc : Closes R x y)
    (hlines : ∀ line ∈ form.lines .summary, LineInStep R line) : InStep R (printSummary form) := by
  have hsummarized : Pager.IgnoresFeed fun pager =>
      { pager with page := { pager.page with summaryPending := false } } := fun _ _ => rfl
  intro p q hR
  obtain ⟨feed, hpage⟩ := h.page hR
  refine mirrors_get ?_
  rw [hpage]
  split
  · exact (h.onPager hsummarized p q hR).bind fun _ => h.printBand hform hc hlines
  · exact mirrors_pure () hR

/-- Where `R` goes through closes with the form feeds that `Task.feed` gives, a task is done in step. -/
theorem Coupled.task (h : Coupled x y R) (hform : FormInStep R form)
    (hbands : ∀ band, ∀ line ∈ form.lines band, LineInStep R line) (task : Task)
    (hc : Closes R (task.feed x) (task.feed y)) : InStep R (task.run form) := by
  intro p q hR
  cases task with
  | record => exact h.printRecord hform hc p q hR
  | groupHeader => exact h.printGroupHeader hform hc p q hR
  | groupDetail => exact h.printBand hform hc (hbands _) p q hR
  | groupFooter => exact h.printBand hform hc (hbands _) p q hR
  | group =>
    refine (h.printGroupHeader hform hc p q hR).bind fun _ p q hR => ?_
    refine (h.printBand hform hc (hbands .groupDetail) p q hR).bind fun _ => ?_
    exact h.printBand hform hc (hbands .groupFooter)
  | summary => exact h.printSummary hform hc (hbands _) p q hR
  | finishPage feed => exact h.finishPage hform hc hR
  | skipPage => exact h.skipPage hform hc p q hR

theorem InStep.counted {z : Printing Unit} (h : InStep R z)
    (hcount : ∀ {p q}, R p q → q.lineCount = p.lineCount) : InStep R (counted z) := by
  intro p q hR
  refine mirrors_get ?_
  dsimp only
  rw [hcount hR]
  refine (h p q hR).bind fun _ p q hR => mirrors_get ?_
  rw [hcount hR]
  exact mirrors_pure _ hR

/-! ## Equal values -/

theorem Lockstep.onDesk (h : Lockstep x y R) (c : Composing α) : InStep R (onDesk c) := by
  intro p q hR
  have hdesk := h.desk hR
  have hp : Press.onDesk c p = ((c p.desk).1, { p with desk := (c p.desk).2 }) := rfl
  have hq : Press.onDesk c q = ((c q.desk).1, { q with desk := (c q.desk).2 }) := rfl
  unfold Mirrors
  rw [hp, hq, hdesk]
  exact ⟨rfl, h.withDesk _ hR⟩

theorem Lockstep.commit (h : Lockstep x y R) : InStep R commit := by
  intro p q hR
  have hq : q.committed = { q with desk := p.committed.desk } := by
    rw [committed, h.desk hR]
    rfl
  refine mirrors_modify (?_ : R p.committed q.committed)
  rw [hq]
  exact h.withDesk _ hR

theorem Lockstep.rollback (h : Lockstep x y R) : InStep R rollback := by
  intro p q hR
  have hq : q.rolledBack = { q with desk := p.rolledBack.desk } := by
    rw [rolledBack, h.desk hR]
    rfl
  refine mirrors_modify (?_ : R p.rolledBack q.rolledBack)
  rw [hq]
  exact h.withDesk _ hR

/-- Where the values at hand are the same, every line is `LineInStep`. -/
theorem Lockstep.line (h : Lockstep x y R) (line : PictureLine) : LineInStep R line where
  size hR := by rw [h.desk hR]
  texts := h.onDesk _
  compose _ := h.onDesk _

theorem Lockstep.coupled (h : Lockstep x y R) : Coupled x y R where
  pager := h.pager
  pending := h.pending
  formFeed := h.formFeed
  warn _ := h.onDesk _
  commit := h.commit
  rollback := h.rollback
  holding := h.holding
  paged := h.paged
  noted := h.noted
  wrote := h.wrote

theorem Lockstep.task (h : Lockstep x y R) (task : Task) (hc : Closes R (task.feed x) (task.feed y)) :
    InStep R (task.run form) := by
  have hlines : ∀ lines : List PictureLine, ∀ line ∈ lines, LineInStep R line := fun _ line _ => h.line line
  have hform : FormInStep R form := ⟨hlines _, hlines _, hlines _, hlines _⟩
  exact h.coupled.task hform (fun band => hlines _) task hc

end Steps

end Press

end PictureReport
