import PictureReport.Proofs.Press.Steps

/-!
# The structure of pages

What is printed falls into pages, and there is nothing between them.  A page is opened by its top, and one
that is closed ends with its bottom, right before which a page that is finished is filled with blank lines
(`OpenSheet`, `ClosedSheet`).  Each top and each bottom is complete (`Emission`), and there are no others.
-/

namespace PictureReport

namespace Event

/-- Can the event stand between the top and the bottom of a page? -/
def isInner : Event → Bool
  | printed line =>
    line.origin ≠ .padding && line.origin ≠ .band .top && line.origin ≠ .band .bottom
  | emitted band _ => band ≠ .top && band ≠ .bottom
  | flushed _ | deferred _ => true
  | opened | closed _ _ => false

/-- Is it a blank line that is printed to fill a page (`Origin.padding`)? -/
def isPadding : Event → Bool
  | printed line => line.origin = .padding && line.line.text.isEmpty
  | _ => false

end Event

namespace Press

/-! ## Pages -/

/-- What is printed with a band from its first line to its end: its lines and the event that it ends with;
nothing without the band.  A band that prints each of its lines once shows all of them. -/
def Emission (form : Form) (band : Band) (events : List Event) : Prop :=
  ∃ lines : List Printed, events = lines.map .printed ++ form.marks band lines.length ∧
    (∀ line ∈ lines, line.origin = .band band) ∧
    (form.band? band = none → lines = []) ∧
    (∀ pictures, form.band? band = some pictures →
      ∃ p q, emitBand band pictures p = (.ok lines.length, q) ∧ q.events = p.events ++ events) ∧
    ((∀ line ∈ form.lines band, line.IsPlain) → lines.length = form.bandSize band)

/-- The events of a page that is not closed: its top, and events that are `isInner`. -/
inductive OpenSheet (form : Form) : List Event → Prop
  | mk {top inner : List Event} : Emission form .top top → (∀ event ∈ inner, event.isInner) →
    OpenSheet form (.opened :: (top ++ inner))

/-- The events of a page that is closed: an `OpenSheet`, padding, the bottom, and the close. -/
inductive ClosedSheet (form : Form) : List Event → Prop
  | mk {sheet padding bottom : List Event} (feed bottomPrinted : Bool) : OpenSheet form sheet →
    (∀ event ∈ padding, event.isPadding) → Emission form .bottom bottom →
    ClosedSheet form (sheet ++ padding ++ bottom ++ [.closed feed bottomPrinted])

/-- The events fall into pages that are a `ClosedSheet` each, and the page at hand, an `OpenSheet`, if one is
begun. -/
def InSheets (form : Form) (p : Press) : Prop :=
  ∃ (pages : List (List Event)) (sheet : List Event), p.events = pages.flatten ++ sheet ∧
    (∀ page ∈ pages, ClosedSheet form page) ∧ (p.page.topPending = true → sheet = []) ∧
    (p.page.topPending = false → OpenSheet form sheet)

/-- Between the steps of printing the events are `InSheets`: a page that is not begun has all its lines, and a
bottom is due only on one that is begun. -/
structure Ordered (form : Form) (p : Press) : Prop where
  sheets : InSheets form p
  fresh : p.page.topPending = true → p.page.linesLeft = p.page.length
  due : p.page.bottomPending = true → p.page.topPending = false

section Pages

variable {form : Form} {p q : Press}

theorem Whole.emission {band : Band} {made : List Composed} (h : Whole form band made p q) :
    Emission form band
      ((p.printing (.band band) made).map .printed ++ form.marks band made.length) := by
  refine ⟨p.printing (.band band) made, by rw [length_printing], ?_, fun hband => ?_,
    fun pictures hl => ⟨p, q, ?_, ?_⟩, fun hplain => ?_⟩
  · exact fun line hl => (mem_printing hl).2.1
  · rw [h.absent hband]
    rfl
  · rw [length_printing]
    exact h.run pictures hl
  · rw [h.events, List.append_assoc]
  · rw [length_printing]
    exact h.size hplain

theorem Whole.exists_emission {band : Band} {made : List Composed} (h : Whole form band made p q) :
    ∃ shown, q.events = p.events ++ shown ∧ Emission form band shown :=
  ⟨_, by rw [h.events, List.append_assoc], h.emission⟩

theorem Ordered.congr (h : Ordered form p) (he : q.events = p.events)
    (htop : q.page.topPending = p.page.topPending)
    (hfresh : q.page.topPending = true → q.page.linesLeft = q.page.length)
    (hdue : q.page.bottomPending = true → q.page.topPending = false) : Ordered form q := by
  refine ⟨?_, hfresh, hdue⟩
  unfold InSheets
  rw [he, htop]
  exact h.sheets

theorem Ordered.same (h : Ordered form p) (he : q.events = p.events) (hpage : q.page = p.page) :
    Ordered form q := by
  refine h.congr he ?_ ?_ ?_ <;> rw [hpage]
  · exact h.fresh
  · exact h.due

theorem ordered_of_begun (ht : p.page.topPending = false) {pages : List (List Event)} {sheet : List Event}
    (he : p.events = pages.flatten ++ sheet) (hpages : ∀ page ∈ pages, ClosedSheet form page)
    (hsheet : OpenSheet form sheet) : Ordered form p := by
  have habsurd : p.page.topPending ≠ true := by simp [ht]
  exact ⟨⟨pages, sheet, he, hpages, fun h => absurd h habsurd, fun _ => hsheet⟩, fun h => absurd h habsurd,
    fun _ => ht⟩

/-- The page at hand goes on with events that are `isInner`. -/
theorem Ordered.inner (h : Ordered form p) (ht : p.page.topPending = false) {more : List Event}
    (he : q.events = p.events ++ more) (hmore : ∀ event ∈ more, event.isInner)
    (htop : q.page.topPending = false) : Ordered form q := by
  obtain ⟨pages, sheet, hevents, hpages, -, hsheet⟩ := h.sheets
  obtain ⟨htops, hinner⟩ := hsheet ht
  have hgrown := OpenSheet.mk htops (List.forall_mem_append.mpr ⟨hinner, hmore⟩)
  refine ordered_of_begun htop ?_ hpages hgrown
  rw [he, hevents]
  simp

/-- A page that is begun becomes a `ClosedSheet` with its bottom, and before it perhaps padding. -/
theorem endPage_ordered (feed : Option Bool) {pages : List (List Event)} {sheet padding : List Event}
    (he : p.events = pages.flatten ++ (sheet ++ padding)) (hpages : ∀ page ∈ pages, ClosedSheet form page)
    (hsheet : OpenSheet form sheet) (hpadding : ∀ event ∈ padding, event.isPadding) :
    Ends (endPage form feed) p (fun _ q => Ordered form q) fun _ _ => True := by
  refine endPage_ends (fun made q hq => ?_) fun _ _ _ _ => trivial
  have hclosed := ClosedSheet.mk (feed.getD p.formFeed) (0 < made.length) hsheet hpadding hq.emission
  refine ⟨⟨pages ++ [_], [], ?_, List.forall_mem_append.mpr ⟨hpages, List.forall_mem_singleton.mpr hclosed⟩,
    fun _ => rfl, fun ht => ?_⟩, fun _ => ?_, fun hb => ?_⟩
  · rw [events_closed, hq.events, events_due, he]
    simp
  · simp at ht
  · simp
  · simp at hb

theorem Ordered.endPage (h : Ordered form p) (ht : p.page.topPending = false) :
    Ends (endPage form none) p (fun _ q => Ordered form q) fun _ _ => True := by
  obtain ⟨pages, sheet, he, hpages, -, hsheet⟩ := h.sheets
  rw [← List.append_nil sheet] at he
  exact endPage_ordered none he hpages (hsheet ht) fun event hm => absurd hm List.not_mem_nil

/-- A page is begun with its top, and without a group header nothing follows it. -/
theorem Ordered.openPage (hheader : form.band? .groupHeader = none) (h : Ordered form p) :
    Ends (openPage form) p (fun _ q => Ordered form q) fun _ _ => True := by
  have hnone : ∀ {page : Page}, ¬ form.HeaderDue page := by
    intro page hdue
    have hsome := hdue.2.1
    rw [hheader] at hsome
    cases hsome
  refine openPage_ends (fun _ => h) (fun ht hused => ?_) ?_ ?_ (fun _ _ _ _ _ _ => trivial) ?_
  · have hfresh := h.fresh ht
    simp [Page.isFresh, hfresh] at hused
  · intro ht _ made q hq _
    obtain ⟨pages, sheet, he, hpages, hnil, -⟩ := h.sheets
    have htop : q.page.topPending = false := by
      rw [hq.page, page_opened ht]
      rfl
    have hsheet : OpenSheet form (.opened :: (_ ++ [])) :=
      .mk hq.emission fun event hm => absurd hm List.not_mem_nil
    refine ordered_of_begun htop ?_ hpages hsheet
    rw [hq.events, events_opened, he, hnil ht]
    simp
  · exact fun _ _ _ q _ hdue => absurd hdue hnone
  · exact fun _ _ _ q _ hdue => absurd hdue hnone

/-- Printing lines that are neither of a page band nor padding keeps `Ordered`. -/
theorem Ordered.prints {origin : Origin} {lines : List Composed} (h : Ordered form p)
    (ht : p.page.topPending = false) (hpadding : origin ≠ .padding) (htop : origin ≠ .band .top)
    (hbottom : origin ≠ .band .bottom) {more : List Event} (hmore : ∀ event ∈ more, event.isInner)
    (he : q.events = p.events ++ (p.printing origin lines).map .printed ++ more)
    (hpage : q.page.topPending = p.page.topPending) : Ordered form q := by
  rw [List.append_assoc] at he
  refine h.inner ht he (List.forall_mem_append.mpr ⟨?_, hmore⟩) (hpage.trans ht)
  rw [List.forall_mem_map]
  intro line hl
  simp [Event.isInner, (mem_printing hl).2.1, hpadding, htop, hbottom]

/-! ## Steps of printing -/

theorem ordered_pages (hheader : form.band? .groupHeader = none) :
    PageSteps form (Ordered form) fun _ _ => True where
  due := fun p ht h => h.congr rfl rfl h.fresh fun _ => ht
  endPage := fun p ht h => h.endPage ht
  printTop := fun p h => by
    refine printTop_keeps (fun _ hq => hq.due) (fun _ ht hq => hq.endPage ht) ?_ h
    exact fun _ _ hq => hq.openPage hheader

theorem ordered_records (hheader : form.band? .groupHeader = none) :
    RecordSteps form (Ordered form) fun _ _ => True where
  toPageSteps := ordered_pages hheader
  desk := fun p desk h => h.same rfl rfl
  holding := fun p pending h => h.same rfl rfl
  moved := fun p state h => h.same rfl rfl
  flushed := fun p left ht h => h.inner ht (events_noted p _) (by simp [Event.isInner]) ht
  deferred := fun p count ht h => h.inner ht (events_noted p _) (by simp [Event.isInner]) ht
  body := by
    intro p q lines hlines hq h
    have hpage : q.page.topPending = p.page.topPending := by
      rw [hq.page]
      rfl
    cases lines with
    | nil =>
      -- a record that prints nothing may end with its page
      refine h.same (by simp [hq.events, printing]) ?_
      rw [hq.page]
      simp [Page.taking]
    | cons line rest =>
      have he := hq.events
      rw [← List.append_nil (_ ++ _)] at he
      exact h.prints (hlines (List.cons_ne_nil _ _)) (by simp) (by simp) (by simp) (by simp) he hpage
  fault := fun _ _ _ => trivial

theorem ordered_bands (hheader : form.band? .groupHeader = none) :
    BandSteps form (Ordered form) fun _ _ => True where
  toPageSteps := ordered_pages hheader
  finish := by
    intro p q feed ht hq h
    obtain ⟨pages, sheet, he, hpages, -, hsheet⟩ := h.sheets
    refine endPage_ordered (some feed) (by rw [hq.events, he, List.append_assoc]) hpages (hsheet ht) ?_
    rw [List.forall_mem_map]
    intro line hl
    obtain ⟨hline, horigin, -⟩ := mem_printing hl
    simp [Event.isPadding, horigin, List.eq_of_mem_replicate hline]
  band := by
    intro band made p q htop hbottom ht _ hq h
    refine h.prints ht (by simp) (by simpa using htop) (by simpa using hbottom) ?_ hq.events ?_
    · intro event hm
      unfold Form.marks at hm
      split at hm
      · rw [List.mem_singleton.mp hm]
        simp [Event.isInner, htop, hbottom]
      · cases hm
    · rw [hq.page]
      rfl
  partly := fun _ _ _ _ _ _ _ _ _ _ _ => trivial
  summary := fun p h => h.congr rfl rfl h.fresh h.due

end Pages

/-! ## Calls that fill no page -/

/-- Since the events `before` no page was filled. -/
def Unpadded (before : List Event) (p : Press) : Prop :=
  ∃ more, p.events = before ++ more ∧ ∀ line, .printed line ∈ more → line.origin ≠ .padding

section Unpadded

variable {form : Form} {before : List Event} {p q : Press}

theorem Unpadded.append (h : Unpadded before p) {more : List Event} (he : q.events = p.events ++ more)
    (hmore : ∀ line, .printed line ∈ more → line.origin ≠ .padding) : Unpadded before q := by
  obtain ⟨earlier, hp, hearlier⟩ := h
  refine ⟨earlier ++ more, by rw [he, hp, List.append_assoc], fun line hl => ?_⟩
  exact (List.mem_append.mp hl).elim (hearlier line) (hmore line)

theorem Unpadded.noted (h : Unpadded before p) {event : Event} (he : event.line? = none) :
    Unpadded before (p.noted event) := by
  refine h.append (events_noted p event) fun line hl => ?_
  rw [← List.mem_singleton.mp hl] at he
  cases he

theorem Unpadded.prints {origin : Origin} (horigin : origin ≠ .padding) {lines : List Composed}
    (hq : Prints origin lines p q) (h : Unpadded before p) : Unpadded before q := by
  refine h.append hq.events fun line hl => ?_
  obtain ⟨_, hprinted, heq⟩ := List.mem_map.mp hl
  cases heq
  rw [(mem_printing hprinted).2.1]
  exact horigin

theorem Unpadded.whole {band : Band} {made : List Composed} (hq : Whole form band made p q)
    (h : Unpadded before p) : Unpadded before q := by
  refine h.append (by rw [hq.events, List.append_assoc]) fun line hl => ?_
  rcases List.mem_append.mp hl with hl | hl
  · obtain ⟨_, hprinted, heq⟩ := List.mem_map.mp hl
    cases heq
    simp [(mem_printing hprinted).2.1]
  · unfold Form.marks at hl
    split at hl
    · cases List.mem_singleton.mp hl
    · cases hl

theorem Unpadded.endPage (feed : Option Bool) (h : Unpadded before p) :
    Ends (endPage form feed) p (fun _ q => Unpadded before q) fun _ q => Unpadded before q := by
  refine endPage_ends (fun made q hq => ?_) fun fault made q hq => ?_
  · exact (Unpadded.whole hq h).noted rfl
  · exact Unpadded.prints (by simp) hq.emits.prints h

theorem Unpadded.openPage (h : Unpadded before p) :
    Ends (openPage form) p (fun _ q => Unpadded before q) fun _ q => Unpadded before q := by
  have hopened : Unpadded before p.opened := h.noted rfl
  refine openPage_ends (fun _ => h) (fun _ _ => hopened) ?_ ?_ ?_ ?_
  · exact fun _ _ made q hq _ => hopened.whole hq
  · exact fun _ _ made q hq _ made' r hr => (hopened.whole hq).whole hr
  · exact fun _ _ fault made q hq => Unpadded.prints (by simp) hq.emits.prints hopened
  · exact fun _ _ made q hq _ fault made' r hr =>
      Unpadded.prints (by simp) hr.emits.prints (hopened.whole hq)

theorem unpadded_stable (form : Form) (before : List Event) : Stable form (Unpadded before) where
  desk := fun _ _ h => h
  holding := fun _ _ h => h
  moved := fun _ _ h => h
  due := fun _ h => h
  flushed := fun _ _ h => h.noted rfl
  deferred := fun _ _ h => h.noted rfl
  body := fun _ _ _ hq h => h.prints (by simp) hq
  endPage := fun _ h => h.endPage none
  printTop := fun _ h => by
    refine printTop_ends (fun _ => ?_) fun _ => h.openPage
    exact (h.endPage none).mono (fun _ _ hq => hq.openPage) fun _ _ he => he

theorem Unpadded.endPageIfFull (h : Unpadded before p) :
    Ends (endPageIfFull form) p (fun _ q => Unpadded before q) fun _ q => Unpadded before q :=
  endPageIfFull_ends (fun _ => h) (fun _ _ _ => h.endPage none) fun _ _ => h

/-- No page is skipped for a band of `size` lines that finds room on the page at hand. -/
theorem Unpadded.makeRoom {size : Nat} (hroom : size ≤ (printTop form p).2.page.linesLeft)
    (h : Unpadded before p) :
    Ends (makeRoom form size) p (fun _ q => Unpadded before q) fun _ q => Unpadded before q := by
  have hleft : Ends (printTop form) p (fun _ q => size ≤ q.page.linesLeft)
      fun _ q => size ≤ q.page.linesLeft := ends_state.mpr hroom
  simp only [Press.makeRoom, ends_bind, ends_get]
  refine (((unpadded_stable form before).printTop p h).and hleft).mono ?_ fun _ _ he => he.1
  rintro _ q ⟨hq, hsize⟩
  rw [ends_ite]
  split
  · omega
  · exact hq

theorem Unpadded.emitBand {band : Band} {lines : List PictureLine} (hl : form.band? band = some lines)
    (h : Unpadded before p) :
    Ends (emitBand band lines) p (fun _ q => Unpadded before q) fun _ q => Unpadded before q := by
  refine emitBand_whole hl (fun made q hq => h.whole hq) fun fault made q hq => ?_
  exact h.prints (by simp) hq.emits.prints

theorem Unpadded.printBand {band : Band}
    (hroom : form.bandSize band ≤ (printTop form p).2.page.linesLeft) (h : Unpadded before p) :
    Ends (printBand form band) p (fun _ q => Unpadded before q) fun _ q => Unpadded before q := by
  simp only [Press.printBand]
  cases hl : form.band? band with
  | none => exact h
  | some lines =>
    have hsize : form.bandSize band = lines.length := by simp [Form.bandSize, hl]
    rw [hsize] at hroom
    simp only [ends_bind]
    refine (h.makeRoom hroom).mono (fun _ q hq => ?_) fun _ _ he => he
    refine (hq.emitBand hl).mono (fun _ r hr => ?_) fun _ _ he => he
    exact hr.endPageIfFull

theorem Unpadded.printGroupHeader
    (hroom : form.bandSize .groupHeader ≤ (printTop form p).2.page.linesLeft) (h : Unpadded before p) :
    Ends (printGroupHeader form) p (fun _ q => Unpadded before q) fun _ q => Unpadded before q := by
  simp only [Press.printGroupHeader]
  cases hl : form.band? .groupHeader with
  | none => exact h
  | some header =>
    have hsize : form.bandSize .groupHeader = header.length := by simp [Form.bandSize, hl]
    rw [hsize] at hroom
    simp only [ends_bind, ends_get]
    refine (h.makeRoom hroom).mono (fun _ q hq => ?_) fun _ _ he => he
    rw [ends_ite]
    split
    · simp only [ends_bind]
      exact (hq.emitBand hl).mono (fun _ r hr => hr.endPageIfFull) fun _ _ he => he
    · exact hq.endPageIfFull

/-- The task is a record, or a band that finds room on the page at hand: no page is finished for it. -/
inductive FindsRoom (form : Form) (p : Press) : Task → Prop
  | record : FindsRoom form p .record
  | groupHeader : form.bandSize .groupHeader ≤ (printTop form p).2.page.linesLeft →
    FindsRoom form p .groupHeader
  | groupDetail : form.bandSize .groupDetail ≤ (printTop form p).2.page.linesLeft →
    FindsRoom form p .groupDetail
  | groupFooter : form.bandSize .groupFooter ≤ (printTop form p).2.page.linesLeft →
    FindsRoom form p .groupFooter
  | summary : form.bandSize .summary ≤ (printTop form p.summarized).2.page.linesLeft →
    FindsRoom form p .summary

theorem FindsRoom.unpadded {task : Task} (hroom : FindsRoom form p task) (h : Unpadded before p) :
    Ends (task.run form) p (fun _ q => Unpadded before q) fun _ q => Unpadded before q := by
  cases hroom with
  | record => exact (unpadded_stable form before).printRecord h
  | groupHeader hroom => exact h.printGroupHeader hroom
  | groupDetail hroom => exact h.printBand hroom
  | groupFooter hroom => exact h.printBand hroom
  | summary hroom =>
    have hsummarized : Unpadded before p.summarized := h
    simp only [Task.run, printSummary, ends_bind, ends_get]
    rw [ends_ite]
    split
    · simp only [ends_bind, ends_onPager]
      exact hsummarized.printBand hroom
    · exact h

theorem operate_unpadded {source : Source} {task : Task}
    (hroom : FindsRoom form (p.withValues source) task) :
    Unpadded p.events (operate (.task form source task) p).2 := by
  have hstart : Unpadded p.events (p.withValues source) := by
    refine ⟨[], by simp [events, withValues], fun line hl => ?_⟩
    cases hl
  refine ends_state.mp ?_
  simp only [operate, ends_bind, ends_modify]
  exact hroom.unpadded hstart

end Unpadded

/-! ## Runs -/

section Runs

variable {form : Form}

theorem operate_ordered (hheader : form.band? .groupHeader = none) (source : Source) (task : Task)
    {p : Press} (h : Ordered form p) :
    Ends (operate (.task form source task)) p (fun _ q => Ordered form q) fun _ _ => True := by
  have hstart : Ordered form (p.withValues source) := h.same rfl rfl
  simp only [operate, ends_bind, ends_modify]
  exact (ordered_bands hheader).task (fun _ hq => (ordered_records hheader).printRecord hq) task hstart

theorem start_ordered (form : Form) (length : Int) (formFeed : Bool) :
    Ordered form (start (Page.first length) formFeed) := by
  refine ⟨⟨[], [], rfl, fun page hp => ?_, fun _ => rfl, fun ht => ?_⟩, fun _ => rfl, fun hb => ?_⟩
  · cases hp
  · cases ht
  · cases hb

/-- Whatever is printed with a form that has no group header, if nothing fails: it falls into pages, and
nothing stands between them.  Each page is opened by its top, which is complete, and a page that is closed
ends with its bottom, which is complete too; between top and bottom there are only lines of records and of
bands on demand, and blank lines nowhere but right before the bottom.  No blank lines are printed by a call
for a record or for a band that finds room on the page at hand, so that only finished pages have them. -/
theorem after_pages (hheader : form.band? .groupHeader = none) (length : Int) (formFeed : Bool)
    (operations : List Operation)
    (hcalls : ∀ operation ∈ operations, operation.Calls form fun _ => True)
    (hreturn : Throughout Returns operations (start (Page.first length) formFeed)) :
    let begin := start (Page.first length) formFeed
    let press := after operations begin
    (∃ (pages : List (List Event)) (sheet : List Event), press.events = pages.flatten ++ sheet ∧
      (∀ page ∈ pages, ClosedSheet form page) ∧ (press.page.topPending = true → sheet = []) ∧
      (press.page.topPending = false → OpenSheet form sheet)) ∧
    ∀ earlier source task later, operations = earlier ++ .task form source task :: later →
      FindsRoom form ((after earlier begin).withValues source) task →
      ∃ more, (after (earlier ++ [.task form source task]) begin).events =
        (after earlier begin).events ++ more ∧ ∀ line, .printed line ∈ more → line.origin ≠ .padding := by
  have hordered := hreturn.induction (I := Ordered form) (fun operation ho p hr hp => ?_) _
    (start_ordered form length formFeed)
  · refine ⟨hordered.sheets, fun earlier source task later _ hroom => ?_⟩
    rw [after_concat]
    exact operate_unpadded hroom
  · obtain ⟨source, task, rfl, -⟩ := hcalls operation ho
    exact Ends.of_returns (operate_ordered hheader source task hp) hr

/-- A page of five lines: a top, a bottom, and a band on demand. -/
def ledger : Form :=
  ⟨[⟨[.field ⟨.text .left 2, false⟩], false, false, ["x"], ['@', '<']⟩],
    [(.top, [⟨[.literal ['=', '=']], false, false, [], ['=', '=']⟩]),
      (.groupDetail, [⟨[.field ⟨.text .left 1, false⟩], false, false, ["d"], ['@']⟩]),
      (.bottom, [⟨[.literal ['-', '-']], false, false, [], ['-', '-']⟩])]⟩

def ledgerEntry : Source := ⟨.mapping, [("x", .text ['a']), ("d", .text ['d'])]⟩

/-- Print three records and a band, and finish the page that the last record is on. -/
def bookkeeping : List Operation :=
  [.record, .groupDetail, .record, .record, .finishPage false].map (.task ledger ledgerEntry)

theorem after_pages_bookkeeping :
    ledger.band? .groupHeader = none ∧
    (∀ operation ∈ bookkeeping, operation.Calls ledger fun _ => True) ∧
    Throughout Returns bookkeeping (start (Page.first 5) false) ∧
    let press := after bookkeeping (start (Page.first 5) false)
    press.lines = ["==", "a", "d", "a", "--", "==", "a", "", "", "--"].map String.toList ∧
    (∃ pages : List (List Event), press.events = pages.flatten ∧ ∀ page ∈ pages, ClosedSheet ledger page) ∧
    ∃ more, (after (bookkeeping.take 2) (start (Page.first 5) false)).events =
      (after (bookkeeping.take 1) (start (Page.first 5) false)).events ++ more ∧
      ∀ line, .printed line ∈ more → line.origin ≠ .padding := by
  have hheader : ledger.band? .groupHeader = none := rfl
  have hcalls : ∀ operation ∈ bookkeeping, operation.Calls ledger fun _ => True :=
    Operation.calls_of_mem_map _ fun _ _ => trivial
  have hreturn : Throughout Returns bookkeeping (start (Page.first 5) false) := by decide +kernel
  obtain ⟨⟨pages, sheet, hevents, hpages, hclosed, -⟩, hunpadded⟩ :=
    after_pages hheader 5 false bookkeeping hcalls hreturn
  have htop : (after bookkeeping (start (Page.first 5) false)).page.topPending = true := by decide +kernel
  rw [hclosed htop, List.append_nil] at hevents
  have hroom : FindsRoom ledger ((after (bookkeeping.take 1) (start (Page.first 5) false)).withValues
      ledgerEntry) .groupDetail := .groupDetail (by decide +kernel)
  exact ⟨hheader, hcalls, hreturn, by decide +kernel, ⟨pages, hevents, hpages⟩,
    hunpadded (bookkeeping.take 1) ledgerEntry .groupDetail (bookkeeping.drop 2) rfl hroom⟩

end Runs

end Press

end PictureReport
