import PictureReport.Proofs.Press.Keeping

/-!
# The state of the printing and the flags of the page

The pager holds the state of the printing beside the page, whose flags say the same in other words: a
page whose top is pending is not begun, and one whose bottom is due is not open.  The two are set at
different places, and in the middle of an operation they may differ: a record that is cut passes through
`partialFlush`.  After every operation they agree (`after_agrees`).

Closing a page restores the agreement whatever the state was, since it sets the state and both flags.
So all that has to be known where a page is closed is that one is begun.
-/

namespace PictureReport

/-- The state says what the flags say: it is `awaitingTop` before a page is begun, `awaitingBottom` when the
bottom is due, and else `body`.  There are no other states, the flags exclude each other, and only a page that
is begun shows a record. -/
structure Pager.Agrees (pager : Pager) : Prop where
  awaitingTop : pager.state = .awaitingTop ↔ pager.page.topPending = true
  awaitingBottom : pager.state = .awaitingBottom ↔ pager.page.bottomPending = true
  body : pager.state = .body ↔ ¬ (pager.page.topPending = true ∨ pager.page.bottomPending = true)
  settled : pager.state ≠ .partialFlush ∧ pager.state ≠ .pageBreak
  exclusive : ¬ (pager.page.topPending = true ∧ pager.page.bottomPending = true)
  begun : pager.page.bodyPrinted = true → pager.page.topPending = false

namespace Pager

variable {pager other : Pager}

/-! ## The three states -/

theorem agrees_awaitingTop (hs : pager.state = .awaitingTop) (ht : pager.page.topPending = true)
    (hb : pager.page.bottomPending = false) (hp : pager.page.bodyPrinted = false) : pager.Agrees := by
  refine ⟨?_, ?_, ?_, ?_, ?_, ?_⟩ <;> simp [hs, ht, hb, hp]

theorem agrees_body (hs : pager.state = .body) (ht : pager.page.topPending = false)
    (hb : pager.page.bottomPending = false) : pager.Agrees := by
  refine ⟨?_, ?_, ?_, ?_, ?_, ?_⟩ <;> simp [hs, ht, hb]

theorem agrees_awaitingBottom (hs : pager.state = .awaitingBottom) (ht : pager.page.topPending = false)
    (hb : pager.page.bottomPending = true) : pager.Agrees := by
  refine ⟨?_, ?_, ?_, ?_, ?_, ?_⟩ <;> simp [hs, ht, hb]

/-- The lines and the number of the page do not matter to `Agrees`, and a page that is begun may show a
record. -/
theorem Agrees.congr (h : pager.Agrees) (hs : other.state = pager.state)
    (ht : other.page.topPending = pager.page.topPending)
    (hb : other.page.bottomPending = pager.page.bottomPending)
    (hp : other.page.bodyPrinted = true → pager.page.topPending = false) : other.Agrees := by
  refine ⟨?_, ?_, ?_, ?_, ?_, ?_⟩
  · rw [hs, ht]
    exact h.awaitingTop
  · rw [hs, hb]
    exact h.awaitingBottom
  · rw [hs, ht, hb]
    exact h.body
  · rw [hs]
    exact h.settled
  · rw [ht, hb]
    exact h.exclusive
  · rw [ht]
    exact hp

/-- Only where a page is begun can its bottom be due: `exclusive`, read the other way. -/
theorem Agrees.topPending (h : pager.Agrees) (hb : pager.page.bottomPending = true) :
    pager.page.topPending = false := by
  cases ht : pager.page.topPending with
  | false => rfl
  | true => exact absurd ⟨ht, hb⟩ h.exclusive

theorem Agrees.control (h : pager.Agrees) (control : Control) : (control.apply pager).Agrees := by
  cases control with
  | reset => exact agrees_awaitingTop rfl rfl rfl rfl
  | _ => exact h.congr rfl rfl rfl h.begun

end Pager

namespace Press

/-- The pager agrees, and no bottom is due.  Placing a record keeps this, where `Agrees` alone would not do:
the state `body` is set after it without a look at the flags. -/
structure Clear (p : Press) : Prop where
  agrees : p.pager.Agrees
  bottomPending : p.page.bottomPending = false

section Steps

variable {form : Form} {p q : Press}

/-! ## Lines and pages -/

theorem Prints.agrees {origin : Origin} {lines : List Composed} (h : Prints origin lines p q)
    (hp : p.pager.Agrees) (hopen : lines ≠ [] → p.page.topPending = false) : q.pager.Agrees := by
  have hpage : q.pager.page = p.page.taking origin lines.length := h.page
  refine hp.congr h.state ?_ ?_ fun hbody => ?_
  · rw [hpage]
    rfl
  · rw [hpage]
    rfl
  · by_cases hlines : lines = []
    · have hshown : p.page.bodyPrinted = true := by simpa [hpage, hlines, Page.taking] using hbody
      exact hp.begun hshown
    · exact hopen hlines

theorem Whole.agrees {band : Band} {made : List Composed} (h : Whole form band made p q)
    (hp : p.pager.Agrees) (ht : p.page.topPending = false) : q.pager.Agrees := by
  have hpage : q.pager.page = p.page.taking (.band band) made.length := h.page
  refine hp.congr h.state ?_ ?_ fun _ => ht
  · rw [hpage]
    rfl
  · rw [hpage]
    rfl

theorem Partly.agrees {band : Band} {fault : Fault} {made : List Composed}
    (h : Partly form band fault made p q) (hp : p.pager.Agrees) (ht : p.page.topPending = false) :
    q.pager.Agrees :=
  h.emits.prints.agrees hp fun _ => ht

theorem due_agrees (ht : p.page.topPending = false) : p.due.pager.Agrees :=
  Pager.agrees_awaitingBottom rfl ht rfl

/-- Whatever the state was, `endPage` leaves one that agrees with the flags. -/
theorem endPage_clear (feed : Option Bool) (ht : p.page.topPending = false) :
    Ends (endPage form feed) p (fun _ q => Clear q) fun _ q => q.pager.Agrees := by
  refine endPage_ends (fun made q hq => ?_) fun fault made q hq => ?_
  · exact ⟨Pager.agrees_awaitingTop rfl rfl rfl rfl, rfl⟩
  · exact hq.agrees (due_agrees ht) ht

theorem endPage_agrees (feed : Option Bool) (ht : p.page.topPending = false) :
    Ends (endPage form feed) p (fun _ q => q.pager.Agrees) fun _ q => q.pager.Agrees :=
  (endPage_clear feed ht).mono (fun _ _ hq => hq.agrees) fun _ _ he => he

theorem opened_agrees (ht : p.page.topPending = true) (hb : p.page.bottomPending = false) :
    p.opened.pager.Agrees ∧ p.opened.page.topPending = false := by
  have hpage := page_opened ht
  have htop : p.opened.page.topPending = false := by rw [hpage]
  refine ⟨Pager.agrees_body ?_ htop ?_, htop⟩
  · have hpending : p.pager.page.topPending = true := ht
    simp [opened, Pager.beginPage, hpending]
  · change p.opened.page.bottomPending = false
    rw [hpage]
    exact hb

theorem openPage_agrees (hp : p.pager.Agrees) (hb : p.page.bottomPending = false) :
    Ends (openPage form) p (fun _ q => q.pager.Agrees) fun _ q => q.pager.Agrees := by
  have headed : p.page.topPending = true → ∀ made q, Whole form .top made p.opened q →
      q.pager.Agrees ∧ q.page.topPending = false := by
    intro ht made q hq
    obtain ⟨hagrees, htop⟩ := opened_agrees ht hb
    refine ⟨hq.agrees hagrees htop, ?_⟩
    rw [hq.page]
    exact htop
  refine openPage_ends (fun _ => hp) (fun ht _ => (opened_agrees ht hb).1) ?_ ?_ ?_ ?_
  · exact fun ht _ made q hq _ => (headed ht made q hq).1
  · exact fun ht _ made q hq _ made' r hr => hr.agrees (headed ht made q hq).1 (headed ht made q hq).2
  · exact fun ht _ fault made q hq => hq.agrees (opened_agrees ht hb).1 (opened_agrees ht hb).2
  · exact fun ht _ made q hq _ fault made' r hr =>
      hr.agrees (headed ht made q hq).1 (headed ht made q hq).2

/-- Printing bands and closing pages keeps `Agrees`, even where it fails. -/
theorem agrees_steps (form : Form) :
    BandSteps form (fun p => p.pager.Agrees) fun _ p => p.pager.Agrees where
  due := fun p ht _ => due_agrees ht
  endPage := fun p ht _ => endPage_agrees none ht
  printTop := fun p hp => printTop_keeps (fun _ hp hb => hp.topPending hb)
    (fun _ ht _ => endPage_agrees none ht) (fun _ hb hp => openPage_agrees hp hb) hp
  finish := by
    intro p q feed ht hq _
    have htop : q.page.topPending = false := by
      rw [hq.page]
      exact ht
    exact endPage_agrees (some feed) htop
  band := fun _ _ p q _ _ ht _ hq hp => hq.agrees hp ht
  partly := fun _ _ _ p q _ _ ht _ hq hp => hq.agrees hp ht
  summary := fun p hp => hp.congr rfl rfl rfl hp.begun

/-! ## Records -/

theorem printTop_clear (hp : p.pager.Agrees) :
    Ends (printTop form) p (fun _ q => Clear q) fun _ q => q.pager.Agrees :=
  ((agrees_steps form).begun hp).mono (fun _ _ hq => ⟨hq.1, hq.2.bottomPending⟩) fun _ _ he => he

/-- The state `partialFlush` is left when the page is closed. -/
theorem flushPartial_clear (ht : p.page.topPending = false) :
    Ends (flushPartial form) p (fun _ q => Clear q) fun _ q => q.pager.Agrees := by
  refine flushPartial_ends rfl fun q hq _ => endPage_clear none ?_
  change q.page.topPending = false
  rw [hq.page]
  exact ht

theorem clear_steps (form : Form) : PlaceSteps form Clear fun _ p => p.pager.Agrees where
  endPage := fun _ ht _ => endPage_clear none ht
  printTop := fun _ hp => printTop_clear hp.agrees
  desk := fun _ _ hp => ⟨hp.agrees, hp.bottomPending⟩
  holding := fun _ _ hp => ⟨hp.agrees, hp.bottomPending⟩
  flush := fun _ ht _ => flushPartial_clear ht
  deferred := fun _ _ _ hp => ⟨hp.agrees, hp.bottomPending⟩
  body := by
    intro p q lines hopen hq hp
    refine ⟨hq.agrees hp.agrees hopen, ?_⟩
    rw [hq.page]
    exact hp.bottomPending
  fault := fun _ _ hp => hp.agrees

/-- A record that is placed leaves an open page or none, so the state `body` that is set after it is the right
one. -/
theorem Clear.recorded (h : Clear p) : p.recorded.pager.Agrees := by
  unfold Press.recorded
  split
  · exact h.agrees
  · rename_i ht
    have htop : p.page.topPending = false := by simpa using ht
    exact Pager.agrees_body rfl htop h.bottomPending

theorem printRecord_agrees (hp : p.pager.Agrees) :
    Ends (printRecord form) p (fun _ q => q.pager.Agrees) fun _ q => q.pager.Agrees := by
  refine printRecord_recorded (P := Clear) ?_ fun q hq =>
    (agrees_steps form).toPageSteps.endPageIfFull hq.recorded
  have placed : ∀ {q : Press}, q.pager.Agrees →
      Ends (placeRecord form) q (fun _ r => Clear r) fun _ r => r.pager.Agrees :=
    fun hq => (clear_steps form).placeRecord (printTop_clear hq)
  exact (placed hp).mono (fun _ q hq => ⟨fun _ => hq, fun _ => placed hq.agrees⟩) fun _ _ he => he

end Steps

/-! ## Runs -/

/-- Every operation keeps `Agrees`, even one that fails. -/
theorem operate_agrees (operation : Operation) {p : Press} (hp : p.pager.Agrees) :
    Ends (operate operation) p (fun _ q => q.pager.Agrees) fun _ q => q.pager.Agrees := by
  cases operation with
  | task form source task =>
    simp only [operate, ends_bind, ends_modify]
    exact (agrees_steps form).task (fun _ hq => printRecord_agrees hq) task hp
  | control control => exact hp.control control

/-- After every run of a press from its first page, whatever the operations are and whether they fail
or not, the state of the printing and the flags of the page agree. -/
theorem after_agrees (length : Int) (formFeed : Bool) (operations : List Operation) :
    (after operations (start (Page.first length) formFeed)).pager.Agrees := by
  refine after_induction (I := fun p => p.pager.Agrees) (fun operation _ p hp => operate_agrees operation hp)
    (start (Page.first length) formFeed) ?_
  exact Pager.agrees_awaitingTop rfl rfl rfl rfl

/-- A record of three lines on pages of two: its first two lines are printed in the state `partialFlush`,
which no flag stands for. -/
example :
    let line (c : Char) : PictureLine := ⟨[.literal [c]], false, false, [], [c]⟩
    let record := Operation.task ⟨[line 'a', line 'b', line 'c'], []⟩ ⟨.mapping, []⟩ .record
    (after [record] (start (Page.first 2) false)).printed.map (·.state) =
      [.partialFlush, .partialFlush, .body] := by
  decide +kernel

end Press

end PictureReport
