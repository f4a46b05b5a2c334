import Mathlib.Data.List.Induction
import PictureReport.Proofs.Press.Keeping

/-!
# No stale page numbers

Body lines are composed before it is known on which page they are printed.  Still every line shows
the number of the page on which it stands: the pending lines of a record are held back only as long
as they fit on the page at hand, so a flush never leaves any of them behind (`Buffered`, `Roomy`).
The number of a page is one more than the count of the bottoms printed before (`Current`).
-/

namespace PictureReport

/-- Is a bottom complete that shows a line?  Only such a one turns the page number. -/
def Event.endsBottom : Event → Bool
  | .emitted .bottom count => 0 < count
  | _ => false

namespace Press

/-- The number of complete bottoms that show a line. -/
def bottoms (events : List Event) : Nat := events.countP Event.endsBottom

/-- Each line was composed for the page on which it was printed, and that page has the number that `bottoms`
before it give; no flush leaves lines behind. -/
structure Numbered (events : List Event) : Prop where
  lines : ∀ earlier line later, events = earlier ++ .printed line :: later →
    line.line.page = line.page ∧ line.page = 1 + (bottoms earlier : Int)
  flushed : ∀ left, .flushed left ∈ events → left = 0

/-- The events are `Numbered`, and the number of the page at hand is one more than their `bottoms`. -/
structure Current (p : Press) : Prop where
  numbered : Numbered p.events
  number : p.page.number = 1 + (bottoms p.events : Int)

section Events

variable {events more : List Event}

theorem numbered_nil : Numbered [] := ⟨by simp, by simp⟩

theorem Numbered.concat (h : Numbered events) (event : Event)
    (hline : ∀ line, event = .printed line →
      line.line.page = line.page ∧ line.page = 1 + (bottoms events : Int))
    (hflushed : ∀ left, event = .flushed left → left = 0) : Numbered (events ++ [event]) := by
  refine ⟨fun earlier line later he => ?_, fun left hl => ?_⟩
  · rcases List.eq_nil_or_concat later with rfl | ⟨later, last, rfl⟩
    · obtain ⟨rfl, hlast⟩ := List.append_inj' he rfl
      exact hline line (by simpa using hlast)
    · rw [List.concat_eq_append, ← List.cons_append, ← List.append_assoc] at he
      obtain ⟨he, -⟩ := List.append_inj' he rfl
      exact h.lines earlier line later he
  · rcases List.mem_append.mp hl with hl | hl
    · exact h.flushed left hl
    · exact hflushed left (List.mem_singleton.mp hl).symm

@[simp] theorem bottoms_append : bottoms (events ++ more) = bottoms events + bottoms more := by
  simp [bottoms]

@[simp] theorem bottoms_printed (lines : List Printed) : bottoms (lines.map .printed) = 0 := by
  simp [bottoms, Event.endsBottom]

@[simp] theorem bottoms_nil : bottoms [] = 0 := rfl

@[simp] theorem bottoms_closed (feed bottomPrinted : Bool) :
    bottoms [.closed feed bottomPrinted] = 0 := rfl

theorem bottoms_emitted (band : Band) (count : Nat) :
    bottoms [.emitted band count] = if band = .bottom ∧ 0 < count then 1 else 0 := by
  by_cases hb : band = .bottom
  · subst hb
    simp [bottoms, Event.endsBottom, List.countP_cons]
  · have hends : (Event.emitted band count).endsBottom = false := by
      unfold Event.endsBottom
      split
      · rename_i he
        cases he
        exact absurd rfl hb
      · rfl
    simp [bottoms, hends, hb]

/-- Lines that are composed for the page at hand may be printed on it. -/
theorem Numbered.append_printed (h : Numbered events) (lines : List Printed)
    (hl : ∀ line ∈ lines, line.line.page = line.page ∧ line.page = 1 + (bottoms events : Int)) :
    Numbered (events ++ lines.map .printed) := by
  induction lines using List.reverseRecOn with
  | nil => simpa using h
  | append_singleton lines line ih =>
    rw [List.map_append, ← List.append_assoc]
    refine (ih fun line h => hl line (by simp [h])).concat _ ?_ (by simp)
    intro printed he
    cases he
    simpa using hl line (by simp)

end Events

section Pages

variable {form : Form} {p q : Press}

theorem Current.congr (h : Current p) (he : q.events = p.events)
    (hn : q.page.number = p.page.number) : Current q := by
  refine ⟨?_, ?_⟩
  · rw [he]; exact h.numbered
  · rw [he, hn]; exact h.number

theorem Current.noted (h : Current p) {event : Event} (hline : ∀ line, event ≠ .printed line)
    (hbottom : event.endsBottom = false) (hflushed : ∀ left, event = .flushed left → left = 0) :
    Current (p.noted event) := by
  refine ⟨?_, ?_⟩
  · rw [events_noted]
    exact h.numbered.concat event (fun line he => absurd he (hline line)) hflushed
  · simp [bottoms, hbottom, h.number]

/-- Printing lines keeps `Current`, if they were composed for the page at hand. -/
theorem Current.prints (h : Current p) {origin : Origin} {lines : List Composed}
    (hp : Prints origin lines p q) (hl : ∀ line ∈ lines, line.page = p.page.number) : Current q := by
  refine ⟨?_, ?_⟩
  · rw [hp.events]
    refine h.numbered.append_printed _ fun line hline => ?_
    obtain ⟨hmem, -, hpage, -⟩ := mem_printing hline
    rw [hpage, hl _ hmem]
    exact ⟨rfl, h.number⟩
  · rw [hp.page, hp.events]
    simpa [Page.taking] using h.number

theorem Current.partly (h : Current p) {band : Band} {fault : Fault} {made : List Composed}
    (hp : Partly form band fault made p q) : Current q :=
  h.prints hp.emits.prints hp.emits.pages

/-- A band that is not the bottom may be printed whole: it leaves `bottoms` as they are. -/
theorem Current.whole (h : Current p) {band : Band} (hb : band ≠ .bottom) {made : List Composed}
    (hw : Whole form band made p q) : Current q := by
  have hmarks : form.marks band made.length = [] ∨
      form.marks band made.length = [.emitted band made.length] := by
    unfold Form.marks; split <;> simp
  have hprinted : Numbered (p.events ++ (p.printing (.band band) made).map .printed) := by
    refine h.numbered.append_printed _ fun line hline => ?_
    obtain ⟨hmem, -, hpage, -⟩ := mem_printing hline
    rw [hpage, hw.pages _ hmem]
    exact ⟨rfl, h.number⟩
  refine ⟨?_, ?_⟩
  · rw [hw.events]
    rcases hmarks with hm | hm
    · rw [hm, List.append_nil]
      exact hprinted
    · rw [hm]
      exact hprinted.concat _ (by simp) (by simp)
  · rw [hw.page, hw.events]
    rcases hmarks with hm | hm <;> rw [hm] <;>
      simp [Page.taking, h.number, bottoms_emitted, hb]

/-- A bottom that shows a line is complete when the page is closed, and the number goes up with `bottoms`. -/
theorem Current.closed (h : Current p) {made : List Composed} (hw : Whole form .bottom made p.due q)
    (feed : Bool) : Current (q.closed feed (0 < made.length)) := by
  have hprinted : Numbered (p.events ++ (p.due.printing (.band .bottom) made).map .printed) := by
    refine h.numbered.append_printed _ fun line hline => ?_
    obtain ⟨hmem, -, hpage, -⟩ := mem_printing hline
    rw [hpage, hw.pages _ hmem]
    exact ⟨rfl, h.number⟩
  have hevents := hw.events
  have hpage := hw.page
  rw [events_due] at hevents
  unfold Form.marks at hevents
  -- with a bottom the number goes up if it shows a line; without one nothing is printed and it stays
  split at hevents
  · refine ⟨?_, ?_⟩
    · rw [events_closed, hevents]
      refine Numbered.concat ?_ _ (by simp) (by simp)
      exact hprinted.concat _ (by simp) (by simp)
    · rw [events_closed, hevents, page_closed, hpage]
      have hnumber := h.number
      simp only [bottoms_append, bottoms_printed, bottoms_closed, bottoms_emitted, Page.taking,
        page_due, true_and, decide_eq_true_eq]
      split <;> omega
  · rename_i hb
    have hmade : made = [] := hw.absent (by simpa using hb)
    subst hmade
    refine ⟨?_, ?_⟩
    · rw [events_closed, hevents]
      refine Numbered.concat ?_ _ (by simp) (by simp)
      simpa using hprinted
    · rw [events_closed, hevents, page_closed, hpage]
      simpa [Page.taking] using h.number

theorem endPage_current (form : Form) (feed : Option Bool) (h : Current p) :
    Ends (endPage form feed) p (fun _ q => Current q) fun _ q => Current q := by
  have hdue : Current p.due := ⟨h.numbered, h.number⟩
  exact endPage_ends (fun made q hq => h.closed hq _) fun fault made q hq => hdue.partly hq

theorem openPage_current (form : Form) (h : Current p) :
    Ends (openPage form) p (fun _ q => Current q) fun _ q => Current q := by
  have hopened : p.page.topPending = true → Current p.opened := by
    intro ht
    refine ⟨?_, ?_⟩
    · rw [events_opened]
      exact h.numbered.concat _ (by simp) (by simp)
    · rw [page_opened ht, events_opened]
      simpa [bottoms, Event.endsBottom] using h.number
  refine openPage_ends (fun _ => h) (fun ht _ => hopened ht) ?_ ?_ ?_ ?_
  · exact fun ht _ made q hq _ => (hopened ht).whole (by simp) hq
  · exact fun ht _ made q hq _ made' r hr =>
      ((hopened ht).whole (by simp) hq).whole (by simp) hr
  · exact fun ht _ fault made q hq => (hopened ht).partly hq
  · exact fun ht _ made q hq _ fault made' r hr => ((hopened ht).whole (by simp) hq).partly hr

theorem printTop_current (form : Form) (h : Current p) :
    Ends (printTop form) p (fun _ q => Current q ∧ Begun p q) fun _ q => Current q := by
  refine Ends.and_ok (printTop_ends (fun _ => ?_) fun _ => openPage_current form h)
    (printTop_begun form p)
  exact (endPage_current form none h).mono (fun _ q hq => openPage_current form hq) fun _ _ hq => hq

theorem current_steps (form : Form) : BandSteps form Current fun _ => Current where
  due := fun _ _ hp => ⟨hp.numbered, hp.number⟩
  endPage := fun _ _ hp => endPage_current form none hp
  printTop := fun _ hp => (printTop_current form hp).mono (fun _ _ hq => hq.1) fun _ _ hq => hq
  finish := by
    refine fun p q feed _ hq hp => endPage_current form _ (hp.prints hq fun line hline => ?_)
    rw [(List.mem_replicate.mp hline).2]
  band := fun _ _ _ _ _ hb _ _ hq hp => hp.whole hb hq
  partly := fun _ _ _ _ _ _ _ _ _ hq hp => hp.partly hq
  summary := fun _ hp => hp.congr rfl rfl

end Pages

/-! ## Pending lines -/

/-- The pending lines of a record are composed for the page at hand.  On a page that shows no record yet they
fit beside the bottom, unless there is only one. -/
structure Buffered (form : Form) (p : Press) : Prop where
  current : Current p
  pages : ∀ line ∈ p.pending, line.page = p.page.number
  bottomPending : p.page.bottomPending = false
  begun : p.page.bodyPrinted = true → p.page.topPending = false
  room : p.page.bodyPrinted = false → p.pending.length ≤ 1 ∨
    (p.page.topPending = false ∧ p.pending.length + form.bandSize .bottom ≤ p.page.linesLeft)

/-- As `Buffered`, and one more line fits. -/
structure Roomy (form : Form) (p : Press) : Prop where
  buffered : Buffered form p
  room : p.page.bodyPrinted = false → p.pending = [] ∨
    (p.page.topPending = false ∧ p.pending.length + form.bandSize .bottom < p.page.linesLeft)

section Records

variable {form : Form} {p q : Press}

/-- After a flush nothing is pending and the page is closed. -/
structure Flushed (form : Form) (p : Press) : Prop where
  current : Current p
  pending : p.pending = []
  topPending : p.page.topPending = true
  bottomPending : p.page.bottomPending = false
  bodyPrinted : p.page.bodyPrinted = false

theorem Flushed.roomy (h : Flushed form p) : Roomy form p := by
  refine ⟨⟨h.current, by simp [h.pending], h.bottomPending, ?_, ?_⟩, fun _ => .inl h.pending⟩
  · intro hb
    rw [h.bodyPrinted] at hb
    cases hb
  · intro _
    simp [h.pending]

theorem flushPartial_current (h : Current p) (hpages : ∀ line ∈ p.pending, line.page = p.page.number)
    (hfit : (p.pending.length : Int) ≤ p.pager.capacity (form.bandSize .bottom)) :
    Ends (flushPartial form) p (fun _ q => Flushed form q) fun _ q => Current q := by
  refine flushPartial_ends rfl fun q hq _ => ?_
  -- the page takes all pending lines
  rw [List.take_of_length_le (by omega)] at hq
  rw [List.drop_of_length_le (by omega)]
  have hstart : Current (p.paged (·.transition .partialFlush)) := h.congr rfl rfl
  have hprinted : Current (q.holding []) := (hstart.prints hq hpages).congr rfl rfl
  have hnoted : Current ((q.holding []).noted (.flushed ([] : List Composed).length)) :=
    hprinted.noted (by simp) rfl (by simp)
  have hcommitted : Current ((q.holding []).noted (.flushed ([] : List Composed).length)).committed :=
    hnoted.congr rfl rfl
  refine ((endPage_current form none hcommitted).and_ok (endPage_between form none _)).mono ?_
    fun _ _ he => he
  rintro _ r ⟨hr, hb⟩
  exact ⟨hr, hb.pending, hb.topPending, hb.bottomPending, hb.bodyPrinted⟩

/-- Before each turn `splitFullPage` makes a line of room on a page that shows no record yet. -/
theorem splitFullPage_roomy (h : Buffered form p) :
    Ends (splitFullPage form) p (fun _ q => Roomy form q) fun _ q => Current q := by
  refine splitFullPage_ends (fun he => ⟨h, fun _ => .inl he⟩) fun hne => ?_
  have hpos : 0 < p.pending.length := List.length_pos_iff.mpr hne
  refine (printTop_current form h.current).mono ?_ fun _ _ he => he
  rintro _ q ⟨hq, hb⟩
  have hpages : ∀ line ∈ q.pending, line.page = q.page.number := by
    rw [hb.pending, hb.number h.bottomPending]
    exact h.pages
  -- a page that was begun already stays as it is, and on a new one a single line is pending
  have hroom : q.page.bodyPrinted = false → q.pending.length ≤ 1 ∨
      (q.page.topPending = false ∧ q.pending.length + form.bandSize .bottom ≤ q.page.linesLeft) := by
    intro hq0
    cases ht : p.page.topPending with
    | false =>
      rw [hb.same ht h.bottomPending] at hq0 ⊢
      exact h.room hq0
    | true =>
      have hbody : p.page.bodyPrinted = false := by
        cases hb0 : p.page.bodyPrinted with
        | false => rfl
        | true => rw [h.begun hb0] at ht; cases ht
      rcases h.room hbody with hone | ⟨h0, -⟩
      · left
        rwa [hb.pending]
      · rw [h0] at ht
        cases ht
  have hbuffered : Buffered form q := ⟨hq, hpages, hb.bottomPending, fun _ => hb.topPending, hroom⟩
  have hlen : 0 < q.pending.length := by rwa [hb.pending]
  refine ⟨fun hfull => ⟨hbuffered, fun hbody => .inr ⟨hb.topPending, ?_⟩⟩, fun hfull => ?_⟩
  · have hfull : ¬ (0 < (q.pending.length : Int) ∧ q.page.bodyPrinted = false ∧
        q.page.linesLeft ≤ q.pending.length + form.bandSize .bottom) := by
      rw [← fillsFreshPage_iff, hfull]
      simp
    have hleft : ¬ q.page.linesLeft ≤ q.pending.length + form.bandSize .bottom :=
      fun hle => hfull ⟨by omega, hbody, hle⟩
    omega
  · rw [fillsFreshPage_iff] at hfull
    obtain ⟨-, hbody, -⟩ := hfull
    refine (flushPartial_current hq hpages ?_).mono (fun _ r hr => hr.roomy) fun _ _ he => he
    rw [capacity_eq]
    rcases hroom hbody with hone | ⟨-, hfit⟩ <;> omega

theorem printRecord_loop (form : Form) (line : PictureLine) :
    Loop (splitFullPage form)
      (fun line => modify fun press => { press with pending := press.pending ++ [line] }) line
      (fun _ p => Buffered form p) (fun _ p => Roomy form p) fun _ _ p => Current p := by
  refine ⟨fun _ p hp => splitFullPage_roomy hp, fun _ p hp => hp.buffered, ?_, ?_, ?_,
    fun _ p fault desk hp _ => hp.current⟩
  · rintro _ p page ⟨⟨h1, h2, h3, h4, h5⟩, h6⟩ desk -
    exact ⟨⟨h1.congr rfl rfl, h2, h3, h4, h5⟩, h6⟩
  · rintro _ p warnings ⟨h1, h2, h3, h4, h5⟩
    exact ⟨h1.congr rfl rfl, h2, h3, h4, h5⟩
  · intro _ p text hp
    refine ⟨hp.buffered.current.congr rfl rfl, ?_, hp.buffered.bottomPending, hp.buffered.begun, ?_⟩
    · intro line hline
      rcases List.mem_append.mp hline with hl | hl
      · exact hp.buffered.pages line hl
      · rw [List.mem_singleton.mp hl]
        rfl
    · intro hbody
      rcases hp.room hbody with hnone | ⟨htop, hroom⟩
      · left
        simp [hnone]
      · right
        refine ⟨htop, ?_⟩
        simp only [List.length_append, List.length_singleton, Int.natCast_add]
        change _ ≤ p.page.linesLeft
        omega

/-- One flush is enough for the lines that stay behind: there is one of them at most. -/
theorem flushRest_current (rounds : Nat) (h : Current p)
    (hpages : ∀ line ∈ p.pending, line.page = p.page.number) (hone : p.pending.length ≤ 1) :
    Ends (flushRest form rounds) p
      (fun _ q => Current q ∧ ∀ line ∈ q.pending, line.page = q.page.number) fun _ q => Current q := by
  let J : Nat → Press → Prop := fun _ q =>
    Current q ∧ (∀ line ∈ q.pending, line.page = q.page.number) ∧ q.pending.length ≤ 1
  refine flushRest_ends (J := J) (fun q hq => ⟨hq.1, hq.2.1⟩) (fun _ q hq _ => ⟨hq.1, hq.2.1⟩) ?_
    rounds p ⟨h, hpages, hone⟩
  rintro _ q ⟨hq, hpages, hone⟩ - -
  refine (flushPartial_current hq hpages ?_).mono (fun _ r hr => ⟨fun _ => ?_, fun hne => ?_⟩)
    fun _ _ he => he
  · rw [capacity_eq]
    omega
  · exact ⟨hr.current, by simp [hr.pending], by simp [hr.pending]⟩
  · exact absurd hr.pending hne

theorem writeBody_current (h : Current p) (hpages : ∀ line ∈ p.pending, line.page = p.page.number) :
    Ends (writeBody p.pending) p (fun _ q => Current q) fun _ q => Current q :=
  (writeBody_ends _ _).mono (fun _ _ hq => h.prints hq.1 hpages) fun _ _ he => he.elim

theorem placeRecord_current (form : Form) (h : Current p) :
    Ends (placeRecord form) p (fun _ q => Current q) fun _ q => Current q := by
  refine placeRecord_ends (I := Buffered form) ?_ (fun r hr _ _ => hr.current) fun r hr _ => ?_
  · refine (printTop_current form h).mono ?_ fun _ _ he => he
    rintro _ q ⟨hq, hb⟩
    have hstart : Buffered form (q.holding []) :=
      ⟨hq.congr rfl rfl, by simp, hb.bottomPending, fun _ => hb.topPending, fun _ => .inl (by simp)⟩
    refine (composeAll_ends (fun line _ => printRecord_loop form line) 0 _ hstart).mono ?_ ?_
    · exact fun _ r hr => hr.1
    · rintro fault r ⟨_, -, hr⟩
      exact hr
  · refine (printTop_current form hr.current).mono ?_ fun _ _ he => he
    rintro _ s ⟨hs, hb⟩
    have hpages : ∀ line ∈ s.pending, line.page = s.page.number := by
      rw [hb.pending, hb.number hr.bottomPending]
      exact hr.pages
    refine ⟨fun _ => writeBody_current hs hpages, fun hless hbody => ?_, fun _ _ => ?_⟩
    · -- lines that do not fit on a page without records: a single one
      have hone : s.pending.length ≤ 1 := by
        rw [hb.pending] at hless ⊢
        cases ht : r.page.topPending with
        | false =>
          rw [hb.same ht hr.bottomPending] at hless hbody
          rcases hr.room hbody with h1 | ⟨-, h1⟩
          · exact h1
          · omega
        | true =>
          cases hr0 : r.page.bodyPrinted with
          | true => rw [hr.begun hr0] at ht; cases ht
          | false =>
            rcases hr.room hr0 with h1 | ⟨h1, -⟩
            · exact h1
            · rw [h1] at ht; cases ht
      refine (flushRest_current _ hs hpages hone).mono ?_ fun _ _ he => he
      rintro _ t ⟨ht, hpages⟩
      exact writeBody_current ht hpages
    · refine endPage_current form none ?_
      exact (hs.noted (by simp) rfl (by simp)).congr rfl rfl

theorem printRecord_current (form : Form) (h : Current p) :
    Ends (printRecord form) p (fun _ q => Current q) fun _ q => Current q := by
  refine printRecord_ends (P := Current) ?_ fun q _ hq =>
    (current_steps form).endPageIfFull (hq.congr rfl rfl)
  refine (placeRecord_current form h).mono (fun _ q hq => ?_) fun _ _ he => he
  exact ⟨fun _ => hq, fun _ => placeRecord_current form hq⟩

end Records

/-! ## Tasks and runs -/

section Runs

variable {form : Form} {p q : Press}

theorem operate_current (operation : Operation) (hk : operation.keepsNumber) (h : Current p) :
    Ends (operate operation) p (fun _ q => Current q) fun _ q => Current q := by
  cases operation with
  | task form source task =>
    simp only [operate, ends_bind, ends_modify]
    exact (current_steps form).task (fun _ hp => printRecord_current form hp) task (h.congr rfl rfl)
  | control change =>
    simp only [operate, ends_onPager]
    cases change with
    | resetNumber => cases hk
    | reset => cases hk
    | _ => exact h.congr rfl rfl

theorem current_start (length : Int) (formFeed : Bool) : Current (start (Page.first length) formFeed) :=
  ⟨numbered_nil, rfl⟩

/-- Whatever is printed from the first page on, and whichever operations fail on the way, as long as
the page number is not set back from outside: every line was composed with the number of the page on
which it is printed, this number is one more than the count of complete bottoms before it, and no
flush leaves lines behind for a later page. -/
theorem after_numbered (length : Int) (formFeed : Bool) (operations : List Operation)
    (hkeep : ∀ operation ∈ operations, operation.keepsNumber) :
    (∀ earlier line later,
      (after operations (start (Page.first length) formFeed)).events =
        earlier ++ .printed line :: later →
      line.line.page = line.page ∧ line.page = 1 + (bottoms earlier : Int)) ∧
    (∀ left, .flushed left ∈ (after operations (start (Page.first length) formFeed)).events →
      left = 0) := by
  have hcurrent : Current (after operations (start (Page.first length) formFeed)) :=
    after_induction (fun operation ho _ hp => operate_current operation (hkeep operation ho) hp) _
      (current_start length formFeed)
  exact ⟨hcurrent.numbered.lines, hcurrent.numbered.flushed⟩

/-- A record of three lines on pages that have room for one beside their bottom, and a page that is skipped
after a line of it is given back. -/
def shortPages : List Operation :=
  let line (c : Char) : PictureLine := ⟨[.literal [c]], false, false, [], [c]⟩
  let form : Form := ⟨[line 'a', line 'b', line 'c'], [(.bottom, [line 'z'])]⟩
  [.task form ⟨.mapping, []⟩ .record, .control (.addLines 1), .task form ⟨.mapping, []⟩ .skipPage]

theorem after_numbered_shortPages :
    (∀ operation ∈ shortPages, operation.keepsNumber) ∧
    bottoms (after shortPages (start (Page.first 2) true)).events = 3 ∧
    (∀ earlier line later,
      (after shortPages (start (Page.first 2) true)).events = earlier ++ .printed line :: later →
      line.line.page = line.page ∧ line.page = 1 + (bottoms earlier : Int)) ∧
    ∀ left, .flushed left ∈ (after shortPages (start (Page.first 2) true)).events → left = 0 :=
  ⟨by decide, by decide +kernel, after_numbered 2 true shortPages (by decide)⟩

end Runs

end Press

end PictureReport
