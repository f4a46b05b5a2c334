import PictureReport.Proofs.Press.Cutting
import PictureReport.Proofs.Press.Frame

/-!
# Records stacked on pages

Where no line is repeated or suppressed, all records have the same number of lines, and a page takes as many
records as fit on it (`Form.perPage`).  After each record the page at hand has room for more lines, or it is
full and its bottom is due, or it is full and closed (`Stacked`).  A record that finds too little room is put
off, and the next page takes it first.
-/

namespace PictureReport

namespace Form

/-- Each record takes as many lines as the body has, and a page has room for one.  There is no summary. -/
structure Packs (form : Form) (length : Int) (size : Nat) : Prop extends LeavesRoom form length size where
  bottom : ∀ line ∈ form.lines .bottom, line.IsPlain
  body : ∀ line ∈ form.body, line.IsPlain
  summary : form.band? .summary = none
  nonempty : 0 < form.body.length
  fits : form.body.length ≤ size

/-- Composing some line of `recordLines`, of a record or of the bands around it, fails. -/
def Fails (form : Form) (fault : Fault) : Prop :=
  ∃ line ∈ form.recordLines, ∃ desk after, line.FaultsTo fault desk after

/-- The number of records on a page that has room for `size` lines of them. -/
def perPage (form : Form) (size : Nat) : Nat := size / form.body.length

/-- The number of lines above the first record of a page. -/
def headSize (form : Form) : Nat := form.bandSize .top + form.headerSize

/-- The number of lines down to the end of so many records: `headSize` and their lines. -/
def filled (form : Form) (records : Nat) : Nat := form.headSize + records * form.body.length

/-- The number of lines on a page that takes all the records that it can, with its bottom. -/
def packed (form : Form) (size : Nat) : Nat := form.filled (form.perPage size) + form.bandSize .bottom

/-- The number of pages for `count` records, `perPage` on each: the quotient, rounded up. -/
def pagesFor (form : Form) (size count : Nat) : Nat := (count + form.perPage size - 1) / form.perPage size

/-- The numbers of lines on the pages for `count` records, the latest one first, which is filled up. -/
def pageSizes (form : Form) (length : Int) (size count : Nat) : List Nat :=
  if count = 0 then [] else length.toNat :: List.replicate (form.pagesFor size count - 1) (form.packed size)

section Sizes

variable {form : Form} {length : Int} {size records n k : Nat}

theorem Packs.perPage_pos (h : form.Packs length size) : 0 < form.perPage size :=
  Nat.div_pos h.fits h.nonempty

/-- There is room for one more record, said in records and said in lines. -/
theorem Packs.lt_perPage (h : form.Packs length size) :
    records < form.perPage size ↔ (records + 1) * form.body.length ≤ size :=
  Nat.le_div_iff_mul_le h.nonempty

theorem Packs.mul_le (h : form.Packs length size) (hr : records ≤ form.perPage size) :
    records * form.body.length ≤ size :=
  (Nat.le_div_iff_mul_le h.nonempty).mp hr

/-- The records that a page takes and its bottom fit on the page. -/
theorem Packs.filled_le (h : form.Packs length size) (hr : records ≤ form.perPage size) :
    (form.filled records + form.bandSize .bottom : Int) ≤ length := by
  have hlength := h.length
  have hrecords := h.mul_le hr
  unfold filled headSize
  omega

theorem pagesFor_of_last (hpos : 0 < records) (hr : records ≤ form.perPage size) :
    form.pagesFor size (k * form.perPage size + records) = k + 1 := by
  have hsize : 0 < form.perPage size := by omega
  unfold pagesFor
  rw [← length_chunkSizes hsize, chunkSizes_of_last k hpos hr]
  simp

theorem pageSizes_of_last (hpos : 0 < records) (hr : records ≤ form.perPage size) :
    form.pageSizes length size (k * form.perPage size + records) =
      length.toNat :: List.replicate k (form.packed size) := by
  unfold pageSizes
  rw [if_neg (by omega), pagesFor_of_last hpos hr, Nat.add_sub_cancel]

theorem Packs.length_pageSizes (h : form.Packs length size) (count : Nat) :
    (form.pageSizes length size count).length = form.pagesFor size count := by
  have hsome := h.perPage_pos
  unfold pageSizes pagesFor
  split
  · rw [List.length_nil, Nat.div_eq_of_lt (by omega)]
  · have hpages : 0 < (count + form.perPage size - 1) / form.perPage size := Nat.div_pos (by omega) hsome
    rw [List.length_cons, List.length_replicate]
    omega

theorem BandFaults.fails {band : Band} (hb : band ∈ pageBands) {fault : Fault} {after : Desk}
    (h : form.BandFaults band fault after) : form.Fails fault := by
  obtain ⟨line, hl, desk, hf⟩ := h
  exact ⟨line, List.mem_append_right _ (List.mem_flatMap.mpr ⟨band, hb, hl⟩), desk, after, hf⟩

end Sizes

end Form

namespace Press

/-! ## Pages and what stands on them -/

/-- The numbers of lines on the pages, the latest page first, after one more event.  A line that is printed
before any page is begun counts as a page. -/
def tally : List Nat → Event → List Nat
  | counts, .opened => 0 :: counts
  | [], .printed _ => [1]
  | count :: counts, .printed _ => (count + 1) :: counts
  | counts, _ => counts

/-- The numbers of lines on the pages in order. -/
def linesByPage (events : List Event) : List Nat := (events.foldl tally []).reverse

/-- From `before` to `after` no line of a record is printed. -/
def WithoutRecords (before after : List Event) : Prop := ∃ more, after = before ++ more ∧ bodyTexts more = []

/-- From `before` to `after` a record of so many lines is printed, all of them on the `n`-th page. -/
def OnPage (n lines : Nat) (before after : List Event) : Prop :=
  ∃ (above : List Event) (shown : List Printed) (below : List Event),
    after = before ++ above ++ shown.map .printed ++ below ∧ (linesByPage (before ++ above)).length = n ∧
    shown.length = lines ∧ (∀ line ∈ shown, line.origin = .body) ∧ bodyTexts above = [] ∧ bodyTexts below = []

section Tally

variable {form : Form} {count : Nat} {counts : List Nat} {events more before after later : List Event}

theorem foldl_tally_printed (lines : List Printed) :
    (lines.map Event.printed).foldl tally (count :: counts) = (count + lines.length) :: counts := by
  induction lines generalizing count with
  | nil => rfl
  | cons line lines ih =>
    rw [List.map_cons, List.foldl_cons, tally, ih, List.length_cons, Nat.add_assoc, Nat.add_comm 1]

theorem foldl_tally_marks (form : Form) (band : Band) (made : Nat) :
    (form.marks band made).foldl tally counts = counts := by
  unfold Form.marks
  split
  · cases counts <;> rfl
  · rfl

theorem WithoutRecords.refl (events : List Event) : WithoutRecords events events :=
  ⟨[], (List.append_nil _).symm, rfl⟩

theorem WithoutRecords.trans (h : WithoutRecords before after) (h' : WithoutRecords after later) :
    WithoutRecords before later := by
  obtain ⟨more, rfl, hmore⟩ := h
  obtain ⟨further, rfl, hfurther⟩ := h'
  exact ⟨more ++ further, List.append_assoc .., by rw [bodyTexts_append, hmore, hfurther, List.append_nil]⟩

theorem WithoutRecords.grows (h : WithoutRecords before after) : before <+: after := by
  obtain ⟨more, rfl, -⟩ := h
  exact List.prefix_append _ _

theorem withoutRecords_of_event {event : Event} (h : event.line? = none) :
    WithoutRecords events (events ++ [event]) :=
  ⟨[event], rfl, by simp [bodyTexts, h]⟩

theorem OnPage.grows {n lines : Nat} (h : OnPage n lines before after) : before <+: after := by
  obtain ⟨above, shown, below, rfl, -⟩ := h
  simp only [List.append_assoc]
  exact List.prefix_append _ _

theorem WithoutRecords.onPage {n lines : Nat} (h : WithoutRecords before after)
    (h' : OnPage n lines after later) : OnPage n lines before later := by
  obtain ⟨more, rfl, hmore⟩ := h
  obtain ⟨above, shown, below, rfl, hpage, hlines, horigin, habove, hbelow⟩ := h'
  refine ⟨more ++ above, shown, below, by simp, ?_, hlines, horigin, ?_, hbelow⟩
  · rw [← List.append_assoc]
    exact hpage
  · rw [bodyTexts_append, hmore, habove, List.append_nil]

theorem OnPage.withoutRecords {n lines : Nat} (h : OnPage n lines before after)
    (h' : WithoutRecords after later) : OnPage n lines before later := by
  obtain ⟨above, shown, below, rfl, hpage, hlines, horigin, habove, hbelow⟩ := h
  obtain ⟨more, rfl, hmore⟩ := h'
  refine ⟨above, shown, below ++ more, by simp, hpage, hlines, horigin, habove, ?_⟩
  rw [bodyTexts_append, hbelow, hmore, List.append_nil]

end Tally

section Sheets

variable {form : Form} {length : Int} {size shown : Nat} {earlier : List Nat} {p q : Press}

/-- A page is begun and shows so many lines.  The pages before it have the numbers of lines `earlier`, the
latest one first. -/
structure OnSheet (form : Form) (length : Int) (shown : Nat) (earlier : List Nat) (p : Press) : Prop where
  topPending : p.page.topPending = false
  pageLength : p.page.length = length
  linesLeft : p.page.linesLeft = length - shown
  counts : p.events.foldl tally [] = shown :: earlier
  number : 0 < form.bandSize .bottom → p.page.number = earlier.length + 1

/-- No page is begun.  Those that were have the numbers of lines `earlier`, the latest one first. -/
structure Shut (form : Form) (length : Int) (earlier : List Nat) (p : Press) : Prop where
  topPending : p.page.topPending = true
  bottomPending : p.page.bottomPending = false
  pageLength : p.page.length = length
  linesLeft : p.page.linesLeft = length
  counts : p.events.foldl tally [] = earlier
  number : 0 < form.bandSize .bottom → p.page.number = earlier.length + 1

theorem OnSheet.congr (h : OnSheet form length shown earlier p) (he : q.events = p.events)
    (hbegun : q.page.topPending = p.page.topPending) (hlength : q.page.length = p.page.length)
    (hleft : q.page.linesLeft = p.page.linesLeft) (hnumber : q.page.number = p.page.number) :
    OnSheet form length shown earlier q :=
  ⟨hbegun.trans h.topPending, hlength.trans h.pageLength, hleft.trans h.linesLeft,
    by rw [he]; exact h.counts, fun hb => hnumber.trans (h.number hb)⟩

/-- Lines that are printed on the page at hand are counted in `shown`. -/
theorem OnSheet.taken (h : OnSheet form length shown earlier p) {origin : Origin} {lines : List Composed}
    {more : List Event} (he : q.events = p.events ++ (p.printing origin lines).map .printed ++ more)
    (hmore : ∀ counts, more.foldl tally counts = counts)
    (hpage : q.page = p.page.taking origin lines.length) :
    OnSheet form length (shown + lines.length) earlier q := by
  refine ⟨?_, ?_, ?_, ?_, ?_⟩
  · rw [hpage]
    exact h.topPending
  · rw [hpage]
    exact h.pageLength
  · have hleft := h.linesLeft
    rw [hpage]
    simp only [Page.taking]
    omega
  · rw [he, List.foldl_append, List.foldl_append, h.counts, foldl_tally_printed, hmore, length_printing]
  · rw [hpage]
    exact h.number

theorem OnSheet.prints (h : OnSheet form length shown earlier p) {origin : Origin} {lines : List Composed}
    (hq : Prints origin lines p q) : OnSheet form length (shown + lines.length) earlier q := by
  have hnone : ∀ counts, ([] : List Event).foldl tally counts = counts := fun _ => rfl
  exact h.taken (by rw [hq.events, List.append_nil]) hnone hq.page

theorem OnSheet.whole (h : OnSheet form length shown earlier p) {band : Band} {made : List Composed}
    (hq : Whole form band made p q) : OnSheet form length (shown + made.length) earlier q :=
  h.taken hq.events (fun _ => foldl_tally_marks form band _) hq.page

theorem Whole.withoutRecords {band : Band} {made : List Composed} (h : Whole form band made p q) :
    WithoutRecords p.events q.events := by
  refine ⟨_, by rw [h.events, List.append_assoc], ?_⟩
  rw [bodyTexts_append, bodyTexts_printing, if_neg (by simp), bodyTexts_marks]
  rfl

theorem Partly.fails {band : Band} (hb : band ∈ Form.pageBands) {fault : Fault} {made : List Composed}
    (h : Partly form band fault made p q) : form.Fails fault := h.fault.fails hb

/-- The page is closed with its bottom, and what it shows goes to the pages before: `OnSheet` becomes `Shut`.
-/
theorem OnSheet.endPage (hform : form.Packs length size) (h : OnSheet form length shown earlier p)
    (feed : Option Bool) : Ends (endPage form feed) p
      (fun _ q => Shut form length ((shown + form.bandSize .bottom) :: earlier) q ∧
        WithoutRecords p.events q.events)
      fun fault _ => form.Fails fault := by
  refine endPage_ends (fun made q hq => ?_) fun fault made q hq => hq.fails (by decide)
  have hdue : OnSheet form length shown earlier p.due := h.congr rfl rfl rfl rfl rfl
  have hsheet := hdue.whole hq
  have hmade := hq.size hform.bottom
  refine ⟨⟨rfl, rfl, hsheet.pageLength, hsheet.pageLength, ?_, fun hb => ?_⟩, ?_⟩
  · rw [events_closed, List.foldl_append, hsheet.counts, hmade]
    rfl
  · have hprinted : 0 < made.length := by omega
    rw [page_closed]
    simp only [hprinted, decide_true, if_true, List.length_cons, hsheet.number hb]
    omega
  · rw [events_closed]
    exact hq.withoutRecords.trans (withoutRecords_of_event rfl)

/-- A page is begun on which `records` records stand and nothing is due. -/
structure Seated (form : Form) (length : Int) (records : Nat) (earlier : List Nat) (p : Press) : Prop
    extends OnSheet form length (form.filled records) earlier p where
  bottomPending : p.page.bottomPending = false
  bodyPrinted : p.page.bodyPrinted = decide (0 < records)

/-- The next page is begun with its top and its header: `Shut` becomes `Seated` with no record. -/
theorem Shut.openPage (hform : form.Packs length size) (h : Shut form length earlier p) :
    Ends (openPage form) p
      (fun _ q => Seated form length 0 earlier q ∧ WithoutRecords p.events q.events)
      fun fault _ => form.Fails fault := by
  have hpage := page_opened h.topPending
  have hopened : OnSheet form length 0 earlier p.opened := by
    refine ⟨by rw [hpage], ?_, ?_, ?_, ?_⟩
    · rw [hpage]
      exact h.pageLength
    · have hleft := h.linesLeft
      rw [hpage]
      simp only
      omega
    · rw [events_opened, List.foldl_append, h.counts]
      rfl
    · rw [hpage]
      exact h.number
  have hevents : WithoutRecords p.events p.opened.events := by
    rw [events_opened]
    exact withoutRecords_of_event rfl
  have hroom : form.LeavesRoom p.page.length size := by
    rw [h.pageLength]
    exact hform.toLeavesRoom
  refine (openPage_front
    (I := fun q => (∃ shown, OnSheet form length shown earlier q) ∧ WithoutRecords p.events q.events) hroom
    h.topPending (h.linesLeft.trans h.pageLength.symm) ⟨⟨0, hopened⟩, hevents⟩ ?_
    fun band hb fault made q r hr => hr.fails hb).mono ?_ fun _ _ he => he
  · rintro band made q r hr ⟨⟨shown, hq⟩, hwithout⟩
    exact ⟨⟨_, hq.whole hr⟩, hwithout.trans hr.withoutRecords⟩
  · rintro _ q ⟨⟨⟨shown, hq⟩, hwithout⟩, -, htaken⟩
    rw [hpage] at htaken
    -- the lines that the page shows are those that are gone from it
    have hshown : shown = form.filled 0 := by
      have hleft := hq.linesLeft
      have hstart := h.linesLeft
      rw [htaken] at hleft
      simp only [Page.taking] at hleft
      unfold Form.filled Form.headSize
      omega
    rw [hshown] at hq
    refine ⟨⟨hq, ?_, ?_⟩, hwithout⟩ <;> rw [htaken]
    · exact h.bottomPending
    · simp [Page.taking]

end Sheets

/-! ## Composing a record -/

section Composing

/-- The press `s` but for its desk, with `count` lines pending. -/
structure Held (s : Press) (count : Nat) (p : Press) : Prop where
  pager : p.pager = s.pager
  log : p.log = s.log
  count : p.pending.length = count

variable {form : Form} {length : Int} {size records count : Nat} {earlier : List Nat} {p s : Press}

theorem Held.page (h : Held s count p) : p.page = s.page := congrArg Pager.page h.pager

theorem Held.events (h : Held s count p) : p.events = s.events := congrArg Array.toList h.log

theorem Held.onSheet (h : Held s count p) {shown : Nat} (hs : OnSheet form length shown earlier s) :
    OnSheet form length shown earlier p := by
  refine hs.congr h.events ?_ ?_ ?_ ?_ <;> rw [h.page]

/-- As long as the record is not complete, `splitFullPage` leaves a page alone that has room for it or shows
another one. -/
theorem Held.splitFullPage (ht : s.page.topPending = false) (hb : s.page.bottomPending = false)
    (hroom : s.page.bodyPrinted = false → (count + form.bandSize .bottom : Int) < s.page.linesLeft)
    (h : Held s count p) :
    Ends (splitFullPage form) p (fun _ q => Held s count q) fun fault _ => form.Fails fault := by
  have hpage := h.page
  refine splitFullPage_ends (fun _ => h) fun _ => ?_
  refine (printTop_idle (hpage ▸ ht) (hpage ▸ hb)).mono ?_ fun _ _ he => he.elim
  rintro _ q rfl
  refine ⟨fun _ => h, fun hfull => ?_⟩
  obtain ⟨-, hbody, hleft⟩ := fillsFreshPage_iff.mp hfull
  have hless := hroom (hpage ▸ hbody)
  rw [h.count, hpage] at hleft
  omega

/-- The lines of a record are composed and `Held`, and none of them is printed. -/
theorem Seated.composeAll (hform : form.Packs length size) (h : Seated form length records earlier s) :
    Ends (composeAll (splitFullPage form) hold form.body) (s.holding [])
      (fun _ q => Held s form.body.length q) fun fault _ => form.Fails fault := by
  refine composeAll_plain (I := Held s) (fun n p hn hp => ?_) ?_ ?_ form.body hform.body ?_ 0 _
    (Nat.zero_add form.body.length) ⟨rfl, rfl, rfl⟩
  · refine hp.splitFullPage h.topPending h.bottomPending fun hbody => ?_
    have hnone : records = 0 := by
      rw [h.bodyPrinted, decide_eq_false_iff_not] at hbody
      omega
    have hleft := h.linesLeft
    have hlength := hform.length
    have hfits := hform.fits
    simp only [hnone, Form.filled, Form.headSize] at hleft
    omega
  · exact fun n q desk hq => ⟨hq.pager, hq.log, hq.count⟩
  · intro n q text hq
    refine ⟨hq.pager, hq.log, ?_⟩
    rw [List.length_append, hq.count]
    rfl
  · exact fun line hl fault desk after q hf => ⟨line, List.mem_append_left _ hl, desk, after, hf⟩

end Composing

/-! ## Records on pages -/

section Records

variable {form : Form} {length : Int} {size records n k : Nat} {earlier : List Nat} {p q s : Press}

/-- The record that is `Held` is printed below the others. -/
theorem Seated.writeBody (h : Seated form length records earlier s) (hq : Held s form.body.length q)
    (hsome : 0 < form.body.length) {E : Fault → Press → Prop} :
    Ends (writeBody q.pending) q
      (fun _ t => Seated form length (records + 1) earlier t ∧
        OnPage (earlier.length + 1) form.body.length s.events t.events) E := by
  refine (writeBody_ends q.pending q).mono ?_ fun _ _ he => he.elim
  rintro _ t ⟨ht, -⟩
  have hfilled := (hq.onSheet h.toOnSheet).prints ht
  have hlines : form.filled records + q.pending.length = form.filled (records + 1) := by
    rw [hq.count, Form.filled, Form.filled, Nat.succ_mul, Nat.add_assoc]
  rw [hlines] at hfilled
  refine ⟨⟨hfilled, ?_, ?_⟩, [], q.printing .body q.pending, [], ?_, ?_, ?_, ?_, rfl, rfl⟩
  · rw [ht.page, hq.page]
    exact h.bottomPending
  · rw [ht.page]
    simp [Page.taking, hq.count, Nat.ne_of_gt hsome]
  · rw [ht.events, hq.events, List.append_nil, List.append_nil]
  · rw [List.append_nil, linesByPage, h.counts, List.length_reverse, List.length_cons]
  · rw [length_printing, hq.count]
  · exact fun line hl => (mem_printing hl).2.1

/-- There is room for the next record beside the bottom as long as the page shows fewer than `perPage`. -/
theorem Seated.fits_iff (hform : form.Packs length size) (h : Seated form length records earlier s) :
    (form.body.length + form.bandSize .bottom : Int) ≤ s.page.linesLeft ↔ records < form.perPage size := by
  have hleft := h.linesLeft
  have hlength := hform.length
  rw [hform.lt_perPage, Nat.succ_mul]
  unfold Form.filled Form.headSize at hleft
  omega

/-- The record is put off, and the page is closed with what it shows. -/
theorem OnSheet.defer (hform : form.Packs length size) {shown : Nat}
    (h : OnSheet form length shown earlier p) (count : Nat) :
    Ends (Press.endPage form none) (p.noted (.deferred count)).rolledBack
      (fun _ q => Shut form length ((shown + form.bandSize .bottom) :: earlier) q ∧
        WithoutRecords p.events q.events)
      fun fault _ => form.Fails fault := by
  have hsheet : OnSheet form length shown earlier (p.noted (.deferred count)).rolledBack := by
    refine ⟨h.topPending, h.pageLength, h.linesLeft, ?_, h.number⟩
    rw [events_rolledBack, events_noted, List.foldl_append, h.counts]
    rfl
  refine (hsheet.endPage hform none).mono ?_ fun _ _ he => he
  rintro _ q ⟨hq, hwithout⟩
  rw [events_rolledBack, events_noted] at hwithout
  exact ⟨hq, (withoutRecords_of_event rfl).trans hwithout⟩

/-- On a page that shows `records` others a record is placed if there are fewer than `perPage`; else it is put
off. -/
theorem placeRecord_seated (hform : form.Packs length size) {before : List Event}
    (htop : Ends (printTop form) p
      (fun _ s => Seated form length records earlier s ∧ WithoutRecords before s.events)
      fun fault _ => form.Fails fault) :
    Ends (placeRecord form) p
      (fun placed q =>
        (records < form.perPage size → placed = true ∧ Seated form length (records + 1) earlier q ∧
          OnPage (earlier.length + 1) form.body.length before q.events) ∧
        (form.perPage size ≤ records → placed = false ∧
          Shut form length ((form.filled records + form.bandSize .bottom) :: earlier) q ∧
          WithoutRecords before q.events))
      fun fault _ => form.Fails fault := by
  refine placeRecord_ends (I := fun r => ∃ s, Seated form length records earlier s ∧
    WithoutRecords before s.events ∧ Held s form.body.length r) ?_ ?_ ?_
  · refine htop.mono ?_ fun _ _ he => he
    rintro _ s ⟨hs, hwithout⟩
    exact (hs.composeAll hform).mono (fun _ r hr => ⟨s, hs, hwithout, hr⟩) fun _ _ he => he
  · rintro r ⟨s, hs, -, hr⟩ - htop
    rw [hr.page, hs.topPending] at htop
    cases htop
  · rintro r ⟨s, hs, hwithout, hr⟩ -
    have hroom := hs.fits_iff hform
    refine (printTop_idle (hr.page ▸ hs.topPending) (hr.page ▸ hs.bottomPending)).mono ?_
      fun _ _ he => he.elim
    rintro _ _ rfl
    rw [hr.count, hr.page]
    refine ⟨fun hfits => ?_, fun hless hbody => ?_, fun hless _ => ?_⟩
    · have hplaced := hroom.mp hfits
      refine (hs.writeBody hr hform.nonempty).mono ?_ fun _ _ he => he
      rintro _ t ⟨ht, hrecord⟩
      exact ⟨fun _ => ⟨rfl, ht, hwithout.onPage hrecord⟩, fun h => absurd hplaced (by omega)⟩
    · -- a page without records takes at least one
      have hnone : records = 0 := by
        rw [hs.bodyPrinted, decide_eq_false_iff_not] at hbody
        omega
      have hplaced := hroom.mpr (hnone ▸ hform.perPage_pos)
      omega
    · have hfull : ¬ records < form.perPage size := fun h => by
        have hfits := hroom.mpr h
        omega
      refine ((hr.onSheet hs.toOnSheet).defer hform form.body.length).mono ?_ fun _ _ he => he
      rintro _ t ⟨ht, hclosed⟩
      rw [hr.events] at hclosed
      exact ⟨fun h => absurd h hfull, fun _ => ⟨rfl, ht, hwithout.trans hclosed⟩⟩

/-- After `n` records.  All pages before the one at hand are `packed`; the page at hand has room for more
lines, or it is full and its bottom is due, or it is closed. -/
inductive Stacked (form : Form) (length : Int) (size n : Nat) (p : Press) : Prop
  | seated {k r : Nat} : n = k * form.perPage size + r → 0 < r → r ≤ form.perPage size →
    Seated form length r (List.replicate k (form.packed size)) p → Stacked form length size n p
  | due {k : Nat} : n = (k + 1) * form.perPage size → form.perPage size * form.body.length = size →
    OnSheet form length (form.filled (form.perPage size)) (List.replicate k (form.packed size)) p →
    p.page.bottomPending = true → Stacked form length size n p
  | shut {k : Nat} : n = k * form.perPage size → (0 < k → form.perPage size * form.body.length = size) →
    Shut form length (List.replicate k (form.packed size)) p → Stacked form length size n p

theorem Stacked.desk (h : Stacked form length size n p) (desk : Desk) :
    Stacked form length size n { p with desk } := by
  cases h with
  | seated hn hpos hr h => exact .seated hn hpos hr { h with }
  | due hn hfull h hb => exact .due hn hfull { h with } hb
  | shut hn hfull h => exact .shut hn hfull { h with }

theorem stacked_start (length : Int) (formFeed : Bool) :
    Stacked form length size 0 (start (Page.first length) formFeed) :=
  .shut (k := 0) (Nat.zero_mul _).symm (fun h => absurd h (Nat.lt_irrefl 0))
    ⟨rfl, rfl, rfl, rfl, rfl, fun _ => rfl⟩

theorem Shut.printTop (hform : form.Packs length size) (h : Shut form length earlier p) :
    Ends (printTop form) p (fun _ q => Seated form length 0 earlier q ∧ WithoutRecords p.events q.events)
      fun fault _ => form.Fails fault := by
  refine printTop_ends (fun hb => ?_) fun _ => h.openPage hform
  rw [h.bottomPending] at hb
  cases hb

/-- `printTop` leaves the page for the next record, with `r` others on it and `k` pages before. -/
theorem Stacked.printTop (hform : form.Packs length size) (h : Stacked form length size n p) :
    ∃ k r, n = k * form.perPage size + r ∧ r ≤ form.perPage size ∧
      Ends (printTop form) p
        (fun _ q => Seated form length r (List.replicate k (form.packed size)) q ∧
          WithoutRecords p.events q.events)
        fun fault _ => form.Fails fault := by
  cases h with
  | @seated k r hn _ hr h =>
    refine ⟨k, r, hn, hr, (printTop_idle h.topPending h.bottomPending).mono ?_ fun _ _ he => he.elim⟩
    rintro _ _ rfl
    exact ⟨h, .refl _⟩
  | @due k hn _ h hb =>
    refine ⟨k + 1, 0, hn, Nat.zero_le _, printTop_ends (fun _ => ?_) fun hb' => ?_⟩
    · refine (h.endPage hform none).mono ?_ fun _ _ he => he
      rintro _ q ⟨hq, hclosed⟩
      refine (hq.openPage hform).mono ?_ fun _ _ he => he
      rintro _ r ⟨hr, hopened⟩
      exact ⟨hr, hclosed.trans hopened⟩
    · rw [hb] at hb'
      cases hb'
  | @shut k hn _ h => exact ⟨k, 0, hn, Nat.zero_le _, h.printTop hform⟩

/-- After a record the page stays open for more lines, or its bottom is due, or it is closed: it is `Stacked`
again. -/
theorem Seated.endPageIfFull (hform : form.Packs length size) (hpos : 0 < records)
    (hr : records ≤ form.perPage size)
    (h : Seated form length records (List.replicate k (form.packed size)) p) :
    Ends (endPageIfFull form) p
      (fun _ q => Stacked form length size (k * form.perPage size + records) q ∧
        WithoutRecords p.events q.events)
      fun fault _ => form.Fails fault := by
  have hfull : p.page.linesLeft ≤ form.bandSize .bottom →
      records = form.perPage size ∧ form.perPage size * form.body.length = size := by
    intro hle
    have hleft := h.linesLeft
    have hlength := hform.length
    have hmost := hform.mul_le (Nat.le_refl _)
    have hless := Nat.mul_le_mul_right form.body.length hr
    unfold Form.filled Form.headSize at hleft
    have hsize : records * form.body.length = form.perPage size * form.body.length := by omega
    exact ⟨Nat.eq_of_mul_eq_mul_right hform.nonempty hsize, by omega⟩
  have hcount : k * form.perPage size + form.perPage size = (k + 1) * form.perPage size :=
    (Nat.succ_mul _ _).symm
  refine endPageIfFull_ends (fun _ => ⟨.seated rfl hpos hr h, .refl _⟩) (fun _ hle _ => ?_) fun _ hle => ?_
  · obtain ⟨rfl, hsize⟩ := hfull hle
    refine (h.toOnSheet.endPage hform none).mono ?_ fun _ _ he => he
    rintro _ q ⟨hq, hclosed⟩
    exact ⟨.shut hcount (fun _ => hsize) hq, hclosed⟩
  · obtain ⟨rfl, hsize⟩ := hfull hle
    exact ⟨.due hcount hsize (h.congr rfl rfl rfl rfl rfl) rfl, .refl _⟩

/-- One more record is printed, whole on the page that is its turn: one step of the induction over the
records. -/
theorem Stacked.printRecord (hform : form.Packs length size) (h : Stacked form length size n p) :
    Ends (printRecord form) p
      (fun _ q => Stacked form length size (n + 1) q ∧
        OnPage (n / form.perPage size + 1) form.body.length p.events q.events)
      fun fault _ => form.Fails fault := by
  obtain ⟨k, r, hn, hr, htop⟩ := h.printTop hform
  have hsome := hform.perPage_pos
  refine printRecord_ends (P := fun q => ∃ k r, n = k * form.perPage size + r ∧ r < form.perPage size ∧
    Seated form length (r + 1) (List.replicate k (form.packed size)) q ∧
    OnPage (k + 1) form.body.length p.events q.events) ?_ ?_
  · refine (placeRecord_seated hform htop).mono ?_ fun _ _ he => he
    rintro placed q ⟨hplaced, hdeferred⟩
    rw [List.length_replicate] at hplaced
    by_cases hless : r < form.perPage size
    · obtain ⟨rfl, hq, hrecord⟩ := hplaced hless
      exact ⟨fun _ => ⟨k, r, hn, hless, hq, hrecord⟩, fun h => by cases h⟩
    · obtain rfl : r = form.perPage size := by omega
      obtain ⟨rfl, hq, hwithout⟩ := hdeferred (Nat.le_refl _)
      refine ⟨fun h => (by cases h), fun _ => ?_⟩
      -- the next page is begun with the record
      have hnext : Ends (Press.printTop form) q
          (fun _ s => Seated form length 0 (List.replicate (k + 1) (form.packed size)) s ∧
            WithoutRecords p.events s.events)
          fun fault _ => form.Fails fault :=
        (hq.printTop hform).mono (fun _ s hs => ⟨hs.1, hwithout.trans hs.2⟩) fun _ _ he => he
      refine (placeRecord_seated hform hnext).mono ?_ fun _ _ he => he
      rintro placed t ⟨hplaced', -⟩
      rw [List.length_replicate] at hplaced'
      obtain ⟨-, ht, hrecord⟩ := hplaced' hsome
      exact ⟨k + 1, 0, hn.trans (Nat.succ_mul _ _).symm, hsome, ht, hrecord⟩
  · rintro q state ⟨k, r, rfl, hless, hq, hrecord⟩
    have hquotient : (k * form.perPage size + r) / form.perPage size = k := by
      rw [Nat.add_comm, Nat.add_mul_div_right _ _ hsome, Nat.div_eq_of_lt hless, Nat.zero_add]
    have hseated : Seated form length (r + 1) (List.replicate k (form.packed size))
        (q.committed.paged (·.transition state)) := { hq with }
    refine (hseated.endPageIfFull hform (Nat.succ_pos r) hless).mono ?_ fun _ _ he => he
    rintro _ t ⟨ht, hwithout⟩
    rw [hquotient]
    exact ⟨ht, hrecord.withoutRecords hwithout⟩

/-- The page is filled up with padding and closed. -/
theorem OnSheet.finishPage (hform : form.Packs length size) (hpos : 0 < records)
    (hr : records ≤ form.perPage size)
    (h : OnSheet form length (form.filled records) (List.replicate k (form.packed size)) p) (feed : Bool) :
    Ends (finishPage form feed) p
      (fun _ q => Shut form length (form.pageSizes length size (k * form.perPage size + records)) q ∧
        WithoutRecords p.events q.events)
      fun fault _ => form.Fails fault := by
  refine finishPage_ends (fun ht => ?_) fun _ q hq _ => ?_
  · rw [h.topPending] at ht
    cases ht
  · have hpadded := h.prints hq
    rw [List.length_replicate] at hpadded
    refine (hpadded.endPage hform (some feed)).mono ?_ fun _ _ he => he
    rintro _ r ⟨hr', hclosed⟩
    have hlines : form.filled records + (p.page.linesLeft - form.bandSize .bottom).toNat +
        form.bandSize .bottom = length.toNat := by
      have hleft := h.linesLeft
      have hroom := hform.filled_le hr
      omega
    have hpadding : WithoutRecords p.events q.events :=
      ⟨_, hq.events, by rw [bodyTexts_printing, if_neg (by simp)]⟩
    rw [hlines] at hr'
    rw [Form.pageSizes_of_last hpos hr]
    exact ⟨hr', hpadding.trans hclosed⟩

/-- The last page is filled up and closed, unless it is closed already. -/
theorem Stacked.finishPage (hform : form.Packs length size) (h : Stacked form length size n p) (feed : Bool) :
    Ends (finishPage form feed) p
      (fun _ q => Shut form length (form.pageSizes length size n) q ∧ (n = 0 → q.events = p.events) ∧
        WithoutRecords p.events q.events)
      fun fault _ => form.Fails fault := by
  have hsome := hform.perPage_pos
  cases h with
  | seated hn hpos hr h =>
    subst hn
    refine (h.toOnSheet.finishPage hform hpos hr feed).mono ?_ fun _ _ he => he
    exact fun _ q hq => ⟨hq.1, fun hzero => by omega, hq.2⟩
  | due hn _ h _ =>
    rw [Nat.succ_mul] at hn
    subst hn
    refine (h.finishPage hform hsome (Nat.le_refl _) feed).mono ?_ fun _ _ he => he
    exact fun _ q hq => ⟨hq.1, fun hzero => by omega, hq.2⟩
  -- nothing is done here, so the last packed page has to be as long as one that is filled
  | @shut k hn hfull h =>
    refine finishPage_ends (fun _ => ⟨?_, fun _ => rfl, .refl _⟩) fun ht => ?_
    · cases k with
      | zero =>
        obtain rfl : n = 0 := hn.trans (Nat.zero_mul _)
        exact h
      | succ k =>
        have hpacked : form.packed size = length.toNat := by
          have hsize := hfull (Nat.succ_pos k)
          have hlength := hform.length
          unfold Form.packed Form.filled Form.headSize
          omega
        rw [hn, Nat.succ_mul, Form.pageSizes_of_last hsome (Nat.le_refl _), ← hpacked]
        exact h
    · rw [h.topPending] at ht
      cases ht

end Records

end Press

end PictureReport
