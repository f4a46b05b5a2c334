import PictureReport.Proofs.Press.Capacity

/-!
# Room for bands on demand

A record is printed where its lines fit beside the bottom, a band on demand wherever its lines alone fit.
So it may take lines that the bottom needs (`Crowds`), and the page gets more lines than it may.  That is
the only way to lose them: as long as no band does, page capacity holds with bands as it does with records.
-/

namespace PictureReport

namespace Task

/-- The band that the task prints on demand, if it prints one. -/
def onDemand? : Task → Option Band
  | groupHeader => some .groupHeader
  | groupDetail => some .groupDetail
  | groupFooter => some .groupFooter
  | summary => some .summary
  | record | group | finishPage _ | skipPage => none

end Task

namespace Form

/-- The band prints each of its lines once, and a page has room for it beside top, group header and bottom. -/
structure FitsBand (form : Form) (length : Int) (band : Band) : Prop where
  plain : ∀ line ∈ form.lines band, line.IsPlain
  room : (form.bandSize .top + form.bandSize .groupHeader + form.bandSize .bottom +
    form.bandSize band : Int) ≤ length

theorem headerSize_le (form : Form) : form.headerSize ≤ form.bandSize .groupHeader := by
  unfold headerSize
  split
  · exact Nat.le_refl _
  · exact Nat.zero_le _

end Form

namespace Press

/-- The lines of the band fit on the page at hand, but not beside its bottom. -/
structure Crowds (form : Form) (band : Band) (p : Press) : Prop where
  topPending : p.page.topPending = false
  bottomPending : p.page.bottomPending = false
  fits : form.bandSize band ≤ p.page.linesLeft
  crowded : p.page.linesLeft < form.bandSize band + form.bandSize .bottom

/-- The operation prints a band on demand that `Crowds` the bottom. -/
def Crowding (form : Form) : Operation → Press → Prop
  | .task _ _ task, p => ∃ band, task.onDemand? = some band ∧
      (band = .summary → p.page.summaryPending = true) ∧ Crowds form band p
  | .control _, _ => False

section Bands

variable {form : Form} {length : Int} {band : Band} {p q : Press}

theorem Crowds.congr (h : Crowds form band p) (ht : q.page.topPending = p.page.topPending)
    (hb : q.page.bottomPending = p.page.bottomPending) (hl : q.page.linesLeft = p.page.linesLeft) :
    Crowds form band q := by
  refine ⟨ht.trans h.topPending, hb.trans h.bottomPending, ?_, ?_⟩ <;> rw [hl]
  · exact h.fits
  · exact h.crowded

/-! ## Bands that leave room -/

theorem finishPage_closes (form : Form) (feed : Bool) (p : Press) :
    Ends (finishPage form feed) p (fun _ q => q.page.topPending = true) fun _ _ => True := by
  refine finishPage_ends (fun ht => ht) fun _ q _ _ => ?_
  exact (endPage_between form (some feed) q).mono (fun _ _ hr => hr.topPending) fun _ _ he => he

/-- Where the band does not crowd the bottom, `makeRoom` leaves a page that is `Open` for both. -/
theorem makeRoom_open (hform : form.FitsPage length) (hband : form.FitsBand length band)
    (hcrowds : ¬ Crowds form band p) (h : Settled form length p) :
    Ends (makeRoom form (form.bandSize band)) p
      (fun _ q => Open form length q ∧
        (form.bandSize band + form.bandSize .bottom : Int) ≤ q.page.linesLeft)
      fun _ q => Settled form length q := by
  have hroom := hband.room
  have hheader := form.headerSize_le
  simp only [makeRoom, ends_bind, ends_get]
  refine ((printTop_roomy hform h).and_ok (printTop_begun form p)).mono ?_ fun _ _ he => he
  rintro _ q ⟨⟨hq, hfresh⟩, hbegun⟩
  -- on a page that was begun before, only a band that crowds finds too little room
  have hleft : (form.bandSize band : Int) ≤ q.page.linesLeft →
      (form.bandSize band + form.bandSize .bottom : Int) ≤ q.page.linesLeft := by
    intro hfits
    by_cases hp : p.page.topPending = false ∧ p.page.bottomPending = false
    · obtain rfl := hbegun.same hp.1 hp.2
      by_contra hless
      exact hcrowds ⟨hp.1, hp.2, hfits, by omega⟩
    · have hleft := hfresh (by simpa [or_iff_not_imp_left] using hp)
      omega
  rw [ends_ite]
  split
  · simp only [skipPage, ends_bind, ends_get]
    refine ((finishPage_settled hform _ hq.settled).and_ok (finishPage_closes form _ q)).mono ?_
      fun _ _ he => he
    rintro _ r ⟨⟨hr, -⟩, hclosed⟩
    refine (printTop_roomy hform hr).mono (fun _ s hs => ⟨hs.1, ?_⟩) fun _ _ he => he
    have hleft := hs.2 (.inl hclosed)
    omega
  · rename_i hfits
    exact ⟨hq, hleft (by omega)⟩

/-- A band that is cut leaves more room than one that is not. -/
theorem emitBand_placed {lines : List PictureLine} (hl : form.band? band = some lines)
    (hbottom : band ≠ .bottom) (hplain : ∀ line ∈ form.lines band, line.IsPlain)
    (h : Open form length p)
    (hleft : (form.bandSize band + form.bandSize .bottom : Int) ≤ p.page.linesLeft) :
    Ends (emitBand band lines) p (fun _ q => Placed form length q) fun _ q => Settled form length q := by
  have hleaves : Leaves form length p.page.linesLeft p := ⟨h.account, h.topPending, h.bottomPending, rfl⟩
  refine emitBand_whole hl (fun made q hq => ?_) fun fault made q hq => ?_
  · have hsize := hq.size hplain
    have htaken := hleaves.taken (h.account.whole hq) hq.page
    have hroom := htaken.linesLeft
    refine ⟨htaken.account, htaken.bottomPending, fun ht => ?_, fun _ => by omega⟩
    rw [htaken.topPending] at ht
    cases ht
  · have hsize := hq.size hplain
    have hprints := hq.emits.prints
    have htaken := hleaves.taken (h.account.prints hprints (by simpa using hbottom)) hprints.page
    exact (htaken.open (by omega)).settled

theorem printBand_settled (hform : form.FitsPage length) (hband : form.FitsBand length band)
    (hbottom : band ≠ .bottom) (hcrowds : ¬ Crowds form band p) (h : Settled form length p) :
    Ends (printBand form band) p (fun _ q => Settled form length q) fun _ q => Settled form length q := by
  simp only [printBand]
  cases hl : form.band? band with
  | none => exact h
  | some lines =>
    have hsize : lines.length = form.bandSize band := by simp [Form.bandSize, hl]
    simp only [ends_bind, hsize]
    refine (makeRoom_open hform hband hcrowds h).mono (fun _ q hq => ?_) fun _ _ he => he
    refine (emitBand_placed hl hbottom hband.plain hq.1 hq.2).mono (fun _ r hr => ?_) fun _ _ he => he
    exact (endPageIfFull_settled hform hr).mono (fun _ _ hs => hs.1) fun _ _ he => he

theorem printGroupHeader_settled (hform : form.FitsPage length)
    (hband : form.FitsBand length .groupHeader) (hcrowds : ¬ Crowds form .groupHeader p)
    (h : Settled form length p) :
    Ends (printGroupHeader form) p (fun _ q => Settled form length q)
      fun _ q => Settled form length q := by
  have hfull : ∀ {q}, Placed form length q → Ends (endPageIfFull form) q
      (fun _ r => Settled form length r) fun _ r => Settled form length r :=
    fun hq => (endPageIfFull_settled hform hq).mono (fun _ _ hs => hs.1) fun _ _ he => he
  simp only [printGroupHeader]
  cases hl : form.band? .groupHeader with
  | none => exact h
  | some header =>
    have hsize : header.length = form.bandSize .groupHeader := by simp [Form.bandSize, hl]
    simp only [ends_bind, ends_get, hsize]
    refine (makeRoom_open hform hband hcrowds h).mono (fun _ q hq => ?_) fun _ _ he => he
    rw [ends_ite]
    split
    · simp only [ends_bind]
      exact (emitBand_placed hl (by simp) hband.plain hq.1 hq.2).mono (fun _ r hr => hfull hr)
        fun _ _ he => he
    · exact hfull (hq.1.settled.placed hq.1.bottomPending)

theorem printSummary_settled (hform : form.FitsPage length) (hband : form.FitsBand length .summary)
    (hcrowds : p.page.summaryPending = true → ¬ Crowds form .summary p) (h : Settled form length p) :
    Ends (printSummary form) p (fun _ q => Settled form length q) fun _ q => Settled form length q := by
  simp only [printSummary, ends_bind, ends_get]
  rw [ends_ite]
  split
  · rename_i hprints
    rw [Bool.and_eq_true] at hprints
    have hcrowds := hcrowds hprints.2
    simp only [ends_bind, ends_onPager]
    refine printBand_settled hform hband (by simp) (fun hc => hcrowds (hc.congr rfl rfl rfl)) ?_
    exact ⟨h.account.congr rfl rfl rfl id, h.fresh, h.room, h.due⟩
  · exact h

/-! ## Bands that crowd the bottom -/

/-- The page is begun and has less room than its bottom needs. -/
structure Short (form : Form) (p : Press) : Prop where
  topPending : p.page.topPending = false
  notNegative : 0 ≤ p.page.linesLeft
  short : p.page.linesLeft < form.bandSize .bottom

/-- A band that `Crowds` the bottom goes on the page at hand: `makeRoom` does nothing. -/
theorem makeRoom_crowded (h : Crowds form band p) :
    Ends (makeRoom form (form.bandSize band)) p (fun _ q => q = p) fun _ _ => True := by
  have hfits := h.fits
  simp only [makeRoom, ends_bind, ends_get]
  refine (printTop_begun form p).mono (fun _ q hbegun => ?_) fun _ _ _ => trivial
  obtain rfl := hbegun.same h.topPending h.bottomPending
  rw [ends_ite, if_neg (by omega)]
  rfl

theorem emitBand_short {lines : List PictureLine} (hl : form.band? band = some lines)
    (hplain : ∀ line ∈ form.lines band, line.IsPlain) (h : Crowds form band p) :
    Ends (emitBand band lines) p (fun _ q => Short form q) fun _ _ => True := by
  refine emitBand_whole hl (fun made q hq => ?_) fun _ _ _ _ => trivial
  have hsize := hq.size hplain
  have hfits := h.fits
  have hcrowded := h.crowded
  have hleft : q.page.linesLeft = p.page.linesLeft - (made.length : Int) := by
    rw [hq.page]
    rfl
  refine ⟨?_, by omega, by omega⟩
  rw [hq.page]
  exact h.topPending

theorem endPageIfFull_short (h : Short form p) :
    Ends (endPageIfFull form) p (fun _ q => Short form q) fun _ _ => True := by
  refine endPageIfFull_ends (fun _ => h) (fun _ _ hnone => ?_) fun _ _ => ?_
  · have hsize : form.bandSize .bottom = 0 := by simp [Form.bandSize, hnone]
    have hleft := h.notNegative
    have hshort := h.short
    omega
  · exact ⟨h.topPending, h.notNegative, h.short⟩

theorem printBand_short (hplain : ∀ line ∈ form.lines band, line.IsPlain) (h : Crowds form band p)
    {lines : List PictureLine} (hl : form.band? band = some lines) :
    Ends (printBand form band) p (fun _ q => Short form q) fun _ _ => True := by
  have hsize : lines.length = form.bandSize band := by simp [Form.bandSize, hl]
  simp only [printBand, hl, ends_bind, hsize]
  refine (makeRoom_crowded h).mono (fun _ q hq => ?_) fun _ _ he => he
  rw [hq]
  exact (emitBand_short hl hplain h).mono (fun _ r hr => endPageIfFull_short hr) fun _ _ he => he

theorem printGroupHeader_short (hband : form.FitsBand length .groupHeader)
    (h : Crowds form .groupHeader p) (hlength : p.page.length = length)
    {header : List PictureLine} (hl : form.band? .groupHeader = some header) :
    Ends (printGroupHeader form) p (fun _ q => Short form q) fun _ _ => True := by
  have hsize : header.length = form.bandSize .groupHeader := by simp [Form.bandSize, hl]
  have hroom := hband.room
  have hcrowded := h.crowded
  simp only [printGroupHeader, hl, ends_bind, ends_get, hsize]
  refine (makeRoom_crowded h).mono (fun _ q hq => ?_) fun _ _ he => he
  -- the page shows more than its top and the header
  rw [hq, ends_ite, if_pos (by omega)]
  simp only [ends_bind]
  exact (emitBand_short hl hband.plain h).mono (fun _ r hr => endPageIfFull_short hr) fun _ _ he => he

end Bands

/-! ## Runs -/

section Runs

variable {form : Form} {length : Int} {p : Press}

/-- A call that is not `Crowding` leaves the press `Settled` as the calls before it did. -/
theorem operate_roomy (hform : form.FitsPage length) (source : Source) {task : Task}
    (htask : task ≠ .group) (hbands : ∀ band, task.onDemand? = some band → form.FitsBand length band)
    (hcrowds : ¬ Crowding form (.task form source task) p) (h : Settled form length p) :
    Settled form length (operate (.task form source task) p).2 := by
  have hstart : Settled form length (p.withValues source) := h.congr rfl rfl
  have hnone : ∀ band, task.onDemand? = some band → (band = .summary → p.page.summaryPending = true) →
      ¬ Crowds form band (p.withValues source) :=
    fun band hb hs hc => hcrowds ⟨band, hb, hs, hc.congr rfl rfl rfl⟩
  refine ends_state.mp ?_
  by_cases hpaginates : task.paginates
  · exact (operate_settled hform source hpaginates h).mono (fun _ _ hq => hq.1) fun _ _ he => he
  · simp only [operate, ends_bind, ends_modify]
    cases task with
    | groupHeader =>
      exact printGroupHeader_settled hform (hbands _ rfl) (hnone _ rfl (by simp)) hstart
    | groupDetail =>
      exact printBand_settled hform (hbands _ rfl) (by simp) (hnone _ rfl (by simp)) hstart
    | groupFooter =>
      exact printBand_settled hform (hbands _ rfl) (by simp) (hnone _ rfl (by simp)) hstart
    | summary =>
      exact printSummary_settled hform (hbands _ rfl) (fun hs => hnone _ rfl fun _ => hs) hstart
    | group => exact absurd rfl htask
    | record | finishPage _ | skipPage => exact absurd rfl hpaginates

/-- A call that is `Crowding` and returns leaves a page that is `Short`. -/
theorem operate_short (source : Source) {task : Task}
    (hbands : ∀ band, task.onDemand? = some band → form.FitsBand length band)
    (hcrowding : Crowding form (.task form source task) p) (h : Settled form length p) :
    Ends (operate (.task form source task)) p (fun _ q => Short form q) fun _ _ => True := by
  obtain ⟨band, hb, hsummary, hcrowds⟩ := hcrowding
  have hcrowds' : Crowds form band (p.withValues source) := hcrowds.congr rfl rfl rfl
  -- without the band it would not crowd the bottom
  have hsome : ∃ lines, form.band? band = some lines := by
    rw [← Option.isSome_iff_exists, ← Option.ne_none_iff_isSome]
    intro hnone
    have hsize : form.bandSize band = 0 := by simp [Form.bandSize, hnone]
    have hroom := (h.room hcrowds.topPending (h.account.not_torn hcrowds.bottomPending)).1
    have hcrowded := hcrowds.crowded
    omega
  obtain ⟨lines, hl⟩ := hsome
  simp only [operate, ends_bind, ends_modify]
  cases task with
  | groupHeader =>
    obtain rfl := Option.some.inj hb
    exact printGroupHeader_short (hbands _ rfl) hcrowds' h.account.pageLength hl
  | groupDetail =>
    obtain rfl := Option.some.inj hb
    exact printBand_short (hbands _ rfl).plain hcrowds' hl
  | groupFooter =>
    obtain rfl := Option.some.inj hb
    exact printBand_short (hbands _ rfl).plain hcrowds' hl
  | summary =>
    obtain rfl := Option.some.inj hb
    have hpending : (p.withValues source).page.summaryPending = true := hsummary rfl
    simp only [Task.run, printSummary, ends_bind, ends_get, hl, hpending]
    exact printBand_short (hbands _ rfl).plain (hcrowds.congr rfl rfl rfl) hl
  | record | group | finishPage _ | skipPage => cases hb

/-- Whatever is printed with a form whose bands leave room for each other, whichever calls fail on the way,
as long as no band on demand crowds a bottom: a page that is begun keeps the lines of its bottom, and no page
that was closed shows more lines than it may.  A call that crowds the bottom and returns leaves a page that
has too little room for it. -/
theorem after_room (hform : form.FitsPage length) (formFeed : Bool) (operations : List Operation)
    (hcalls : ∀ operation ∈ operations, operation.Calls form fun task =>
      task ≠ .group ∧ ∀ band, task.onDemand? = some band → form.FitsBand length band)
    (hroomy : Throughout (fun operation p => ¬ Crowding form operation p) operations
      (start (Page.first length) formFeed)) :
    let press := after operations (start (Page.first length) formFeed)
    (press.page.topPending = false → ¬ Torn (sheet press.events) →
      form.bandSize .bottom ≤ press.page.linesLeft) ∧
    (∀ earlier feed bottomPrinted later,
      press.events = earlier ++ .closed feed bottomPrinted :: later → ¬ Torn (sheet earlier) →
      written (sheet earlier) ≤ length) ∧
    ∀ source task, (∀ band, task.onDemand? = some band → form.FitsBand length band) →
      Crowding form (.task form source task) press → Returns (.task form source task) press →
      let next := (operate (.task form source task) press).2
      next.page.topPending = false ∧ next.page.linesLeft < form.bandSize .bottom := by
  have hsettled := hroomy.induction (I := Settled form length) (fun operation ho p hroomy hp => ?_) _
    (start_settled form length formFeed)
  · refine ⟨fun ht hwhole => (hsettled.room ht hwhole).1, fun earlier feed bottomPrinted later he hwhole => ?_,
      fun source task hbands hcrowding hreturns => ?_⟩
    · exact (hsettled.account.filled earlier feed bottomPrinted later he hwhole).most
    · have hshort := Ends.of_returns (operate_short source hbands hcrowding hsettled) hreturns
      exact ⟨hshort.topPending, hshort.short⟩
  · obtain ⟨source, task, rfl, htask, hbands⟩ := hcalls operation ho
    exact operate_roomy hform source htask hbands hroomy hp

/-- A page of four lines: the band on demand and the bottom have two each. -/
def twoLineDetail : Form :=
  ⟨[⟨[.field ⟨.text .left 2, false⟩], false, false, ["x"], ['@', '<']⟩],
    [(.groupDetail, [⟨[.literal ['*', '*']], false, false, [], ['*', '*']⟩,
      ⟨[.field ⟨.text .left 2, false⟩], false, false, ["d"], ['@', '<']⟩]),
      (.bottom, [⟨[.literal ['-', '-']], false, false, [], ['-', '-']⟩,
      ⟨[.literal ['=', '=']], false, false, [], ['=', '=']⟩])]⟩

theorem twoLineDetail_fitsPage : twoLineDetail.FitsPage 4 :=
  ⟨by decide, by decide, by decide, by decide⟩

theorem twoLineDetail_fitsBand : twoLineDetail.FitsBand 4 .groupDetail := ⟨by decide, by decide⟩

def detailed : Source := ⟨.mapping, [("x", .text ['a']), ("d", .text ['d'])]⟩

/-- First on its page the band leaves the bottom its two lines; after a record it leaves one. -/
theorem after_room_twoLineDetail :
    let calls := [.groupDetail, .record].map (Operation.task twoLineDetail detailed)
    let begin := start (Page.first 4) false
    twoLineDetail.FitsPage 4 ∧
    (∀ operation ∈ calls, operation.Calls twoLineDetail fun task =>
      task ≠ .group ∧ ∀ band, task.onDemand? = some band → twoLineDetail.FitsBand 4 band) ∧
    Throughout (fun operation p => ¬ Crowding twoLineDetail operation p) calls begin ∧
    (after calls begin).page.topPending = false ∧ 2 ≤ (after calls begin).page.linesLeft ∧
    (operate (.task twoLineDetail detailed .groupDetail) (after calls begin)).2.page.linesLeft < 2 := by
  intro calls begin
  have hcalls : ∀ operation ∈ calls, operation.Calls twoLineDetail fun task =>
      task ≠ .group ∧ ∀ band, task.onDemand? = some band → twoLineDetail.FitsBand 4 band := by
    refine Operation.calls_of_mem_map _ fun task htask => ?_
    simp only [List.mem_cons, List.not_mem_nil, or_false] at htask
    rcases htask with rfl | rfl
    · refine ⟨by simp, fun band hb => ?_⟩
      obtain rfl := Option.some.inj hb
      exact twoLineDetail_fitsBand
    · exact ⟨by simp, fun band hb => by cases hb⟩
  have hroomy : Throughout (fun operation p => ¬ Crowding twoLineDetail operation p) calls begin := by
    refine ⟨?_, ?_, trivial⟩
    · rintro ⟨band, -, -, hc⟩
      exact absurd hc.topPending (by decide)
    · rintro ⟨band, hb, -⟩
      cases hb
  have htop : (after calls begin).page.topPending = false := by decide +kernel
  have hwhole : ¬ Torn (sheet (after calls begin).events) := by decide +kernel
  have hcrowding : Crowding twoLineDetail (.task twoLineDetail detailed .groupDetail)
      (after calls begin) :=
    ⟨.groupDetail, rfl, by simp, by decide +kernel, by decide +kernel, by decide +kernel, by decide +kernel⟩
  obtain ⟨hroom, -, hshort⟩ := after_room twoLineDetail_fitsPage false calls hcalls hroomy
  refine ⟨twoLineDetail_fitsPage, hcalls, hroomy, htop, hroom htop hwhole, ?_⟩
  refine (hshort detailed .groupDetail (fun band hb => ?_) hcrowding (by decide +kernel)).2
  obtain rfl := Option.some.inj hb
  exact twoLineDetail_fitsBand

/-- A record and a band on demand leave one line on the page, and its bottom has two: the page gets five lines
of four. -/
theorem bottom_crowded_twoLineDetail :
    let calls := [.record, .groupDetail].map (Operation.task twoLineDetail detailed)
    let begin := start (Page.first 4) false
    let press := after calls begin
    let closed := after (calls ++ [.task twoLineDetail detailed (.finishPage false)]) begin
    twoLineDetail.FitsPage 4 ∧ twoLineDetail.FitsBand 4 .groupDetail ∧ Throughout Returns calls begin ∧
    press.page.topPending = false ∧ ¬ Torn (sheet press.events) ∧
    press.page.linesLeft < twoLineDetail.bandSize .bottom ∧
    closed.events = closed.events.dropLast ++ [.closed false true] ∧
    written (sheet closed.events.dropLast) = 5 := by
  exact ⟨twoLineDetail_fitsPage, twoLineDetail_fitsBand, by decide +kernel, by decide +kernel,
    by decide +kernel, by decide +kernel, by decide +kernel, by decide +kernel⟩

end Runs

end Press

end PictureReport
