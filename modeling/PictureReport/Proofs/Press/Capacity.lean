import PictureReport.Proofs.Press.Account
import PictureReport.Proofs.Press.Operations

/-!
# Page capacity

Between calls there is always room for the bottom of the page at hand (`Settled`).  A page is closed when it
is full, when a record is put off because it does not fit, or when it is torn (`Closable`).
-/

namespace PictureReport

namespace Task

/-- Does the task print a record or close the page at hand? -/
def paginates : Task → Bool
  | record | finishPage _ | skipPage => true
  | _ => false

end Task

namespace Form

/-- The size of the group header that follows the top; none does without a top. -/
def headerSize (form : Form) : Nat :=
  if (form.band? .top).isSome then form.bandSize .groupHeader else 0

/-- The bands of a page print each of their lines once (`IsPlain`) and leave room for a record. -/
structure FitsPage (form : Form) (length : Int) : Prop where
  top : ∀ line ∈ form.lines .top, line.IsPlain
  header : ∀ line ∈ form.lines .groupHeader, line.IsPlain
  bottom : ∀ line ∈ form.lines .bottom, line.IsPlain
  room : (form.bandSize .top + form.headerSize + form.bandSize .bottom : Int) < length

end Form

namespace Press

/-! ## Opening and closing a page -/

/-- Between calls: a page that is not begun has all its lines, and one that is begun keeps more lines than its
bottom needs, unless the bottom is due or the page is `Torn`. -/
structure Settled (form : Form) (length : Int) (p : Press) : Prop where
  account : Accounted form length p
  fresh : p.page.topPending = true → p.page.linesLeft = length ∧ p.page.bottomPending = false
  room : p.page.topPending = false → ¬ Torn (sheet p.events) →
    (form.bandSize .bottom : Int) ≤ p.page.linesLeft ∧
      (p.page.linesLeft = form.bandSize .bottom → p.page.bottomPending = true)
  due : p.page.bottomPending = true → ¬ Torn (sheet p.events) →
    p.page.linesLeft = form.bandSize .bottom ∨ PutOff length (form.bandSize .bottom) (sheet p.events)

/-- The page is begun and has room for a line beside its bottom. -/
structure Open (form : Form) (length : Int) (p : Press) : Prop where
  account : Accounted form length p
  topPending : p.page.topPending = false
  bottomPending : p.page.bottomPending = false
  room : (form.bandSize .bottom : Int) < p.page.linesLeft

/-- The page is begun and may be closed: it has room for its bottom alone, or a record was put off, or it is
`Torn`. -/
structure Closable (form : Form) (length : Int) (p : Press) : Prop where
  account : Accounted form length p
  topPending : p.page.topPending = false
  room : ¬ Torn (sheet p.events) → (form.bandSize .bottom : Int) ≤ p.page.linesLeft
  full : ¬ Torn (sheet p.events) → p.page.linesLeft = form.bandSize .bottom ∨
    PutOff length (form.bandSize .bottom) (sheet p.events)

section Pages

variable {form : Form} {length : Int} {p q : Press}

theorem Open.settled (h : Open form length p) : Settled form length p := by
  refine ⟨h.account, fun ht => ?_, fun _ _ => ⟨by have := h.room; omega, fun he => ?_⟩, fun hb => ?_⟩
  · rw [h.topPending] at ht
    cases ht
  · have := h.room
    omega
  · rw [h.bottomPending] at hb
    cases hb

theorem Settled.opened (h : Settled form length p) (ht : p.page.topPending = false)
    (hb : p.page.bottomPending = false) : Open form length p := by
  obtain ⟨hroom, hdue⟩ := h.room ht (h.account.not_torn hb)
  have hne : p.page.linesLeft ≠ form.bandSize .bottom := by
    intro he
    rw [hdue he] at hb
    cases hb
  exact ⟨h.account, ht, hb, by omega⟩

theorem Settled.closable (h : Settled form length p) (hb : p.page.bottomPending = true) :
    Closable form length p := by
  have ht : p.page.topPending = false := by
    cases ht : p.page.topPending with
    | false => rfl
    | true =>
      rw [(h.fresh ht).2] at hb
      cases hb
  exact ⟨h.account, ht, fun hwhole => (h.room ht hwhole).1, h.due hb⟩

theorem Settled.congr (h : Settled form length p) (he : q.events = p.events)
    (hpage : q.page = p.page) : Settled form length q := by
  refine ⟨h.account.congr he (by rw [hpage]) (by rw [hpage]) (by rw [hpage]; exact id), ?_, ?_, ?_⟩
  · rw [hpage]; exact h.fresh
  · rw [hpage, he]; exact h.room
  · rw [hpage, he]; exact h.due

/-- No line mends a torn page: `bottomLines` only grows, and `completeLines` grows with a mark alone. -/
theorem Prints.torn {origin : Origin} {lines : List Composed} (hp : Prints origin lines p q)
    (h : Torn (sheet p.events)) : Torn (sheet q.events) := by
  unfold Torn at h ⊢
  rw [hp.events, sheet_append fun _ he => printed_closes he, bottomLines_append, completeLines_append,
    completeLines_printed]
  omega

/-- A `Closable` page is `Filled` when its whole bottom is printed and leaves it not torn. -/
theorem Closable.filled (h : Closable form length p) {made : List Composed}
    (hw : Whole form .bottom made p.due q) (hm : made.length = form.bandSize .bottom)
    (hwhole : ¬ Torn (sheet q.events)) : Filled length (form.bandSize .bottom) (sheet q.events) := by
  have hdue : Accounted form length p.due := h.account.congr rfl rfl rfl fun _ => rfl
  have hbefore : ¬ Torn (sheet p.events) := fun ht => hwhole (hw.torn_iff.mpr ht)
  have hleft : q.page.linesLeft = p.page.linesLeft - form.bandSize .bottom := by
    rw [hw.page, hm]
    rfl
  have hlines := (hdue.whole hw).lines
  have hroom := h.room hbefore
  refine ⟨by omega, ?_⟩
  rcases h.full hbefore with hfull | hfull
  · left
    omega
  · right
    have hevents : q.events = p.events ++ ((p.due.printing (.band .bottom) made).map .printed ++
        form.marks .bottom made.length) := by
      rw [hw.events, List.append_assoc]
      rfl
    rw [hevents, sheet_append fun _ he => Whole.closes he]
    refine hfull.append fun line hl => ?_
    rcases List.mem_append.mp hl with hl | hl
    · obtain ⟨line', hline, he⟩ := List.mem_map.mp hl
      cases he
      exact (mem_printing hline).2.1
    · unfold Form.marks at hl
      split at hl <;> simp at hl

theorem endPage_settled (hform : form.FitsPage length) (feed : Option Bool)
    (h : Closable form length p) :
    Ends (endPage form feed) p (fun _ q => Settled form length q) fun _ q => Settled form length q := by
  have hdue : Accounted form length p.due := h.account.congr rfl rfl rfl fun _ => rfl
  refine endPage_ends (fun made q hq => ?_) fun fault made q hq => ?_
  · have haccount := hdue.whole hq
    have hclosed := haccount.close (h.filled hq (hq.size hform.bottom)) (feed.getD p.formFeed)
      (0 < made.length)
    refine ⟨hclosed, fun _ => ⟨?_, rfl⟩, fun ht => ?_, fun hb => ?_⟩
    · rw [page_closed]
      exact haccount.pageLength
    · simp at ht
    · simp at hb
  · obtain ⟨haccount, htorn⟩ := hdue.partly rfl hq.emits.prints
    -- a page that is not torn is as it was
    have hsame : ¬ Torn (sheet q.events) → q.page = p.due.page ∧ q.events = p.events := by
      intro hwhole
      have hmade : made = [] := by
        by_contra hne
        exact hwhole (htorn hne)
      have hprints := hq.emits.prints
      rw [hmade] at hprints
      exact ⟨by rw [hprints.page]; simp [Page.taking], by rw [hprints.events]; simp [printing]⟩
    have hbegun : q.page.topPending = false := by
      rw [hq.emits.prints.page]
      exact h.topPending
    refine ⟨haccount, fun ht => ?_, fun _ hwhole => ?_, fun _ hwhole => ?_⟩
    · rw [hbegun] at ht
      cases ht
    · obtain ⟨hpage, hevents⟩ := hsame hwhole
      rw [hevents] at hwhole
      rw [hpage]
      exact ⟨h.room hwhole, fun _ => rfl⟩
    · obtain ⟨hpage, hevents⟩ := hsame hwhole
      rw [hevents] at hwhole ⊢
      rw [hpage]
      exact h.full hwhole

/-- The page that `endPage` leaves is not torn, also where the one that it closes is. -/
theorem endPage_whole (hform : form.FitsPage length) (feed : Option Bool)
    (h : Closable form length p) :
    Ends (endPage form feed) p (fun _ q => Settled form length q ∧ ¬ Torn (sheet q.events))
      fun _ q => Settled form length q := by
  refine ((endPage_settled hform feed h).and_ok (endPage_between form feed p)).mono ?_ fun _ _ he => he
  rintro _ q ⟨hq, hbetween⟩
  exact ⟨hq, hq.account.not_torn hbetween.bottomPending⟩

/-- The page is begun and has `left` lines. -/
structure Leaves (form : Form) (length left : Int) (p : Press) : Prop where
  account : Accounted form length p
  topPending : p.page.topPending = false
  bottomPending : p.page.bottomPending = false
  linesLeft : p.page.linesLeft = left

theorem Leaves.open {left : Int} (h : Leaves form length left p) (hleft : form.bandSize .bottom < left) :
    Open form length p :=
  ⟨h.account, h.topPending, h.bottomPending, by rw [h.linesLeft]; exact hleft⟩

theorem Leaves.taken {left : Int} (h : Leaves form length left p) {band : Band} {count : Nat}
    (haccount : Accounted form length q) (hpage : q.page = p.page.taking (.band band) count) :
    Leaves form length (left - count) q := by
  refine ⟨haccount, ?_, ?_, ?_⟩ <;> rw [hpage]
  · exact h.topPending
  · exact h.bottomPending
  · rw [← h.linesLeft]
    rfl

/-- Top and header leave room for a line beside the bottom (`Open`): they take no more than `bandSize` and
`headerSize`, and fewer lines if they are cut. -/
theorem openPage_open (hform : form.FitsPage length) (h : Settled form length p)
    (hb : p.page.bottomPending = false) :
    Ends (openPage form) p
      (fun _ q => Open form length q ∧ (p.page.topPending = true →
        length - (form.bandSize .top + form.headerSize) ≤ q.page.linesLeft))
      fun _ q => Open form length q := by
  have hroom := hform.room
  have hopened : p.page.topPending = true → Leaves form length length p.opened := by
    intro ht
    refine ⟨h.account.grow [.opened] (by simp [Event.closes]) (by simp) rfl ?_ ?_ ?_, ?_, ?_, ?_⟩ <;>
      rw [page_opened ht]
    · simp [written, List.filterMap, Event.line?]
    · exact id
    · exact hb
    · exact (h.fresh ht).1
  have htop : p.page.topPending = true → ∀ made q, Whole form .top made p.opened q →
      Leaves form length (length - form.bandSize .top) q := by
    intro ht made q hq
    rw [← hq.size hform.top]
    exact (hopened ht).taken ((hopened ht).account.whole hq) hq.page
  have hheader : ∀ {page : Page}, form.HeaderDue page →
      form.headerSize = form.bandSize .groupHeader := by
    intro page hdue
    simp [Form.headerSize, hdue.1]
  -- the first two ways are none: the page is not begun, and it is fresh
  refine openPage_ends (fun ht => ⟨h.opened ht hb, fun ht' => ?_⟩) (fun ht hf => ?_) ?_ ?_ ?_ ?_
  · rw [ht] at ht'
    cases ht'
  · have hlength := h.account.pageLength
    have hleft := (h.fresh ht).1
    simp [Page.isFresh, hlength, hleft] at hf
  · intro ht _ made q hq _
    have hleft := (htop ht made q hq).linesLeft
    exact ⟨(htop ht made q hq).open (by omega), fun _ => by omega⟩
  · intro ht _ made q hq hdue made' r hr
    have hleaves := (htop ht made q hq).taken ((htop ht made q hq).account.whole hr) hr.page
    have hsize := hr.size hform.header
    have hheader := hheader hdue
    have hleft := hleaves.linesLeft
    exact ⟨hleaves.open (by omega), fun _ => by omega⟩
  · intro ht _ fault made q hq
    have hprints := hq.emits.prints
    have hleaves := (hopened ht).taken ((hopened ht).account.prints hprints (by simp)) hprints.page
    have hsize := hq.size hform.top
    exact hleaves.open (by omega)
  · intro ht _ made q hq hdue fault made' r hr
    have hprints := hr.emits.prints
    have hleaves := (htop ht made q hq).taken
      ((htop ht made q hq).account.prints hprints (by simp)) hprints.page
    have hsize := hr.size hform.header
    have hheader := hheader hdue
    exact hleaves.open (by omega)

/-- After `printTop` the page is `Open`, and one that was just begun has all the lines that top and header
leave. -/
theorem printTop_roomy (hform : form.FitsPage length) (h : Settled form length p) :
    Ends (printTop form) p
      (fun _ q => Open form length q ∧ (p.page.topPending = true ∨ p.page.bottomPending = true →
        length - (form.bandSize .top + form.headerSize) ≤ q.page.linesLeft))
      fun _ q => Settled form length q := by
  refine printTop_ends (fun hb => ?_) fun hb => ?_
  · refine ((endPage_settled hform none (h.closable hb)).and_ok (endPage_between form none p)).mono ?_
      fun _ _ he => he
    rintro _ q ⟨hq, hbetween⟩
    refine (openPage_open hform hq hbetween.bottomPending).mono ?_ fun _ _ hr => hr.settled
    exact fun _ r hr => ⟨hr.1, fun _ => hr.2 hbetween.topPending⟩
  · refine (openPage_open hform h hb).mono ?_ fun _ _ hr => hr.settled
    rintro _ q ⟨hq, hleft⟩
    refine ⟨hq, fun hfresh => hleft (hfresh.resolve_right fun hb' => ?_)⟩
    rw [hb] at hb'
    cases hb'

theorem printTop_open (hform : form.FitsPage length) (h : Settled form length p) :
    Ends (printTop form) p (fun _ q => Open form length q ∧ Begun p q)
      fun _ q => Settled form length q := by
  refine Ends.and_ok ?_ (printTop_begun form p)
  exact (printTop_roomy hform h).mono (fun _ _ hq => hq.1) fun _ _ he => he

/-- At the end of a call, before `endPageIfFull`: the page at hand has room for its bottom. -/
structure Placed (form : Form) (length : Int) (p : Press) : Prop where
  account : Accounted form length p
  bottomPending : p.page.bottomPending = false
  fresh : p.page.topPending = true → p.page.linesLeft = length
  room : p.page.topPending = false → (form.bandSize .bottom : Int) ≤ p.page.linesLeft

theorem Settled.placed (h : Settled form length p) (hb : p.page.bottomPending = false) :
    Placed form length p :=
  ⟨h.account, hb, fun ht => (h.fresh ht).1, fun ht => (h.room ht (h.account.not_torn hb)).1⟩

theorem Placed.congr (h : Placed form length p) (he : q.events = p.events) (hpage : q.page = p.page) :
    Placed form length q := by
  refine ⟨h.account.congr he (by rw [hpage]) (by rw [hpage]) (by rw [hpage]; exact id), ?_, ?_, ?_⟩ <;>
    rw [hpage]
  · exact h.bottomPending
  · exact h.fresh
  · exact h.room

theorem endPageIfFull_settled (hform : form.FitsPage length) (h : Placed form length p) :
    Ends (endPageIfFull form) p (fun _ q => Settled form length q ∧ ¬ Torn (sheet q.events))
      fun _ q => Settled form length q := by
  have hwhole := h.account.not_torn h.bottomPending
  refine endPageIfFull_ends (fun hleft => ?_) (fun ht hfull _ => ?_) fun ht hfull => ?_
  · refine ⟨⟨h.account, fun ht => ⟨h.fresh ht, h.bottomPending⟩, fun ht _ => ⟨h.room ht, fun he => ?_⟩,
      fun hb => ?_⟩, hwhole⟩
    · have hless := hleft ht
      omega
    · rw [h.bottomPending] at hb
      cases hb
  · have hroom := h.room ht
    have hleft : p.page.linesLeft = form.bandSize .bottom := by omega
    exact endPage_whole hform none ⟨h.account, ht, fun _ => hroom, fun _ => .inl hleft⟩
  · have hroom := h.room ht
    have hleft : p.page.linesLeft = form.bandSize .bottom := by omega
    refine ⟨⟨h.account.congr rfl rfl rfl fun _ => rfl, fun ht' => ?_, fun _ _ => ⟨hroom, fun _ => rfl⟩,
      fun _ _ => .inl hleft⟩, hwhole⟩
    have htop : p.page.topPending = true := ht'
    rw [ht] at htop
    cases htop

theorem finishPage_settled (hform : form.FitsPage length) (feed : Bool) (h : Settled form length p) :
    Ends (finishPage form feed) p (fun _ q => Settled form length q ∧ ¬ Torn (sheet q.events))
      fun _ q => Settled form length q := by
  refine finishPage_ends (fun ht => ⟨h, h.account.not_torn (h.fresh ht).2⟩)
    fun ht q hq _ => endPage_whole hform _ ?_
  have hleft : ¬ Torn (sheet q.events) → q.page.linesLeft = form.bandSize .bottom := by
    intro hwhole
    have hroom := (h.room ht fun htorn => hwhole (hq.torn htorn)).1
    rw [hq.page]
    simp only [Page.taking, List.length_replicate]
    omega
  refine ⟨h.account.prints hq (by simp), ?_, fun hwhole => Int.le_of_eq (hleft hwhole).symm,
    fun hwhole => .inl (hleft hwhole)⟩
  rw [hq.page]
  exact ht

end Pages

/-! ## Records -/

section Records

variable {form : Form} {length : Int} {p q : Press}

/-- A flush fills the page with pending lines down to its bottom, so it may be closed. -/
theorem flushPartial_settled (hform : form.FitsPage length) (h : Open form length p)
    (hfull : p.page.linesLeft ≤ p.pending.length + form.bandSize .bottom) :
    Ends (flushPartial form) p
      (fun _ q => Settled form length q ∧ q.page.bottomPending = false ∧
        q.pending.length < p.pending.length)
      fun _ q => Settled form length q := by
  have hroom := h.room
  have hcapacity : p.pager.capacity (form.bandSize .bottom) =
      p.page.linesLeft - form.bandSize .bottom := by
    rw [capacity_eq]
    omega
  refine flushPartial_ends rfl fun q hq _ => ?_
  rw [hcapacity] at hq ⊢
  generalize hcount : (p.page.linesLeft - form.bandSize .bottom).toNat = count at hq ⊢
  have htake : (p.pending.take count).length = count := List.length_take_of_le (by omega)
  have hstart : Accounted form length (p.paged (·.transition .partialFlush)) :=
    h.account.congr rfl rfl rfl id
  have hleft : q.page.linesLeft = form.bandSize .bottom := by
    rw [hq.page, htake]
    change p.page.linesLeft - (count : Int) = _
    omega
  -- all the room above the bottom is taken, which is what lets the page be closed
  have hclosable : Closable form length ((q.holding (p.pending.drop count)).noted
      (.flushed (p.pending.drop count).length)).committed := by
    refine ⟨?_, ?_, fun _ => by rw [page_committed, page_noted, page_holding]; omega, fun _ => .inl hleft⟩
    · have hheld : Accounted form length (q.holding (p.pending.drop count)) :=
        (hstart.prints hq (by simp)).congr rfl rfl rfl id
      exact (hheld.noted rfl rfl rfl).congr rfl rfl rfl id
    · rw [page_committed, page_noted, page_holding, hq.page]
      exact h.topPending
  refine ((endPage_settled hform none hclosable).and_ok (endPage_between form none _)).mono ?_
    fun _ _ he => he
  rintro _ r ⟨hr, hbetween⟩
  refine ⟨hr, hbetween.bottomPending, ?_⟩
  rw [hbetween.pending]
  simp only [pending_committed, pending_noted, pending_holding, List.length_drop]
  omega

theorem splitFullPage_settled (hform : form.FitsPage length)
    (h : Settled form length p ∧ p.page.bottomPending = false) :
    Ends (splitFullPage form) p
      (fun _ q => Settled form length q ∧ q.page.bottomPending = false)
      fun _ q => Settled form length q := by
  refine splitFullPage_ends (fun _ => h) fun _ => ?_
  refine (printTop_open hform h.1).mono ?_ fun _ _ he => he
  rintro _ q ⟨hq, -⟩
  refine ⟨fun _ => ⟨hq.settled, hq.bottomPending⟩, fun hfull => ?_⟩
  rw [fillsFreshPage_iff] at hfull
  exact (flushPartial_settled hform hq hfull.2.2).mono (fun _ r hr => ⟨hr.1, hr.2.1⟩) fun _ _ he => he

/-- While a record is composed nothing but a flush happens to the page. -/
theorem composing_loop (hform : form.FitsPage length) (line : PictureLine) :
    Loop (splitFullPage form)
      (fun line => modify fun press => { press with pending := press.pending ++ [line] }) line
      (fun _ p => Settled form length p ∧ p.page.bottomPending = false)
      (fun _ p => Settled form length p ∧ p.page.bottomPending = false)
      fun _ _ p => Settled form length p := by
  refine ⟨fun _ p hp => splitFullPage_settled hform hp, fun _ p hp => hp, ?_, ?_, ?_,
    fun _ p fault desk hp _ => hp.1⟩
  · exact fun _ p page hp desk _ => ⟨hp.1.congr rfl rfl, hp.2⟩
  · exact fun _ p warnings hp => ⟨hp.1.congr rfl rfl, hp.2⟩
  · exact fun _ p text hp => ⟨hp.1.congr rfl rfl, hp.2⟩

/-- The pending lines can be printed on the page at hand, beside its bottom. -/
structure Printable (form : Form) (length : Int) (p : Press) : Prop where
  placed : Placed form length p
  fits : p.pending = [] ∨ p.pending.length + form.bandSize .bottom ≤ p.page.linesLeft
  opened : p.pending ≠ [] → p.page.topPending = false

theorem writeBody_placed (h : Printable form length p) :
    Ends (writeBody p.pending) p (fun _ q => Placed form length q)
      fun _ q => Settled form length q := by
  refine (writeBody_ends _ _).mono ?_ fun _ _ he => he.elim
  rintro _ q ⟨hq, -⟩
  cases hpending : p.pending with
  | nil =>
    rw [hpending] at hq
    refine h.placed.congr (by rw [hq.events]; simp [printing]) ?_
    rw [hq.page]
    simp [Page.taking]
  | cons first rest =>
    have hne : p.pending ≠ [] := by rw [hpending]; simp
    have hroom := h.fits.resolve_left hne
    refine ⟨h.placed.account.prints hq (by simp), ?_, fun ht => ?_, fun _ => ?_⟩
    · rw [hq.page]
      exact h.placed.bottomPending
    · rw [hq.page] at ht
      have hopened := h.opened hne
      change p.page.topPending = true at ht
      rw [hopened] at ht
      cases ht
    · rw [hq.page]
      simp only [Page.taking]
      omega

theorem flushRest_printable (hform : form.FitsPage length) (rounds : Nat) (hp : Placed form length p)
    (hopen : p.pending ≠ [] → Open form length p) (hrounds : p.pending.length ≤ rounds) :
    Ends (flushRest form rounds) p (fun _ q => Printable form length q)
      fun _ q => Settled form length q := by
  let J : Nat → Press → Prop := fun rounds q =>
    Placed form length q ∧ (q.pending ≠ [] → Open form length q) ∧ q.pending.length ≤ rounds
  refine flushRest_ends (J := J) ?_ ?_ ?_ rounds p ⟨hp, hopen, hrounds⟩
  · rintro q ⟨hq, hopen, hrounds⟩
    have hempty : q.pending = [] := List.eq_nil_of_length_eq_zero (by omega)
    exact ⟨hq, .inl hempty, fun h => absurd hempty h⟩
  · rintro _ q ⟨hq, hopen, -⟩ hdone
    exact ⟨hq, hdone, fun h => (hopen h).topPending⟩
  · rintro n q ⟨hq, hopen, hrounds⟩ hne hless
    refine (flushPartial_settled hform (hopen hne) (by omega)).mono ?_ fun _ _ he => he
    rintro _ r ⟨hr, hb, hfewer⟩
    refine ⟨fun hempty => ⟨hr.placed hb, fun h => absurd hempty h, by omega⟩, fun _ => ?_⟩
    refine (printTop_open hform hr).mono ?_ fun _ _ he => he
    rintro _ s ⟨hs, hbegun⟩
    refine ⟨hs.settled.placed hs.bottomPending, fun _ => hs, ?_⟩
    rw [hbegun.pending]
    omega

theorem placeRecord_placed (hform : form.FitsPage length) (h : Settled form length p) :
    Ends (placeRecord form) p
      (fun placed q => Placed form length q ∧ (placed = false → Settled form length q))
      fun _ q => Settled form length q := by
  refine placeRecord_ends (I := fun r => Settled form length r ∧ r.page.bottomPending = false) ?_
    (fun r hr _ _ => ⟨hr.1.placed hr.2, fun h => by cases h⟩) fun r hr _ => ?_
  · refine (printTop_open hform h).mono ?_ fun _ _ he => he
    rintro _ q ⟨hq, -⟩
    have hstart : Settled form length (q.holding []) ∧ (q.holding []).page.bottomPending = false :=
      ⟨hq.settled.congr rfl rfl, hq.bottomPending⟩
    refine (composeAll_ends (fun line _ => composing_loop hform line) 0 _ hstart).mono ?_ ?_
    · exact fun _ r hr => hr.1
    · rintro fault r ⟨_, -, hr⟩
      exact hr
  · refine (printTop_open hform hr.1).mono ?_ fun _ _ he => he
    rintro _ s ⟨hs, -⟩
    have hplaced : Placed form length s := hs.settled.placed hs.bottomPending
    refine ⟨fun hfits => ?_, fun _ _ => ?_, fun hless _ => ?_⟩
    · exact (writeBody_placed ⟨hplaced, .inr hfits, fun _ => hs.topPending⟩).mono
        (fun _ t ht => ⟨ht, fun h => by cases h⟩) fun _ _ he => he
    · refine (flushRest_printable hform _ hplaced (fun _ => hs) (Nat.le_refl _)).mono (fun _ t ht => ?_)
        fun _ _ he => he
      exact (writeBody_placed ht).mono (fun _ u hu => ⟨hu, fun h => by cases h⟩) fun _ _ he => he
    · -- the page is closed to put the record off
      have hclosable : Closable form length (s.noted (.deferred s.pending.length)).rolledBack := by
        refine ⟨(hs.account.noted rfl rfl rfl).congr rfl rfl rfl id, hs.topPending, fun _ => ?_,
          fun _ => .inr ?_⟩
        · have := hs.room
          rw [page_rolledBack, page_noted]
          omega
        · have hlines := hs.account.lines
          refine ⟨sheet s.events, s.pending.length, [], ?_, by omega, by simp⟩
          rw [events_rolledBack, events_noted, sheet_append (by simp [Event.closes])]
      refine ((endPage_settled hform none hclosable).and_ok (endPage_between form none _)).mono ?_
        fun _ _ he => he
      rintro _ t ⟨ht, hbetween⟩
      exact ⟨ht.placed hbetween.bottomPending, fun _ => ht⟩

theorem printRecord_settled (hform : form.FitsPage length) (h : Settled form length p) :
    Ends (printRecord form) p (fun _ q => Settled form length q ∧ ¬ Torn (sheet q.events))
      fun _ q => Settled form length q := by
  refine printRecord_ends (P := Placed form length) ?_
    fun q _ hq => endPageIfFull_settled hform (hq.congr rfl rfl)
  refine (placeRecord_placed hform h).mono ?_ fun _ _ he => he
  rintro placed q ⟨hplaced, hsettled⟩
  refine ⟨fun _ => hplaced, fun hdeferred => ?_⟩
  exact (placeRecord_placed hform (hsettled hdeferred)).mono (fun _ _ hr => hr.1) fun _ _ he => he

end Records

/-! ## Runs -/

section Runs

variable {form : Form} {length : Int}

theorem task_settled (hform : form.FitsPage length) {task : Task} (ht : task.paginates) {p : Press}
    (h : Settled form length p) :
    Ends (task.run form) p (fun _ q => Settled form length q ∧ ¬ Torn (sheet q.events))
      fun _ q => Settled form length q := by
  cases task with
  | record => exact printRecord_settled hform h
  | finishPage feed => exact finishPage_settled hform feed h
  | skipPage =>
    simp only [Task.run, skipPage, ends_bind, ends_get]
    exact finishPage_settled hform _ h
  | _ => cases ht

theorem operate_settled (hform : form.FitsPage length) (source : Source) {task : Task}
    (ht : task.paginates) {p : Press} (h : Settled form length p) :
    Ends (operate (.task form source task)) p
      (fun _ q => Settled form length q ∧ ¬ Torn (sheet q.events)) fun _ q => Settled form length q := by
  have hstart : Settled form length (p.withValues source) := h.congr rfl rfl
  simp only [operate, ends_bind, ends_modify]
  exact task_settled hform ht hstart

theorem start_settled (form : Form) (length : Int) (formFeed : Bool) :
    Settled form length (start (Page.first length) formFeed) := by
  refine ⟨⟨rfl, Int.sub_self length, Nat.le_refl 0, fun ht => ?_, ?_⟩, fun _ => ⟨rfl, rfl⟩, fun ht => ?_,
    fun hb => ?_⟩
  · cases ht
  · intro earlier feed bottomPrinted later he
    have hlength := congrArg List.length he
    simp [events, start] at hlength
  · cases ht
  · cases hb

/-- The calls leave the press `Settled` one after the other, whether they fail or not. -/
theorem after_settled (hform : form.FitsPage length) (formFeed : Bool) (operations : List Operation)
    (hcalls : ∀ operation ∈ operations, operation.Calls form (·.paginates)) :
    Settled form length (after operations (start (Page.first length) formFeed)) := by
  refine after_induction (fun operation ho p hp => ?_) _ (start_settled form length formFeed)
  obtain ⟨source, task, rfl, ht⟩ := hcalls operation ho
  exact (operate_settled hform source ht hp).mono (fun _ _ hq => hq.1) fun _ _ he => he

/-- A call that returns leaves a page that is not `Torn`, whatever calls failed before it. -/
theorem after_not_torn (hform : form.FitsPage length) (formFeed : Bool) (operations : List Operation)
    (hcalls : ∀ operation ∈ operations, operation.Calls form (·.paginates))
    {source : Source} {task : Task} (ht : task.paginates)
    (hreturn : (operate (.task form source task)
      (after operations (start (Page.first length) formFeed))).1 = .ok ()) :
    ¬ Torn (sheet (after (operations ++ [.task form source task])
      (start (Page.first length) formFeed)).events) := by
  have hends := operate_settled hform source ht (after_settled hform formFeed operations hcalls)
  rw [after_concat]
  exact ((ends_iff.mp hends).1 () hreturn).2

/-- A page of four lines.  The first line of its bottom is always printed; the second one, of the picture
`@.#`, fails where a digit after the point is a superscript. -/
def twoLineBottom : Form :=
  ⟨[⟨[.field ⟨.text .left 2, false⟩], false, false, ["x"], ['@', '<']⟩],
    [(.bottom, [⟨[.literal ['-', '-']], false, false, [], ['-', '-']⟩,
      ⟨[.field ⟨.fixed ⟨1, 1, true⟩, false⟩], false, false, ["b"], ['@', '.', '#']⟩])]⟩

/-- Print a record and finish the page with `number` in its bottom. -/
def finishing (number : Text) : List Operation :=
  [.task twoLineBottom ⟨.mapping, [("x", .text ['a'])]⟩ .record,
    .task twoLineBottom ⟨.mapping, [("b", .text number)]⟩ (.finishPage false)]

theorem finishing_paginates (number : Text) :
    ∀ operation ∈ finishing number, operation.Calls twoLineBottom (·.paginates) := by
  intro operation ho
  simp only [finishing, List.mem_cons, List.not_mem_nil, or_false] at ho
  rcases ho with rfl | rfl
  · exact ⟨_, _, rfl, rfl⟩
  · exact ⟨_, _, rfl, rfl⟩

/-- Whatever is printed with a form whose page bands leave room for a record, and whichever calls fail
on the way: between calls the lines that are left are those that the page at hand does not show yet; a
page that is begun keeps more lines than its bottom needs, unless the bottom is due; and each page that
was closed shows as many lines as it may, unless a record was put off because it did not fit.  Of a page
whose bottom was not printed to its end at some call only the count of its lines is told. -/
theorem after_capacity (hform : form.FitsPage length) (formFeed : Bool) (operations : List Operation)
    (hcalls : ∀ operation ∈ operations, operation.Calls form (·.paginates)) :
    let press := after operations (start (Page.first length) formFeed)
    length - press.page.linesLeft = written (sheet press.events) ∧
    (press.page.topPending = false → ¬ Torn (sheet press.events) →
      form.bandSize .bottom ≤ press.page.linesLeft ∧
        (press.page.linesLeft = form.bandSize .bottom → press.page.bottomPending = true)) ∧
    ∀ earlier feed bottomPrinted later,
      press.events = earlier ++ .closed feed bottomPrinted :: later → ¬ Torn (sheet earlier) →
      written (sheet earlier) ≤ length ∧
        (written (sheet earlier) = length ∨ PutOff length (form.bandSize .bottom) (sheet earlier)) := by
  have hsettled := after_settled hform formFeed operations hcalls
  refine ⟨hsettled.account.lines, hsettled.room, fun earlier feed bottomPrinted later he hwhole => ?_⟩
  have hfilled := hsettled.account.filled earlier feed bottomPrinted later he hwhole
  exact ⟨hfilled.most, hfilled.full⟩

/-- A bottom whose lines can both be composed is complete. -/
theorem after_capacity_finishing :
    twoLineBottom.FitsPage 4 ∧
    (∀ operation ∈ finishing ['1', '.', '5', '2'], operation.Calls twoLineBottom (·.paginates)) ∧
    let press := after (finishing ['1', '.', '5', '2']) (start (Page.first 4) false)
    let page := press.events.dropLast
    press.events = page ++ [.closed false true] ∧ ¬ Torn (sheet page) ∧
    4 - press.page.linesLeft = written (sheet press.events) ∧
    written (sheet page) ≤ (4 : Int) ∧
    (written (sheet page) = (4 : Int) ∨ PutOff 4 (twoLineBottom.bandSize .bottom) (sheet page)) := by
  have hform : twoLineBottom.FitsPage 4 := ⟨by decide, by decide, by decide, by decide⟩
  have hcapacity := after_capacity hform false _ (finishing_paginates ['1', '.', '5', '2'])
  have hclosed : (after (finishing ['1', '.', '5', '2']) (start (Page.first 4) false)).events =
      (after (finishing ['1', '.', '5', '2']) (start (Page.first 4) false)).events.dropLast ++
        [.closed false true] := by decide +kernel
  have hwhole : ¬ Torn (sheet
      (after (finishing ['1', '.', '5', '2']) (start (Page.first 4) false)).events.dropLast) := by
    decide +kernel
  exact ⟨hform, finishing_paginates _, hclosed, hwhole, hcapacity.1, hcapacity.2.2 _ _ _ [] hclosed hwhole⟩

/-- A bottom is cut at its second line: the page at hand has less room than its bottom needs. -/
theorem capacity_lost_finishing :
    twoLineBottom.FitsPage 4 ∧
    (∀ operation ∈ finishing ['1', '.', '5', '²'], operation.Calls twoLineBottom (·.paginates)) ∧
    let press := after (finishing ['1', '.', '5', '²']) (start (Page.first 4) false)
    press.page.topPending = false ∧ press.page.linesLeft < twoLineBottom.bandSize .bottom := by
  have hform : twoLineBottom.FitsPage 4 := ⟨by decide, by decide, by decide, by decide⟩
  exact ⟨hform, finishing_paginates _, by decide +kernel⟩

end Runs

end Press

end PictureReport
