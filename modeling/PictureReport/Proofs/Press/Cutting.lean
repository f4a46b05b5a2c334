import PictureReport.Proofs.Press.Capacity
import PictureReport.Proofs.Press.Transparency

/-!
# How long records are cut

A record that begins on a page without other records is cut where the page ends.  The page takes as many lines
as it has room for, each page after it as many as top, header and bottom leave, and the last one the rest
(`chunkSizes`).  While the record is composed either a page is begun and takes all that is pending (`Taking`),
or the page before is full and closed, and none is begun until there is a line for it (`Turned`).
-/

namespace PictureReport

/-- The sizes of the chunks that `total` lines are cut into: all but the last one are `size`. -/
def chunkSizes (size total : Nat) : List Nat :=
  List.replicate (total / size) size ++ if total % size = 0 then [] else [total % size]

@[simp] theorem chunkSizes_zero (size : Nat) : chunkSizes size 0 = [] := by simp [chunkSizes]

/-- Full chunks and after them one of `last` lines, which may be full. -/
theorem chunkSizes_of_last {size last : Nat} (count : Nat) (hpos : 0 < last) (hlast : last ≤ size) :
    chunkSizes size (count * size + last) = List.replicate count size ++ [last] := by
  have hsize : 0 < size := by omega
  unfold chunkSizes
  rw [Nat.add_comm, Nat.add_mul_div_right _ _ hsize, Nat.add_mul_mod_self_right]
  rcases Nat.lt_or_eq_of_le hlast with hless | rfl
  · rw [Nat.div_eq_of_lt hless, Nat.mod_eq_of_lt hless, if_neg (by omega), Nat.zero_add]
  · rw [Nat.div_self hsize, Nat.mod_self, if_pos rfl, List.append_nil, Nat.add_comm,
      List.replicate_succ']

theorem chunkSizes_of_full {size : Nat} (count : Nat) (hsize : 0 < size) :
    chunkSizes size (count * size) = List.replicate count size := by
  simp [chunkSizes, Nat.mul_div_cancel _ hsize]

theorem length_chunkSizes {size : Nat} (hsize : 0 < size) (total : Nat) :
    (chunkSizes size total).length = (total + size - 1) / size := by
  have hdiv := Nat.div_add_mod total size
  have hrest := Nat.mod_lt total hsize
  unfold chunkSizes
  split
  · have hround : total + size - 1 = (size - 1) + size * (total / size) := by omega
    have hless : size - 1 < size := by omega
    rw [hround, Nat.add_mul_div_left _ _ hsize, Nat.div_eq_of_lt hless]
    simp
  · have hround : total + size - 1 = (total % size - 1) + size * (total / size + 1) := by
      rw [Nat.mul_add, Nat.mul_one]
      omega
    have hless : total % size - 1 < size := by omega
    rw [hround, Nat.add_mul_div_left _ _ hsize, Nat.div_eq_of_lt hless]
    simp

namespace Form

/-- Top and header print each of their lines once.  With the bottom they leave `size` lines of the page for
records. -/
structure LeavesRoom (form : Form) (length : Int) (size : Nat) : Prop where
  top : ∀ line ∈ form.lines .top, line.IsPlain
  header : (form.band? .top).isSome → ∀ line ∈ form.lines .groupHeader, line.IsPlain
  length : length = form.bandSize .top + form.headerSize + form.bandSize .bottom + size
  pos : 0 < size

/-- Where `HeaderDue` is false right after the top, the form has no header to print there. -/
theorem headerSize_of_not_due {form : Form} {page : Page} (h : ¬ form.HeaderDue page)
    (hleft : page.linesLeft = page.length - form.bandSize .top) : form.headerSize = 0 := by
  unfold headerSize
  split
  · rename_i htop
    cases hheader : form.band? .groupHeader with
    | none => simp [bandSize, hheader]
    | some header =>
      have hsum : ((form.bandSize .top + form.bandSize .groupHeader : Nat) : Int) + page.linesLeft =
          page.length := by
        by_contra hne
        exact h ⟨htop, by rw [hheader]; rfl, hne⟩
      omega
  · rfl

end Form

/-- Is a page begun, or is a line of a record printed?  Other events leave `gather` as it is. -/
def Event.gathers : Event → Bool
  | .opened => true
  | .printed line => line.origin = .body
  | _ => false

namespace Press

/-- A page is begun with its top and its header, which take `bandSize` and `headerSize` lines of it.  What
whole bands keep (`I`) holds then. -/
theorem openPage_front {form : Form} {size : Nat} {p : Press} {I : Press → Prop} {E : Fault → Press → Prop}
    (hform : form.LeavesRoom p.page.length size) (ht : p.page.topPending = true)
    (hleft : p.page.linesLeft = p.page.length) (hopened : I p.opened)
    (hwhole : ∀ band made q r, Whole form band made q r → I q → I r)
    (hfault : ∀ band ∈ Form.pageBands, ∀ fault made q r, Partly form band fault made q r → E fault r) :
    Ends (openPage form) p
      (fun _ q => I q ∧ q.pending = p.pending ∧
        q.page = p.opened.page.taking (.band .top) (form.bandSize .top + form.headerSize)) E := by
  refine openPage_ends (fun hbegun => ?_) (fun _ hf => ?_) ?_ ?_
    (fun _ _ fault made q hq => hfault _ (by decide) fault made _ q hq)
    fun _ _ made q _ _ fault made' r hr => hfault _ (by decide) fault made' _ r hr
  · rw [ht] at hbegun
    cases hbegun
  · simp [Page.isFresh, hleft] at hf
  · intro _ _ top q hq hbare
    have htop := hq.size hform.top
    have hnone : form.headerSize = 0 := by
      refine Form.headerSize_of_not_due hbare ?_
      rw [hq.page, page_opened ht, htop]
      simp only [Page.taking]
      omega
    refine ⟨hwhole _ _ _ _ hq hopened, hq.pending, ?_⟩
    rw [hnone, ← htop]
    exact hq.page
  · intro _ _ top q hq hdue header r hr
    have htop := hq.size hform.top
    have hheader := hr.size (hform.header hdue.1)
    have hsome : form.headerSize = form.bandSize .groupHeader := by simp [Form.headerSize, hdue.1]
    refine ⟨hwhole _ _ _ _ hr (hwhole _ _ _ _ hq hopened), hr.pending.trans hq.pending, ?_⟩
    rw [hsome, ← htop, ← hheader, hr.page, hq.page]
    simp [Page.taking, Int.sub_sub, Bool.and_assoc]

/-! ## The lines of records page by page -/

/-- The lines of records, of all pages together. -/
def bodyLines (events : List Event) : List Composed :=
  ((events.filterMap Event.line?).filter (·.origin = .body)).map (·.line)

/-- The lines of records page by page, the latest page first, after one more event. -/
def gather : List (List Composed) → Event → List (List Composed)
  | pages, .opened => [] :: pages
  | page :: pages, .printed line => (if line.origin = .body then page ++ [line.line] else page) :: pages
  | pages, _ => pages

/-- The lines of records page by page, where the first page was begun before. -/
def bodySheets (events : List Event) : List (List Composed) := (events.foldl gather [[]]).reverse

section Gather

variable {page : List Composed} {pages : List (List Composed)} {events : List Event}

theorem gather_cons (page : List Composed) (pages : List (List Composed)) (event : Event) :
    ∃ page' pages', gather (page :: pages) event = page' :: pages' := by
  cases event <;> exact ⟨_, _, rfl⟩

theorem foldl_gather_same (h : ∀ event ∈ events, event.gathers = false) :
    events.foldl gather (page :: pages) = page :: pages := by
  induction events with
  | nil => rfl
  | cons event events ih =>
    rw [List.forall_mem_cons] at h
    have hsame : gather (page :: pages) event = page :: pages := by
      cases event with
      | printed line =>
        have horigin : line.origin ≠ .body := by simpa [Event.gathers] using h.1
        simp [gather, horigin]
      | opened => cases h.1
      | _ => rfl
    rw [List.foldl_cons, hsame]
    exact ih h.2

theorem foldl_gather_body (lines : List Printed) (h : ∀ line ∈ lines, line.origin = .body) :
    (lines.map Event.printed).foldl gather (page :: pages) = (page ++ lines.map (·.line)) :: pages := by
  induction lines generalizing page with
  | nil => simp
  | cons line lines ih =>
    rw [List.forall_mem_cons] at h
    rw [List.map_cons, List.foldl_cons, gather, if_pos h.1, ih h.2]
    simp

theorem length_foldl_gather (events : List Event) (pages : List (List Composed)) :
    (events.foldl gather pages).length = pages.length + events.countP (· = .opened) := by
  induction events generalizing pages with
  | nil => rfl
  | cons event events ih =>
    rw [List.foldl_cons, ih, List.countP_cons]
    cases event with
    | opened => simp [gather]; omega
    | printed line => cases pages <;> simp [gather]
    | _ => simp [gather]

/-- No line of a record is lost between the pages: put together, they are `bodyLines`. -/
theorem flatten_foldl_gather : (events.foldl gather (page :: pages)).reverse.flatten =
    (page :: pages).reverse.flatten ++ bodyLines events := by
  induction events generalizing page pages with
  | nil => simp [bodyLines]
  | cons event events ih =>
    obtain ⟨page', pages', hstep⟩ := gather_cons page pages event
    have hgrown : (page' :: pages').reverse.flatten =
        (page :: pages).reverse.flatten ++ bodyLines [event] := by
      rw [← hstep]
      cases event with
      | printed line => by_cases horigin : line.origin = .body <;> simp [gather, bodyLines, Event.line?, horigin]
      | _ => simp [gather, bodyLines, Event.line?]
    have happend : bodyLines (event :: events) = bodyLines [event] ++ bodyLines events := by
      simp only [bodyLines, ← List.map_append, ← List.filter_append, ← List.filterMap_append,
        List.singleton_append]
    rw [List.foldl_cons, hstep, ih, hgrown, happend, List.append_assoc]

end Gather

/-- After `s` the lines of records stand on `pages`, the latest one first. -/
def Gathered (s p : Press) (pages : List (List Composed)) : Prop :=
  ∃ more, p.events = s.events ++ more ∧ more.foldl gather [[]] = pages

section Gathered

variable {form : Form} {s p q : Press} {page : List Composed} {pages : List (List Composed)}

theorem Gathered.append (h : Gathered s p pages) {more : List Event}
    (he : q.events = p.events ++ more) : Gathered s q (more.foldl gather pages) := by
  obtain ⟨earlier, hp, hpages⟩ := h
  exact ⟨earlier ++ more, by rw [he, hp, List.append_assoc], by rw [List.foldl_append, hpages]⟩

theorem Gathered.same (h : Gathered s p (page :: pages)) {more : List Event}
    (he : q.events = p.events ++ more) (hmore : ∀ event ∈ more, event.gathers = false) :
    Gathered s q (page :: pages) := by
  have hgrown := h.append he
  rwa [foldl_gather_same hmore] at hgrown

theorem Gathered.noted (h : Gathered s p (page :: pages)) {event : Event} (he : event.gathers = false) :
    Gathered s (p.noted event) (page :: pages) :=
  h.same (events_noted p event) (by simpa using he)

theorem Gathered.opened (h : Gathered s p pages) : Gathered s p.opened ([] :: pages) :=
  h.append (events_opened p)

theorem Gathered.whole (h : Gathered s p (page :: pages)) {band : Band} {made : List Composed}
    (hq : Whole form band made p q) : Gathered s q (page :: pages) := by
  have he := hq.events
  rw [List.append_assoc] at he
  refine h.same he (List.forall_mem_append.mpr ⟨?_, ?_⟩)
  · rw [List.forall_mem_map]
    intro line hl
    simp [Event.gathers, (mem_printing hl).2.1]
  · unfold Form.marks
    split <;> simp [Event.gathers]

theorem Gathered.body (h : Gathered s p (page :: pages)) {lines : List Composed}
    (hq : Prints .body lines p q) : Gathered s q ((page ++ lines) :: pages) := by
  have hgrown := h.append hq.events
  rwa [foldl_gather_body _ fun line hl => (mem_printing hl).2.1, map_line_printing] at hgrown

theorem Gathered.endPage (h : Gathered s p (page :: pages)) (feed : Option Bool) :
    Ends (endPage form feed) p (fun _ q => Gathered s q (page :: pages)) fun _ _ => True :=
  endPage_ends (fun _ _ hq => (Gathered.whole (p := p.due) h hq).noted rfl) fun _ _ _ _ => trivial

end Gathered

/-! ## Composing a record that is cut -/

/-- The room of the page after `count` full ones: the first page takes `first` lines, each one after it
`size`. -/
def roomAfter (first size : Nat) : Nat → Nat
  | 0 => first
  | _ + 1 => size

/-- The numbers of lines on `count` full pages, the latest one first. -/
def fullSizes (first size : Nat) : Nat → List Nat
  | 0 => []
  | count + 1 => roomAfter first size count :: fullSizes first size count

theorem fullSizes_succ (first size count : Nat) :
    fullSizes first size (count + 1) = List.replicate count size ++ [first] := by
  induction count with
  | zero => rfl
  | succ count ih => rw [fullSizes, ih]; rfl

/-- The number of lines on `count` full pages together: the sum of `fullSizes`. -/
def fullTotal (first size : Nat) : Nat → Nat
  | 0 => 0
  | count + 1 => roomAfter first size count + fullTotal first size count

theorem fullTotal_succ (first size count : Nat) : fullTotal first size (count + 1) = first + count * size := by
  induction count with
  | zero => simp [fullTotal, roomAfter]
  | succ count ih =>
    rw [fullTotal, ih, Nat.succ_mul]
    simp only [roomAfter]
    omega

theorem length_of_fullSizes {first size count : Nat} {pages : List (List Composed)}
    (h : pages.map List.length = fullSizes first size count) :
    pages.reverse.flatten.length = fullTotal first size count := by
  induction count generalizing pages with
  | zero =>
    obtain rfl := List.map_eq_nil_iff.mp h
    rfl
  | succ count ih =>
    cases pages with
    | nil => cases h
    | cons page pages =>
      obtain ⟨hpage, hpages⟩ := List.cons.inj h
      rw [List.reverse_cons, List.flatten_append, List.length_append, ih hpages, fullTotal, ← hpage]
      simp [Nat.add_comm]

/-- Full pages and after them one of `last` lines are the pages that `chunkSizes` gives for their total. -/
theorem sizes_of_last {first size last : Nat} (count : Nat) (hlast : last ≤ roomAfter first size count)
    (hsome : count ≠ 0 → 0 < last) :
    let total := fullTotal first size count + last
    (last :: fullSizes first size count).reverse = min total first :: chunkSizes size (total - first) := by
  cases count with
  | zero =>
    have hless : last ≤ first := hlast
    simp [fullSizes, fullTotal, hless]
  | succ count =>
    have hless : last ≤ size := hlast
    have htotal : fullTotal first size (count + 1) + last = first + (count * size + last) := by
      rw [fullTotal_succ, Nat.add_assoc]
    simp only [htotal, Nat.add_sub_cancel_left, chunkSizes_of_last count (hsome (by omega)) hless]
    simp [fullSizes_succ]

theorem sizes_of_full (first : Nat) {size : Nat} (count : Nat) (hsize : 0 < size) :
    let total := fullTotal first size (count + 1)
    (fullSizes first size (count + 1)).reverse = min total first :: chunkSizes size (total - first) := by
  simp only [fullTotal_succ, Nat.add_sub_cancel_left, chunkSizes_of_full count hsize]
  simp [fullSizes_succ]

section Cut

variable {form : Form} {s : Press} {first size : Nat}

/-- A page is begun after `count` full ones and takes all that is pending.  Of the lines `made` of the record
that are composed so far, those before stand on the full pages. -/
structure Taking (form : Form) (s : Press) (first size : Nat) (made : List Composed) (count : Nat)
    (p : Press) : Prop where
  gathered : ∃ pages, Gathered s p ([] :: pages) ∧ pages.map List.length = fullSizes first size count ∧
    made = pages.reverse.flatten ++ p.pending
  topPending : p.page.topPending = false
  bottomPending : p.page.bottomPending = false
  bodyPrinted : p.page.bodyPrinted = false
  length : p.page.length = s.page.length
  linesLeft : p.page.linesLeft = form.bandSize .bottom + roomAfter first size count
  room : p.pending.length ≤ roomAfter first size count
  last : count ≠ 0 → p.pending ≠ []

/-- The last one of `count` full pages is closed, and no page is begun until there is a line for it. -/
structure Turned (s : Press) (first size : Nat) (made : List Composed) (count : Nat) (p : Press) :
    Prop where
  gathered : ∃ pages, Gathered s p pages ∧ pages.map List.length = fullSizes first size (count + 1) ∧
    made = pages.reverse.flatten ++ p.pending
  topPending : p.page.topPending = true
  bottomPending : p.page.bottomPending = false
  length : p.page.length = s.page.length
  linesLeft : p.page.linesLeft = s.page.length
  few : p.pending.length ≤ 1

variable {made : List Composed} {count : Nat} {p : Press}

/-- A page that is begun with top and header after `Turned` is one that is `Taking` the line pending for it.
-/
theorem Turned.taking (hform : form.LeavesRoom s.page.length size) (h : Turned s first size made count p)
    (hne : p.pending ≠ []) {q : Press} {n : Nat}
    (hgathered : ∃ pages, Gathered s q ([] :: pages) ∧
      pages.map List.length = fullSizes first size (count + 1) ∧ made = pages.reverse.flatten ++ p.pending)
    (hpending : q.pending = p.pending) (hpage : q.page = p.opened.page.taking (.band .top) n)
    (hn : n = form.bandSize .top + form.headerSize) : Taking form s first size made (count + 1) q := by
  have hleft := h.linesLeft
  have hlength := hform.length
  have hsize := hform.pos
  rw [page_opened h.topPending] at hpage
  refine ⟨by rwa [hpending], ?_, ?_, ?_, ?_, ?_, ?_, ?_⟩
  · rw [hpage]; rfl
  · rw [hpage]; exact h.bottomPending
  · rw [hpage]; simp [Page.taking]
  · rw [hpage]; exact h.length
  · rw [hpage]
    simp only [Page.taking, roomAfter]
    omega
  · have hfew := h.few
    rw [hpending]
    simp only [roomAfter]
    omega
  · rw [hpending]
    exact fun _ => hne

/-- The next page is begun with its top and its header, where a line is pending for it. -/
theorem Turned.openPage (hform : form.LeavesRoom s.page.length size)
    (h : Turned s first size made count p) (hne : p.pending ≠ []) :
    Ends (openPage form) p (fun _ q => Taking form s first size made (count + 1) q) fun _ _ => True := by
  obtain ⟨pages, hgathered, hsizes, hmade⟩ := h.gathered
  have hroom : form.LeavesRoom p.page.length size := by rwa [h.length]
  refine (openPage_front (I := fun q => Gathered s q ([] :: pages)) hroom h.topPending
    (h.linesLeft.trans h.length.symm) hgathered.opened (fun _ _ _ _ hq hI => hI.whole hq)
    fun _ _ _ _ _ _ _ => trivial).mono ?_ fun _ _ he => he
  rintro _ q ⟨hq, hpending, hpage⟩
  exact h.taking hform hne ⟨pages, hq, hsizes, hmade⟩ hpending hpage rfl

theorem Turned.printTop (hform : form.LeavesRoom s.page.length size)
    (h : Turned s first size made count p) (hne : p.pending ≠ []) :
    Ends (printTop form) p (fun _ q => Taking form s first size made (count + 1) q) fun _ _ => True := by
  refine printTop_ends (fun hb => ?_) fun _ => h.openPage hform hne
  rw [h.bottomPending] at hb
  cases hb

/-- `printTop` leaves a page that is `Taking` as it is. -/
theorem Taking.printTop (h : Taking form s first size made count p) :
    Ends (printTop form) p (fun _ q => Taking form s first size made count q) fun _ _ => True := by
  refine (printTop_begun form p).mono (fun _ q hq => ?_) fun _ _ he => he
  rwa [hq.same h.topPending h.bottomPending]

/-- A page whose room the pending lines use up is closed, and then it is `Turned`. -/
theorem Taking.flushPartial (h : Taking form s first size made count p)
    (hpos : 0 < roomAfter first size count) (hfull : roomAfter first size count ≤ p.pending.length) :
    Ends (flushPartial form) p (fun _ q => Turned s first size made count q ∧ q.pending = [])
      fun _ _ => True := by
  obtain ⟨pages, hgathered, hsizes, hmade⟩ := h.gathered
  have hroom := h.room
  have hleft := h.linesLeft
  -- the page takes just what is pending, so nothing stays behind
  have hcapacity : (p.pager.capacity (form.bandSize .bottom)).toNat = p.pending.length := by
    rw [capacity_eq]
    omega
  refine flushPartial_ends hcapacity.symm fun q hq _ => ?_
  rw [List.take_length] at hq
  rw [List.drop_length]
  have hprinted : Gathered s q ([] ++ p.pending :: pages) :=
    Gathered.body (p := p.paged (·.transition .partialFlush)) hgathered hq
  have hflushed : Gathered s ((q.holding []).noted (.flushed 0)).committed (p.pending :: pages) :=
    Gathered.noted (p := q.holding []) hprinted rfl
  refine ((hflushed.endPage none).and (endPage_between form none _)).mono ?_ fun _ _ _ => trivial
  rintro _ r ⟨hr, hbetween⟩
  have hlength : q.page.length = s.page.length := by
    rw [hq.page]
    exact h.length
  have hempty : r.pending = [] := hbetween.pending
  refine ⟨⟨⟨p.pending :: pages, hr, ?_, ?_⟩, hbetween.topPending, hbetween.bottomPending,
    hbetween.length.trans hlength, hbetween.linesLeft.trans hlength, by simp [hempty]⟩, hempty⟩
  · rw [List.map_cons, hsizes, fullSizes, Nat.le_antisymm hroom hfull]
  · rw [hmade, hempty]
    simp

/-- Before a line is composed: the page has room for it, or no page is begun. -/
inductive Ready (form : Form) (s : Press) (first size : Nat) (made : List Composed) (p : Press) : Prop
  | taking {count : Nat} : Taking form s first size made count p →
    p.pending.length < roomAfter first size count → Ready form s first size made p
  | turned {count : Nat} : Turned s first size made count p → p.pending = [] →
    Ready form s first size made p

/-- After a line is composed it is on a page that is `Taking`, perhaps the last one that fits, or waits for
the next. -/
inductive Underway (form : Form) (s : Press) (first size : Nat) (made : List Composed) (p : Press) : Prop
  | taking {count : Nat} : Taking form s first size made count p → Underway form s first size made p
  | turned {count : Nat} : Turned s first size made count p → Underway form s first size made p

theorem Ready.underway (h : Ready form s first size made p) : Underway form s first size made p := by
  cases h with
  | taking h _ => exact .taking h
  | turned h _ => exact .turned h

theorem Underway.desk (h : Underway form s first size made p) (desk : Desk) :
    Underway form s first size made { p with desk } := by
  cases h with
  | taking h => exact .taking { h with }
  | turned h => exact .turned { h with }

theorem Ready.desk (h : Ready form s first size made p) (desk : Desk) :
    Ready form s first size made { p with desk } := by
  cases h with
  | taking h hroom => exact .taking { h with } hroom
  | turned h hempty => exact .turned { h with } hempty

/-- A line is composed and held: `Ready` becomes `Underway`. -/
theorem Ready.hold (h : Ready form s first size made p) (line : Composed) :
    Underway form s first size (made ++ [line]) (p.holding (p.pending ++ [line])) := by
  cases h with
  | taking h hroom =>
    obtain ⟨pages, hgathered, hsizes, hmade⟩ := h.gathered
    refine .taking { h with gathered := ⟨pages, hgathered, hsizes, ?_⟩, room := ?_, last := ?_ }
    · simp [hmade]
    · rw [pending_holding, List.length_append]
      exact hroom
    · simp
  | turned h hempty =>
    obtain ⟨pages, hgathered, hsizes, hmade⟩ := h.gathered
    refine .turned { h with gathered := ⟨pages, hgathered, hsizes, ?_⟩, few := ?_ }
    · simp [hmade]
    · simp [hempty]

/-- Where lines are pending, `printTop` begins the page that takes them. -/
theorem Underway.printTop (hform : form.LeavesRoom s.page.length size)
    (h : Underway form s first size made p) (hne : p.pending = [] → p.page.topPending = false) :
    Ends (printTop form) p (fun _ q => ∃ count, Taking form s first size made count q) fun _ _ => True := by
  cases h with
  | taking h => exact h.printTop.mono (fun _ _ hq => ⟨_, hq⟩) fun _ _ he => he
  | turned h =>
    refine (h.printTop hform fun hempty => ?_).mono (fun _ _ hq => ⟨_, hq⟩) fun _ _ he => he
    have ht := hne hempty
    rw [h.topPending] at ht
    cases ht

theorem Underway.splitFullPage (hform : form.LeavesRoom s.page.length size) (hfirst : 0 < first)
    (h : Underway form s first size made p) :
    Ends (splitFullPage form) p (fun _ q => Ready form s first size made q) fun _ _ => True := by
  have hpos : ∀ count, 0 < roomAfter first size count := by
    rintro (_ | count)
    · exact hfirst
    · exact hform.pos
  refine splitFullPage_ends (fun hempty => ?_) fun hne => ?_
  · cases h with
    | @taking count h => exact .taking h (by rw [hempty]; exact hpos count)
    | turned h => exact .turned h hempty
  · refine (h.printTop hform fun hempty => absurd hempty hne).mono ?_ fun _ _ he => he
    rintro _ q ⟨count, hq⟩
    have hleft := hq.linesLeft
    refine ⟨fun hroom => .taking hq ?_, fun hfull => ?_⟩
    · rw [← Bool.not_eq_true, fillsFreshPage_iff] at hroom
      by_contra hless
      have hpending := hpos count
      exact hroom ⟨by omega, hq.bodyPrinted, by omega⟩
    · rw [fillsFreshPage_iff] at hfull
      refine (hq.flushPartial (hpos count) (by omega)).mono (fun _ r hr => ?_) fun _ _ he => he
      exact .turned hr.1 hr.2

/-- The lines of the record are counted in `made` as they are composed. -/
theorem underway_loop (hform : form.LeavesRoom s.page.length size) (hfirst : 0 < first)
    (line : PictureLine) :
    Loop (splitFullPage form) hold line
      (fun n p => ∃ made, made.length = n ∧ Underway form s first size made p)
      (fun n p => ∃ made, made.length = n ∧ Ready form s first size made p) fun _ _ _ => True := by
  refine ⟨?_, ?_, ?_, ?_, ?_, fun _ _ _ _ _ _ => trivial⟩
  · rintro n p ⟨made, hn, hp⟩
    exact (hp.splitFullPage hform hfirst).mono (fun _ _ hq => ⟨made, hn, hq⟩) fun _ _ he => he
  · rintro n p ⟨made, hn, hp⟩
    exact ⟨made, hn, hp.underway⟩
  · rintro n p page ⟨made, hn, hp⟩ desk -
    exact ⟨made, hn, hp.desk desk⟩
  · rintro n p warnings ⟨made, hn, hp⟩
    exact ⟨made, hn, hp.desk _⟩
  · rintro n p text ⟨made, hn, hp⟩
    exact ⟨made ++ [⟨text, p.page.number⟩], by simp [hn], hp.hold _⟩

/-- The first page is begun, shows no record and takes `first` lines. -/
theorem taking_start (htop : s.page.topPending = false) (hbottom : s.page.bottomPending = false)
    (hbody : s.page.bodyPrinted = false) (hleft : s.page.linesLeft = form.bandSize .bottom + first) :
    Taking form s first size [] 0 (s.holding []) :=
  ⟨⟨[], ⟨[], by simp, rfl⟩, rfl, rfl⟩, htop, hbottom, hbody, rfl, hleft, Nat.zero_le _,
    fun h => absurd rfl h⟩

/-- The lines `made` of the record stand on `pages`, cut as `chunkSizes` says. -/
structure IsCut (s : Press) (first size : Nat) (made : List Composed) (p : Press)
    (pages : List (List Composed)) : Prop where
  gathered : Gathered s p pages
  sizes : (pages.map List.length).reverse =
    min made.length first :: chunkSizes size (made.length - first)
  lines : pages.reverse.flatten = made

theorem Turned.isCut (hsize : 0 < size) (h : Turned s first size made count p) (hempty : p.pending = []) :
    ∃ pages, IsCut s first size made p pages := by
  obtain ⟨pages, hgathered, hsizes, hmade⟩ := h.gathered
  have hlines : pages.reverse.flatten = made := by rw [hmade, hempty, List.append_nil]
  refine ⟨pages, hgathered, ?_, hlines⟩
  have htotal : fullTotal first size (count + 1) = made.length := by
    rw [← length_of_fullSizes hsizes, hlines]
  have hcut := sizes_of_full first count hsize
  rw [htotal] at hcut
  rw [hsizes]
  exact hcut

theorem Taking.isCut (h : Taking form s first size made count p) {q : Press}
    (hq : Prints .body p.pending p q) : ∃ pages, IsCut s first size made q pages := by
  obtain ⟨pages, hgathered, hsizes, hmade⟩ := h.gathered
  have hlines : (p.pending :: pages).reverse.flatten = made := by
    rw [hmade]
    simp
  refine ⟨p.pending :: pages, hgathered.body hq, ?_, hlines⟩
  have htotal : fullTotal first size count + p.pending.length = made.length := by
    rw [← length_of_fullSizes hsizes, hmade, List.length_append]
  have hcut := sizes_of_last count h.room fun hne => List.length_pos_iff.mpr (h.last hne)
  rw [htotal] at hcut
  rw [List.map_cons, hsizes]
  exact hcut

theorem IsCut.endPageIfFull {pages : List (List Composed)} (h : IsCut s first size made p pages) :
    Ends (endPageIfFull form) p (fun _ q => IsCut s first size made q pages) fun _ _ => True := by
  obtain ⟨hgathered, hsizes, hlines⟩ := h
  cases pages with
  | nil => cases hsizes
  | cons page pages =>
    refine endPageIfFull_ends (fun _ => ⟨hgathered, hsizes, hlines⟩) (fun _ _ _ => ?_)
      fun _ _ => ⟨hgathered, hsizes, hlines⟩
    exact (hgathered.endPage none).mono (fun _ _ hq => ⟨hq, hsizes, hlines⟩) fun _ _ he => he

/-! ## Records -/

/-- Composing the body of the form from `s` on gives the lines `made`: those that are printed on the way, and
after them those that are left. -/
def Composes (form : Form) (s : Press) (made : List Composed) : Prop :=
  ∃ r flushed, composeAll (splitFullPage form) hold form.body (s.holding []) = (.ok made.length, r) ∧
    r.events = s.events ++ flushed ∧ made = bodyLines flushed ++ r.pending

/-- When the lines of the record are composed, they are what it `Composes`, and the last of them are still
`Underway`. -/
theorem composeAll_underway (hform : form.LeavesRoom s.page.length size) (hfirst : 0 < first)
    (hstart : Taking form s first size [] 0 (s.holding [])) :
    Ends (composeAll (splitFullPage form) hold form.body) (s.holding [])
      (fun _ r => ∃ made, Composes form s made ∧ Underway form s first size made r) fun _ _ => True := by
  have hloop := composeAll_ends (fun line (_ : line ∈ form.body) => underway_loop hform hfirst line) 0
    (s.holding []) ⟨[], rfl, .taking hstart⟩
  refine (hloop.and (ends_self _ _)).mono ?_ fun _ _ _ => trivial
  rintro count r ⟨⟨⟨made, hcount, hr⟩, -⟩, hrun⟩
  rw [Nat.zero_add] at hcount
  subst hcount
  refine ⟨made, ?_, hr⟩
  have hmade : ∃ pages, Gathered s r pages ∧ made = pages.reverse.flatten ++ r.pending := by
    cases hr with
    | taking hr =>
      obtain ⟨pages, hgathered, -, hmade⟩ := hr.gathered
      exact ⟨[] :: pages, hgathered, by simpa using hmade⟩
    | turned hr =>
      obtain ⟨pages, hgathered, -, hmade⟩ := hr.gathered
      exact ⟨pages, hgathered, hmade⟩
  obtain ⟨pages, ⟨flushed, hevents, rfl⟩, hmade⟩ := hmade
  rw [flatten_foldl_gather] at hmade
  exact ⟨r, flushed, hrun, hevents, by simpa using hmade⟩

/-- The record is cut, and not put off: the page it begins on shows no other one. -/
theorem placeRecord_cut {p : Press} (hstart : printTop form p = (.ok (), s))
    (hform : form.LeavesRoom s.page.length size) (hfirst : 0 < first)
    (hbody : s.page.bodyPrinted = false) (hleft : s.page.linesLeft = form.bandSize .bottom + first) :
    Ends (placeRecord form) p
      (fun placed q => placed = true ∧ ∃ made pages, Composes form s made ∧ IsCut s first size made q pages)
      fun _ _ => True := by
  have hbegun : Begun p s := (printTop_begun form p).of_ok hstart
  refine placeRecord_ends
    (I := fun r => ∃ made, Composes form s made ∧ Underway form s first size made r) ?_ ?_ ?_
  · rw [ends_of_eq_ok hstart]
    exact composeAll_underway hform hfirst
      (taking_start hbegun.topPending hbegun.bottomPending hbody hleft)
  · rintro r ⟨made, hmade, hr⟩ hempty htop
    cases hr with
    | taking hr =>
      rw [hr.topPending] at htop
      cases htop
    | turned hr =>
      obtain ⟨pages, hpages⟩ := hr.isCut hform.pos hempty
      exact ⟨rfl, made, pages, hmade, hpages⟩
  · rintro r ⟨made, hmade, hr⟩ hbegun
    refine (hr.printTop hform hbegun).mono ?_ fun _ _ he => he
    rintro _ t ⟨count, ht⟩
    have hroom := ht.room
    have hleft := ht.linesLeft
    refine ⟨fun _ => ?_, fun hless => ?_, fun hless => ?_⟩
    · refine (writeBody_ends _ _).mono ?_ fun _ _ he => he.elim
      rintro _ u ⟨hu, -⟩
      obtain ⟨pages, hpages⟩ := ht.isCut hu
      exact ⟨rfl, made, pages, hmade, hpages⟩
    · omega
    · omega

/-- A record is cut where its pages end.  It begins on the page at hand, which shows no record yet and has
room for `first` lines; each page begun after it has room for `size` lines beside its top, its header and its
bottom.  The lines stand on the pages in the order in which they are composed: on the page at hand as many as
it has room for, on each further page `size` of them and on the last one those that are left.  No page is
begun after them. -/
theorem record_cut {p s q : Press} {source : Source}
    (hstart : printTop form (p.withValues source) = (.ok (), s))
    (hbody : s.page.bodyPrinted = false)
    (hleft : s.page.linesLeft = form.bandSize .bottom + first) (hfirst : 0 < first)
    (hform : form.LeavesRoom s.page.length size)
    (hrecord : operate (.task form source .record) p = (.ok (), q)) :
    ∃ made more, Composes form s made ∧ q.events = s.events ++ more ∧
      (bodySheets more).flatten = made ∧
      (bodySheets more).map List.length =
        min made.length first :: chunkSizes size (made.length - first) ∧
      more.countP (· = .opened) = (made.length - first + size - 1) / size := by
  -- the first attempt prints the record, so there is no second one to look at
  have hends : Ends (printRecord form) (p.withValues source)
      (fun _ q => ∃ made pages, Composes form s made ∧ IsCut s first size made q pages)
      fun _ _ => True := by
    refine printRecord_ends
      (P := fun q => ∃ made pages, Composes form s made ∧ IsCut s first size made q pages) ?_ ?_
    · refine (placeRecord_cut hstart hform hfirst hbody hleft).mono ?_ fun _ _ he => he
      rintro placed r ⟨rfl, hr⟩
      exact ⟨fun _ => hr, fun h => by cases h⟩
    · rintro r state ⟨made, pages, hmade, hr⟩
      have hsame : IsCut s first size made (r.committed.paged (·.transition state)) pages :=
        ⟨hr.gathered, hr.sizes, hr.lines⟩
      exact hsame.endPageIfFull.mono (fun _ _ hq => ⟨made, pages, hmade, hq⟩) fun _ _ he => he
  obtain ⟨made, pages, hmade, ⟨more, hevents, rfl⟩, hsizes, hlines⟩ := hends.of_ok hrecord
  refine ⟨made, more, hmade, hevents, hlines, ?_, ?_⟩
  · rw [bodySheets, List.map_reverse]
    exact hsizes
  · have hcount := length_foldl_gather more [[]]
    have hpages := congrArg List.length hsizes
    rw [List.length_reverse, List.length_map, List.length_cons, length_chunkSizes hform.pos] at hpages
    rw [hpages, List.length_singleton] at hcount
    omega

/-- One letter of a text on each line, as long as some of it is left, on pages with a top, a header and a
bottom. -/
def letters : Form :=
  ⟨[⟨[.field ⟨.text .left 2, true⟩], true, true, ["t"], ['^', '<', '~', '~']⟩],
    [(.top, [⟨[.literal ['T']], false, false, [], ['T']⟩]),
      (.groupHeader, [⟨[.literal ['H']], false, false, [], ['H']⟩]),
      (.bottom, [⟨[.literal ['B']], false, false, [], ['B']⟩])]⟩

def sevenLetters : Source :=
  ⟨.mapping, [("t", .text ['a', ' ', 'b', ' ', 'c', ' ', 'd', ' ', 'e', ' ', 'f', ' ', 'g'])]⟩

/-- A line is written on the first page by other means, so its top is left out. -/
def lineAdded : Press := after [.control (.addLines (-1))] (start (Page.first 6) false)

/-- The press when the page for the letters is begun. -/
def lettersBegun : Press := (printTop letters (lineAdded.withValues sevenLetters)).2

/-- The press after the letters. -/
def lettersPrinted : Press := (operate (.task letters sevenLetters .record) lineAdded).2

/-- The first page takes four letters, as its top is left out, and the next one takes three. -/
theorem record_cut_letters :
    printTop letters (lineAdded.withValues sevenLetters) = (.ok (), lettersBegun) ∧
    lettersBegun.page.bodyPrinted = false ∧
    lettersBegun.page.linesLeft = letters.bandSize .bottom + (4 : Nat) ∧ 0 < 4 ∧
    letters.LeavesRoom lettersBegun.page.length 3 ∧
    operate (.task letters sevenLetters .record) lineAdded = (.ok (), lettersPrinted) ∧
    (bodySheets (lettersPrinted.events.drop lettersBegun.events.length)).map (·.map (·.text)) =
      [[['a'], ['b'], ['c'], ['d']], [['e'], ['f'], ['g']]] ∧
    ∃ made more, Composes letters lettersBegun made ∧ lettersPrinted.events = lettersBegun.events ++ more ∧
      (bodySheets more).flatten = made ∧
      (bodySheets more).map List.length = min made.length 4 :: chunkSizes 3 (made.length - 4) ∧
      more.countP (· = .opened) = (made.length - 4 + 3 - 1) / 3 := by
  have hstart : printTop letters (lineAdded.withValues sevenLetters) = (.ok (), lettersBegun) :=
    Prod.ext rfl rfl
  have hreturns : Returns (.task letters sevenLetters .record) lineAdded := by decide +kernel
  have hrecord : operate (.task letters sevenLetters .record) lineAdded = (.ok (), lettersPrinted) :=
    hreturns.operate_eq
  have hbody : lettersBegun.page.bodyPrinted = false := by decide +kernel
  have hleft : lettersBegun.page.linesLeft = letters.bandSize .bottom + (4 : Nat) := by decide +kernel
  have hform : letters.LeavesRoom lettersBegun.page.length 3 :=
    ⟨by decide, by decide, by decide +kernel, by decide⟩
  exact ⟨hstart, hbody, hleft, by decide, hform, hrecord, by decide +kernel,
    record_cut hstart hbody hleft (by decide) hform hrecord⟩

end Cut

end Press

end PictureReport
