import PictureReport.Proofs.Press.Account
import PictureReport.Proofs.Press.Headers

/-!
# Headers on demand

A header that is asked for is left out where the page shows it already and no line after it (`JustHeaded`).
That is not remembered but told from the lines that are left: they are those that the sizes of top and header
leave.  Where this tells the truth (`Telling`), the header is the last that is printed, and on no page is it
printed twice.
-/

namespace PictureReport

namespace Event

/-- Is neither a page begun or closed nor a header completed?  Such events leave `headersShown` as it is. -/
def isHeaderless : Event → Bool
  | emitted band _ => band ≠ .groupHeader
  | printed _ | flushed _ | deferred _ => true
  | opened | closed _ _ => false

end Event

namespace Form

/-- The form has a top and a group header with lines, and they print each of their lines once (`IsPlain`). -/
structure HasFront (form : Form) : Prop where
  top : (form.band? .top).isSome
  topPlain : ∀ line ∈ form.lines .top, line.IsPlain
  headerPlain : ∀ line ∈ form.lines .groupHeader, line.IsPlain
  headerSome : 0 < form.bandSize .groupHeader

end Form

namespace Press

/-! ## Headers on a page -/

/-- The page shows its top, after it the header, and no line after that. -/
def JustHeaded (form : Form) (page : List Event) : Prop :=
  ∃ top header rest, page = .opened :: (top ++ header ++ rest) ∧ Emission form .top top ∧
    Emission form .groupHeader header ∧ written rest = 0

/-- The band is printed last: no line is written after its `Emission`. -/
def ShowsLast (form : Form) (band : Band) (events : List Event) : Prop :=
  ∃ earlier shown later, events = earlier ++ shown ++ later ∧ Emission form band shown ∧ written later = 0

/-- The header is printed last, and before it the header is printed as well, with no line between the two. -/
def Doubled (form : Form) (events : List Event) : Prop :=
  ∃ earlier first rest second later, events = earlier ++ first ++ rest ++ second ++ later ∧
    Emission form .groupHeader first ∧ Emission form .groupHeader second ∧
    written rest = 0 ∧ written later = 0

/-- How many headers are completed on the page at hand; both `opened` and `closed` begin a new count. -/
def headersShown (events : List Event) : Nat :=
  events.foldl (fun count event =>
    match event with
    | .opened | .closed _ _ => 0
    | .emitted .groupHeader _ => count + 1
    | _ => count) 0

/-- No header is completed on a page that shows one: `headersShown` is zero before each. -/
def Singly (events : List Event) : Prop :=
  ∀ earlier count later, events = earlier ++ .emitted .groupHeader count :: later → headersShown earlier = 0

section Events

variable {form : Form} {band : Band} {events more : List Event}

theorem headersShown_append (h : ∀ event ∈ more, event.isHeaderless) :
    headersShown (events ++ more) = headersShown events := by
  unfold headersShown
  rw [List.foldl_append]
  generalize events.foldl _ 0 = count
  -- the count is carried along, so the induction is over what is added, for any count
  induction more with
  | nil => rfl
  | cons event more ih =>
    rw [List.forall_mem_cons] at h
    rw [List.foldl_cons]
    have hsame := ih h.2
    cases event with
    | emitted band n => cases band <;> first | exact hsame | cases h.1
    | opened => cases h.1
    | closed feed bottomPrinted => cases h.1
    | _ => exact hsame

@[simp] theorem headersShown_opened : headersShown (events ++ [.opened]) = 0 := by
  simp [headersShown]

@[simp] theorem headersShown_closed (feed bottomPrinted : Bool) :
    headersShown (events ++ [.closed feed bottomPrinted]) = 0 := by
  simp [headersShown]

theorem singly_nil : Singly [] := by
  intro earlier count later he
  simp at he

theorem Singly.append (h : Singly events) (hmore : ∀ count, .emitted .groupHeader count ∉ more) :
    Singly (events ++ more) := by
  intro earlier count later he
  rcases append_eq_append_cons he with ⟨rest, hevents, -⟩ | ⟨rest, -, hback⟩
  · exact h earlier count rest hevents
  · exact absurd (by rw [hback]; simp) (hmore count)

theorem printed_isHeaderless {lines : List Printed} {event : Event} (h : event ∈ lines.map .printed) :
    event.isHeaderless := by
  obtain ⟨line, -, rfl⟩ := List.mem_map.mp h
  rfl

theorem Emission.isHeaderless (h : Emission form band events) (hband : band ≠ .groupHeader) :
    ∀ event ∈ events, event.isHeaderless := by
  obtain ⟨lines, rfl, -⟩ := h
  rw [List.forall_mem_append]
  refine ⟨fun event he => printed_isHeaderless he, fun event he => ?_⟩
  unfold Form.marks at he
  split at he
  · rw [List.mem_singleton.mp he]
    simpa [Event.isHeaderless] using hband
  · cases he

theorem not_header_of_isHeaderless (h : ∀ event ∈ events, event.isHeaderless) (count : Nat) :
    .emitted .groupHeader count ∉ events := by
  intro hm
  have hless := h _ hm
  simp [Event.isHeaderless] at hless

/-- The header may be completed where `headersShown` is zero. -/
theorem Singly.emission (h : Singly events) (hnone : headersShown events = 0)
    (hheader : Emission form .groupHeader more) : Singly (events ++ more) := by
  obtain ⟨lines, rfl, -⟩ := hheader
  intro earlier count later he
  rcases append_eq_append_cons he with ⟨rest, hevents, -⟩ | ⟨rest, rfl, hback⟩
  · exact h earlier count rest hevents
  · -- all that is printed between is the lines of the header
    have hlines : ∀ event ∈ rest, event.isHeaderless := by
      intro event hm
      rcases append_eq_append_cons hback with ⟨rest', hprinted, -⟩ | ⟨rest', hrest, hmarks⟩
      · exact printed_isHeaderless (by rw [hprinted]; simp [hm])
      · unfold Form.marks at hmarks
        split at hmarks
        · obtain ⟨rfl, -⟩ := (List.append_eq_singleton_iff.mp hmarks.symm).resolve_right (by simp)
          rw [hrest, List.append_nil] at hm
          exact printed_isHeaderless hm
        · simp at hmarks
    rw [headersShown_append hlines, hnone]

theorem Emission.closes (h : Emission form band events) : ∀ event ∈ events, event.closes = false := by
  obtain ⟨lines, rfl, -⟩ := h
  rw [List.forall_mem_append]
  exact ⟨fun event he => printed_closes he, fun event he => marks_closes he⟩

/-- A band that prints each of its lines once writes `bandSize` lines. -/
theorem Emission.written (h : Emission form band events)
    (hplain : ∀ line ∈ form.lines band, line.IsPlain) : written events = form.bandSize band := by
  obtain ⟨lines, rfl, -, -, -, hsize⟩ := h
  rw [written_append, written_printed, written_marks, Nat.add_zero]
  exact hsize hplain

/-- The page at hand, `sheet events`, is the end of the log. -/
theorem exists_sheet (events : List Event) : ∃ earlier, events = earlier ++ sheet events := by
  -- the page at hand is cut off at the last event that closes one
  induction events using List.reverseRecOn with
  | nil => exact ⟨[], rfl⟩
  | append_singleton events event ih =>
    obtain ⟨earlier, he⟩ := ih
    cases hcloses : event.closes with
    | true =>
      have hsheet : sheet (events ++ [event]) = [] := by simp [sheet, hcloses]
      exact ⟨events ++ [event], by rw [hsheet, List.append_nil]⟩
    | false =>
      refine ⟨earlier, ?_⟩
      rw [sheet_append (by simpa using hcloses), ← List.append_assoc, ← he]

/-- A band that has lines and is printed last ends with one of them, so `ShowsLast` shows in the last line. -/
theorem ShowsLast.last (hplain : ∀ line ∈ form.lines band, line.IsPlain) (hsome : 0 < form.bandSize band)
    (h : ShowsLast form band events) :
    ∃ line, (events.filterMap Event.line?).getLast? = some line ∧ line.origin = .band band := by
  obtain ⟨earlier, _, later, rfl, ⟨lines, rfl, horigin, -, -, hsize⟩, hnone⟩ := h
  have hlines : (lines.map Event.printed ++ form.marks band lines.length).filterMap Event.line? = lines := by
    have hmarks : (form.marks band lines.length).filterMap Event.line? = [] := by
      unfold Form.marks
      split <;> rfl
    rw [List.filterMap_append, hmarks, List.append_nil, List.filterMap_map]
    exact List.filterMap_some
  have hlater : later.filterMap Event.line? = [] := List.eq_nil_of_length_eq_zero hnone
  have hne : lines ≠ [] := by
    rintro rfl
    rw [← hsize hplain] at hsome
    cases hsome
  refine ⟨lines.getLast hne, ?_, horigin _ (List.getLast_mem hne)⟩
  rw [List.filterMap_append, List.filterMap_append, hlater, hlines, List.append_nil,
    List.getLast?_append, List.getLast?_eq_some_getLast hne, Option.some_or]

theorem JustHeaded.showsLast (h : JustHeaded form (sheet events)) (hmore : written more = 0) :
    ShowsLast form .groupHeader (events ++ more) := by
  obtain ⟨top, header, rest, hpage, -, hheader, hrest⟩ := h
  obtain ⟨earlier, he⟩ := exists_sheet events
  rw [hpage] at he
  refine ⟨earlier ++ .opened :: top, header, rest ++ more, ?_, hheader, by rw [written_append, hrest, hmore]⟩
  rw [he]
  simp

end Events

/-! ## Pages that are not begun -/

/-- A page that is not begun shows nothing, and a bottom is due only on one that is begun. -/
structure Tidy (p : Press) : Prop where
  bare : p.page.topPending = true → sheet p.events = []
  due : p.page.bottomPending = true → p.page.topPending = false

section Tidy

variable {form : Form} {p q : Press}

theorem Tidy.same (h : Tidy p) (he : q.events = p.events) (htop : q.page.topPending = p.page.topPending)
    (hbottom : q.page.bottomPending = p.page.bottomPending) : Tidy q :=
  ⟨by rw [he, htop]; exact h.bare, by rw [htop, hbottom]; exact h.due⟩

theorem tidy_of_begun (ht : p.page.topPending = false) : Tidy p :=
  ⟨fun h => (by rw [ht] at h; cases h), fun _ => ht⟩

theorem Tidy.prints (h : Tidy p) {origin : Origin} {lines : List Composed}
    (hlines : lines ≠ [] → p.page.topPending = false) (hq : Prints origin lines p q) : Tidy q := by
  by_cases hne : lines = []
  · subst hne
    refine h.same (by simp [hq.events, printing]) ?_ ?_ <;> rw [hq.page] <;> rfl
  · refine tidy_of_begun ?_
    rw [hq.page]
    exact hlines hne

theorem endPage_tidy (feed : Option Bool) (ht : p.page.topPending = false) :
    Ends (endPage form feed) p (fun _ q => Tidy q) fun _ q => Tidy q := by
  refine endPage_ends (fun made q hq => ⟨fun _ => ?_, fun hb => ?_⟩) fun fault made q hq => tidy_of_begun ?_
  · rw [events_closed, sheet_closed]
  · simp at hb
  · rw [hq.emits.prints.page]
    exact ht

theorem Tidy.openPage (h : Tidy p) :
    Ends (openPage form) p (fun _ q => Tidy q) fun _ q => Tidy q := by
  have hbegun : p.page.topPending = true → ∀ {band n} {q : Press},
      q.page = p.opened.page.taking (.band band) n → q.page.topPending = false := by
    intro ht band n q hq
    rw [hq, page_opened ht]
    rfl
  refine openPage_ends (fun _ => h) (fun ht _ => ?_) ?_ ?_ ?_ ?_
  · exact tidy_of_begun (by rw [page_opened ht])
  · exact fun ht _ made q hq _ => tidy_of_begun (hbegun ht hq.page)
  · intro ht _ made q hq _ made' r hr
    refine tidy_of_begun ?_
    rw [hr.page]
    exact hbegun ht hq.page
  · exact fun ht _ fault made q hq => tidy_of_begun (hbegun ht hq.emits.prints.page)
  · intro ht _ made q hq _ fault made' r hr
    refine tidy_of_begun ?_
    rw [hr.emits.prints.page]
    exact hbegun ht hq.page

theorem tidy_pages (form : Form) : PageSteps form Tidy fun _ q => Tidy q where
  due := fun p ht _ => tidy_of_begun (p := p.due) ht
  endPage := fun _ ht _ => endPage_tidy none ht
  printTop := fun _ h => printTop_keeps (fun _ hq => hq.due) (fun _ ht _ => endPage_tidy none ht)
    (fun _ _ hq => hq.openPage) h

theorem tidy_records (form : Form) : RecordSteps form Tidy fun _ q => Tidy q where
  toPageSteps := tidy_pages form
  desk := fun _ _ h => h.same rfl rfl rfl
  holding := fun _ _ h => h.same rfl rfl rfl
  moved := fun _ _ h => h.same rfl rfl rfl
  flushed := fun _ _ ht _ => tidy_of_begun ht
  deferred := fun _ _ ht _ => tidy_of_begun ht
  body := fun _ _ _ hlines hq h => h.prints hlines hq
  fault := fun _ _ h => h

theorem tidy_bands (form : Form) : BandSteps form Tidy fun _ q => Tidy q where
  toPageSteps := tidy_pages form
  finish := fun p q feed ht hq _ => endPage_tidy (some feed) (by rw [hq.page]; exact ht)
  band := fun _ _ p q _ _ ht _ hq _ => tidy_of_begun (by rw [hq.page]; exact ht)
  partly := fun _ _ _ p q _ _ ht _ hq _ => tidy_of_begun (by rw [hq.emits.prints.page]; exact ht)
  summary := fun _ h => h.same rfl rfl rfl

theorem operate_tidy (form : Form) (source : Source) (task : Task) (h : Tidy p) :
    Ends (operate (.task form source task)) p (fun _ q => Tidy q) fun _ q => Tidy q := by
  simp only [operate, ends_bind, ends_modify]
  have hvalues : Tidy (p.withValues source) := h.same rfl rfl rfl
  exact (tidy_bands form).task (fun _ hq => (tidy_records form).printRecord hq) task hvalues

theorem after_tidy {form : Form} (length : Int) (formFeed : Bool) {operations : List Operation}
    (hof : ∀ operation ∈ operations, operation.Calls form fun _ => True) :
    Tidy (after operations (start (Page.first length) formFeed)) := by
  refine after_induction (fun operation ho p hp => ?_) _ ⟨fun _ => rfl, fun hb => by cases hb⟩
  obtain ⟨source, task, rfl, -⟩ := hof operation ho
  exact operate_tidy form source task hp

end Tidy

/-! ## Making room -/

/-- Since the log was `before` no header is completed twice on a page (`Singly`), and one on the page at hand
is all that it shows below its top (`JustHeaded`). -/
structure Single (form : Form) (before : List Event) (p : Press) : Prop where
  tidy : Tidy p
  since : ∃ more, p.events = before ++ more ∧ Singly more ∧
    (headersShown more = 0 ∨ JustHeaded form (sheet p.events))

section Single

variable {form : Form} {before : List Event} {p q : Press}

/-- Where a page is closed its headers no longer count, so what `endPage` leaves is `Single` again. -/
theorem endPage_single (feed : Option Bool) (ht : p.page.topPending = false)
    (h : ∃ more, p.events = before ++ more ∧ Singly more) :
    Ends (endPage form feed) p (fun _ q => Single form before q) fun _ _ => True := by
  obtain ⟨more, he, hmore⟩ := h
  have hclosed : Ends (endPage form feed) p (fun _ q => ∃ closing, q.events = p.events ++ closing ∧
      (∀ count, .emitted .groupHeader count ∉ closing) ∧ headersShown (more ++ closing) = 0)
      fun _ _ => True := by
    refine endPage_ends (fun made q hq => ?_) fun _ _ _ _ => trivial
    obtain ⟨bottom, hevents, hbottom⟩ := hq.exists_emission
    refine ⟨bottom ++ [.closed (feed.getD p.formFeed) (0 < made.length)], ?_, fun count hm => ?_, ?_⟩
    · rw [events_closed, hevents, events_due, List.append_assoc]
    · rcases List.mem_append.mp hm with hm | hm
      · exact not_header_of_isHeaderless (hbottom.isHeaderless (by simp)) count hm
      · simp at hm
    · rw [← List.append_assoc, headersShown_closed]
  refine (hclosed.and (endPage_tidy feed ht)).mono ?_ fun _ _ _ => trivial
  rintro _ q ⟨⟨closing, hq, hnone, hshown⟩, htidy⟩
  exact ⟨htidy, more ++ closing, by rw [hq, he, List.append_assoc], hmore.append hnone, .inl hshown⟩

theorem Single.openPage (h : Single form before p) :
    Ends (Press.openPage form) p (fun _ q => Single form before q) fun _ _ => True := by
  obtain ⟨more, he, hmore, hshown⟩ := h.since
  have hbegun : Ends (Press.openPage form) p (fun _ q => ∃ more, q.events = before ++ more ∧ Singly more ∧
      (headersShown more = 0 ∨ JustHeaded form (sheet q.events))) fun _ _ => True := by
    have hopened : Singly (more ++ [.opened]) := hmore.append (by simp)
    have hevents : p.opened.events = before ++ (more ++ [.opened]) := by
      rw [events_opened, he, List.append_assoc]
    refine openPage_ends (fun _ => ⟨more, he, hmore, hshown⟩) (fun _ _ => ?_) ?_ ?_
      (fun _ _ _ _ _ _ => trivial) fun _ _ _ _ _ _ _ _ _ _ => trivial
    · exact ⟨more ++ [.opened], hevents, hopened, .inl headersShown_opened⟩
    · intro _ _ made q hq _
      obtain ⟨top, hevents', htop⟩ := hq.exists_emission
      have hless := htop.isHeaderless (by simp)
      refine ⟨more ++ [.opened] ++ top, ?_, hopened.append (not_header_of_isHeaderless hless),
        .inl ((headersShown_append hless).trans headersShown_opened)⟩
      rw [hevents', hevents, List.append_assoc]
    · intro ht _ made q hq _ made' r hr
      obtain ⟨top, hevents', htop⟩ := hq.exists_emission
      obtain ⟨header, hevents'', hheader⟩ := hr.exists_emission
      have hless := htop.isHeaderless (by simp)
      have hsingle := (hopened.append (not_header_of_isHeaderless hless)).emission
        ((headersShown_append hless).trans headersShown_opened) hheader
      refine ⟨_, ?_, hsingle, .inr ⟨top, header, [], ?_, htop, hheader, rfl⟩⟩
      · rw [hevents'', hevents', hevents]
        simp only [List.append_assoc]
      · -- the page was bare, so all it shows is the top and the header
        have hpage : r.events = p.events ++ ([.opened] ++ top ++ header) := by
          rw [hevents'', hevents', events_opened]
          simp only [List.append_assoc]
        rw [hpage, sheet_append, h.tidy.bare ht]
        · simp
        · simpa [or_imp, forall_and, Event.closes] using ⟨htop.closes, hheader.closes⟩
  refine (hbegun.and h.tidy.openPage).mono ?_ fun _ _ _ => trivial
  exact fun _ q hq => ⟨hq.2, hq.1⟩

theorem Single.printTop (h : Single form before p) :
    Ends (Press.printTop form) p (fun _ q => Single form before q) fun _ _ => True := by
  obtain ⟨more, he, hmore, -⟩ := h.since
  refine printTop_ends (fun hb => ?_) fun _ => h.openPage
  exact (endPage_single none (h.tidy.due hb) ⟨more, he, hmore⟩).mono (fun _ _ hq => hq.openPage)
    fun _ _ he => he

theorem Single.skipPage (h : Single form before p) :
    Ends (Press.skipPage form) p (fun _ q => Single form before q) fun _ _ => True := by
  obtain ⟨more, he, hmore, -⟩ := h.since
  simp only [Press.skipPage, ends_bind, ends_get]
  refine finishPage_ends (fun _ => h) fun ht q hq _ => ?_
  have hevents := hq.events
  rw [he, List.append_assoc] at hevents
  refine endPage_single _ ?_ ⟨_, hevents, hmore.append (by simp)⟩
  rw [hq.page]
  exact ht

theorem Single.makeRoom (size : Nat) (h : Single form before p) :
    Ends (Press.makeRoom form size) p (fun _ q => Single form before q) fun _ _ => True := by
  simp only [Press.makeRoom, ends_bind, ends_get]
  refine h.printTop.mono (fun _ q hq => ?_) fun _ _ he => he
  rw [ends_ite]
  split
  · simp only [ends_bind]
    exact hq.skipPage.mono (fun _ _ hr => hr.printTop) fun _ _ he => he
  · exact hq

end Single

/-! ## Printing the header -/

/-- The test of the source, `linesLeft` against the sizes of top and header, is true exactly on a page that
shows the header already and no line after it. -/
def Telling (form : Form) (p : Press) : Prop :=
  (form.bandSize .top + form.bandSize .groupHeader + p.page.linesLeft = p.page.length ↔
    JustHeaded form (sheet p.events))

section Requests

variable {form : Form} {p q : Press}

/-- `endPageIfFull` writes no line and completes no header: it closes the page, or marks its bottom as due. -/
theorem endPageIfFull_closing (p : Press) :
    Ends (endPageIfFull form) p (fun _ q => ∃ closing, q.events = p.events ++ closing ∧
      written closing = 0 ∧ ∀ count, .emitted .groupHeader count ∉ closing) fun _ _ => True := by
  refine endPageIfFull_ends (fun _ => ⟨[], by simp⟩) (fun _ _ hbottom => ?_) fun _ _ => ⟨[], by simp⟩
  refine endPage_ends (fun made q hq => ?_) fun _ _ _ _ => trivial
  obtain rfl := hq.absent hbottom
  refine ⟨[.closed (p.formFeed) false], ?_, rfl, by simp⟩
  rw [events_closed, hq.events]
  simp [printing, Form.marks, hbottom]

/-- `printGroupHeader` makes room for the header, and prints it unless the lines that are left say that it
was. -/
theorem printGroupHeader_ends (hsome : 0 < form.bandSize .groupHeader) {Q : Unit → Press → Prop}
    (hshown : ∀ room, makeRoom form (form.bandSize .groupHeader) p = (.ok (), room) →
      form.bandSize .top + form.bandSize .groupHeader + room.page.linesLeft = room.page.length →
      Ends (endPageIfFull form) room Q fun _ _ => True)
    (hdue : ∀ room, makeRoom form (form.bandSize .groupHeader) p = (.ok (), room) →
      form.bandSize .top + form.bandSize .groupHeader + room.page.linesLeft ≠ room.page.length →
      ∀ made q, Whole form .groupHeader made room q → Ends (endPageIfFull form) q Q fun _ _ => True) :
    Ends (printGroupHeader form) p Q fun _ _ => True := by
  cases hheader : form.band? .groupHeader with
  | none => simp [Form.bandSize, hheader] at hsome
  | some header =>
    have hsize : form.bandSize .groupHeader = header.length := by simp [Form.bandSize, hheader]
    rw [hsize] at hshown hdue
    simp only [printGroupHeader, hheader, ends_bind, ends_get]
    refine (ends_self _ p).mono (fun _ room hroom => ?_) fun _ _ _ => trivial
    rw [ends_ite]
    split
    · rename_i hne
      simp only [ends_bind]
      exact emitBand_whole hheader (fun made q hq => hdue room hroom (by simpa using hne) made q hq)
        fun _ _ _ _ => trivial
    · rename_i heq
      exact hshown room hroom (by simpa using heq)

/-- A page that is begun shows top and header, and `linesLeft` is the length without them and the lines after
them. -/
structure Fronted (form : Form) (p : Press) : Prop where
  tidy : Tidy p
  fresh : p.page.topPending = true → p.page.linesLeft = p.page.length
  front : p.page.topPending = false → ∃ top header rest,
    sheet p.events = .opened :: (top ++ header ++ rest) ∧ Emission form .top top ∧
    Emission form .groupHeader header ∧
    form.bandSize .top + form.bandSize .groupHeader + written rest + p.page.linesLeft = p.page.length

end Requests

section Fronted

variable {form : Form} {p q : Press}

/-- On a page with top and header the test is `Telling`: `linesLeft` counts just the lines below the header.
-/
theorem Fronted.telling (hform : form.HasFront) (h : Fronted form p) (ht : p.page.topPending = false) :
    Telling form p := by
  obtain ⟨top, header, rest, hpage, htops, hheaders, hleft⟩ := h.front ht
  constructor
  · exact fun heq => ⟨top, header, rest, hpage, htops, hheaders, by omega⟩
  · rintro ⟨top', header', rest', hpage', htops', hheaders', hnone⟩
    have hsame : written (top ++ header ++ rest) = written (top' ++ header' ++ rest') := by
      rw [hpage] at hpage'
      rw [(List.cons.inj hpage').2]
    -- the page has one list of events, so both ways to divide it write as many lines
    simp only [written_append, htops.written hform.topPlain, htops'.written hform.topPlain,
      hheaders.written hform.headerPlain, hheaders'.written hform.headerPlain, hnone] at hsame
    omega

/-- A page that goes on stays `Fronted`: what is written on it is taken from `linesLeft`. -/
theorem Fronted.grow (h : Fronted form p) {more : List Event} (he : q.events = p.events ++ more)
    (hmore : ∀ event ∈ more, event.closes = false) (ht : p.page.topPending = false)
    (htop : q.page.topPending = p.page.topPending) (hlength : q.page.length = p.page.length)
    (hleft : q.page.linesLeft = p.page.linesLeft - written more) : Fronted form q := by
  rw [ht] at htop
  obtain ⟨top, header, rest, hpage, htops, hheaders, hcount⟩ := h.front ht
  refine ⟨tidy_of_begun htop, fun h => (by rw [htop] at h; cases h), fun _ => ?_⟩
  refine ⟨top, header, rest ++ more, ?_, htops, hheaders, ?_⟩
  · rw [he, sheet_append hmore, hpage]
    simp
  · rw [hlength, hleft, written_append]
    omega

theorem Fronted.same (h : Fronted form p) (he : q.events = p.events)
    (hpage : q.page.length = p.page.length ∧ q.page.linesLeft = p.page.linesLeft ∧
      q.page.topPending = p.page.topPending ∧ q.page.bottomPending = p.page.bottomPending) :
    Fronted form q := by
  obtain ⟨hlength, hleft, htop, hbottom⟩ := hpage
  refine ⟨h.tidy.same he htop hbottom, ?_, ?_⟩
  · rw [htop, hleft, hlength]
    exact h.fresh
  · rw [htop, he, hleft, hlength]
    exact h.front

theorem Fronted.noted (h : Fronted form p) (ht : p.page.topPending = false) {event : Event}
    (hc : event.closes = false) (hl : event.line? = none) : Fronted form (p.noted event) := by
  refine h.grow (events_noted p event) (by simpa using hc) ht rfl rfl ?_
  simp [written, hl]

theorem Fronted.prints (h : Fronted form p) {origin : Origin} {lines : List Composed}
    (hlines : lines ≠ [] → p.page.topPending = false) (hq : Prints origin lines p q) : Fronted form q := by
  by_cases hne : lines = []
  · subst hne
    refine h.same (by simp [hq.events, printing]) ?_
    rw [hq.page]
    simp [Page.taking]
  · refine h.grow hq.events (fun _ he => printed_closes he) (hlines hne) ?_ ?_ ?_ <;> rw [hq.page]
    · rfl
    · rfl
    · simp [Page.taking]

theorem Fronted.whole (h : Fronted form p) (ht : p.page.topPending = false) {band : Band}
    {made : List Composed} (hq : Whole form band made p q) : Fronted form q := by
  refine h.grow (by rw [hq.events, List.append_assoc]) (fun _ he => Whole.closes he) ht ?_ ?_ ?_ <;> rw [hq.page]
  · rfl
  · rfl
  · simp [Page.taking]

theorem endPage_fronted (feed : Option Bool) (ht : p.page.topPending = false) :
    Ends (endPage form feed) p (fun _ q => Fronted form q) fun _ _ => True := by
  refine ((endPage_tidy feed ht).and (endPage_between form feed p)).mono ?_ fun _ _ _ => trivial
  rintro _ q ⟨htidy, hq⟩
  refine ⟨htidy, fun _ => hq.linesLeft.trans hq.length.symm, fun h => ?_⟩
  rw [hq.topPending] at h
  cases h

theorem Fronted.openPage (hform : form.HasFront) (h : Fronted form p) :
    Ends (Press.openPage form) p (fun _ q => Fronted form q) fun _ _ => True := by
  refine openPage_ends (fun _ => h) (fun ht hf => ?_) ?_ ?_ (fun _ _ _ _ _ _ => trivial)
    fun _ _ _ _ _ _ _ _ _ _ => trivial
  · -- a page that is not begun is fresh
    have hleft := h.fresh ht
    simp [Page.isFresh, hleft] at hf
  · -- the header cannot be left out: it has lines, so the top alone has fewer than both
    intro ht hf made q hq hbare
    refine absurd ((headerDue_iff hform.headerSome ht hf hq hform.top).mpr ?_) hbare
    have hsome := hform.headerSome
    rw [hq.size hform.topPlain, Form.frontSize]
    omega
  · intro ht hf made q hq _ made' r hr
    obtain ⟨top, hevents, htops⟩ := hq.exists_emission
    obtain ⟨header, hevents', hheaders⟩ := hr.exists_emission
    have hpage : r.page.topPending = false ∧ r.page.length = p.page.length ∧
        r.page.linesLeft = p.page.linesLeft - made.length - made'.length := by
      rw [hr.page, hq.page, page_opened ht]
      exact ⟨rfl, rfl, rfl⟩
    have hshown : r.events = p.events ++ ([.opened] ++ top ++ header) := by
      rw [hevents', hevents, events_opened]
      simp only [List.append_assoc]
    refine ⟨tidy_of_begun hpage.1, fun h => ?_, fun _ => ⟨top, header, [], ?_, htops, hheaders, ?_⟩⟩
    · rw [hpage.1] at h
      cases h
    · rw [hshown, sheet_append, h.tidy.bare ht]
      · simp
      · simpa [or_imp, forall_and, Event.closes] using ⟨htops.closes, hheaders.closes⟩
    · rw [hpage.2.1, hpage.2.2, hq.size hform.topPlain, hr.size hform.headerPlain, h.fresh ht, written_nil]
      omega

theorem fronted_pages (hform : form.HasFront) : PageSteps form (Fronted form) fun _ _ => True where
  due := fun p ht h =>
    have he : p.due.events = p.events ++ [] := (List.append_nil _).symm
    h.grow he (by simp) ht rfl rfl (by simp)
  endPage := fun _ ht _ => endPage_fronted none ht
  printTop := fun _ h => printTop_keeps (fun _ hq => hq.tidy.due) (fun _ ht _ => endPage_fronted none ht)
    (fun _ _ hq => hq.openPage hform) h

theorem fronted_records (hform : form.HasFront) : RecordSteps form (Fronted form) fun _ _ => True where
  toPageSteps := fronted_pages hform
  desk := fun _ _ h => h.same rfl ⟨rfl, rfl, rfl, rfl⟩
  holding := fun _ _ h => h.same rfl ⟨rfl, rfl, rfl, rfl⟩
  moved := fun _ _ h => h.same rfl ⟨rfl, rfl, rfl, rfl⟩
  flushed := fun _ _ ht h => h.noted ht rfl rfl
  deferred := fun _ _ ht h => h.noted ht rfl rfl
  body := fun _ _ _ hlines hq h => h.prints hlines hq
  fault := fun _ _ _ => trivial

theorem fronted_bands (hform : form.HasFront) : BandSteps form (Fronted form) fun _ _ => True where
  toPageSteps := fronted_pages hform
  finish := fun p q feed ht hq _ => endPage_fronted (some feed) (by rw [hq.page]; exact ht)
  band := fun _ _ _ _ _ _ ht _ hq h => h.whole ht hq
  partly := fun _ _ _ _ _ _ _ _ _ _ _ => trivial
  summary := fun _ h => h.same rfl ⟨rfl, rfl, rfl, rfl⟩

/-- Calls that return keep the pages `Fronted`. -/
theorem after_fronted (hform : form.HasFront) (length : Int) (formFeed : Bool) {operations : List Operation}
    (hof : ∀ operation ∈ operations, operation.Calls form fun _ => True)
    (hreturns : Throughout Returns operations (start (Page.first length) formFeed)) :
    Fronted form (after operations (start (Page.first length) formFeed)) := by
  refine Throughout.induction (fun operation ho p hr hp => ?_) _ hreturns
    ⟨⟨fun _ => rfl, fun hb => by cases hb⟩, fun _ => rfl, fun ht => by cases ht⟩
  obtain ⟨source, task, rfl, -⟩ := hof operation ho
  have hends : Ends (operate (.task form source task)) p (fun _ q => Fronted form q) fun _ _ => True := by
    simp only [operate, ends_bind, ends_modify]
    have hvalues : Fronted form (p.withValues source) := hp.same rfl ⟨rfl, rfl, rfl, rfl⟩
    exact (fronted_bands hform).task (fun _ hq => (fronted_records hform).printRecord hq) task hvalues
  exact Ends.of_returns hends hr

end Fronted

/-! ## Calls for the header -/

/-- The press when it is seen whether the header that is asked for is to be printed, after `makeRoom`. -/
def roomForHeader (form : Form) (source : Source) (p : Press) : Press :=
  (makeRoom form (form.bandSize .groupHeader) (p.withValues source)).2

section Requests

variable {form : Form} {p : Press}

/-- What a call for the header that returns has printed: `more` until there is room for it, then the header
unless the lines that are left say that it was printed, then `closing`. -/
structure Requested (form : Form) (p room q : Press) (more shown closing : List Event) : Prop where
  begun : room.events = p.events ++ more
  printed : q.events = room.events ++ shown ++ closing
  singly : Singly more
  once : headersShown more = 0 ∨ JustHeaded form (sheet room.events)
  closing : written closing = 0 ∧ ∀ count, .emitted .groupHeader count ∉ closing
  shown : if form.bandSize .top + form.bandSize .groupHeader + room.page.linesLeft = room.page.length
    then shown = [] else Emission form .groupHeader shown

theorem requestHeader_ends (hsome : 0 < form.bandSize .groupHeader) (hp : Tidy p) (source : Source) :
    Ends (operate (.task form source .groupHeader)) p
      (fun _ q => makeRoom form (form.bandSize .groupHeader) (p.withValues source) =
          (.ok (), roomForHeader form source p) ∧
        ∃ more shown closing, Requested form p (roomForHeader form source p) q more shown closing)
      fun _ _ => True := by
  have hstart : Single form p.events (p.withValues source) :=
    ⟨hp.same rfl rfl rfl, [], (List.append_nil _).symm, singly_nil, .inl rfl⟩
  have hmade : ∀ room, makeRoom form (form.bandSize .groupHeader) (p.withValues source) = (.ok (), room) →
      roomForHeader form source p = room ∧ Single form p.events room :=
    fun room hrun => ⟨congrArg Prod.snd hrun, (hstart.makeRoom _).of_ok hrun⟩
  simp only [operate, Task.run, ends_bind, ends_modify]
  refine printGroupHeader_ends hsome ?_ ?_
  · intro room hrun heq
    obtain ⟨hsame, hroom⟩ := hmade room hrun
    obtain ⟨more, hevents, hsingly, hshown⟩ := hroom.since
    refine (endPageIfFull_closing room).mono ?_ fun _ _ he => he
    rintro _ q ⟨closing, hq, hclosing⟩
    rw [hsame]
    exact ⟨hrun, more, [], closing, hevents, by simpa using hq, hsingly, hshown, hclosing, by rw [if_pos heq]⟩
  · intro room hrun hne made q hq
    obtain ⟨hsame, hroom⟩ := hmade room hrun
    obtain ⟨more, hevents, hsingly, hshown⟩ := hroom.since
    obtain ⟨header, hprinted, hheader⟩ := hq.exists_emission
    refine (endPageIfFull_closing q).mono ?_ fun _ _ he => he
    rintro _ r ⟨closing, hr, hclosing⟩
    rw [hsame]
    exact ⟨hrun, more, header, closing, hevents, by rw [hr, hprinted], hsingly, hshown, hclosing,
      by rwa [if_neg hne]⟩

section Requested

variable {room q : Press} {more shown closing : List Event}

theorem Requested.showsLast (h : Requested form p room q more shown closing) (htelling : Telling form room) :
    ShowsLast form .groupHeader q.events := by
  have hshown := h.shown
  rw [h.printed]
  split at hshown
  · rename_i heq
    rw [hshown, List.append_nil]
    exact (htelling.mp heq).showsLast h.closing.1
  · exact ⟨room.events, shown, closing, rfl, hshown, h.closing.1⟩

theorem Requested.prints_once (h : Requested form p room q more shown closing) (htelling : Telling form room) :
    ∃ printed, q.events = p.events ++ printed ∧ Singly printed := by
  refine ⟨more ++ shown ++ closing, by rw [h.printed, h.begun]; simp, Singly.append ?_ h.closing.2⟩
  have hshown := h.shown
  split at hshown
  · rw [hshown, List.append_nil]
    exact h.singly
  · rename_i hne
    exact h.singly.emission (h.once.resolve_right fun hjust => hne (htelling.mpr hjust)) hshown

theorem Requested.leaves_out (h : Requested form p room q more shown closing) (htelling : Telling form room)
    (hjust : JustHeaded form (sheet room.events)) :
    ∃ closing, q.events = room.events ++ closing ∧ written closing = 0 := by
  have hshown := h.shown
  rw [if_pos (htelling.mpr hjust)] at hshown
  exact ⟨closing, by rw [h.printed, hshown, List.append_nil], h.closing.1⟩

/-- Where the test is not `Telling`, the header is missing or it is `Doubled`. -/
theorem Requested.misled (h : Requested form p room q more shown closing) (hfalse : ¬ Telling form room) :
    (¬ JustHeaded form (sheet room.events) ∧
      ∃ closing, q.events = room.events ++ closing ∧ written closing = 0) ∨ Doubled form q.events := by
  have hshown := h.shown
  split at hshown
  · rename_i heq
    refine .inl ⟨fun hjust => hfalse ⟨fun _ => hjust, fun _ => heq⟩, closing, ?_, h.closing.1⟩
    rw [h.printed, hshown, List.append_nil]
  · rename_i hne
    have hjust : JustHeaded form (sheet room.events) := by
      by_contra hnot
      exact hfalse ⟨fun heq => absurd heq hne, fun hjust => absurd hjust hnot⟩
    obtain ⟨top, header, rest, hpage, -, hheader, hrest⟩ := hjust
    -- the page shows the header, and the call prints it once more
    obtain ⟨earlier, hevents⟩ := exists_sheet room.events
    refine .inr ⟨earlier ++ .opened :: top, header, rest, shown, closing, ?_, hheader, hshown, hrest,
      h.closing.1⟩
    rw [h.printed, hevents, hpage]
    simp

end Requested

/-- A header is asked for, whatever was printed before and whichever calls failed.  Where the lines that are
left tell the truth about the page, the header is the last that is printed, the call prints it on no page
twice, and not at all on a page that shows it already and no line after it.  They do tell the truth if there is
a top, it prints each of its lines once and no call failed.  Where they mislead, the call prints no header on a
page that does not show it so, or it prints the header once more right below itself. -/
theorem requested_header {form : Form} (hheader : ∀ line ∈ form.lines .groupHeader, line.IsPlain)
    (hsome : 0 < form.bandSize .groupHeader) (length : Int) (formFeed : Bool) (operations : List Operation)
    (hof : ∀ operation ∈ operations, operation.Calls form fun _ => True) (source : Source)
    (hreturns : Returns (.task form source .groupHeader)
      (after operations (start (Page.first length) formFeed))) :
    let press := after operations (start (Page.first length) formFeed)
    let room := roomForHeader form source press
    let next := (operate (.task form source .groupHeader) press).2
    (Telling form room →
      ShowsLast form .groupHeader next.events ∧
      (∃ printed, next.events = press.events ++ printed ∧ Singly printed) ∧
      (JustHeaded form (sheet room.events) →
        ∃ closing, next.events = room.events ++ closing ∧ written closing = 0)) ∧
    ((form.band? .top).isSome → (∀ line ∈ form.lines .top, line.IsPlain) →
      Throughout Returns operations (start (Page.first length) formFeed) → Telling form room) ∧
    (¬ Telling form room →
      (¬ JustHeaded form (sheet room.events) ∧
        ∃ closing, next.events = room.events ++ closing ∧ written closing = 0) ∨
      Doubled form next.events) := by
  intro press room next
  obtain ⟨hrun, more, shown, closing, h⟩ := Ends.of_returns
    (requestHeader_ends hsome (after_tidy length formFeed hof) source) hreturns
  refine ⟨fun htelling => ⟨h.showsLast htelling, h.prints_once htelling, h.leaves_out htelling⟩,
    fun htop hplain hall => ?_, h.misled⟩
  have hform : form.HasFront := ⟨htop, hplain, hheader, hsome⟩
  have hvalues : Fronted form (press.withValues source) :=
    (after_fronted hform length formFeed hof hall).same rfl ⟨rfl, rfl, rfl, rfl⟩
  have hroom := ((fronted_bands hform).makeRoom _ hvalues).of_ok hrun
  exact hroom.1.telling hform hroom.2.1

/-- A record of one field, a header of one line, and the bands `top` before it. -/
def headedBelow (top : List (Band × List PictureLine)) : Form :=
  ⟨[⟨[.field ⟨.text .left 2, false⟩], false, false, ["x"], ['@', '<']⟩],
    top ++ [(.groupHeader, [⟨[.literal ['=', '=']], false, false, [], ['=', '=']⟩])]⟩

/-- `headedBelow` a top of one line. -/
def titled : Form := headedBelow [(.top, [⟨[.literal ['T']], false, false, [], ['T']⟩])]

/-- `headedBelow` no top. -/
def untitled : Form := headedBelow []

/-- `headedBelow` a top of one line that is left out where its value is blank. -/
def blankTitled : Form :=
  headedBelow [(.top, [⟨[.field ⟨.text .left 2, false⟩], true, false, ["t"], ['~', '@', '<']⟩])]

def oneRecord (form : Form) : List Operation := [.task form ⟨.mapping, [("x", .text ['r'])]⟩ .record]

theorem oneRecord_of (form : Form) :
    ∀ operation ∈ oneRecord form, operation.Calls form fun _ => True :=
  Operation.calls_of_mem_map [.record] fun _ _ => trivial

/-- The header is printed below a record under the top of `titled`. -/
theorem requested_header_titled :
    (∀ line ∈ titled.lines .groupHeader, line.IsPlain) ∧ 0 < titled.bandSize .groupHeader ∧
    (∀ operation ∈ oneRecord titled, operation.Calls titled fun _ => True) ∧
    let press := after (oneRecord titled) (start (Page.first 6) false)
    let next := (operate (.task titled ⟨.mapping, []⟩ .groupHeader) press).2
    Returns (.task titled ⟨.mapping, []⟩ .groupHeader) press ∧
    next.lines = [['T'], ['=', '='], ['r'], ['=', '=']] ∧
    Telling titled (roomForHeader titled ⟨.mapping, []⟩ press) ∧
    ShowsLast titled .groupHeader next.events ∧
    ∃ printed, next.events = press.events ++ printed ∧ Singly printed := by
  have hheader : ∀ line ∈ titled.lines .groupHeader, line.IsPlain := by decide
  have hsome : 0 < titled.bandSize .groupHeader := by decide
  have hreturns : Returns (.task titled ⟨.mapping, []⟩ .groupHeader)
      (after (oneRecord titled) (start (Page.first 6) false)) := by decide +kernel
  obtain ⟨hshown, htelling, -⟩ := requested_header hheader hsome 6 false (oneRecord titled)
    (oneRecord_of titled) ⟨.mapping, []⟩ hreturns
  have htold := htelling (by decide) (by decide) (by decide +kernel)
  exact ⟨hheader, hsome, oneRecord_of titled, hreturns, by decide +kernel, htold, (hshown htold).1,
    (hshown htold).2.1⟩

/-- With `untitled` the header below a record of its size is not printed, and with `blankTitled`, whose top is
left out, it is printed twice. -/
theorem header_lost_or_doubled :
    ((∀ line ∈ untitled.lines .groupHeader, line.IsPlain) ∧ 0 < untitled.bandSize .groupHeader ∧
      let press := after (oneRecord untitled) (start (Page.first 6) false)
      Throughout Returns (oneRecord untitled) (start (Page.first 6) false) ∧
      Returns (.task untitled ⟨.mapping, []⟩ .groupHeader) press ∧
      ¬ ShowsLast untitled .groupHeader (operate (.task untitled ⟨.mapping, []⟩ .groupHeader) press).2.events) ∧
    (∀ line ∈ blankTitled.lines .groupHeader, line.IsPlain) ∧ 0 < blankTitled.bandSize .groupHeader ∧
    let press := start (Page.first 6) false
    Returns (.task blankTitled ⟨.mapping, []⟩ .groupHeader) press ∧
    ∀ printed, (operate (.task blankTitled ⟨.mapping, []⟩ .groupHeader) press).2.events =
      press.events ++ printed → ¬ Singly printed := by
  have hheader : ∀ line ∈ untitled.lines .groupHeader, line.IsPlain := by decide
  have hsome : 0 < untitled.bandSize .groupHeader := by decide
  refine ⟨⟨hheader, hsome, by decide +kernel, by decide +kernel, fun hlast => ?_⟩, by decide, by decide,
    by decide +kernel, fun printed hprinted hsingly => ?_⟩
  · have hrecord : ((operate (.task untitled ⟨.mapping, []⟩ .groupHeader)
        (after (oneRecord untitled) (start (Page.first 6) false))).2.events.filterMap Event.line?).getLast? =
        some ⟨⟨['r'], 1⟩, .body, 1, false, .body⟩ := by decide +kernel
    obtain ⟨line, hline, horigin⟩ := hlast.last hheader hsome
    rw [hline] at hrecord
    cases hrecord
    cases horigin
  · have hevents : (operate (.task blankTitled ⟨.mapping, []⟩ .groupHeader)
        (start (Page.first 6) false)).2.events = [.opened, .emitted .top 0,
          .printed ⟨⟨['=', '='], 1⟩, .band .groupHeader, 1, false, .body⟩, .emitted .groupHeader 1,
          .printed ⟨⟨['=', '='], 1⟩, .band .groupHeader, 1, false, .body⟩] ++
          .emitted .groupHeader 1 :: [] := by decide +kernel
    rw [hevents] at hprinted
    have hshown := hsingly _ 1 [] hprinted.symm
    revert hshown
    decide

end Requests

end Press

end PictureReport
