import Mathlib.Data.List.Induction
import PictureReport.Proofs.Press.Effects

/-!
# The account of a page

The pages of a run are read off its events.  The lines that are left are those that the page at hand does
not show yet, and each page that was closed shows as many lines as it may, unless a record was put off
(`PutOff`).  Printing a bottom may fail after some of its lines; the page is torn then (`Torn`), and the
bottom is printed once more below them.
-/

namespace PictureReport

/-- Is a page closed by the event? -/
def Event.closes : Event → Bool
  | .closed _ _ => true
  | _ => false

/-- Is a line of a bottom printed, be it one that is complete in the end or not? -/
def Event.isBottomLine : Event → Bool
  | .printed line => line.origin = .band .bottom
  | _ => false

/-- The size of the bottom that the event completes, and 0 for all other events. -/
def Event.bottomSize : Event → Nat
  | .emitted .bottom count => count
  | _ => 0

namespace Press

/-! ## The events of a page -/

/-- The events of the page at hand: those after the last one that `closes`. -/
def sheet (events : List Event) : List Event :=
  events.foldl (fun page event => if event.closes then [] else page ++ [event]) []

/-- The number of lines that are printed, whatever their `Origin` is. -/
def written (events : List Event) : Nat := (events.filterMap Event.line?).length

/-- On the page a record was put off, as its `count` lines did not fit beside the bottom; only the bottom was
printed after that. -/
def PutOff (length : Int) (bottom : Nat) (page : List Event) : Prop :=
  ∃ before, ∃ count : Nat, ∃ after, page = before ++ .deferred count :: after ∧
    length - written before < count + bottom ∧
    ∀ line, .printed line ∈ after → line.origin = .band .bottom

/-- A page that is closed shows as many lines as it may, `length` of them, unless a record was `PutOff`. -/
structure Filled (length : Int) (bottom : Nat) (page : List Event) : Prop where
  most : written page ≤ length
  full : written page = length ∨ PutOff length bottom page

/-- The number of lines of bottoms, complete or not. -/
def bottomLines (events : List Event) : Nat := events.countP Event.isBottomLine

/-- The number of lines of complete bottoms, as the `emitted` events give their sizes. -/
def completeLines : List Event → Nat
  | [] => 0
  | event :: events => event.bottomSize + completeLines events

/-- The page shows lines of a bottom that was not printed to its end. -/
def Torn (page : List Event) : Prop := completeLines page < bottomLines page

instance (page : List Event) : Decidable (Torn page) :=
  inferInstanceAs (Decidable (_ < _))

section Events

variable {events more : List Event}

theorem sheet_append (h : ∀ event ∈ more, event.closes = false) :
    sheet (events ++ more) = sheet events ++ more := by
  unfold sheet
  rw [List.foldl_append]
  generalize events.foldl _ [] = page
  induction more generalizing page with
  | nil => simp
  | cons event more ih =>
    simp only [List.mem_cons, forall_eq_or_imp] at h
    rw [List.foldl_cons, ih h.2, h.1]
    simp

@[simp] theorem sheet_closed (feed bottomPrinted : Bool) :
    sheet (events ++ [.closed feed bottomPrinted]) = [] := by
  simp [sheet, Event.closes]

@[simp] theorem written_append : written (events ++ more) = written events + written more := by
  simp [written]

@[simp] theorem written_nil : written [] = 0 := rfl

@[simp] theorem written_printed (lines : List Printed) :
    written (lines.map .printed) = lines.length := by
  simp [written, List.filterMap_map, Function.comp_def, Event.line?]

@[simp] theorem written_marks (form : Form) (band : Band) (count : Nat) :
    written (form.marks band count) = 0 := by
  unfold Form.marks
  split <;> rfl

@[simp] theorem bottomLines_append :
    bottomLines (events ++ more) = bottomLines events + bottomLines more := by
  simp [bottomLines]

@[simp] theorem completeLines_append :
    completeLines (events ++ more) = completeLines events + completeLines more := by
  induction events with
  | nil => simp [completeLines]
  | cons event events ih => simp [completeLines, ih, Nat.add_assoc]

@[simp] theorem completeLines_printed (lines : List Printed) :
    completeLines (lines.map .printed) = 0 := by
  induction lines with
  | nil => rfl
  | cons line lines ih => exact (Nat.zero_add _).trans ih

theorem bottomLines_printing (p : Press) (origin : Origin) (lines : List Composed) :
    bottomLines ((p.printing origin lines).map .printed) =
      if origin = .band .bottom then lines.length else 0 := by
  have hbottom : ∀ event ∈ (p.printing origin lines).map Event.printed,
      event.isBottomLine = decide (origin = .band .bottom) := by
    intro event he
    obtain ⟨line, hl, rfl⟩ := List.mem_map.mp he
    change decide (line.origin = .band .bottom) = _
    rw [(mem_printing hl).2.1]
  unfold bottomLines
  rw [List.countP_congr fun event he => by rw [hbottom event he]]
  by_cases ho : origin = .band .bottom
  · simp [ho]
  · simp [ho]

theorem completeLines_marks {form : Form} {band : Band} {made : List Composed}
    (habsent : form.band? band = none → made = []) :
    completeLines (form.marks band made.length) = if band = .bottom then made.length else 0 := by
  unfold Form.marks
  cases hband : form.band? band with
  | none =>
    rw [habsent hband]
    cases band <;> rfl
  | some lines => cases band <;> rfl

theorem bottomLines_marks (form : Form) (band : Band) (count : Nat) :
    bottomLines (form.marks band count) = 0 := by
  unfold Form.marks
  split <;> rfl

theorem printed_closes {lines : List Printed} {event : Event} (h : event ∈ lines.map .printed) :
    event.closes = false := by
  obtain ⟨line, -, rfl⟩ := List.mem_map.mp h
  rfl

theorem marks_closes {form : Form} {band : Band} {count : Nat} {event : Event}
    (h : event ∈ form.marks band count) : event.closes = false := by
  unfold Form.marks at h
  split at h
  · rw [List.mem_singleton.mp h]
    rfl
  · cases h

theorem PutOff.append {length : Int} {bottom : Nat} (h : PutOff length bottom events)
    (hm : ∀ line, .printed line ∈ more → line.origin = .band .bottom) :
    PutOff length bottom (events ++ more) := by
  obtain ⟨before, count, after, rfl, hroom, hafter⟩ := h
  refine ⟨before, count, after ++ more, by simp, hroom, fun line hl => ?_⟩
  rcases List.mem_append.mp hl with hl | hl
  · exact hafter line hl
  · exact hm line hl

end Events

/-! ## The account of a page -/

/-- `linesLeft` is the length less what the page at hand shows, and the pages closed before are `Filled`.  On
a `Torn` page the bottom is still due. -/
structure Accounted (form : Form) (length : Int) (p : Press) : Prop where
  pageLength : p.page.length = length
  lines : length - p.page.linesLeft = written (sheet p.events)
  complete : completeLines (sheet p.events) ≤ bottomLines (sheet p.events)
  torn : Torn (sheet p.events) → p.page.bottomPending = true
  filled : ∀ earlier feed bottomPrinted later,
    p.events = earlier ++ .closed feed bottomPrinted :: later →
    ¬ Torn (sheet earlier) → Filled length (form.bandSize .bottom) (sheet earlier)

section Account

variable {form : Form} {length : Int} {p q : Press}

/-- The pages that were closed before stay `Filled` while the page at hand goes on. -/
theorem Accounted.filled_append (h : Accounted form length p) {more : List Event}
    (hm : ∀ event ∈ more, event.closes = false) (he : q.events = p.events ++ more) :
    ∀ earlier feed bottomPrinted later, q.events = earlier ++ .closed feed bottomPrinted :: later →
      ¬ Torn (sheet earlier) → Filled length (form.bandSize .bottom) (sheet earlier) := by
  intro earlier feed bottomPrinted later hq
  rw [he] at hq
  rcases List.append_eq_append_iff.mp hq with ⟨rest, -, hrest⟩ | ⟨rest, hp, hrest⟩
  · -- the closing event would be one of those that happen on the page
    have hclosed := hm (.closed feed bottomPrinted) (by rw [hrest]; simp)
    cases hclosed
  · cases rest with
    | nil =>
      have hclosed := hm (.closed feed bottomPrinted) (by rw [← List.nil_append more, ← hrest]; simp)
      cases hclosed
    | cons event rest =>
      obtain ⟨rfl, -⟩ := List.cons.inj hrest
      exact h.filled earlier feed bottomPrinted rest hp

/-- The account holds whatever happens on a page, as long as its lines are counted in `linesLeft` and no
bottom is cut. -/
theorem Accounted.grow (h : Accounted form length p) (more : List Event)
    (hm : ∀ event ∈ more, event.closes = false) (he : q.events = p.events ++ more)
    (hbottom : bottomLines more = completeLines more) (hlength : q.page.length = p.page.length)
    (hleft : q.page.linesLeft = p.page.linesLeft - written more)
    (hpending : p.page.bottomPending = true → q.page.bottomPending = true) :
    Accounted form length q := by
  have hsheet : sheet q.events = sheet p.events ++ more := by
    rw [he]
    exact sheet_append hm
  have hlines := h.lines
  have hcomplete := h.complete
  refine ⟨hlength.trans h.pageLength, ?_, ?_, fun ht => hpending (h.torn ?_), h.filled_append hm he⟩
  · rw [hsheet, written_append, hleft]
    omega
  · rw [hsheet, bottomLines_append, completeLines_append]
    omega
  · unfold Torn at ht ⊢
    rw [hsheet, bottomLines_append, completeLines_append] at ht
    omega

theorem Accounted.congr (h : Accounted form length p) (he : q.events = p.events)
    (hlength : q.page.length = p.page.length) (hleft : q.page.linesLeft = p.page.linesLeft)
    (hpending : p.page.bottomPending = true → q.page.bottomPending = true) :
    Accounted form length q := by
  refine h.grow [] (by simp) (by simpa using he) rfl hlength ?_ hpending
  simpa using hleft

theorem Accounted.noted (h : Accounted form length p) {event : Event} (hc : event.closes = false)
    (hl : event.line? = none) (hb : bottomLines [event] = completeLines [event]) :
    Accounted form length (p.noted event) := by
  refine h.grow [event] (by simpa using hc) (by simp) hb rfl ?_ id
  simp [written, hl]

theorem Accounted.prints (h : Accounted form length p) {origin : Origin} {lines : List Composed}
    (hp : Prints origin lines p q) (ho : origin ≠ .band .bottom) : Accounted form length q := by
  have hbottom := bottomLines_printing p origin lines
  rw [if_neg ho, ← completeLines_printed (p.printing origin lines)] at hbottom
  refine h.grow _ (fun _ he => printed_closes he) hp.events hbottom ?_ ?_ ?_ <;> rw [hp.page]
  · rfl
  · simp [Page.taking]
  · exact id

theorem Whole.bottomLines_eq {band : Band} {made : List Composed} (hw : Whole form band made p q) :
    bottomLines ((p.printing (.band band) made).map .printed ++ form.marks band made.length) =
      completeLines ((p.printing (.band band) made).map .printed ++ form.marks band made.length) := by
  rw [bottomLines_append, completeLines_append, completeLines_printed, bottomLines_printing,
    bottomLines_marks, completeLines_marks hw.absent]
  simp

theorem Whole.closes {band : Band} {made : List Composed} {event : Event}
    (he : event ∈ (p.printing (.band band) made).map Event.printed ++ form.marks band made.length) :
    event.closes = false := by
  rcases List.mem_append.mp he with he | he
  · exact printed_closes he
  · exact marks_closes he

/-- A band that is `Whole` leaves the page torn or not torn, as it was: it adds to `bottomLines` what it adds
to `completeLines`. -/
theorem Whole.torn_iff {band : Band} {made : List Composed} (hw : Whole form band made p q) :
    Torn (sheet q.events) ↔ Torn (sheet p.events) := by
  have hbottom := hw.bottomLines_eq
  unfold Torn
  rw [hw.events, List.append_assoc, sheet_append fun _ he => Whole.closes he,
    bottomLines_append, completeLines_append, hbottom]
  omega

theorem Accounted.whole (h : Accounted form length p) {band : Band} {made : List Composed}
    (hw : Whole form band made p q) : Accounted form length q := by
  refine h.grow _ (fun _ he => Whole.closes he) (by rw [hw.events, List.append_assoc]) hw.bottomLines_eq
    ?_ ?_ ?_ <;> rw [hw.page]
  · rfl
  · simp [Page.taking]
  · exact id

/-- A bottom that is due and printed up to a line that cannot be composed tears the page, unless that is its
first line. -/
theorem Accounted.partly (h : Accounted form length p) (hdue : p.page.bottomPending = true)
    {made : List Composed} (hp : Prints (.band .bottom) made p q) :
    Accounted form length q ∧ (made ≠ [] → Torn (sheet q.events)) := by
  have hcloses : ∀ event ∈ (p.printing (.band .bottom) made).map Event.printed, event.closes = false :=
    fun _ he => printed_closes he
  have hsheet : sheet q.events = sheet p.events ++ (p.printing (.band .bottom) made).map .printed := by
    rw [hp.events]
    exact sheet_append hcloses
  have hbottom : bottomLines (sheet q.events) = bottomLines (sheet p.events) + made.length := by
    rw [hsheet, bottomLines_append, bottomLines_printing, if_pos rfl]
  have hcount : completeLines (sheet q.events) = completeLines (sheet p.events) := by
    rw [hsheet, completeLines_append, completeLines_printed, Nat.add_zero]
  have hlines := h.lines
  have hcomplete := h.complete
  refine ⟨⟨?_, ?_, by omega, fun _ => ?_, h.filled_append hcloses hp.events⟩, fun hne => ?_⟩
  · rw [hp.page]
    exact h.pageLength
  · rw [hsheet, written_append, written_printed, length_printing, hp.page]
    change length - (p.page.linesLeft - (made.length : Int)) = _
    omega
  · rw [hp.page]
    exact hdue
  · have hpos := List.length_pos_iff.mpr hne
    unfold Torn
    omega

theorem Accounted.close (h : Accounted form length p)
    (hf : ¬ Torn (sheet p.events) → Filled length (form.bandSize .bottom) (sheet p.events))
    (feed bottomPrinted : Bool) : Accounted form length (p.closed feed bottomPrinted) := by
  refine ⟨h.pageLength, ?_, ?_, fun ht => ?_, fun earlier feed' bottomPrinted' later hq => ?_⟩
  · rw [events_closed, sheet_closed, page_closed, h.pageLength]
    simp
  · rw [events_closed, sheet_closed]
    exact Nat.le_refl _
  · rw [events_closed, sheet_closed] at ht
    cases ht
  · rw [events_closed] at hq
    rcases List.eq_nil_or_concat later with rfl | ⟨later, last, rfl⟩
    · obtain ⟨rfl, -⟩ := List.append_inj' hq rfl
      exact hf
    · rw [List.concat_eq_append, ← List.cons_append, ← List.append_assoc] at hq
      obtain ⟨hq, -⟩ := List.append_inj' hq rfl
      exact h.filled earlier feed' bottomPrinted' later hq

theorem Accounted.not_torn (h : Accounted form length p) (hb : p.page.bottomPending = false) :
    ¬ Torn (sheet p.events) := by
  intro ht
  rw [h.torn ht] at hb
  cases hb

end Account

end Press

end PictureReport
