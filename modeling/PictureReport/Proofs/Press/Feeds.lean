import Mathlib.Data.List.Forall2
import Mathlib.Data.List.Induction
import PictureReport.Proofs.Press.Lockstep
import PictureReport.Proofs.Press.Operations

/-!
# What form feeds change

A press that sets form feeds and one that sets none do the same, apart from the form feeds: `Press.Covers`
holds between them after any jobs, however these end.  On each press alone a line has a form feed before it
exactly where one is owed (`FeedOwed`): the last page was closed with a form feed behind it, and nothing was
printed since.
-/

namespace PictureReport

namespace Event

/-- Is a form feed due after the event, where `due` says if one was before?  A line takes the one that is due,
and the close of a page says whether the next line has one. -/
def feedAfter (due : Bool) : Event → Bool
  | printed _ => false
  | closed feed _ => feed
  | _ => due

/-- The events are the same, but the first may have a form feed that the second has not. -/
inductive Covers : Event → Event → Prop
  | printed (line : Printed) {feed : Bool} : (feed = true → line.feed = true) →
    Covers (.printed line) (.printed { line with feed })
  | closed {feed other : Bool} (bottomPrinted : Bool) : (other = true → feed = true) →
    Covers (.closed feed bottomPrinted) (.closed other bottomPrinted)
  | quiet {event : Event} : event.IsQuiet → Covers event event

end Event

/-- Is a form feed due after the events?  This is `feedAfter` of one after the other. -/
def feedDue (events : List Event) : Bool := events.foldl Event.feedAfter false

/-- The last page was closed with a form feed behind it, and no line was printed since. -/
def FeedOwed (events : List Event) : Prop :=
  ∃ earlier bottomPrinted quiet, events = earlier ++ .closed true bottomPrinted :: quiet ∧
    ∀ event ∈ quiet, event.IsQuiet

section Due

variable {events : List Event} {event : Event}

theorem feedDue_concat : feedDue (events ++ [event]) = event.feedAfter (feedDue events) := by
  simp [feedDue, List.foldl_append]

theorem Event.feedAfter_of_isQuiet (h : event.IsQuiet) (due : Bool) : event.feedAfter due = due := by
  cases event with
  | printed line => exact h.elim
  | closed feed bottomPrinted => exact h.elim
  | _ => rfl

theorem Event.line?_of_isQuiet (h : event.IsQuiet) : event.line? = none := by
  cases event with
  | printed line => exact h.elim
  | _ => rfl

theorem feedOwed_concat : FeedOwed (events ++ [event]) ↔
    (∃ bottomPrinted, event = .closed true bottomPrinted) ∨ event.IsQuiet ∧ FeedOwed events := by
  constructor
  · rintro ⟨earlier, bottomPrinted, quiet, hevents, hquiet⟩
    rcases List.eq_nil_or_concat quiet with rfl | ⟨quiet, last, rfl⟩
    · have hlast := (List.append_inj' hevents rfl).2
      exact .inl ⟨bottomPrinted, (List.cons.inj hlast).1⟩
    · rw [List.concat_eq_append] at hevents hquiet
      rw [← List.cons_append, ← List.append_assoc] at hevents
      obtain ⟨hbefore, hlast⟩ := List.append_inj' hevents rfl
      obtain rfl := (List.cons.inj hlast).1
      obtain ⟨hbetween, hevent⟩ := List.forall_mem_append.mp hquiet
      exact .inr ⟨hevent _ (List.mem_singleton_self _), earlier, bottomPrinted, quiet, hbefore, hbetween⟩
  · rintro (⟨bottomPrinted, rfl⟩ | ⟨hquiet, earlier, bottomPrinted, quiet, rfl, hall⟩)
    · exact ⟨events, bottomPrinted, [], rfl, List.forall_mem_nil _⟩
    · refine ⟨earlier, bottomPrinted, quiet ++ [event], by simp, ?_⟩
      exact List.forall_mem_append.mpr ⟨hall, List.forall_mem_singleton.mpr hquiet⟩

theorem feedDue_iff : feedDue events = true ↔ FeedOwed events := by
  induction events using List.reverseRecOn with
  | nil =>
    refine ⟨fun h => (by cases h), ?_⟩
    rintro ⟨earlier, bottomPrinted, quiet, hevents, -⟩
    simp at hevents
  | append_singleton events event ih =>
    rw [feedDue_concat, feedOwed_concat, ← ih]
    cases event with
    | printed line => simp [Event.feedAfter, Event.IsQuiet]
    | closed feed bottomPrinted => simp [Event.feedAfter, Event.IsQuiet]
    | _ => simp [Event.feedAfter, Event.IsQuiet]

end Due

theorem Pager.withFeed_self (pager : Pager) : pager.withFeed pager.page.feedPending = pager := rfl

theorem Pager.IgnoresFeed.feedPending {f : Pager → Pager} (h : IgnoresFeed f) (pager : Pager) :
    (f pager).page.feedPending = pager.page.feedPending := by
  have hself := h pager pager.page.feedPending
  rw [withFeed_self] at hself
  rw [hself]
  rfl

namespace Press

/-- Everything is the same on both presses apart from form feeds, and the first has one wherever the second
has. -/
structure Covers (p q : Press) : Prop where
  pager : q.pager = p.pager.withFeed q.page.feedPending
  due : q.page.feedPending = true → p.page.feedPending = true
  desk : q.desk = p.desk
  pending : q.pending = p.pending
  events : List.Forall₂ Event.Covers p.events q.events

/-- The press is set to `x`, its lines have the form feeds that are due, and since `base` pages were closed
with `feed`. -/
structure Feeding (x feed : Bool) (base : List Event) (p : Press) : Prop where
  formFeed : p.formFeed = x
  due : p.page.feedPending = feedDue p.events
  lines : ∀ before line after, p.events = before ++ .printed line :: after → line.feed = feedDue before
  closes : ∃ more, p.events = base ++ more ∧
    ∀ other bottomPrinted, .closed other bottomPrinted ∈ more → other = feed

section Covers

variable {p q : Press}

theorem covers_start (page : Page) (x y : Bool) : (start page x).Covers (start page y) :=
  ⟨rfl, id, rfl, rfl, .nil⟩

theorem Covers.withDesk (h : p.Covers q) (desk : Desk) : Covers { p with desk } { q with desk } :=
  ⟨h.pager, h.due, rfl, h.pending, h.events⟩

theorem Covers.holding (h : p.Covers q) (pending : List Composed) :
    (p.holding pending).Covers (q.holding pending) :=
  ⟨h.pager, h.due, h.desk, rfl, h.events⟩

theorem Covers.paged (h : p.Covers q) {f : Pager → Pager} (hf : Pager.IgnoresFeed f) :
    (p.paged f).Covers (q.paged f) := by
  have hdue : ∀ r : Press, (r.paged f).page.feedPending = r.page.feedPending := fun r => hf.feedPending r.pager
  refine ⟨?_, ?_, h.desk, h.pending, h.events⟩
  · rw [hdue, pager_paged, pager_paged, ← hf, ← h.pager]
  · rw [hdue, hdue]
    exact h.due

/-- Events that cover each other, noted on both presses, keep `Covers`. -/
theorem Covers.noted (h : p.Covers q) {event other : Event} (he : event.Covers other) :
    (p.noted event).Covers (q.noted other) := by
  refine ⟨h.pager, h.due, h.desk, h.pending, ?_⟩
  rw [events_noted, events_noted]
  exact List.rel_append h.events (.cons he .nil)

theorem Covers.wrote (h : p.Covers q) (origin : Origin) (line : Composed) :
    (p.wrote origin line).Covers (q.wrote origin line) := by
  have hpager : (q.wrote origin line).pager = (p.wrote origin line).pager := by
    change q.pager.withFeed false = p.pager.withFeed false
    rw [h.pager]
    rfl
  have hline : Event.Covers (.printed ⟨line, origin, p.page.number, p.page.feedPending, p.pager.state⟩)
      (.printed ⟨line, origin, q.page.number, q.page.feedPending, q.pager.state⟩) := by
    have hnumber : q.page.number = p.page.number := congrArg (·.page.number) h.pager
    have hstate : q.pager.state = p.pager.state := by
      rw [h.pager]
      rfl
    rw [hnumber, hstate]
    exact .printed ⟨line, origin, p.page.number, p.page.feedPending, p.pager.state⟩ h.due
  refine ⟨?_, ?_, h.desk, h.pending, (h.noted hline).events⟩
  · rw [page, hpager]
    rfl
  · rw [page, hpager]
    exact id

theorem Covers.closed (h : p.Covers q) {feed other : Bool} (hfeed : other = true → feed = true)
    (bottomPrinted : Bool) : (p.closed feed bottomPrinted).Covers (q.closed other bottomPrinted) := by
  refine ⟨?_, hfeed, h.desk, h.pending, (h.noted (.closed bottomPrinted hfeed)).events⟩
  change q.pager.endPage other bottomPrinted = (p.pager.endPage feed bottomPrinted).withFeed other
  rw [h.pager]
  rfl

theorem Covers.printed (h : p.Covers q) : List.Forall₂
    (fun (line other : Printed) =>
      other = { line with feed := other.feed } ∧ (other.feed = true → line.feed = true))
    p.printed q.printed := by
  refine List.rel_filterMap (R := Event.Covers) ?_ h.events
  rintro _ _ (⟨line, hfeed⟩ | ⟨bottomPrinted, -⟩ | hquiet)
  · exact .some ⟨rfl, hfeed⟩
  · exact .none
  · rw [Event.line?_of_isQuiet hquiet]
    exact .none

end Covers

section Feeding

variable {x feed : Bool} {base : List Event} {p q : Press}

theorem feeding_start (page : Page) (hpage : page.feedPending = false) (x feed : Bool) :
    Feeding x feed [] (start page x) :=
  ⟨rfl, hpage, fun before line after h => (by cases before <;> cases h), [], rfl, fun _ _ h => (by cases h)⟩

theorem Feeding.owed (h : Feeding x feed base p) {before after : List Event} {line : Printed}
    (he : p.events = before ++ .printed line :: after) : line.feed = true ↔ FeedOwed before := by
  rw [h.lines before line after he, feedDue_iff]

theorem Feeding.congr (h : Feeding x feed base p) (hformFeed : q.formFeed = p.formFeed)
    (hdue : q.page.feedPending = p.page.feedPending) (hevents : q.events = p.events) :
    Feeding x feed base q := by
  refine ⟨hformFeed.trans h.formFeed, ?_, ?_, ?_⟩ <;> rw [hevents]
  · exact hdue.trans h.due
  · exact h.lines
  · exact h.closes

/-- From here on pages may be closed with another form feed, as the next job says. -/
theorem Feeding.rebase (h : Feeding x feed base p) (other : Bool) : Feeding x other p.events p :=
  ⟨h.formFeed, h.due, h.lines, [], (List.append_nil _).symm, fun _ _ he => (by cases he)⟩

/-- An event keeps `Feeding` if a line has the form feed that is due, and a close the form feed of the closes
since `base`. -/
theorem Feeding.grow (h : Feeding x feed base p) {event : Event} (hformFeed : q.formFeed = p.formFeed)
    (hevents : q.events = p.events ++ [event]) (hdue : q.page.feedPending = event.feedAfter p.page.feedPending)
    (hline : ∀ line, event = .printed line → line.feed = p.page.feedPending)
    (hclose : ∀ other bottomPrinted, event = .closed other bottomPrinted → other = feed) :
    Feeding x feed base q := by
  refine ⟨hformFeed.trans h.formFeed, ?_, ?_, ?_⟩
  · rw [hevents, feedDue_concat, hdue, h.due]
  · intro before line after hsplit
    rw [hevents] at hsplit
    rcases List.eq_nil_or_concat after with rfl | ⟨after, last, rfl⟩
    · obtain ⟨rfl, hlast⟩ := List.append_inj' hsplit rfl
      rw [hline line (List.cons.inj hlast).1, h.due]
    · rw [List.concat_eq_append, ← List.cons_append, ← List.append_assoc] at hsplit
      exact h.lines before line after (List.append_inj' hsplit rfl).1
  · obtain ⟨more, hmore, hfeed⟩ := h.closes
    refine ⟨more ++ [event], by rw [hevents, hmore, List.append_assoc], ?_⟩
    intro other bottomPrinted he
    rcases List.mem_append.mp he with he | he
    · exact hfeed other bottomPrinted he
    · exact hclose other bottomPrinted (List.mem_singleton.mp he).symm

theorem Feeding.paged (h : Feeding x feed base p) {f : Pager → Pager} (hf : Pager.IgnoresFeed f) :
    Feeding x feed base (p.paged f) := h.congr rfl (hf.feedPending p.pager) rfl

theorem Feeding.noted (h : Feeding x feed base p) {event : Event} (he : event.IsQuiet) :
    Feeding x feed base (p.noted event) := by
  refine h.grow rfl (events_noted p event) (Event.feedAfter_of_isQuiet he _).symm ?_ ?_
  · rintro line rfl
    exact he.elim
  · rintro other bottomPrinted rfl
    exact he.elim

theorem Feeding.wrote (h : Feeding x feed base p) (origin : Origin) (line : Composed) :
    Feeding x feed base (p.wrote origin line) := by
  refine h.grow rfl (events_noted p _) rfl ?_ fun _ _ he => by cases he
  rintro _ ⟨⟩
  rfl

theorem Feeding.closed (h : Feeding x feed base p) (bottomPrinted : Bool) :
    Feeding x feed base (p.closed feed bottomPrinted) := by
  refine h.grow rfl (events_closed feed bottomPrinted p) rfl (fun _ he => by cases he) ?_
  rintro _ _ ⟨⟩
  rfl

end Feeding

/-- The first press covers the second, and each has its own form feeds: `feed` and `other` at the closes since
`base` and `base'`. -/
structure Paired (x y feed other : Bool) (base base' : List Event) (p q : Press) : Prop where
  covers : p.Covers q
  left : Feeding x feed base p
  right : Feeding y other base' q

section Paired

variable {x y feed other : Bool} {base base' : List Event} {p q : Press}

theorem paired_lockstep : Lockstep x y (Paired x y feed other base base') where
  pager h := ⟨_, h.covers.pager⟩
  pending h := h.covers.pending
  desk h := h.covers.desk
  formFeed h := ⟨h.left.formFeed, h.right.formFeed⟩
  withDesk desk h := ⟨h.covers.withDesk desk, h.left.congr rfl rfl rfl, h.right.congr rfl rfl rfl⟩
  holding pending h := ⟨h.covers.holding pending, h.left.congr rfl rfl rfl, h.right.congr rfl rfl rfl⟩
  paged hf h := ⟨h.covers.paged hf, h.left.paged hf, h.right.paged hf⟩
  noted he h := ⟨h.covers.noted (.quiet he), h.left.noted he, h.right.noted he⟩
  wrote origin line h := ⟨h.covers.wrote origin line, h.left.wrote origin line, h.right.wrote origin line⟩

theorem paired_closes (h : other = true → feed = true) :
    Closes (Paired x y feed other base base') feed other :=
  fun _ _ bottomPrinted hR =>
    ⟨hR.covers.closed h bottomPrinted, hR.left.closed bottomPrinted, hR.right.closed bottomPrinted⟩

theorem Covers.lines (h : p.Covers q) :
    List.Forall₂ (fun line other : Text => line = other ∨ line = '\x0c' :: other) p.lines q.lines := by
  unfold Press.lines
  rw [List.forall₂_map_left_iff, List.forall₂_map_right_iff]
  refine h.printed.imp ?_
  rintro line other ⟨hother, hfeed⟩
  have htext : other.line.text = line.line.text := by rw [hother]
  unfold Printed.shown
  rw [htext]
  cases hl : line.feed with
  | true =>
    cases other.feed with
    | true => exact .inl rfl
    | false => exact .inr rfl
  | false =>
    have hnone : other.feed = false := Bool.eq_false_iff.mpr fun ho => by rw [hfeed ho] at hl; cases hl
    rw [hnone]
    exact .inl rfl

theorem Covers.lineCount (h : p.Covers q) : q.lineCount = p.lineCount := h.printed.length_eq.symm

end Paired

end Press

namespace Session

/-- The sessions are the same apart from the press, of which `R` holds. -/
structure Alike (R : Press → Press → Prop) (s t : Session) : Prop where
  assembly : t.assembly = s.assembly
  context : t.context = s.context
  sources : t.sources = s.sources
  press : R s.press t.press

/-- One task of a report: the form, the values it prints, and what is done with them. -/
structure Job where
  form : FormId
  source : SourceId
  task : Task
deriving Repr

/-- Do the jobs one after the other.  One that fails leaves a session as well, and the next one works on it.
-/
def work : List Job → Session → List (Except Fault Nat) × Session
  | [], session => ([], session)
  | job :: rest, session =>
    let (outcome, session) := perform job.form job.source job.task session
    let (outcomes, session) := work rest session
    (outcome :: outcomes, session)

section Pairs

variable {x y feed other : Bool} {base base' : List Event} {R : Press → Press → Prop} {s t : Session}

theorem withSource_mirrors {α : Type} {z : Printing α} (h : Press.Lockstep x y R) (hz : Press.InStep R z)
    (source : SourceId) (hst : Alike R s t) :
    Mirrors (Alike R) (withSource source z) (withSource source z) s t := by
  have hstart : R (s.press.withValues ((s.sources[source]?).getD ⟨.mapping, []⟩))
      (t.press.withValues ((t.sources[source]?).getD ⟨.mapping, []⟩)) := by
    have hq : t.press.withValues ((t.sources[source]?).getD ⟨.mapping, []⟩) =
        { t.press with desk := (s.press.withValues ((s.sources[source]?).getD ⟨.mapping, []⟩)).desk } := by
      rw [Press.withValues, Press.withValues, h.desk hst.press, hst.sources]
    rw [hq]
    exact h.withDesk _ hst.press
  obtain ⟨hsame, hleft⟩ := hz _ _ hstart
  refine ⟨hsame, hst.assembly, hst.context, ?_, hleft⟩
  change t.sources.set source
    (z (t.press.withValues ((t.sources[source]?).getD ⟨.mapping, []⟩))).2.desk.journal.source = _
  rw [h.desk hleft, hst.sources]
  rfl

theorem concerns_withFeed (form : Form) (task : Task) {p q : Pager} {feed : Bool} (h : q = p.withFeed feed) :
    task.concerns form q.page = task.concerns form p.page := by
  rw [h]
  cases task <;> rfl

theorem perform_mirrors (h : Press.Lockstep x y R) (hR : ∀ {p q}, R p q → p.Covers q) (job : Job)
    (hc : Press.Closes R (job.task.feed x) (job.task.feed y)) (hst : Alike R s t) :
    Mirrors (Alike R) (perform job.form job.source job.task) (perform job.form job.source job.task) s t := by
  have hrun : ∀ form s t, Alike R s t →
      Mirrors (Alike R) (withSource job.source (Press.counted (job.task.run form)))
        (withSource job.source (Press.counted (job.task.run form))) s t :=
    fun form s t => withSource_mirrors h
      ((h.task job.task hc).counted fun hpq => (hR hpq).lineCount) job.source
  have hpictures : t.assembly.formOf job.form = s.assembly.formOf job.form := by rw [hst.assembly]
  refine mirrors_get ?_
  dsimp only
  rw [hpictures, Press.page, Press.page, concerns_withFeed _ _ (hR hst.press).pager]
  split
  · refine Mirrors.bind (mirrors_modify ?_) fun _ => hrun _
    have hbound : t.isBound job.form = s.isBound job.form := by
      rw [isBound, isBound, hst.assembly, hst.context]
    rw [hbound]
    split
    · exact hst
    · refine ⟨?_, hst.context, hst.sources, hst.press⟩
      change t.assembly.bindContext _ _ = s.assembly.bindContext _ _
      rw [hst.assembly, hst.context]
  · exact hrun _ s t hst

end Pairs

/-- The events of the jobs, one part for each of them, in which pages are closed with the form feed of its
task (`Task.feed`). -/
def ClosedBy (formFeed : Bool) (jobs : List Job) (events : List Event) : Prop :=
  ∃ parts : List (List Event), events = parts.flatten ∧ List.Forall₂
    (fun (job : Job) part => ∀ feed bottomPrinted, .closed feed bottomPrinted ∈ part →
      feed = job.task.feed formFeed) jobs parts

section Work

variable {x y feed other : Bool} {base base' : List Event} {s t : Session}

theorem closedBy_cons {formFeed : Bool} {job : Job} {jobs : List Job} {part events : List Event}
    (hpart : ∀ feed bottomPrinted, .closed feed bottomPrinted ∈ part → feed = job.task.feed formFeed)
    (h : ClosedBy formFeed jobs events) : ClosedBy formFeed (job :: jobs) (part ++ events) := by
  obtain ⟨parts, rfl, hparts⟩ := h
  exact ⟨part :: parts, rfl, .cons hpart hparts⟩

theorem feed_mono (h : y = true → x = true) (task : Task) : task.feed y = true → task.feed x = true := by
  cases task with
  | finishPage feed => exact id
  | _ => exact h

theorem alike_start (session : Session) (length : Int) : Alike (Press.Paired true false true true [] [])
    { session with press := Press.start (Page.first length) true }
    { session with press := Press.start (Page.first length) false } :=
  ⟨rfl, rfl, rfl, Press.covers_start _ _ _, Press.feeding_start _ rfl _ _, Press.feeding_start _ rfl _ _⟩

theorem work_paired (jobs : List Job) (hxy : y = true → x = true)
    (hst : Alike (Press.Paired x y feed other base base') s t) :
    (work jobs s).1 = (work jobs t).1 ∧
      (∃ feed other base base',
        Alike (Press.Paired x y feed other base base') (work jobs s).2 (work jobs t).2) ∧
      (∃ more, (work jobs s).2.press.events = s.press.events ++ more ∧ ClosedBy x jobs more) ∧
      ∃ more, (work jobs t).2.press.events = t.press.events ++ more ∧ ClosedBy y jobs more := by
  induction jobs generalizing s t feed other base base' with
  | nil =>
    exact ⟨rfl, ⟨_, _, _, _, hst⟩, ⟨[], (List.append_nil _).symm, [], rfl, .nil⟩,
      [], (List.append_nil _).symm, [], rfl, .nil⟩
  | cons job rest ih =>
    -- From here on pages are closed as this task says.
    have hstart :
        Alike (Press.Paired x y (job.task.feed x) (job.task.feed y) s.press.events t.press.events) s t :=
      ⟨hst.assembly, hst.context, hst.sources, hst.press.covers, hst.press.left.rebase _,
        hst.press.right.rebase _⟩
    obtain ⟨hsame, hleft⟩ := perform_mirrors Press.paired_lockstep (fun h => h.covers) job
      (Press.paired_closes (feed_mono hxy job.task)) hstart
    obtain ⟨part, hpart, hfeed⟩ := hleft.press.left.closes
    obtain ⟨part', hpart', hfeed'⟩ := hleft.press.right.closes
    obtain ⟨houtcomes, hend, ⟨more, hmore, hclosed⟩, more', hmore', hclosed'⟩ := ih hleft
    refine ⟨congrArg₂ List.cons hsame houtcomes, hend, ⟨part ++ more, ?_, closedBy_cons hfeed hclosed⟩,
      part' ++ more', ?_, closedBy_cons hfeed' hclosed'⟩
    · rw [← List.append_assoc, ← hpart]
      exact hmore
    · rw [← List.append_assoc, ← hpart']
      exact hmore'

end Work

end Session

end PictureReport
