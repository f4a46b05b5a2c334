import Mathlib.Data.List.Induction
import PictureReport.Proofs.Press.Sheets

/-!
# Headers after tops

The group header is printed directly after the top of each page, unless the top shows just as many lines as
top and header have together: then it is left out.  A header with a line that cannot be composed is cut, and
the call fails with it.
-/

namespace PictureReport

namespace Form

/-- The lines of the top and of the group header together. -/
def frontSize (form : Form) : Nat := form.bandSize .top + form.bandSize .groupHeader

end Form

namespace Press

/-! ## What comes after a top -/

/-- `P count later` holds of the size of each complete top and of all that comes after it. -/
def AfterTops (P : Nat → List Event → Prop) (events : List Event) : Prop :=
  ∀ earlier count later, events = earlier ++ .emitted .top count :: later → P count later

/-- The header comes first, as a whole (`Emission`). -/
def BeginsHeaded (form : Form) (events : List Event) : Prop :=
  ∃ header rest, events = header ++ rest ∧ Emission form .groupHeader header

/-- Some lines of the header, fewer than it has, are all there is. -/
def IsHeaderCut (form : Form) (events : List Event) : Prop :=
  ∃ lines : List Printed, events = lines.map .printed ∧ lines.length < form.bandSize .groupHeader ∧
    ∀ line ∈ lines, line.origin = .band .groupHeader

section AfterTops

variable {form : Form} {P P' : Nat → List Event → Prop} {events more : List Event}

theorem append_eq_append_cons {α : Type} {front back earlier later : List α} {a : α}
    (h : front ++ back = earlier ++ a :: later) :
    (∃ rest, front = earlier ++ a :: rest ∧ later = rest ++ back) ∨
      ∃ rest, earlier = front ++ rest ∧ back = rest ++ a :: later := by
  rcases List.append_eq_append_iff.mp h with ⟨rest, hearlier, hback⟩ | ⟨rest, hfront, hlater⟩
  · exact .inr ⟨rest, hearlier, hback⟩
  · cases rest with
    | nil => exact .inr ⟨[], by simpa using hfront.symm, by simpa using hlater.symm⟩
    | cons b rest =>
      obtain ⟨rfl, rfl⟩ := List.cons.inj hlater
      exact .inl ⟨rest, hfront, rfl⟩

theorem afterTops_of_forall (h : ∀ count, .emitted .top count ∉ events) : AfterTops P events := by
  intro earlier count later he
  exact absurd (by rw [he]; simp) (h count)

theorem AfterTops.mono (h : AfterTops P events) (hP : ∀ count later, P count later → P' count later) :
    AfterTops P' events :=
  fun earlier count later he => hP count later (h earlier count later he)

theorem AfterTops.append (h : AfterTops P events)
    (hP : ∀ count later, P count later → P' count (later ++ more)) (hmore : AfterTops P' more) :
    AfterTops P' (events ++ more) := by
  intro earlier count later he
  rcases append_eq_append_cons he with ⟨rest, hevents, rfl⟩ | ⟨rest, -, hback⟩
  · exact hP count rest (h earlier count rest hevents)
  · exact hmore rest count later hback

theorem printed_no_top {lines : List Printed} {count : Nat} :
    .emitted .top count ∉ lines.map Event.printed := by
  simp

theorem whole_no_top {band : Band} (hband : band ≠ .top) {lines : List Printed} {n count : Nat} :
    .emitted .top n ∉ lines.map Event.printed ++ form.marks band count := by
  intro hm
  rcases List.mem_append.mp hm with hm | hm
  · exact printed_no_top hm
  · unfold Form.marks at hm
    split at hm
    · cases List.mem_singleton.mp hm
      exact hband rfl
    · cases hm

/-- A top of `count` lines and `more` after it: the only place to look at is the end of the top. -/
theorem afterTops_top {lines : List Printed} {count : Nat} (hmore : ∀ n, .emitted .top n ∉ more)
    (hP : (form.band? .top).isSome → P count more) :
    AfterTops P (lines.map .printed ++ form.marks .top count ++ more) := by
  intro earlier n later he
  -- the mark of a top is not among its lines, and not in what follows: it is the one after its lines
  rcases append_eq_append_cons he with ⟨rest, htop, rfl⟩ | ⟨rest, -, hback⟩
  · rcases append_eq_append_cons htop with ⟨rest', hlines, -⟩ | ⟨rest', -, hmarks⟩
    · have hmem : .emitted .top n ∈ lines.map Event.printed := by
        rw [hlines]
        simp
      exact absurd hmem printed_no_top
    · unfold Form.marks at hmarks
      split at hmarks
      · rename_i hsome
        obtain ⟨rfl, hlast⟩ := (List.append_eq_singleton_iff.mp hmarks.symm).resolve_right (by simp)
        obtain ⟨hsame, rfl⟩ := List.cons.inj hlast
        obtain rfl : n = count := by injection hsame
        exact hP hsome
      · simp at hmarks
  · exact absurd (by rw [hback]; simp) (hmore n)

/-- A header that has lines begins with one of them, so `BeginsHeaded` shows in the first event. -/
theorem BeginsHeaded.first (hheader : ∀ line ∈ form.lines .groupHeader, line.IsPlain)
    (hsome : 0 < form.bandSize .groupHeader) (h : BeginsHeaded form events) :
    ∃ line rest, events = .printed line :: rest ∧ line.origin = .band .groupHeader := by
  obtain ⟨_, rest, rfl, lines, rfl, horigin, -, -, hsize⟩ := h
  cases lines with
  | nil =>
    rw [← hsize hheader] at hsome
    cases hsome
  | cons line lines => exact ⟨line, _, rfl, horigin line (by simp)⟩

theorem BeginsHeaded.append (h : BeginsHeaded form events) : BeginsHeaded form (events ++ more) := by
  obtain ⟨header, rest, rfl, hheader⟩ := h
  exact ⟨header, rest ++ more, by rw [List.append_assoc], hheader⟩

end AfterTops

/-! ## Steps of printing -/

/-- `AfterTops P` for what is in the log since the events `before`. -/
def TopsSince (P : Nat → List Event → Prop) (before : List Event) (p : Press) : Prop :=
  ∃ more, p.events = before ++ more ∧ AfterTops P more

/-- The header comes right after a top of `count` lines, unless `count` is `frontSize`. -/
def IsHeaded (form : Form) (count : Nat) (later : List Event) : Prop :=
  count ≠ form.frontSize → BeginsHeaded form later

/-- As `IsHeaded`, or the log ends within the header (`IsHeaderCut`). -/
def IsHeadedOrCut (form : Form) (count : Nat) (later : List Event) : Prop :=
  count ≠ form.frontSize → BeginsHeaded form later ∨ IsHeaderCut form later

section Headed

variable {form : Form} {before : List Event} {p q : Press} {more : List Event}

theorem TopsSince.orCut (h : TopsSince (IsHeaded form) before p) :
    TopsSince (IsHeadedOrCut form) before p := by
  obtain ⟨earlier, he, hearlier⟩ := h
  exact ⟨earlier, he, hearlier.mono fun _ _ hl hcount => .inl (hl hcount)⟩

theorem TopsSince.append {P : Nat → List Event → Prop} (h : TopsSince (IsHeaded form) before p)
    (hP : ∀ count later, IsHeaded form count later → P count later)
    (he : q.events = p.events ++ more) (hmore : AfterTops P more) : TopsSince P before q := by
  obtain ⟨earlier, hp, hearlier⟩ := h
  refine ⟨earlier ++ more, by rw [he, hp, List.append_assoc], hearlier.append (fun count later hl => ?_) hmore⟩
  exact hP count _ fun hcount => (hl hcount).append

theorem TopsSince.grow (h : TopsSince (IsHeaded form) before p) (he : q.events = p.events ++ more)
    (hmore : ∀ count, .emitted .top count ∉ more) : TopsSince (IsHeaded form) before q :=
  h.append (fun _ _ hl => hl) he (afterTops_of_forall hmore)

theorem TopsSince.same (h : TopsSince (IsHeaded form) before p) (he : q.events = p.events) :
    TopsSince (IsHeaded form) before q := by
  rw [← List.append_nil p.events] at he
  exact h.grow he (by simp)

theorem TopsSince.noted (h : TopsSince (IsHeaded form) before p) {event : Event}
    (hevent : ∀ count, event ≠ .emitted .top count) : TopsSince (IsHeaded form) before (p.noted event) :=
  h.grow (events_noted p event) fun count hm => hevent count (List.mem_singleton.mp hm).symm

theorem TopsSince.prints (h : TopsSince (IsHeaded form) before p) {origin : Origin}
    {lines : List Composed} (hq : Prints origin lines p q) : TopsSince (IsHeaded form) before q :=
  h.grow hq.events fun _ => printed_no_top

theorem TopsSince.whole (h : TopsSince (IsHeaded form) before p) {band : Band} (hband : band ≠ .top)
    {made : List Composed} (hq : Whole form band made p q) : TopsSince (IsHeaded form) before q := by
  have he := hq.events
  rw [List.append_assoc] at he
  exact h.grow he fun _ => whole_no_top hband

theorem TopsSince.endPage (feed : Option Bool) (h : TopsSince (IsHeaded form) before p) :
    Ends (endPage form feed) p (fun _ q => TopsSince (IsHeaded form) before q)
      fun _ q => TopsSince (IsHeadedOrCut form) before q := by
  refine endPage_ends (fun made q hq => ?_) fun fault made q hq => ?_
  · have hwhole : TopsSince (IsHeaded form) before q := TopsSince.whole (p := p.due) h (by simp) hq
    exact hwhole.noted (by simp)
  · exact (TopsSince.prints (p := p.due) h hq.emits.prints).orCut

/-- Right after the top the header is due (`HeaderDue`), but where the top shows as many lines as both have.
-/
theorem headerDue_iff (hsome : 0 < form.bandSize .groupHeader) (ht : p.page.topPending = true)
    (hf : p.page.isFresh = true) {made : List Composed} (hq : Whole form .top made p.opened q)
    (htop : (form.band? .top).isSome) : form.HeaderDue q.page ↔ made.length ≠ form.frontSize := by
  have hheader : (form.band? .groupHeader).isSome := by
    cases hb : form.band? .groupHeader with
    | none => simp [Form.bandSize, hb] at hsome
    | some lines => rfl
  have hfresh : p.page.linesLeft = p.page.length := by simpa [Page.isFresh] using hf
  have hpage := hq.page
  rw [page_opened ht] at hpage
  simp only [Form.HeaderDue, Form.frontSize, htop, hheader, true_and, hpage, Page.taking]
  omega

/-- `openPage` shows the top, and the header follows if and only if the top does not show `frontSize` lines.
-/
theorem openPage_headed (hheader : ∀ line ∈ form.lines .groupHeader, line.IsPlain)
    (hsome : 0 < form.bandSize .groupHeader) (p : Press) :
    Ends (openPage form) p
      (fun _ q => TopsSince (fun count later => IsHeaded form count later ∧
        (count = form.frontSize → later = [])) p.events q)
      fun _ q => TopsSince (IsHeadedOrCut form) p.events q := by
  -- all ways to open a page give the top, its mark, and what follows the mark; only that differs
  have after : ∀ {P} (made rest) {r : Press}, (∀ n, .emitted .top n ∉ rest) →
      r.events = p.opened.events ++ (p.opened.printing (.band .top) made).map .printed ++
        form.marks .top made.length ++ rest →
      ((form.band? .top).isSome → P made.length rest) → TopsSince P p.events r := by
    intro P made rest r hrest hr hP
    rw [events_opened] at hr
    refine ⟨.opened :: ((p.opened.printing (.band .top) made).map .printed ++
      form.marks .top made.length ++ rest), by simp [hr], ?_⟩
    have hopened : AfterTops (fun _ _ => False) [.opened] := afterTops_of_forall (by simp)
    exact hopened.append (fun _ _ h => h.elim) (afterTops_top hrest hP)
  refine openPage_ends ?_ ?_ ?_ ?_ ?_ ?_
  · exact fun _ => ⟨[], by simp, afterTops_of_forall (by simp)⟩
  · exact fun _ _ => ⟨[.opened], events_opened p, afterTops_of_forall (by simp)⟩
  · intro ht hf made q hq hbare
    refine after made [] (by simp) (by simp [hq.events]) fun htop => ⟨fun hcount => ?_, fun _ => rfl⟩
    exact absurd ((headerDue_iff hsome ht hf hq htop).mpr hcount) hbare
  · intro ht hf made q hq hdue made' r hr
    have he : r.events = p.opened.events ++ (p.opened.printing (.band .top) made).map .printed ++
        form.marks .top made.length ++ ((q.printing (.band .groupHeader) made').map .printed ++
          form.marks .groupHeader made'.length) := by
      rw [hr.events, hq.events, List.append_assoc]
    refine after made _ (fun n => whole_no_top (by simp)) he fun htop => ⟨fun _ => ?_, fun hcount => ?_⟩
    · exact ⟨_, [], (List.append_nil _).symm, hr.emission⟩
    · exact absurd hcount ((headerDue_iff hsome ht hf hq htop).mp hdue)
  · intro _ _ fault made q hq
    refine ⟨.opened :: (p.opened.printing (.band .top) made).map .printed, ?_, afterTops_of_forall (by simp)⟩
    simp [hq.emits.prints.events]
  · intro _ _ made q hq _ fault made' r hr
    have he : r.events = p.opened.events ++ (p.opened.printing (.band .top) made).map .printed ++
        form.marks .top made.length ++ (q.printing (.band .groupHeader) made').map .printed := by
      rw [hr.emits.prints.events, hq.events]
    refine after made _ (fun n => printed_no_top) he fun _ _ => .inr ⟨_, rfl, ?_, ?_⟩
    · rw [length_printing]
      exact hr.size hheader
    · exact fun line hl => (mem_printing hl).2.1

theorem TopsSince.openPage (hheader : ∀ line ∈ form.lines .groupHeader, line.IsPlain)
    (hsome : 0 < form.bandSize .groupHeader) (h : TopsSince (IsHeaded form) before p) :
    Ends (openPage form) p (fun _ q => TopsSince (IsHeaded form) before q)
      fun _ q => TopsSince (IsHeadedOrCut form) before q := by
  refine (openPage_headed hheader hsome p).mono ?_ ?_
  · rintro _ q ⟨more, he, hmore⟩
    exact h.append (fun _ _ hl => hl) he (hmore.mono fun _ _ hl => hl.1)
  · rintro _ q ⟨more, he, hmore⟩
    exact h.append (fun _ _ hl hcount => .inl (hl hcount)) he hmore

theorem TopsSince.printTop (hheader : ∀ line ∈ form.lines .groupHeader, line.IsPlain)
    (hsome : 0 < form.bandSize .groupHeader) (h : TopsSince (IsHeaded form) before p) :
    Ends (printTop form) p (fun _ q => TopsSince (IsHeaded form) before q)
      fun _ q => TopsSince (IsHeadedOrCut form) before q := by
  refine printTop_ends (fun _ => ?_) fun _ => h.openPage hheader hsome
  exact (h.endPage none).mono (fun _ _ hq => hq.openPage hheader hsome) fun _ _ he => he

theorem headed_pages (hheader : ∀ line ∈ form.lines .groupHeader, line.IsPlain)
    (hsome : 0 < form.bandSize .groupHeader) :
    PageSteps form (TopsSince (IsHeaded form) before) fun _ q => TopsSince (IsHeadedOrCut form) before q where
  due := fun _ _ h => h.same rfl
  endPage := fun _ _ h => h.endPage none
  printTop := fun _ h => h.printTop hheader hsome

theorem headed_records (hheader : ∀ line ∈ form.lines .groupHeader, line.IsPlain)
    (hsome : 0 < form.bandSize .groupHeader) :
    RecordSteps form (TopsSince (IsHeaded form) before)
      fun _ q => TopsSince (IsHeadedOrCut form) before q where
  toPageSteps := headed_pages hheader hsome
  desk := fun _ _ h => h.same rfl
  holding := fun _ _ h => h.same rfl
  moved := fun _ _ h => h.same rfl
  flushed := fun _ _ _ h => h.noted (by simp)
  deferred := fun _ _ _ h => h.noted (by simp)
  body := fun _ _ _ _ hq h => h.prints hq
  fault := fun _ _ h => h.orCut

theorem headed_bands (hheader : ∀ line ∈ form.lines .groupHeader, line.IsPlain)
    (hsome : 0 < form.bandSize .groupHeader) :
    BandSteps form (TopsSince (IsHeaded form) before)
      fun _ q => TopsSince (IsHeadedOrCut form) before q where
  toPageSteps := headed_pages hheader hsome
  finish := fun _ _ feed _ hq h => (h.prints hq).endPage (some feed)
  band := fun _ _ _ _ htop _ _ _ hq h => h.whole htop hq
  partly := fun _ _ _ _ _ _ _ _ _ hq h => (h.prints hq.emits.prints).orCut
  summary := fun _ h => h.same rfl

/-- An operation puts the header after each top of another size (`IsHeaded`), but one that fails may cut the
last (`IsHeadedOrCut`). -/
theorem operate_headed (hheader : ∀ line ∈ form.lines .groupHeader, line.IsPlain)
    (hsome : 0 < form.bandSize .groupHeader) {operation : Operation}
    (huses : operation.Uses form) (p : Press) :
    Ends (operate operation) p (fun _ q => TopsSince (IsHeaded form) p.events q)
      fun _ q => TopsSince (IsHeadedOrCut form) p.events q := by
  have hstart : TopsSince (IsHeaded form) p.events p := ⟨[], by simp, afterTops_of_forall (by simp)⟩
  obtain ⟨source, task, rfl, -⟩ | ⟨change, rfl⟩ := huses
  · simp only [operate, ends_bind, ends_modify]
    have hvalues : TopsSince (IsHeaded form) p.events (p.withValues source) := hstart.same rfl
    exact (headed_bands hheader hsome).task (fun _ h => (headed_records hheader hsome).printRecord h) task
      hvalues
  · exact hstart.same rfl

end Headed

/-! ## Runs -/

/-- Some operation of the run failed in the middle of the header: the log it left ends after the first of its
lines, and what came before them is `earlier`. -/
def FailedIn (form : Form) (operations : List Operation) (p : Press) (earlier : List Event) : Prop :=
  ∃ before operation cut, before ++ [operation] <+: operations ∧ ¬ Returns operation (after before p) ∧
    (after (before ++ [operation]) p).events = earlier ++ cut ∧ IsHeaderCut form cut

theorem FailedIn.concat {form : Form} {operations : List Operation} {p : Press} {earlier : List Event}
    (h : FailedIn form operations p earlier) (operation : Operation) :
    FailedIn form (operations ++ [operation]) p earlier := by
  obtain ⟨before, failed, cut, hbefore, hfailed⟩ := h
  exact ⟨before, failed, cut, hbefore.trans (List.prefix_append _ _), hfailed⟩

/-- Each top of a run that does not show `frontSize` lines is followed by the header at once, unless the call
fails at one of the lines of the header.  The induction is over the run from its end: what a later operation
adds comes after the header, and a call that failed stays in the run. -/
theorem after_headed {form : Form} (hheader : ∀ line ∈ form.lines .groupHeader, line.IsPlain)
    (hsome : 0 < form.bandSize .groupHeader) {p : Press} (hp : p.events = []) (operations : List Operation)
    (huses : ∀ operation ∈ operations, operation.Uses form) :
    ∀ earlier count later, (after operations p).events = earlier ++ .emitted .top count :: later →
      count ≠ form.frontSize →
      BeginsHeaded form later ∨ FailedIn form operations p (earlier ++ [.emitted .top count]) := by
  induction operations using List.reverseRecOn with
  | nil =>
    intro earlier count later he
    rw [after_nil, hp] at he
    simp at he
  | append_singleton operations operation ih =>
    intro earlier count later he hcount
    obtain ⟨huses, hlastUses⟩ := List.forall_mem_append.mp huses
    have hlast := operate_headed hheader hsome (hlastUses operation List.mem_cons_self) (after operations p)
    have hearlier : ∀ rest more, (after operations p).events = earlier ++ .emitted .top count :: rest →
        BeginsHeaded form (rest ++ more) ∨
          FailedIn form (operations ++ [operation]) p (earlier ++ [.emitted .top count]) := by
      intro rest more hrest
      exact (ih huses earlier count rest hrest hcount).imp (·.append) (·.concat operation)
    rw [after_concat] at he
    cases hrun : (operate operation (after operations p)).1 with
    | ok _ =>
      obtain ⟨more, hmore, htops⟩ := (ends_iff.mp hlast).1 _ hrun
      rw [hmore] at he
      -- the top was there before the operation, or the operation printed it
      rcases append_eq_append_cons he with ⟨rest, hrest, rfl⟩ | ⟨rest, -, hback⟩
      · exact hearlier rest more hrest
      · exact .inl (htops rest count later hback hcount)
    | error fault =>
      obtain ⟨more, hmore, htops⟩ := (ends_iff.mp hlast).2 _ hrun
      rw [hmore] at he
      rcases append_eq_append_cons he with ⟨rest, hrest, rfl⟩ | ⟨rest, rfl, hback⟩
      · exact hearlier rest more hrest
      · refine (htops rest count later hback hcount).imp_right fun hcut => ?_
        refine ⟨operations, operation, later, List.prefix_rfl, fun hreturns => ?_, ?_, hcut⟩
        · rw [Returns, hrun] at hreturns
          cases hreturns
        · rw [after_concat, hmore, hback]
          simp

/-- The top `^<~~` is printed as often as there is text left for it; the header `==` is one line. -/
def repeatingTop : Form :=
  ⟨[⟨[.field ⟨.text .left 2, false⟩], false, false, ["x"], ['@', '<']⟩],
    [(.top, [⟨[.field ⟨.text .left 2, true⟩], true, true, ["t"], ['^', '<', '~', '~']⟩]),
      (.groupHeader, [⟨[.literal ['=', '=']], false, false, [], ['=', '=']⟩])]⟩

/-- Print a record below `repeatingTop`, whose lines show `text`. -/
def below (text : Text) : List Operation :=
  [.task repeatingTop ⟨.mapping, [("t", .text text), ("x", .text ['r'])]⟩ .record]

theorem below_of (text : Text) :
    ∀ operation ∈ below text, operation.Uses repeatingTop := fun operation ho =>
  .inl (Operation.calls_of_mem_map [.record] (fun _ _ => trivial) operation ho)

/-- Whatever is printed with a form whose group header prints each of its lines once, and whichever calls fail
on the way: each top that is printed is directly followed by the header, unless it shows just as many lines as
top and header have together, or the call failed at a line of that header.  A page that is begun with a top of
that many lines shows nothing after it. -/
theorem after_headers {form : Form} (hheader : ∀ line ∈ form.lines .groupHeader, line.IsPlain)
    (hsome : 0 < form.bandSize .groupHeader) (length : Int) (formFeed : Bool) (operations : List Operation)
    (huses : ∀ operation ∈ operations, operation.Uses form) :
    (∀ earlier count later,
      (after operations (start (Page.first length) formFeed)).events =
        earlier ++ .emitted .top count :: later →
      count ≠ form.bandSize .top + form.bandSize .groupHeader →
      BeginsHeaded form later ∨
        FailedIn form operations (start (Page.first length) formFeed) (earlier ++ [.emitted .top count])) ∧
    ∀ p q earlier later, openPage form p = (.ok (), q) →
      q.events = p.events ++ (earlier ++
        .emitted .top (form.bandSize .top + form.bandSize .groupHeader) :: later) → later = [] := by
  refine ⟨after_headed hheader hsome rfl operations huses, fun p q earlier later hopen he => ?_⟩
  obtain ⟨more, hmore, htops⟩ := (openPage_headed hheader hsome p).of_ok hopen
  rw [hmore] at he
  exact (htops earlier _ later (List.append_cancel_left he)).2 rfl

/-- A top of three lines, where top and header have two: the header follows. -/
theorem after_headers_threeLines :
    (∀ line ∈ repeatingTop.lines .groupHeader, line.IsPlain) ∧ 0 < repeatingTop.bandSize .groupHeader ∧
    (∀ operation ∈ below ['a', 'a', 'b', 'b', 'c', 'c'], operation.Uses repeatingTop) ∧
    let press := after (below ['a', 'a', 'b', 'b', 'c', 'c']) (start (Page.first 6) false)
    press.events = press.events.take 4 ++ .emitted .top 3 :: press.events.drop 5 ∧
    3 ≠ repeatingTop.bandSize .top + repeatingTop.bandSize .groupHeader ∧
    (BeginsHeaded repeatingTop (press.events.drop 5) ∨
      FailedIn repeatingTop (below ['a', 'a', 'b', 'b', 'c', 'c']) (start (Page.first 6) false)
        (press.events.take 4 ++ [.emitted .top 3])) := by
  have hheader : ∀ line ∈ repeatingTop.lines .groupHeader, line.IsPlain := by decide
  have hsome : 0 < repeatingTop.bandSize .groupHeader := by decide
  have hsize : 3 ≠ repeatingTop.bandSize .top + repeatingTop.bandSize .groupHeader := by decide
  have hevents : (after (below ['a', 'a', 'b', 'b', 'c', 'c']) (start (Page.first 6) false)).events =
      (after (below ['a', 'a', 'b', 'b', 'c', 'c']) (start (Page.first 6) false)).events.take 4 ++
        .emitted .top 3 ::
          (after (below ['a', 'a', 'b', 'b', 'c', 'c']) (start (Page.first 6) false)).events.drop 5 := by
    decide +kernel
  exact ⟨hheader, hsome, below_of _, hevents, hsize,
    (after_headers hheader hsome 6 false _ (below_of _)).1 _ _ _ hevents hsize⟩

/-- A top of two lines, as many as top and header have: no header follows, though no call fails. -/
theorem header_missing :
    (∀ line ∈ repeatingTop.lines .groupHeader, line.IsPlain) ∧ 0 < repeatingTop.bandSize .groupHeader ∧
    (∀ operation ∈ below ['a', 'a', 'b', 'b'], operation.Uses repeatingTop) ∧
    Throughout Returns (below ['a', 'a', 'b', 'b']) (start (Page.first 6) false) ∧
    let press := after (below ['a', 'a', 'b', 'b']) (start (Page.first 6) false)
    press.events = press.events.take 3 ++ .emitted .top 2 :: press.events.drop 4 ∧
    ¬ BeginsHeaded repeatingTop (press.events.drop 4) := by
  have hheader : ∀ line ∈ repeatingTop.lines .groupHeader, line.IsPlain := by decide
  have hsome : 0 < repeatingTop.bandSize .groupHeader := by decide
  have hbody : ((after (below ['a', 'a', 'b', 'b']) (start (Page.first 6) false)).events.drop 4).head? =
      some (.printed ⟨⟨['r'], 1⟩, .body, 1, false, .body⟩) := by decide +kernel
  refine ⟨hheader, hsome, below_of _, by decide +kernel, by decide +kernel, fun hbegins => ?_⟩
  obtain ⟨line, rest, hfirst, horigin⟩ := hbegins.first hheader hsome
  rw [hfirst] at hbody
  cases hbody
  cases horigin

end Press

end PictureReport
