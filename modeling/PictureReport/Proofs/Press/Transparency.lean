import PictureReport.Proofs.Press.Operations

/-!
# Pages do not change records

The lines of a record are those that composing it without any pages gives, in the same order, and the
variables show the same afterwards.  The two runs are compared turn by turn (`Along`): what the paged
run has printed and holds back is what the other one has composed so far, and as long as the page at
hand shows another record nothing is printed yet, so that all values can be set back.
-/

namespace PictureReport

namespace Form

/-- The bands of a page. -/
def pageBands : List Band := [.top, .groupHeader, .bottom]

/-- No band of a page writes to a variable: all their lines are `PictureLine.IsQuiet`. -/
def IsQuiet (form : Form) : Prop := ∀ band ∈ pageBands, ∀ line ∈ form.lines band, line.IsQuiet

/-- Composing some line of `pageBands`, with the values that `journal` shows, fails. -/
def PageFaults (form : Form) (fault : Fault) (journal : Journal) : Prop :=
  ∃ band ∈ pageBands, ∃ line ∈ form.lines band, ∃ desk after,
    desk.journal = journal ∧ line.FaultsTo fault desk after

end Form

namespace Press

/-- The texts of the lines of records, without the form feeds. -/
def bodyTexts (events : List Event) : List Text :=
  ((events.filterMap Event.line?).filter (·.origin = .body)).map (·.line.text)

/-- Keep a line pending. -/
def hold (line : Composed) : Printing Unit :=
  modify fun press => { press with pending := press.pending ++ [line] }

/-- Compose picture lines with no pages in sight; their texts are pending afterwards. -/
def collect (lines : List PictureLine) : Printing Nat := composeAll (pure ()) hold lines

/-- Between `p` and `q` no line of a record is printed and no variable is set. -/
structure Aside (p q : Press) : Prop where
  texts : bodyTexts q.events = bodyTexts p.events
  journal : q.desk.journal = p.desk.journal
  pending : q.pending = p.pending

section Texts

variable {events more : List Event}

@[simp] theorem bodyTexts_append :
    bodyTexts (events ++ more) = bodyTexts events ++ bodyTexts more := by
  simp [bodyTexts]

theorem bodyTexts_printing (p : Press) (origin : Origin) (lines : List Composed) :
    bodyTexts ((p.printing origin lines).map .printed) =
      if origin = .body then lines.map (·.text) else [] := by
  have hlines : ((p.printing origin lines).map Event.printed).filterMap Event.line? =
      p.printing origin lines := by
    simp [List.filterMap_map, Function.comp_def, Event.line?]
  unfold bodyTexts
  rw [hlines]
  by_cases ho : origin = .body
  · have hall : ∀ line ∈ p.printing origin lines, decide (line.origin = .body) = true := by
      intro line hl
      rw [(mem_printing hl).2.1]
      simpa using ho
    have hmap : (p.printing origin lines).map (·.line) = lines := map_line_printing
    have htexts := congrArg (List.map (·.text)) hmap
    rw [List.map_map] at htexts
    rw [List.filter_eq_self.mpr hall, if_pos ho]
    exact htexts
  · have hnone : ∀ line ∈ p.printing origin lines, ¬ decide (line.origin = .body) = true := by
      intro line hl
      rw [(mem_printing hl).2.1]
      simpa using ho
    rw [List.filter_eq_nil_iff.mpr hnone, if_neg ho]
    rfl

@[simp] theorem bodyTexts_marks (form : Form) (band : Band) (count : Nat) :
    bodyTexts (form.marks band count) = [] := by
  unfold Form.marks
  split <;> rfl

theorem Prints.texts {p q : Press} {origin : Origin} {lines : List Composed}
    (h : Prints origin lines p q) :
    bodyTexts q.events = bodyTexts p.events ++ if origin = .body then lines.map (·.text) else [] := by
  rw [h.events, bodyTexts_append, bodyTexts_printing]

end Texts

/-! ## The bands of a page -/

section Bands

variable {form : Form} {p q r : Press}

theorem Aside.refl (p : Press) : Aside p p := ⟨rfl, rfl, rfl⟩

theorem Aside.trans (h : Aside p q) (h' : Aside q r) : Aside p r :=
  ⟨h'.texts.trans h.texts, h'.journal.trans h.journal, h'.pending.trans h.pending⟩

theorem Whole.aside (hquiet : form.IsQuiet) {band : Band} (hb : band ∈ Form.pageBands)
    {made : List Composed} (h : Whole form band made p q) : Aside p q := by
  refine ⟨?_, h.quiet (hquiet band hb), h.pending⟩
  rw [h.events, bodyTexts_append, bodyTexts_append, bodyTexts_printing, if_neg (by simp)]
  simp

theorem Partly.pageFaults (hquiet : form.IsQuiet) {band : Band} (hb : band ∈ Form.pageBands)
    {fault : Fault} {made : List Composed} (h : Partly form band fault made p q) :
    form.PageFaults fault q.desk.journal := by
  obtain ⟨line, hl, desk, hf⟩ := h.fault
  exact ⟨band, hb, line, hl, desk, q.desk, (hf.journal (hquiet band hb line hl)).symm, hf⟩

theorem endPage_aside (hquiet : form.IsQuiet) (feed : Option Bool) (p : Press) :
    Ends (endPage form feed) p (fun _ q => Aside p q)
      fun fault q => form.PageFaults fault q.desk.journal := by
  have hdue : Aside p p.due := ⟨rfl, rfl, rfl⟩
  refine endPage_ends (fun made q hq => ?_) fun fault made q hq => hq.pageFaults hquiet (by decide)
  refine (hdue.trans (hq.aside hquiet (by decide))).trans ⟨?_, rfl, rfl⟩
  rw [events_closed]
  simp [bodyTexts, Event.line?]

theorem openPage_aside (hquiet : form.IsQuiet) (p : Press) :
    Ends (openPage form) p (fun _ q => Aside p q)
      fun fault q => form.PageFaults fault q.desk.journal := by
  have hopened : Aside p p.opened := by
    refine ⟨?_, rfl, rfl⟩
    rw [events_opened]
    simp [bodyTexts, Event.line?]
  refine openPage_ends (fun _ => Aside.refl p) (fun _ _ => hopened) ?_ ?_ ?_ ?_
  · exact fun _ _ made q hq _ => hopened.trans (hq.aside hquiet (by decide))
  · intro _ _ made q hq _ made' r hr
    exact (hopened.trans (hq.aside hquiet (by decide))).trans (hr.aside hquiet (by decide))
  · exact fun _ _ fault made q hq => hq.pageFaults hquiet (by decide)
  · exact fun _ _ made q hq _ fault made' r hr => hr.pageFaults hquiet (by decide)

theorem printTop_aside (hquiet : form.IsQuiet) (p : Press) :
    Ends (printTop form) p (fun _ q => Aside p q ∧ Begun p q)
      fun fault q => form.PageFaults fault q.desk.journal := by
  refine Ends.and_ok (printTop_ends (fun _ => ?_) fun _ => openPage_aside hquiet p) (printTop_begun form p)
  refine (endPage_aside hquiet none p).mono (fun _ q hq => ?_) fun _ _ he => he
  exact (openPage_aside hquiet q).mono (fun _ _ hr => hq.trans hr) fun _ _ he => he

theorem endPageIfFull_aside (hquiet : form.IsQuiet) (p : Press) :
    Ends (endPageIfFull form) p (fun _ q => Aside p q)
      fun fault q => form.PageFaults fault q.desk.journal :=
  endPageIfFull_ends (fun _ => Aside.refl p) (fun _ _ _ => endPage_aside hquiet none p)
    fun _ _ => ⟨rfl, rfl, rfl⟩

end Bands

/-! ## Composing with pages and without -/

/-- The paged run `p` and the run `q` without pages, which both began with the values of `journal` when
`earlier` were the texts of records so far; `used` says whether the page showed a record then. -/
structure Along (earlier : List Text) (journal : Journal) (used : Bool) (p q : Press) : Prop where
  alike : Journal.Alike p.desk.journal q.desk.journal
  shown : bodyTexts p.events ++ p.pending.map (·.text) = earlier ++ q.pending.map (·.text)
  bottomPending : p.page.bottomPending = false
  held : p.page.bodyPrinted = true → used = true ∧ p.page.topPending = false ∧
    bodyTexts p.events = earlier ∧ Journal.Recalls p.desk.journal journal

section Composing

variable {form : Form} {earlier : List Text} {journal : Journal} {used : Bool} {p q : Press}
variable {G : Fault → Press → Prop}

theorem follows_onDesk {R : Press → Press → Prop} {D : Desk → Desk → Prop} {α : Type}
    {x y : Composing α} (h : Follows D (fun _ _ => False) x y p.desk q.desk)
    (hR : ∀ d e, D d e → R { p with desk := d } { q with desk := e }) :
    Follows R G (onDesk x) (onDesk y) p q := by
  unfold Follows
  rw [ends_onDesk]
  refine Ends.mono h ?_ ?_
  · rintro a d ⟨e, hy, hd⟩
    refine ⟨{ q with desk := e }, ?_, hR d e hd⟩
    simp [onDesk, hy]
  · rintro fault d (hf | ⟨e, hy⟩)
    · exact hf.elim
    · exact .inr ⟨{ q with desk := e }, by simp [onDesk, hy]⟩

theorem Along.desk (h : Along earlier journal used p q) {d e : Desk}
    (halike : Journal.Alike d.journal e.journal)
    (hrecalls : p.page.bodyPrinted = true → Journal.Recalls d.journal journal) :
    Along earlier journal used { p with desk := d } { q with desk := e } :=
  ⟨halike, h.shown, h.bottomPending, fun hb =>
    ⟨(h.held hb).1, (h.held hb).2.1, (h.held hb).2.2.1, hrecalls hb⟩⟩

theorem Along.hold (h : Along earlier journal used p q) (text : Text) (m n : Int) :
    Along earlier journal used { p with pending := p.pending ++ [⟨text, m⟩] }
      { q with pending := q.pending ++ [⟨text, n⟩] } := by
  refine ⟨h.alike, ?_, h.bottomPending, h.held⟩
  simp only [List.map_append, List.map_cons, List.map_nil]
  rw [← List.append_assoc, ← List.append_assoc]
  exact congrArg (· ++ [text]) h.shown

theorem Along.texts (h : Along earlier journal used p q) (names : List String) :
    Follows (Along earlier journal used) (fun _ _ => False) (onDesk (Desk.texts names))
      (onDesk (Desk.texts names)) p q := by
  have hsame : Ends (Desk.texts names) p.desk (fun _ d => d = p.desk) fun _ _ => True :=
    (Desk.texts_ends names p.desk).mono (fun _ _ h => h) fun _ _ _ => trivial
  refine follows_onDesk ((Desk.texts_follows names h.alike).and_left hsame) ?_
  rintro d e ⟨halike, rfl⟩
  exact h.desk halike fun hb => (h.held hb).2.2.2

theorem Along.compose (h : Along earlier journal used p q) {line : PictureLine}
    (hpage : line.IsPageless) (m n : Int) :
    Follows (Along earlier journal used) (fun _ _ => False) (onDesk (line.compose m))
      (onDesk (line.compose n)) p q := by
  have hkeeps : Ends (line.compose m) p.desk
      (fun _ d => p.page.bodyPrinted = true → Journal.Recalls d.journal journal)
      fun _ d => p.page.bodyPrinted = true → Journal.Recalls d.journal journal := by
    refine PictureLine.compose_keeps
      (P := fun j => p.page.bodyPrinted = true → Journal.Recalls j journal) ?_ fun hb => (h.held hb).2.2.2
    exact fun f _ _ j name value hj hb => (hj hb).set name value
  refine follows_onDesk ((PictureLine.compose_follows hpage m n h.alike).and_left
    (hkeeps.mono (fun _ _ h => h) fun _ _ _ => trivial)) ?_
  rintro d e ⟨halike, hrecalls⟩
  exact h.desk halike hrecalls

/-- `composeTurns` makes the same of a picture line in both runs, whatever is done `before` each turn of the
paged one. -/
theorem composeTurns_follows {before : Printing Unit} {line : PictureLine} (hpage : line.IsPageless)
    (hbefore : ∀ p q, Along earlier journal used p q →
      Ends before p (fun _ p => Along earlier journal used p q) G)
    (turns : Nat) :
    ∀ p q, Along earlier journal used p q →
      Follows (Along earlier journal used) G (composeTurns before hold line turns)
        (composeTurns (pure ()) hold line turns) p q := by
  -- both runs take as many turns, as the variables show the same in both before and after each
  induction turns with
  | zero => exact fun p q h => follows_pure 0 h
  | succ turns ih =>
    intro p q h
    unfold composeTurns
    refine (follows_of_ends (hbefore p q h)).bind fun _ p q h => ?_
    refine (h.texts line.names).weaken.bind fun held p q h => ?_
    refine follows_get ?_
    refine (h.compose hpage p.page.number q.page.number).weaken.bind fun shown p' q' h => ?_
    cases shown with
    | none => exact follows_pure 0 h
    | some shown =>
      refine Follows.bind (R := Along earlier journal used)
        (follows_modify (h.hold shown p.page.number q.page.number)) fun _ p q h => ?_
      split
      · refine (h.texts line.names).weaken.bind fun left p q h => ?_
        split
        · refine Follows.bind (R := Along earlier journal used) (follows_onDesk (D := fun d e =>
            Along earlier journal used { p with desk := d } { q with desk := e }) ?_ fun d e hd => hd)
            fun _ p q h => follows_pure 1 h
          exact follows_modify (h.desk h.alike fun hb => (h.held hb).2.2.2)
        · exact (ih p q h).bind fun further p q h => follows_pure _ h
      · exact follows_pure 1 h

theorem composeAll_follows {before : Printing Unit} {lines : List PictureLine}
    (hpage : ∀ line ∈ lines, line.IsPageless)
    (hbefore : ∀ p q, Along earlier journal used p q →
      Ends before p (fun _ p => Along earlier journal used p q) G) :
    ∀ p q, Along earlier journal used p q →
      Follows (Along earlier journal used) G (composeAll before hold lines) (collect lines) p q := by
  induction lines with
  | nil => exact fun p q h => follows_pure 0 h
  | cons line rest ih =>
    intro p q h
    rw [List.forall_mem_cons] at hpage
    unfold collect composeAll
    refine follows_get ?_
    rw [Desk.textSize_alike line.names h.alike]
    refine (composeTurns_follows hpage.1 hbefore _ p q h).bind fun count p q h => ?_
    exact (ih hpage.2 p q h).bind fun others p q h => follows_pure _ h

end Composing

/-! ## Records -/

section Records

variable {form : Form} {earlier : List Text} {journal : Journal} {used : Bool} {p q r : Press}

/-- Beginning a page is no part of the comparison: it goes on `Aside`. -/
theorem Along.begun (h : Along earlier journal used p q) (haside : Aside p r) (hbegun : Begun p r) :
    Along earlier journal used r q := by
  refine ⟨by rw [haside.journal]; exact h.alike, ?_, hbegun.bottomPending, fun hb => ?_⟩
  · rw [haside.texts, haside.pending]
    exact h.shown
  · cases ht : p.page.topPending with
    | true =>
      rw [hbegun.fresh (.inl ht)] at hb
      cases hb
    | false =>
      rw [hbegun.same ht h.bottomPending] at hb ⊢
      exact h.held hb

/-- What a flush prints is no longer pending, and the two stay `Along` each other. -/
theorem flushPartial_along (hquiet : form.IsQuiet) (h : Along earlier journal used p q) :
    Ends (flushPartial form) p (fun _ p => Along earlier journal used p q)
      fun fault q => form.PageFaults fault q.desk.journal := by
  refine flushPartial_ends rfl fun r hr hdesk => ?_
  generalize (p.pager.capacity (form.bandSize .bottom)).toNat = count at hr ⊢
  refine ((endPage_aside hquiet none _).and_ok (endPage_between form none _)).mono ?_ fun _ _ he => he
  rintro _ s ⟨haside, hbetween⟩
  refine ⟨?_, ?_, hbetween.bottomPending, fun hb => ?_⟩
  · rw [haside.journal, journal_committed]
    refine (Journal.alike_commit _).trans ?_
    rw [desk_noted, desk_holding, hdesk]
    exact h.alike
  · rw [haside.texts, haside.pending]
    have htexts : bodyTexts (((r.holding (p.pending.drop count)).noted
        (.flushed (p.pending.drop count).length)).committed).events =
        bodyTexts p.events ++ (p.pending.take count).map (·.text) := by
      rw [events_committed, events_noted, events_holding, bodyTexts_append, hr.texts, if_pos rfl]
      simp [bodyTexts, Event.line?]
    have hpending : (((r.holding (p.pending.drop count)).noted
        (.flushed (p.pending.drop count).length)).committed).pending = p.pending.drop count := rfl
    rw [htexts, hpending, List.append_assoc, ← List.map_append, List.take_append_drop]
    exact h.shown
  · rw [hbetween.bodyPrinted] at hb
    cases hb

theorem splitFullPage_along (hquiet : form.IsQuiet) (h : Along earlier journal used p q) :
    Ends (splitFullPage form) p (fun _ p => Along earlier journal used p q)
      fun fault q => form.PageFaults fault q.desk.journal := by
  refine splitFullPage_ends (fun _ => h) fun _ => ?_
  refine (printTop_aside hquiet p).mono ?_ fun _ _ he => he
  rintro _ r ⟨haside, hbegun⟩
  exact ⟨fun _ => h.begun haside hbegun, fun _ => flushPartial_along hquiet (h.begun haside hbegun)⟩

theorem flushRest_along (hquiet : form.IsQuiet) (rounds : Nat) (h : Along earlier journal used p q) :
    Ends (flushRest form rounds) p (fun _ p => Along earlier journal used p q)
      fun fault q => form.PageFaults fault q.desk.journal := by
  refine flushRest_ends (J := fun _ p => Along earlier journal used p q) (fun _ hp => hp)
    (fun _ _ hp _ => hp) ?_ rounds p h
  rintro _ p hp - -
  refine (flushPartial_along hquiet hp).mono (fun _ r hr => ⟨fun _ => hr, fun _ => ?_⟩) fun _ _ he => he
  refine (printTop_aside hquiet r).mono ?_ fun _ _ he => he
  rintro _ s ⟨haside, hbegun⟩
  exact hr.begun haside hbegun

/-- Between `p` and `q` the lines are printed that `collect` gives for the body from `u` on, and the variables
show afterwards what it left. -/
def Transparent (form : Form) (u p q : Press) : Prop :=
  ∃ count r, collect form.body u = (.ok count, r) ∧
    bodyTexts q.events = bodyTexts p.events ++ r.pending.map (·.text) ∧
    Journal.Alike q.desk.journal r.desk.journal

/-- When a record is placed, all that was pending is printed, and so it is `Transparent`. -/
theorem writeBody_transparent (hlast : Along (bodyTexts p.events) journal used q r) {u : Press}
    {count : Nat} (hr : collect form.body u = (.ok count, r)) :
    Ends (writeBody q.pending) q (fun _ s => Transparent form u p s) fun _ _ => False := by
  refine (writeBody_ends _ _).mono ?_ fun _ _ he => he
  rintro _ s ⟨hs, hdesk⟩
  refine ⟨count, r, hr, ?_, by rw [hdesk]; exact hlast.alike⟩
  rw [hs.texts, if_pos rfl]
  exact hlast.shown

theorem placeRecord_transparent (hbody : ∀ line ∈ form.body, line.IsPageless)
    (hquiet : form.IsQuiet) {u : Press} (halike : Journal.Alike p.desk.journal u.desk.journal)
    (hsaved : p.desk.journal.saved = []) (hu : u.pending = []) :
    Ends (placeRecord form) p
      (fun placed q => (placed = true → Transparent form u p q) ∧
        (placed = false → p.page.topPending = false ∧ q.page.topPending = true ∧
          bodyTexts q.events = bodyTexts p.events ∧ q.desk.journal.saved = [] ∧
          Journal.Alike q.desk.journal u.desk.journal))
      fun fault q => form.PageFaults fault q.desk.journal ∨
        ∃ r, collect form.body u = (.error fault, r) := by
  let I : Press → Prop := fun r => ∃ used count v, collect form.body u = (.ok count, v) ∧
    Along (bodyTexts p.events) p.desk.journal used r v ∧ (used = true → p.page.topPending = false)
  refine placeRecord_ends (I := I) ?_ ?_ ?_
  · refine (printTop_aside hquiet p).mono ?_ fun _ _ he => .inl he
    rintro _ q ⟨haside, hbegun⟩
    have hstart : Along (bodyTexts p.events) p.desk.journal q.page.bodyPrinted (q.holding []) u := by
      refine ⟨?_, ?_, hbegun.bottomPending, fun hb => ⟨hb, hbegun.topPending, haside.texts, ?_⟩⟩
      · rw [desk_holding, haside.journal]
        exact halike
      · rw [events_holding, haside.texts, hu]
        rfl
      · rw [desk_holding, haside.journal]
        exact Journal.recalls_refl hsaved
    refine Ends.mono (composeAll_follows hbody (fun _ _ h => splitFullPage_along hquiet h) _ u hstart) ?_
      fun _ _ he => he
    rintro count r ⟨v, hv, hr⟩
    refine ⟨q.page.bodyPrinted, count, v, hv, hr, fun hused => ?_⟩
    -- a page that is begun for the record shows no other one
    cases ht : p.page.topPending with
    | false => rfl
    | true =>
      rw [hbegun.fresh (.inl ht)] at hused
      cases hused
  · rintro r ⟨used, count, v, hv, hr, -⟩ hempty htop
    refine ⟨fun _ => ⟨count, v, hv, ?_, hr.alike⟩, fun h => by cases h⟩
    have hshown := hr.shown
    rw [hempty] at hshown
    simpa using hshown
  · rintro r ⟨used, count, v, hv, hr, hused⟩ -
    refine (printTop_aside hquiet r).mono ?_ fun _ _ he => .inl he
    rintro _ s ⟨haside, hbegun⟩
    have hs := hr.begun haside hbegun
    refine ⟨fun _ => ?_, fun _ _ => ?_, fun _ hbody => ?_⟩
    · refine (writeBody_transparent hs hv).mono (fun _ t ht => ?_) fun _ _ he => he.elim
      exact ⟨fun _ => ht, fun h => by cases h⟩
    · refine (flushRest_along hquiet _ hs).mono (fun _ t ht => ?_) fun _ _ he => .inl he
      refine (writeBody_transparent ht hv).mono (fun _ w hw => ?_) fun _ _ he => he.elim
      exact ⟨fun _ => hw, fun h => by cases h⟩
    · obtain ⟨hfirst, -, htexts, hrecalls⟩ := hs.held hbody
      refine ((endPage_aside hquiet none _).and_ok (endPage_between form none _)).mono ?_
        fun _ _ he => .inl he
      rintro _ t ⟨hlast, hbetween⟩
      refine ⟨fun h => by (cases h), fun _ => ⟨hused hfirst, hbetween.topPending, ?_, ?_, ?_⟩⟩
      · rw [hlast.texts, events_rolledBack, events_noted, bodyTexts_append, htexts]
        simp [bodyTexts, Event.line?]
      · rw [hlast.journal]
        rfl
      · rw [hlast.journal, journal_rolledBack]
        exact hrecalls.rollback.trans halike

theorem Transparent.aside {u : Press} (h : Transparent form u p q) (haside : Aside q r) :
    Transparent form u p r := by
  obtain ⟨count, v, hv, htexts, halike⟩ := h
  exact ⟨count, v, hv, haside.texts.trans htexts, by rw [haside.journal]; exact halike⟩

/-- Printing a record is `Transparent`: at the first attempt, or at the second one with the values set back.
-/
theorem printRecord_transparent (hbody : ∀ line ∈ form.body, line.IsPageless)
    (hquiet : form.IsQuiet) {u : Press} (halike : Journal.Alike p.desk.journal u.desk.journal)
    (hsaved : p.desk.journal.saved = []) (hu : u.pending = []) :
    Ends (printRecord form) p (fun _ q => Transparent form u p q)
      fun fault q => form.PageFaults fault q.desk.journal ∨
        ∃ r, collect form.body u = (.error fault, r) := by
  refine printRecord_ends (P := Transparent form u p) ?_ fun q state hq => ?_
  · refine (placeRecord_transparent hbody hquiet halike hsaved hu).mono ?_ fun _ _ he => he
    rintro placed q ⟨hplaced, hdeferred⟩
    refine ⟨hplaced, fun h => ?_⟩
    obtain ⟨-, hq, htexts, hsaved, halike⟩ := hdeferred h
    refine (placeRecord_transparent hbody hquiet halike hsaved hu).mono ?_ fun _ _ he => he
    rintro again r ⟨hplaced, hdeferred⟩
    cases again with
    | false =>
      -- the page is fresh this time
      rw [(hdeferred rfl).1] at hq
      cases hq
    | true =>
      obtain ⟨count, v, hv, hr, halike⟩ := hplaced rfl
      exact ⟨count, v, hv, by rw [hr, htexts], halike⟩
  · obtain ⟨count, v, hv, htexts, halike⟩ := hq
    have hcommitted : Transparent form u p (q.committed.paged (·.transition state)) :=
      ⟨count, v, hv, htexts, (Journal.alike_commit _).trans halike⟩
    exact (endPageIfFull_aside hquiet _).mono (fun _ _ hr => hcommitted.aside hr) fun _ _ he => .inl he

/-- Whatever was printed before, and however long the pages are: a record prints the lines that
composing its body without pages gives, and the variables show afterwards what they show then.
Printing it only fails where composing the body does, or composing a band of a page with the values at
hand. -/
theorem record_transparent (hbody : ∀ line ∈ form.body, line.IsPageless) (hquiet : form.IsQuiet)
    (source : Source) (p : Press) :
    let paged := operate (.task form source .record) p
    let unpaged := collect form.body ((p.withValues source).holding [])
    (∀ result, paged.1 = .ok result →
      (∃ count, unpaged.1 = .ok count) ∧
      bodyTexts paged.2.events = bodyTexts p.events ++ unpaged.2.pending.map (·.text) ∧
      ∀ name, paged.2.desk.journal.get name = unpaged.2.desk.journal.get name) ∧
    ∀ fault, paged.1 = .error fault →
      form.PageFaults fault paged.2.desk.journal ∨ unpaged.1 = .error fault := by
  have halike : Journal.Alike (p.withValues source).desk.journal
      ((p.withValues source).holding []).desk.journal := Journal.Alike.refl _
  have hends : Ends (operate (.task form source .record)) p
      (fun _ q => Transparent form ((p.withValues source).holding []) (p.withValues source) q)
      fun fault q => form.PageFaults fault q.desk.journal ∨
        ∃ r, collect form.body ((p.withValues source).holding []) = (.error fault, r) := by
    simp only [operate, Task.run, ends_bind, ends_modify]
    exact printRecord_transparent hbody hquiet halike rfl rfl
  obtain ⟨hok, herror⟩ := ends_iff.mp hends
  refine ⟨fun result hresult => ?_, fun fault hfault => ?_⟩
  · obtain ⟨count, r, hr, htexts, halike⟩ := hok result hresult
    rw [hr]
    exact ⟨⟨count, rfl⟩, htexts, halike.get⟩
  · refine (herror fault hfault).imp_right ?_
    rintro ⟨r, hr⟩
    rw [hr]

/-- Three columns of a text on each line, as long as some of it is left, on pages with a top and a bottom. -/
def columns : Form :=
  ⟨[⟨[.field ⟨.text .left 3, true⟩], true, true, ["t"], ['^', '<', '<', '~', '~']⟩],
    [(.top, [⟨[.literal ['T']], false, false, [], ['T']⟩]),
      (.bottom, [⟨[.literal ['B']], false, false, [], ['B']⟩])]⟩

def pairs : Source := ⟨.mapping, [("t", .text ['a', 'b', ' ', 'c', 'd', ' ', 'e', 'f'])]⟩

/-- A text that is cut in the middle by the end of a page. -/
theorem record_transparent_pairs :
    let paged := operate (.task columns pairs .record) (start (Page.first 4) true)
    let unpaged := collect columns.body (((start (Page.first 4) true).withValues pairs).holding [])
    (∀ line ∈ columns.body, line.IsPageless) ∧ columns.IsQuiet ∧
    bodyTexts paged.2.events = [['a', 'b'], ['c', 'd'], ['e', 'f']] ∧
    ∀ result, paged.1 = .ok result →
      (∃ count, unpaged.1 = .ok count) ∧
      bodyTexts paged.2.events = bodyTexts [] ++ unpaged.2.pending.map (·.text) ∧
      ∀ name, paged.2.desk.journal.get name = unpaged.2.desk.journal.get name := by
  have hbody : ∀ line ∈ columns.body, line.IsPageless := by decide
  have hquiet : columns.IsQuiet := by
    unfold Form.IsQuiet
    decide
  have hshown : bodyTexts (operate (.task columns pairs .record) (start (Page.first 4) true)).2.events =
      [['a', 'b'], ['c', 'd'], ['e', 'f']] := by decide +kernel
  exact ⟨hbody, hquiet, hshown,
    (record_transparent hbody hquiet pairs (start (Page.first 4) true)).1⟩

end Records

end Press

end PictureReport
