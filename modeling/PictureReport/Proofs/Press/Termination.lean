import PictureReport.Proofs.Press.Dwindling
import PictureReport.Proofs.Press.Transparency

/-!
# Printing a record comes to an end

Three loops print a record, and nothing in them counts rounds: a repeated line is composed until it is
suppressed or leaves its variables as they are, lines are flushed until the rest fits, and a record that is
put off is placed again.  Each of them ends (`Rounds`).  A turn of a repeated line takes a character from its
variables, of which whatever is printed between two turns may take more; a flush takes a line; and a record
that is put off finds a page that shows no other one.
-/

namespace PictureReport.Press

/-! ## Turns of a picture line -/

/-- One turn of composing a picture line: how many lines it gives, and whether another turn follows. -/
def composeTurn (before : Printing Unit) (emit : Composed → Printing Unit) (line : PictureLine) :
    Printing (Nat × Bool) := do
  before
  let held ← onDesk (Desk.texts line.names)
  let number := (← get).page.number
  match ← onDesk (line.compose number) with
  | none => pure (0, false)
  | some shown =>
    emit ⟨shown, number⟩
    if line.repeated then
      let left ← onDesk (Desk.texts line.names)
      if left = held then
        onDesk (Desk.warn [.noProgress line.source])
        pure (1, false)
      else pure (1, true)
    else pure (1, false)

section Turns

variable {before : Printing Unit} {emit : Composed → Printing Unit} {line : PictureLine} {p : Press}

theorem composeTurns_succ (before : Printing Unit) (emit : Composed → Printing Unit) (line : PictureLine)
    (turns : Nat) : composeTurns before emit line (turns + 1) = (do
      let turn ← composeTurn before emit line
      if turn.2 then
        let further ← composeTurns before emit line turns
        pure (further + turn.1)
      else pure turn.1) := by
  rw [composeTurns, composeTurn]
  simp only [bind_assoc]
  refine bind_congr fun _ => bind_congr fun held => bind_congr fun press => bind_congr fun shown => ?_
  cases shown with
  | none => simp
  | some shown =>
    simp only [bind_assoc]
    refine bind_congr fun _ => ?_
    by_cases hrepeated : line.repeated = true
    · simp only [hrepeated, if_true, bind_assoc]
      refine bind_congr fun left => ?_
      by_cases hleft : left = held
      · simp only [hleft, if_true, bind_assoc, pure_bind, Bool.false_eq_true, if_false]
      · simp only [hleft, if_false, pure_bind, if_true]
    · simp only [hrepeated, Bool.false_eq_true, if_false, pure_bind]

/-- `texts` gives what the variables show, as the press has them at hand. -/
theorem onDesk_texts_ends (names : List String) (p : Press) :
    Ends (onDesk (Desk.texts names)) p
      (fun held q => q = p ∧
        held = names.map fun name => (Record.resolve p.desk.journal.source.entries name).shown)
      fun _ _ => True := by
  rw [ends_onDesk]
  refine (Desk.texts_eq names p.desk).mono ?_ fun _ _ _ => trivial
  rintro held desk ⟨rfl, hheld⟩
  exact ⟨rfl, hheld⟩

/-- A turn gives one line at most, and takes a character from the variables if another turn follows. -/
theorem composeTurn_ends (hbefore : ∀ p, Ends before p (fun _ q => Dwindles p q) fun _ _ => True)
    (hemit : ∀ line p, Ends (emit line) p (fun _ q => Dwindles p q) fun _ _ => True)
    (line : PictureLine) (p : Press) :
    Ends (composeTurn before emit line) p
      (fun turn q => turn.1 ≤ 1 ∧
        (turn.2 = true → q.desk.textSize line.names.dedup < p.desk.textSize line.names.dedup))
      fun _ _ => True := by
  simp only [composeTurn, ends_bind, ends_get]
  refine (hbefore p).mono (fun _ q hpq => ?_) fun _ _ he => he
  refine (onDesk_texts_ends line.names q).mono ?_ fun _ _ he => he
  rintro held _ ⟨rfl, hheld⟩
  refine (onDesk_compose_dwindles line _ _).mono (fun shown r hqr => ?_) fun _ _ _ => trivial
  cases shown with
  | none => exact ⟨Nat.zero_le _, fun h => by cases h⟩
  | some shown =>
    simp only [ends_bind]
    refine (hemit _ r).mono (fun _ s hrs => ?_) fun _ _ he => he
    rw [ends_ite]
    split
    · simp only [ends_bind]
      refine (onDesk_texts_ends line.names s).mono ?_ fun _ _ he => he
      rintro left _ ⟨rfl, hleft⟩
      rw [ends_ite]
      split
      · simp only [ends_bind, ends_onDesk, Desk.warn, ends_modify, ends_pure]
        exact ⟨Nat.le_refl _, fun h => by cases h⟩
      · rename_i hchanged
        refine ⟨Nat.le_refl _, fun _ => ?_⟩
        -- some variable shows something else than before the turn, so all together hold less
        rw [hheld, hleft, List.map_inj_left] at hchanged
        push Not at hchanged
        obtain ⟨name, hname, hne⟩ := hchanged
        have hless := Desk.textSize_lt (hqr.trans hrs) (List.mem_dedup.mpr hname) hne
        exact Nat.lt_of_lt_of_le hless (Desk.textSize_le hpq _)
    · exact ⟨Nat.le_refl _, fun h => by cases h⟩

/-- The turns of `composeTurns` end, before those that are counted out are used up. -/
theorem composeTurns_rounds (hbefore : ∀ p, Ends before p (fun _ q => Dwindles p q) fun _ _ => True)
    (hemit : ∀ line p, Ends (emit line) p (fun _ q => Dwindles p q) fun _ _ => True) {turns : Nat}
    (hturns : p.desk.textSize line.names.dedup < turns) :
    let made := composeTurns before emit line turns p
    ∃ n ≤ 1 + p.desk.textSize line.names.dedup,
      Rounds (·.2) (composeTurn before emit line) n p (made.1.map fun _ => (), made.2) ∧
      ∀ count, made.1 = .ok count → count ≤ n := by
  -- each turn that another one follows is paid for with a character of the variables
  induction turns generalizing p with
  | zero => exact absurd hturns (Nat.not_lt_zero _)
  | succ turns ih =>
    have hturn := composeTurn_ends hbefore hemit line p
    rw [composeTurns_succ, bind_apply]
    cases hx : composeTurn before emit line p with
    | mk outcome q =>
      cases outcome with
      | error fault => exact ⟨1, Nat.le_add_right _ _, .failed hx, fun count h => by cases h⟩
      | ok turn =>
        obtain ⟨hone, hless⟩ := hturn.of_ok hx
        cases hagain : turn.2 with
        | false =>
          simp only [hagain, Bool.false_eq_true, if_false]
          refine ⟨1, Nat.le_add_right _ _, .ended hx hagain, fun count h => ?_⟩
          cases h
          exact hone
        | true =>
          have hfewer := hless hagain
          obtain ⟨n, hn, hrounds, hcount⟩ := ih (p := q) (by omega)
          simp only [hagain, if_true, bind_apply]
          cases hrest : composeTurns before emit line turns q with
          | mk rest r =>
            rw [hrest] at hrounds hcount
            cases rest with
            | error fault => exact ⟨n + 1, by omega, .next hx hagain hrounds, fun count h => by cases h⟩
            | ok further =>
              refine ⟨n + 1, by omega, .next hx hagain hrounds, fun count h => ?_⟩
              have hfurther := hcount further rfl
              cases h
              omega

/-- The two uses of `composeAll`: for a record, whose lines wait while pages that they fill are flushed, and
for a band, whose lines are printed one by one. -/
inductive Use (form : Form) : Printing Unit → (Composed → Printing Unit) → Prop
  | record : Use form (splitFullPage form) hold
  | band (band : Band) : Use form (pure ()) fun line => do
      write (.band band) line
      onPager (·.consume 1 false)

theorem Use.before_dwindles {form : Form} (h : Use form before emit) (p : Press) :
    Ends before p (fun _ q => Dwindles p q) fun _ _ => True := by
  cases h with
  | record => exact splitFullPage_dwindles form p
  | band band => exact .refl p

theorem Use.emit_dwindles {form : Form} (h : Use form before emit) (line : Composed) (p : Press) :
    Ends (emit line) p (fun _ q => Dwindles p q) fun _ _ => True := by
  cases h with
  | record => exact .refl p
  | band band =>
    simp only [write, ends_bind, ends_modify, ends_onPager]
    exact .refl p

/-- One turn more than the variables hold characters, the bound of the source, is never used up. -/
theorem Use.rounds {form : Form} (h : Use form before emit) (line : PictureLine) (p : Press) :
    let made := composeTurns before emit line (p.desk.textSize line.names + 1) p
    ∃ n ≤ 1 + p.desk.textSize line.names.dedup,
      Rounds (·.2) (composeTurn before emit line) n p (made.1.map fun _ => (), made.2) ∧
      ∀ count, made.1 = .ok count → count ≤ n := by
  have hdistinct := p.desk.textSize_sublist (List.dedup_sublist line.names)
  exact composeTurns_rounds h.before_dwindles h.emit_dwindles (Nat.lt_succ_of_le hdistinct)

end Turns

/-! ## Flushes -/

section Flushes

variable {form : Form} {p : Press}

/-- Lines that wait stay pending when a page is closed, also when its bottom fails. -/
theorem endPage_pending (form : Form) (feed : Option Bool) (p : Press) :
    Ends (endPage form feed) p (fun _ q => q.pending = p.pending) fun _ q => q.pending = p.pending :=
  endPage_ends (fun _ _ hq => hq.pending) fun _ _ _ hq => hq.emits.prints.pending

/-- `flushPartial` takes a line at least, also when the bottom of the page fails after it. -/
theorem flushPartial_shortens (h : p.pending ≠ []) :
    Ends (flushPartial form) p (fun _ q => q.pending.length < p.pending.length)
      fun _ q => q.pending.length < p.pending.length := by
  refine flushPartial_ends rfl fun q _ _ => ?_
  have hcapacity : 1 ≤ (p.pager.capacity (form.bandSize .bottom)).toNat := by
    rw [capacity_eq]
    omega
  have hpending := List.length_pos_of_ne_nil h
  have hless : ∀ r : Press, r.pending = p.pending.drop (p.pager.capacity (form.bandSize .bottom)).toNat →
      r.pending.length < p.pending.length := by
    intro r hr
    rw [hr, List.length_drop]
    omega
  exact (endPage_pending form none _).mono (fun _ r hr => hless r hr) fun _ r hr => hless r hr

/-- Where the pending lines are said to fill a page that shows no record yet, there are some. -/
theorem pending_of_fillsFreshPage
    (h : p.pager.fillsFreshPage p.pending.length (form.bandSize .bottom) = true) : p.pending ≠ [] := by
  intro hnil
  have hpending := (fillsFreshPage_iff.mp h).1
  rw [hnil] at hpending
  exact absurd hpending (by decide)

/-- One round of `flushRest`: unless the lines fit, some are flushed, and a page is begun for the others. -/
def flushRound (form : Form) : Printing Bool := do
  let press ← get
  if press.pending.isEmpty || press.pager.fits press.pending.length (form.bandSize .bottom) then pure false
  else
    flushPartial form
    unless (← get).pending.isEmpty do printTop form
    pure true

theorem flushRest_succ (form : Form) (rounds : Nat) : flushRest form (rounds + 1) = (do
    if ← flushRound form then flushRest form rounds) := by
  rw [flushRest, flushRound]
  simp only [bind_assoc]
  refine bind_congr fun press => ?_
  by_cases hdone : (press.pending.isEmpty ||
      press.pager.fits press.pending.length (form.bandSize .bottom)) = true
  · simp only [hdone, if_true, pure_bind, Bool.false_eq_true, if_false]
  · simp only [hdone, Bool.false_eq_true, if_false, bind_assoc]
    refine bind_congr fun _ => bind_congr fun rest => ?_
    by_cases hrest : rest.pending.isEmpty = true
    · simp only [hrest, if_true, pure_bind]
    · simp only [hrest, Bool.false_eq_true, if_false, bind_assoc, pure_bind, if_true]

theorem flushRound_ends (form : Form) (p : Press) :
    Ends (flushRound form) p (fun again q => again = true → q.pending.length < p.pending.length)
      fun _ _ => True := by
  simp only [flushRound, ends_bind, ends_get]
  rw [ends_ite]
  split
  · exact fun h => by cases h
  · rename_i hwait
    rw [Bool.or_eq_true, List.isEmpty_iff, not_or] at hwait
    simp only [ends_bind, ends_get]
    refine (flushPartial_shortens hwait.1).mono (fun _ q hq => ?_) fun _ _ _ => trivial
    rw [ends_ite]
    split
    · exact fun _ => hq
    · simp only [ends_bind]
      refine (printTop_begun form q).mono (fun _ r hr => ?_) fun _ _ he => he
      rw [ends_pure, hr.pending]
      exact fun _ => hq

/-- A round with nothing pending flushes nothing. -/
theorem flushRound_of_nil (h : p.pending = []) : flushRound form p = (.ok false, p) := by
  rw [flushRound, bind_apply]
  show (if p.pending.isEmpty || _ then pure false else _ : Printing Bool) p = _
  rw [h]
  rfl

/-- The rounds of `flushRest` end, before those that are counted out are used up. -/
theorem flushRest_rounds (form : Form) {rounds : Nat} (hrounds : p.pending.length ≤ rounds) :
    ∃ n ≤ 1 + p.pending.length, Rounds id (flushRound form) n p (flushRest form rounds p) := by
  induction rounds generalizing p with
  | zero =>
    have hnil : p.pending = [] := List.length_eq_zero_iff.mp (Nat.le_zero.mp hrounds)
    exact ⟨1, Nat.le_add_right _ _, .ended (flushRound_of_nil hnil) rfl⟩
  | succ rounds ih =>
    have hround := flushRound_ends form p
    rw [flushRest_succ, bind_apply]
    cases hx : flushRound form p with
    | mk outcome q =>
      cases outcome with
      | error fault => exact ⟨1, Nat.le_add_right _ _, .failed hx⟩
      | ok again =>
        cases again with
        | false => exact ⟨1, Nat.le_add_right _ _, .ended hx rfl⟩
        | true =>
          have hless := hround.of_ok hx rfl
          obtain ⟨n, hn, hloop⟩ := ih (p := q) (by omega)
          exact ⟨n + 1, by omega, .next hx rfl hloop⟩

end Flushes

/-! ## Placements -/

/-- A record is placed, and again if it is put off. -/
def placing (form : Form) : Printing Unit := do
  unless ← placeRecord form do
    let _ ← placeRecord form

/-- What is done after a record: its values are kept, and a page that it fills is closed. -/
def settle (form : Form) : Printing Unit := do
  commit
  unless (← get).page.topPending do onPager (·.transition .body)
  endPageIfFull form

section Placements

variable {form : Form} {p : Press}

theorem printRecord_eq (form : Form) : printRecord form = (do
    placing form
    settle form) := by
  rw [printRecord, placing]
  simp only [bind_assoc]
  refine bind_congr fun placed => ?_
  cases placed with
  | true => simp only [if_true, pure_bind, settle]
  | false => simp only [Bool.false_eq_true, if_false, bind_assoc, pure_bind, settle]

/-- `printTop` leaves a page that shows no record, if the one before showed none. -/
theorem printTop_unused (form : Form) (h : p.page.bodyPrinted = false) :
    Ends (printTop form) p (fun _ q => q.page.bodyPrinted = false) fun _ _ => True := by
  refine (printTop_begun form p).mono (fun _ q hq => ?_) fun _ _ he => he
  cases ht : p.page.topPending with
  | true => exact hq.fresh (.inl ht)
  | false =>
    cases hb : p.page.bottomPending with
    | true => exact hq.fresh (.inr hb)
    | false => rwa [hq.same ht hb]

/-- A record of which `splitFullPage` flushes lines goes on with a page that shows none. -/
theorem splitFullPage_unused (form : Form) (h : p.page.bodyPrinted = false) :
    Ends (splitFullPage form) p (fun _ q => q.page.bodyPrinted = false) fun _ _ => True := by
  refine splitFullPage_ends (fun _ => h) fun _ => ?_
  refine (printTop_unused form h).mono (fun _ q hq => ⟨fun _ => hq, fun _ => ?_⟩) fun _ _ he => he
  refine flushPartial_ends rfl fun r _ _ => ?_
  exact (endPage_between form none _).mono (fun _ _ hs => hs.bodyPrinted) fun _ _ he => he

/-- Composing the lines of a record shows none on the page at hand. -/
theorem composeAll_unused (form : Form) (h : p.page.bodyPrinted = false) :
    Ends (composeAll (splitFullPage form) hold form.body) p (fun _ q => q.page.bodyPrinted = false)
      fun _ _ => True := by
  have loop : ∀ line ∈ form.body, Loop (splitFullPage form) hold line
      (fun _ q => q.page.bodyPrinted = false) (fun _ q => q.page.bodyPrinted = false) fun _ _ _ => True :=
    fun line _ => ⟨fun _ _ hq => splitFullPage_unused form hq, fun _ _ hq => hq, fun _ _ _ hq _ _ => hq,
      fun _ _ _ hq => hq, fun _ _ _ hq => hq, fun _ _ _ _ _ _ => trivial⟩
  exact (composeAll_ends loop 0 p h).mono (fun _ _ hq => hq.1) fun _ _ _ => trivial

/-- A record is put off from a page that shows another one, and the next page shows none. -/
theorem placeRecord_putOff (form : Form) (p : Press) :
    Ends (placeRecord form) p (fun placed q => placed = false →
      p.page.bodyPrinted = true ∧ q.page.bodyPrinted = false) fun _ _ => True := by
  refine placeRecord_ends (I := fun r => p.page.bodyPrinted = false → r.page.bodyPrinted = false) ?_
    (fun _ _ _ _ h => by cases h) fun r hr _ => ?_
  · cases hused : p.page.bodyPrinted with
    | true =>
      refine ends_of_forall (fun _ q => ends_of_forall (fun _ r h => by cases h) fun _ _ => trivial)
        fun _ _ => trivial
    | false =>
      refine (printTop_unused form hused).mono (fun _ q hq => ?_) fun _ _ he => he
      exact (composeAll_unused form (p := q.holding []) hq).mono (fun _ r hr _ => hr) fun _ _ he => he
  · refine (ends_self (printTop form) r).mono
      (fun _ s hs => ⟨fun _ => ?_, fun _ _ => ?_, fun _ hshown => ?_⟩) fun _ _ _ => trivial
    · simp only [writeBody]
      exact ends_of_forall (fun _ _ h => by cases h) fun _ _ => trivial
    · exact ends_of_forall (fun _ _ => ends_of_forall (fun _ _ h => by cases h) fun _ _ => trivial)
        fun _ _ => trivial
    · refine (endPage_between form none _).mono (fun _ t ht _ => ⟨?_, ht.bodyPrinted⟩) fun _ _ he => he
      cases hused : p.page.bodyPrinted with
      | true => rfl
      | false =>
        rw [(printTop_unused form (hr hused)).of_ok hs] at hshown
        cases hshown

/-- A record that is put off is placed next time, so `placing` takes two rounds at most. -/
theorem placing_rounds (form : Form) (p : Press) :
    ∃ n ≤ 2, Rounds (!·) (placeRecord form) n p (placing form p) := by
  have hfirst := placeRecord_putOff form p
  simp only [placing, bind_apply]
  cases hx : placeRecord form p with
  | mk outcome q =>
    cases outcome with
    | error fault => exact ⟨1, by decide, .failed hx⟩
    | ok placed =>
      cases placed with
      | true => exact ⟨1, by decide, .ended hx rfl⟩
      | false =>
        have hunused := (hfirst.of_ok hx rfl).2
        have hsecond := placeRecord_putOff form q
        show ∃ n ≤ 2, Rounds _ _ n p ((placeRecord form >>= fun _ => pure ()) q)
        rw [bind_apply]
        cases hy : placeRecord form q with
        | mk outcome r =>
          cases outcome with
          | error fault => exact ⟨2, Nat.le_refl 2, .next hx rfl (.failed hy)⟩
          | ok placed =>
            cases placed with
            | true => exact ⟨2, Nat.le_refl 2, .next hx rfl (.ended hy rfl)⟩
            | false =>
              rw [(hsecond.of_ok hy rfl).1] at hunused
              cases hunused

/-- Whatever the press has at hand, printing a record comes to an end, and each loop of it within its bound.
The record is placed twice at most; a picture line, of a record or of a band, gives as many lines at most as
its distinct variables hold characters and one more; and lines that wait are flushed, some at each flush,
until the others fit. -/
theorem printRecord_terminates (form : Form) (p : Press) :
    printRecord form = (do
      placing form
      settle form) ∧
    (∃ n ≤ 2, Rounds (!·) (placeRecord form) n p (placing form p)) ∧
    (∀ before emit, Use form before emit → ∀ line : PictureLine,
      let made := composeTurns before emit line (p.desk.textSize line.names + 1) p
      ∃ n ≤ 1 + p.desk.textSize line.names.dedup,
        Rounds (·.2) (composeTurn before emit line) n p (made.1.map fun _ => (), made.2) ∧
        ∀ count, made.1 = .ok count → count ≤ n) ∧
    (∃ n ≤ 1 + p.pending.length, Rounds id (flushRound form) n p (flushRest form p.pending.length p)) ∧
    (p.pending ≠ [] → (flushPartial form p).2.pending.length < p.pending.length) ∧
    (p.pager.fillsFreshPage p.pending.length (form.bandSize .bottom) = true → p.pending ≠ []) := by
  refine ⟨printRecord_eq form, placing_rounds form p, ?_, flushRest_rounds form (Nat.le_refl _), ?_,
    pending_of_fillsFreshPage⟩
  · exact fun before emit huse line => huse.rounds line p
  · exact fun hpending => ends_state.mp (flushPartial_shortens hpending)

end Placements

end PictureReport.Press
