import PictureReport.Proofs.Press.Effects

/-!
# Rules for printing records

One rule for each operation that a record is printed with.  A rule takes the branches of its operation
apart and says in each of them, in terms of the page and the pending lines, what is known; what is to be
shown there is left to the assertions about the press.
-/

namespace PictureReport.Press

section Rules

variable {form : Form} {p : Press} {Q : Unit → Press → Prop} {E : Fault → Press → Prop}

/-! ## Pages -/

theorem printTop_ends
    (hdue : p.page.bottomPending = true →
      Ends (endPage form none) p (fun _ q => Ends (openPage form) q Q E) E)
    (hopen : p.page.bottomPending = false → Ends (openPage form) p Q E) : Ends (printTop form) p Q E := by
  simp only [printTop_eq, ends_bind, ends_get]
  rw [ends_ite]
  split
  · rename_i hb
    simp only [ends_bind]
    exact hdue hb
  · rename_i hb
    exact hopen (by simpa using hb)

/-- `printTop` leaves a page as it is that is begun and whose bottom is not due. -/
theorem printTop_idle (ht : p.page.topPending = false) (hb : p.page.bottomPending = false) :
    Ends (printTop form) p (fun _ q => q = p) fun _ _ => False := by
  refine printTop_ends (fun hdue => ?_) fun _ => ?_
  · rw [hb] at hdue
    cases hdue
  · have hbegun : p.page.topPending ≠ true := by simp [ht]
    exact openPage_ends (fun _ => rfl) (fun h => absurd h hbegun) (fun h => absurd h hbegun)
      (fun h => absurd h hbegun) (fun h => absurd h hbegun) fun h => absurd h hbegun

/-- `endPageIfFull` does nothing where there is room above the bottom; else it closes the page, or marks its
bottom as due if the form has one. -/
theorem endPageIfFull_ends
    (hroom : (p.page.topPending = false → (form.bandSize .bottom : Int) < p.page.linesLeft) → Q () p)
    (hclose : p.page.topPending = false → p.page.linesLeft ≤ form.bandSize .bottom →
      form.band? .bottom = none → Ends (endPage form none) p Q E)
    (hdue : p.page.topPending = false → p.page.linesLeft ≤ form.bandSize .bottom → Q () p.due) :
    Ends (endPageIfFull form) p Q E := by
  simp only [endPageIfFull, ends_bind, ends_get]
  rw [ends_ite]
  split
  · rename_i hfull
    obtain ⟨ht, hleft⟩ := isFull_iff.mp hfull
    rw [ends_ite]
    split
    · rename_i hnone
      exact hclose ht hleft (Option.isNone_iff_eq_none.mp hnone)
    · exact hdue ht hleft
  · rename_i hfull
    refine hroom fun ht => ?_
    have hleft : ¬ p.page.linesLeft ≤ form.bandSize .bottom :=
      fun hle => hfull (isFull_iff.mpr ⟨ht, hle⟩)
    omega

/-! ## Lines -/

section Lines

variable {before : Printing Unit} {emit : Composed → Printing Unit} {line : PictureLine}

/-- A line without tildes is composed once: one turn of `composeTurns` is all there is. -/
theorem composeTurns_plain (hline : line.IsPlain) (turns : Nat) {J K : Press → Prop}
    (hbefore : Ends before p (fun _ q => J q) E)
    (hdesk : ∀ q desk, J q → J { q with desk })
    (hemit : ∀ q text, J q → Ends (emit ⟨text, q.page.number⟩) q (fun _ r => K r) E)
    (hfault : ∀ fault desk after q, line.FaultsTo fault desk after → E fault q) :
    Ends (composeTurns before emit line (turns + 1)) p (fun _ q => K q) E := by
  simp only [composeTurns, ends_bind, ends_get]
  refine hbefore.mono (fun _ q hq => ?_) fun _ _ he => he
  rw [ends_onDesk]
  refine ((Desk.texts_ends line.names q.desk).and (ends_self _ q.desk)).mono ?_ ?_
  · -- the texts are read first, for a line that repeats; then the line is composed
    rintro held desk ⟨rfl, -⟩
    rw [ends_onDesk]
    refine ((PictureLine.compose_isSome hline.1 q.desk).and (ends_self _ q.desk)).mono ?_ ?_
    · rintro shown desk ⟨hshown, -⟩
      obtain ⟨text, rfl⟩ := Option.isSome_iff_exists.mp hshown
      simp only [hline.2, Bool.false_eq_true, if_false, ends_bind, ends_pure]
      exact hemit _ text (hdesk q desk hq)
    · rintro fault desk ⟨-, hrun⟩
      exact hfault fault q.desk desk _ (.inl ⟨_, hrun⟩)
  · rintro fault desk ⟨-, hrun⟩
    exact hfault fault q.desk desk _ (.inr hrun)

/-- Lines without tildes are composed one by one; `I n` holds when `n` of them are. -/
theorem composeAll_plain {I : Nat → Press → Prop} {total : Nat}
    (hbefore : ∀ n p, n < total → I n p → Ends before p (fun _ q => I n q) E)
    (hdesk : ∀ n q desk, I n q → I n { q with desk })
    (hemit : ∀ n q text, I n q → Ends (emit ⟨text, q.page.number⟩) q (fun _ r => I (n + 1) r) E)
    (lines : List PictureLine) (hplain : ∀ line ∈ lines, line.IsPlain)
    (hfault : ∀ line ∈ lines, ∀ fault desk after q, line.FaultsTo fault desk after → E fault q) :
    ∀ n p, n + lines.length = total → I n p →
      Ends (composeAll before emit lines) p (fun _ q => I total q) E := by
  induction lines with
  | nil =>
    rintro n p rfl hp
    exact hp
  | cons line rest ih =>
    intro n p hn hp
    rw [List.length_cons] at hn
    rw [List.forall_mem_cons] at hplain hfault
    simp only [composeAll, ends_bind, ends_get, ends_pure]
    refine (composeTurns_plain hplain.1 _ (hbefore n p (by omega) hp) (hdesk n) (hemit n)
      hfault.1).mono ?_ fun _ _ he => he
    intro _ q hq
    exact ih hplain.2 hfault.2 (n + 1) q (by omega) hq

end Lines

/-! ## Records -/

/-- `flushPartial` prints the `count` lines that the page takes and closes it; the rest stays pending. -/
theorem flushPartial_ends {count : Nat}
    (hc : count = (p.pager.capacity (form.bandSize .bottom)).toNat)
    (h : ∀ q, Prints .body (p.pending.take count) (p.paged (·.transition .partialFlush)) q →
      q.desk = p.desk → Ends (endPage form none)
        ((q.holding (p.pending.drop count)).noted
          (.flushed (p.pending.drop count).length)).committed Q E) :
    Ends (flushPartial form) p Q E := by
  have hcapacity : ((p.paged (·.transition .partialFlush)).pager.capacity
      (form.bandSize .bottom)).toNat = count := hc.symm
  simp only [flushPartial, ends_bind, ends_onPager, ends_get, ends_modify, ends_note, ends_commit]
  rw [hcapacity]
  refine (writeBody_ends _ _).mono ?_ fun _ _ he => he.elim
  rintro _ q ⟨hq, hdesk⟩
  have hpending : q.pending = p.pending := hq.pending
  rw [hpending]
  exact h q hq hdesk

/-- `splitFullPage` flushes a page that shows no record yet when the pending lines use all its room. -/
theorem splitFullPage_ends
    (hempty : p.pending = [] → Q () p)
    (htop : p.pending ≠ [] → Ends (printTop form) p
      (fun _ q =>
        (q.pager.fillsFreshPage q.pending.length (form.bandSize .bottom) = false → Q () q) ∧
        (q.pager.fillsFreshPage q.pending.length (form.bandSize .bottom) = true →
          Ends (flushPartial form) q Q E)) E) :
    Ends (splitFullPage form) p Q E := by
  simp only [splitFullPage, ends_bind, ends_get]
  rw [ends_ite]
  split
  · rename_i he
    exact hempty (List.isEmpty_iff.mp he)
  · rename_i he
    simp only [ends_bind, ends_get]
    refine (htop fun h => he (by simp [h])).mono ?_ fun _ _ h => h
    rintro _ q ⟨hkeep, hflush⟩
    rw [ends_ite]
    split
    · rename_i hfull
      exact hflush hfull
    · rename_i hfull
      exact hkeep (by simpa using hfull)

/-- `flushRest` flushes lines until the rest fits.  In `J n` there are `n` rounds left. -/
theorem flushRest_ends {J : Nat → Press → Prop} {R : Press → Prop}
    (hzero : ∀ p, J 0 p → R p)
    (hdone : ∀ n p, J (n + 1) p →
      p.pending = [] ∨ p.pending.length + form.bandSize .bottom ≤ p.page.linesLeft → R p)
    (hflush : ∀ n p, J (n + 1) p → p.pending ≠ [] →
      p.page.linesLeft < p.pending.length + form.bandSize .bottom →
      Ends (flushPartial form) p
        (fun _ q => (q.pending = [] → J n q) ∧
          (q.pending ≠ [] → Ends (printTop form) q (fun _ r => J n r) E)) E)
    (rounds : Nat) : ∀ p, J rounds p → Ends (flushRest form rounds) p (fun _ q => R q) E := by
  induction rounds with
  | zero => exact fun p hp => hzero p hp
  | succ rounds ih =>
    intro p hp
    simp only [flushRest, ends_bind, ends_get]
    rw [ends_ite]
    split
    · rename_i hd
      rw [Bool.or_eq_true, List.isEmpty_iff, fits_iff] at hd
      exact hdone rounds p hp hd
    · rename_i hd
      rw [Bool.or_eq_true, List.isEmpty_iff, fits_iff, not_or] at hd
      simp only [ends_bind, ends_get]
      refine (hflush rounds p hp hd.1 (by omega)).mono ?_ fun _ _ he => he
      rintro _ q ⟨hempty, htop⟩
      rw [ends_ite]
      split
      · rename_i hq
        exact ih q (hempty (List.isEmpty_iff.mp hq))
      · rename_i hq
        simp only [ends_bind]
        exact (htop fun h => hq (List.isEmpty_iff.mpr h)).mono (fun _ r hr => ih r hr) fun _ _ he => he

/-- A record whose lines are composed, which leaves `I`, ends with its page, or a page is begun for it and it
is printed, cut or put off, as there is room.  The result says whether it was printed. -/
theorem placeRecord_ends {I : Press → Prop} {R : Bool → Press → Prop}
    (hcompose : Ends (printTop form) p
      (fun _ q => Ends (composeAll (splitFullPage form)
        (fun line => modify fun press => { press with pending := press.pending ++ [line] }) form.body)
        (q.holding []) (fun _ r => I r) E) E)
    (hended : ∀ r, I r → r.pending = [] → r.page.topPending = true → R true r)
    (hplace : ∀ r, I r → (r.pending = [] → r.page.topPending = false) → Ends (printTop form) r
      (fun _ s =>
        (s.pending.length + form.bandSize .bottom ≤ s.page.linesLeft →
          Ends (writeBody s.pending) s (fun _ t => R true t) E) ∧
        (s.page.linesLeft < s.pending.length + form.bandSize .bottom → s.page.bodyPrinted = false →
          Ends (flushRest form s.pending.length) s
            (fun _ t => Ends (writeBody t.pending) t (fun _ u => R true u) E) E) ∧
        (s.page.linesLeft < s.pending.length + form.bandSize .bottom → s.page.bodyPrinted = true →
          Ends (endPage form none) (s.noted (.deferred s.pending.length)).rolledBack
            (fun _ t => R false t) E)) E) :
    Ends (placeRecord form) p R E := by
  simp only [placeRecord, ends_bind, ends_modify, ends_get]
  refine hcompose.mono (fun _ q hq => ?_) fun _ _ he => he
  refine Ends.mono hq (fun count r hr => ?_) fun _ _ he => he
  rw [ends_ite]
  split
  · rename_i hempty
    rw [Bool.and_eq_true, List.isEmpty_iff] at hempty
    exact hended r hr hempty.1 hempty.2
  · rename_i hsome
    rw [Bool.and_eq_true, List.isEmpty_iff, not_and, Bool.not_eq_true] at hsome
    simp only [ends_bind, ends_get]
    refine (hplace r hr hsome).mono ?_ fun _ _ he => he
    rintro _ s ⟨hfits, hcut, hdeferred⟩
    rw [ends_ite]
    split
    · rename_i hf
      simp only [ends_bind, ends_pure]
      exact hfits (fits_iff.mp hf)
    · rename_i hf
      rw [fits_iff] at hf
      rw [ends_ite]
      split
      · rename_i hbody
        simp only [ends_bind, ends_get, ends_pure]
        exact hcut (by omega) (by simpa using hbody)
      · rename_i hbody
        simp only [ends_bind, ends_note, ends_rollback, ends_pure]
        exact hdeferred (by omega) (by simpa using hbody)

/-- The press after a record: what it set is kept, and a page that is begun is open for more. -/
def recorded (p : Press) : Press :=
  if p.page.topPending then p.committed else p.committed.paged (·.transition .body)

/-- A record is placed, at the second attempt if it is put off, and the press `recorded` then is closed if it
is full. -/
theorem printRecord_recorded {P : Press → Prop}
    (hplace : Ends (placeRecord form) p
      (fun placed q => (placed = true → P q) ∧
        (placed = false → Ends (placeRecord form) q (fun _ r => P r) E)) E)
    (hfinish : ∀ q, P q → Ends (endPageIfFull form) q.recorded Q E) :
    Ends (printRecord form) p Q E := by
  -- both attempts end in the same three steps
  have finish : ∀ q, P q → Ends (do
      commit
      unless (← get).page.topPending do onPager (·.transition .body)
      endPageIfFull form) q Q E := by
    intro q hq
    have hend := hfinish q hq
    unfold recorded at hend
    simp only [ends_bind, ends_commit, ends_get]
    rw [ends_ite]
    split
    · rename_i ht
      rwa [if_pos (show q.page.topPending = true from ht)] at hend
    · rename_i ht
      rw [if_neg (show ¬ q.page.topPending = true from ht)] at hend
      simp only [ends_bind, ends_onPager]
      exact hend
  simp only [printRecord, ends_bind]
  refine hplace.mono ?_ fun _ _ he => he
  rintro placed q ⟨hplaced, hdeferred⟩
  rw [ends_ite]
  split
  · rename_i h
    exact finish q (hplaced h)
  · rename_i h
    rw [ends_bind]
    exact (hdeferred (by simpa using h)).mono (fun _ r hr => finish r hr) fun _ _ he => he

/-- `printRecord_recorded` for assertions `P` that do not look at the state of the printing. -/
theorem printRecord_ends {P : Press → Prop}
    (hplace : Ends (placeRecord form) p
      (fun placed q => (placed = true → P q) ∧
        (placed = false → Ends (placeRecord form) q (fun _ r => P r) E)) E)
    (hfinish : ∀ q state, P q →
      Ends (endPageIfFull form) (q.committed.paged (·.transition state)) Q E) :
    Ends (printRecord form) p Q E := by
  refine printRecord_recorded hplace fun q hq => ?_
  unfold recorded
  split
  · exact hfinish q q.pager.state hq
  · exact hfinish q .body hq

end Rules

end PictureReport.Press
