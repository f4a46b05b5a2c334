import PictureReport.Proofs.Assembly.Attaching
import PictureReport.Proofs.Press.Stacking

/-!
# Reports packed onto pages

A session that prints one record after the other and finishes the last page puts as many records on each page
as fit on it, and each record stands whole on the page that is its turn (`Packed`).
-/

namespace PictureReport

namespace Press

theorem lineCount_mono {p q : Press} (h : p.events <+: q.events) : p.lineCount ≤ q.lineCount := by
  have hlines := (h.filterMap Event.line?).length_le
  exact hlines

/-- What `counted` counts is added to what was printed before. -/
theorem counted_grows {x : Printing Unit} {p : Press} {Q : Press → Prop} {E : Fault → Press → Prop}
    (h : Ends x p (fun _ q => Q q) E) (hgrows : ∀ q, Q q → p.events <+: q.events) :
    Ends (counted x) p (fun count q => Q q ∧ p.lineCount + count = q.lineCount) E := by
  simp only [counted, ends_bind, ends_get, ends_pure]
  refine Ends.mono h (fun _ q hq => ⟨hq, ?_⟩) fun _ _ he => he
  have hless := lineCount_mono (hgrows q hq)
  omega

end Press

namespace Session

variable {form : FormId} {pictures : Form} {length : Int} {size n : Nat} {session : Session}

/-- A step does its task with the pictures of the form, whether it binds the form first or not, and the
pictures stay as they are. -/
theorem perform_pictures {source : SourceId} {task : Task} {Q : Nat → Session → Prop}
    {E : Fault → Session → Prop} (hpictures : session.assembly.formOf form = pictures)
    (h : ∀ values, Ends (Press.counted (task.run pictures)) (session.press.withValues values)
      (fun count press => ∀ t, t.assembly.formOf form = pictures → t.press = press → Q count t)
      fun fault _ => ∀ t, E fault t) :
    Ends (perform form source task) session Q E := by
  have hrun : ∀ bound : Session, bound.press = session.press → bound.assembly.formOf form = pictures →
      Ends (withSource source (Press.counted (task.run pictures))) bound Q E := by
    intro bound hpress hform
    rw [ends_withSource, hpress]
    exact (h _).mono (fun _ _ hq => hq _ hform rfl) fun _ _ he => he _
  simp only [perform, ends_bind, ends_get, hpictures]
  rw [ends_ite]
  split
  · simp only [bind, ends_bind, ends_modify]
    refine hrun _ ?_ ?_ <;> split
    · rfl
    · rfl
    · exact hpictures
    · exact (Assembly.formOf_bindContext _ _ _ _).trans hpictures
  · exact hrun session rfl hpictures

/-- `n` records are printed with the pictures of the form: the press is `Stacked`. -/
structure Stacks (form : FormId) (pictures : Form) (length : Int) (size n : Nat) (session : Session) :
    Prop where
  form : session.assembly.formOf form = pictures
  press : Press.Stacked pictures length size n session.press

/-- A record is printed, whole on the page that is its turn: `Stacks` goes from `n` to `n + 1`. -/
theorem Stacks.record (hform : pictures.Packs length size) (h : Stacks form pictures length size n session)
    (source : SourceId) :
    Ends (perform form source .record) session
      (fun count t => Stacks form pictures length size (n + 1) t ∧
        Press.OnPage (n / pictures.perPage size + 1) pictures.body.length session.press.events
          t.press.events ∧
        session.press.lineCount + count = t.press.lineCount)
      fun fault _ => pictures.Fails fault := by
  refine perform_pictures h.form fun values => ?_
  refine (Press.counted_grows ((h.press.desk _).printRecord hform) fun q hq => hq.2.grows).mono ?_
    fun _ _ he _ => he
  rintro count _ ⟨⟨hstacked, hrecord⟩, hcount⟩ t ht rfl
  exact ⟨⟨ht, hstacked⟩, hrecord, hcount⟩

/-- The events when the first `count` of the sources are printed. -/
def eventsAfter (form : FormId) (sources : List SourceId) (session : Session) (count : Nat) : List Event :=
  (printRecords form (sources.take count) session).2.press.events

theorem eventsAfter_cons {source : SourceId} {rest : List SourceId} {count : Nat} {t : Session}
    (h : perform form source .record session = (.ok count, t)) (i : Nat) :
    eventsAfter form (source :: rest) session (i + 1) = eventsAfter form rest t i := by
  have hstate : ∀ ids, (printRecords form (source :: ids) session).2 = (printRecords form ids t).2 := by
    intro ids
    rw [printRecords, bind_apply, h]
    simp only [bind_apply]
    rcases printRecords form ids t with ⟨_ | _, _⟩ <;> rfl
  rw [eventsAfter, eventsAfter, List.take_succ_cons, hstate]

/-- The records are printed one after the other, so `Stacks` goes up by their number. -/
theorem Stacks.records (hform : pictures.Packs length size) (sources : List SourceId)
    (h : Stacks form pictures length size n session) :
    Ends (printRecords form sources) session
      (fun total t => Stacks form pictures length size (n + sources.length) t ∧
        session.press.lineCount + total = t.press.lineCount ∧ session.press.events <+: t.press.events ∧
        ∀ i < sources.length,
          Press.OnPage ((n + i) / pictures.perPage size + 1) pictures.body.length
            (eventsAfter form sources session i) (eventsAfter form sources session (i + 1)) ∧
          eventsAfter form sources session (i + 1) <+: t.press.events)
      fun fault _ => pictures.Fails fault := by
  -- on the sources, from any number of records: the first source is the record in turn, the others count on
  -- from it
  induction sources generalizing n session with
  | nil => exact ⟨h, rfl, List.prefix_rfl, fun i hi => absurd hi (Nat.not_lt_zero i)⟩
  | cons source rest ih =>
    simp only [printRecords, ends_bind, ends_pure]
    refine ((h.record hform source).and (ends_self _ session)).mono ?_ fun _ _ he => he.1
    rintro count t ⟨⟨ht, hrecord, hcount⟩, hrun⟩
    refine (ih ht).mono ?_ fun _ _ he => he
    rintro others u ⟨hu, hothers, hlater, hrecords⟩
    refine ⟨?_, by omega, hrecord.grows.trans hlater, fun i hi => ?_⟩
    · rwa [Nat.add_right_comm] at hu
    · rw [eventsAfter_cons hrun]
      cases i with
      | zero => exact ⟨hrecord, hlater⟩
      | succ i =>
        have hnext := hrecords i (Nat.lt_of_succ_lt_succ hi)
        rw [Nat.add_right_comm] at hnext
        rw [eventsAfter_cons hrun]
        exact hnext

/-- `Packs` has no summary, so nothing is printed for it. -/
theorem Stacks.summary (hform : pictures.Packs length size) (h : Stacks form pictures length size n session)
    (source : SourceId) :
    Ends (perform form source .summary) session
      (fun count t => Stacks form pictures length size n t ∧ t.press.events = session.press.events ∧ count = 0)
      fun fault _ => pictures.Fails fault := by
  refine perform_pictures h.form fun values => ?_
  simp only [Press.counted, Task.run, Press.printSummary, hform.summary, Option.isSome_none, Bool.false_and,
    Bool.false_eq_true, if_false, ends_bind, ends_get, ends_pure]
  intro t ht hpress
  refine ⟨⟨ht, ?_⟩, ?_, Nat.sub_self _⟩ <;> rw [hpress]
  · exact h.press.desk _
  · rfl

/-- The last page is closed, and the pages are those of `Form.pageSizes`. -/
theorem Stacks.finishPage (hform : pictures.Packs length size)
    (h : Stacks form pictures length size n session) (source : SourceId) :
    Ends (perform form source (.finishPage false)) session
      (fun count t => Press.Shut pictures length (pictures.pageSizes length size n) t.press ∧
        (n = 0 → t.press.events = session.press.events) ∧ session.press.events <+: t.press.events ∧
        session.press.lineCount + count = t.press.lineCount)
      fun fault _ => pictures.Fails fault := by
  refine perform_pictures h.form fun values => ?_
  refine (Press.counted_grows ((h.press.desk _).finishPage hform false) fun q hq => hq.2.2.grows).mono ?_
    fun _ _ he _ => he
  rintro count _ ⟨⟨hshut, hempty, hwithout⟩, hcount⟩ t - rfl
  exact ⟨hshut, hempty, hwithout.grows, hcount⟩

/-- From `session` to `t` `total` lines are printed: the records, each on the page that is its turn, and what
closes the last page. -/
structure Packed (form : FormId) (pictures : Form) (length : Int) (size : Nat) (sources : List SourceId)
    (session : Session) (total : Nat) (t : Session) : Prop where
  count : session.press.lineCount + total = t.press.lineCount
  shut : Press.Shut pictures length (pictures.pageSizes length size sources.length) t.press
  empty : sources = [] → t.press.events = session.press.events
  placed : ∀ i < sources.length,
    Press.OnPage (i / pictures.perPage size + 1) pictures.body.length
      (eventsAfter form sources session i) (eventsAfter form sources session (i + 1)) ∧
    eventsAfter form sources session (i + 1) <+: t.press.events

theorem Stacks.packed (hform : pictures.Packs length size) (h : Stacks form pictures length size 0 session)
    (sources : List SourceId) :
    Ends (printAll form sources true) session
      (fun total t => Packed form pictures length size sources session total t)
      fun fault _ => pictures.Fails fault := by
  simp only [printAll, ends_bind, if_true]
  refine ((h.records hform sources).and (ends_self _ session)).mono ?_ fun _ _ he => he.1
  rintro records t ⟨⟨ht, hrecords, -, hplaced⟩, hrun⟩
  rw [Nat.zero_add] at ht
  -- the summary and the end of the last page, with whatever source
  have hrest : ∀ (last : SourceId) (u : Session), u.assembly = t.assembly → u.press = t.press →
      Ends (perform form last .summary) u
        (fun summary v => Ends (perform form last (.finishPage false)) v
          (fun padding w =>
            Packed form pictures length size sources session (records + summary + padding) w)
          fun fault _ => pictures.Fails fault)
        fun fault _ => pictures.Fails fault := by
    intro last u hassembly hpress
    have hu : Stacks form pictures length size sources.length u :=
      ⟨by rw [hassembly]; exact ht.form, by rw [hpress]; exact ht.press⟩
    refine (hu.summary hform last).mono ?_ fun _ _ he => he
    rintro _ v ⟨hv, hsame, rfl⟩
    refine (hv.finishPage hform last).mono ?_ fun _ _ he => he
    rintro padding w ⟨hshut, hempty, hgrown, hcount⟩
    rw [hpress] at hsame
    have hlines : v.press.lineCount = t.press.lineCount :=
      congrArg (fun events => (events.filterMap Event.line?).length) hsame
    refine ⟨by omega, hshut, ?_, fun i hi => ?_⟩
    · rintro rfl
      cases hrun
      exact (hempty rfl).trans hsame
    · obtain ⟨hpage, hlater⟩ := hplaced i hi
      rw [Nat.zero_add] at hpage
      rw [hsame] at hgrown
      exact ⟨hpage, hlater.trans hgrown⟩
  cases sources.getLast? with
  | some last =>
    simp only [ends_bind, ends_pure]
    exact hrest last t rfl rfl
  | none =>
    simp only [ends_bind, ends_pure]
    exact hrest t.sources.length _ rfl rfl

/-- Records that are printed from the first page on are packed onto pages: each page takes as many of them as
fit on it, so that each record stands whole on the page that is its turn, and all pages but the last one have
the same number of lines.  The last one is filled.  Printing fails only where composing a line fails. -/
theorem printAll_packs {formFeed : Bool} (hpress : session.press = Press.start (Page.first length) formFeed)
    (hform : (session.assembly.formOf form).Packs length size) (sources : List SourceId) :
    let pictures := session.assembly.formOf form
    let lines := pictures.body.length
    let each := size / lines
    let pages := (sources.length + each - 1) / each
    let run := printAll form sources true session
    (∀ total, run.1 = .ok total →
      total = run.2.press.lineCount ∧ run.2.press.page.topPending = true ∧
      (sources = [] → run.2.press.events = []) ∧
      (sources ≠ [] → Press.linesByPage run.2.press.events = List.replicate (pages - 1)
        (pictures.bandSize .top + pictures.headerSize + each * lines + pictures.bandSize .bottom) ++
          [length.toNat]) ∧
      (0 < pictures.bandSize .bottom → run.2.press.page.number = pages + 1) ∧
      ∀ i < sources.length,
        Press.OnPage (i / each + 1) lines (eventsAfter form sources session i)
          (eventsAfter form sources session (i + 1)) ∧
        eventsAfter form sources session (i + 1) <+: run.2.press.events) ∧
    ∀ fault, run.1 = .error fault → pictures.Fails fault := by
  intro pictures lines each pages run
  have hstart : Stacks form pictures length size 0 session := by
    refine ⟨rfl, ?_⟩
    rw [hpress]
    exact Press.stacked_start length formFeed
  have hnothing : session.press.events = [] := by
    rw [hpress]
    rfl
  have hcounted : session.press.lineCount = 0 :=
    congrArg (fun events => (events.filterMap Event.line?).length) hnothing
  obtain ⟨hdone, hfails⟩ := ends_iff.mp (hstart.packed hform sources)
  refine ⟨fun total htotal => ?_, hfails⟩
  obtain ⟨hcount, hshut, hempty, hplaced⟩ := hdone total htotal
  rw [hcounted, Nat.zero_add] at hcount
  refine ⟨hcount, hshut.topPending, fun hnone => (hempty hnone).trans hnothing, fun hsome => ?_,
    fun hb => ?_, hplaced⟩
  · have hcounts := hshut.counts
    rw [Form.pageSizes, if_neg (by simpa using hsome)] at hcounts
    rw [Press.linesByPage, hcounts, List.reverse_cons, List.reverse_replicate]
    rfl
  · rw [hshut.number hb, hform.length_pageSizes]
    rfl

/-- A part and its price on two lines, on pages with a top, a header and a bottom. -/
def stockroom : Session :=
  ⟨⟨[⟨[⟨[.field ⟨.text .left 4, false⟩], false, false, ["part"], ['@', '<', '<', '<']⟩,
        ⟨[.field ⟨.fixed ⟨1, 1, true⟩, false⟩], false, false, ["price"], ['@', '.', '#']⟩],
      [(.top, 1), (.groupHeader, 2), (.bottom, 3)], none, ⟨0, 8⟩⟩,
    ⟨[⟨[.literal ['T']], false, false, [], ['T']⟩], [], some 0, ⟨0, 8⟩⟩,
    ⟨[⟨[.literal ['H']], false, false, [], ['H']⟩], [], some 0, ⟨0, 8⟩⟩,
    ⟨[⟨[.literal ['B']], false, false, [], ['B']⟩], [], some 0, ⟨0, 8⟩⟩], 1⟩, ⟨0, 8⟩,
    Press.start (Page.first 8) true,
    [⟨.mapping, [("part", .text "bolt".toList), ("price", .text "0.15".toList)]⟩,
      ⟨.mapping, [("part", .text "nut".toList), ("price", .text "0.2".toList)]⟩,
      ⟨.mapping, [("part", .text "hinge".toList), ("price", .text "3".toList)]⟩,
      ⟨.mapping, [("part", .text "lock".toList), ("price", .text "9.99".toList)]⟩,
      ⟨.mapping, [("part", .text "key".toList), ("price", .text "2.5".toList)]⟩]⟩

/-- Five records, two on a page; a third one does not fit, and the last page is filled. -/
theorem printAll_packs_stockroom :
    stockroom.press = Press.start (Page.first 8) true ∧ (stockroom.assembly.formOf 0).Packs 8 5 ∧
    let run := printAll 0 [0, 1, 2, 3, 4] true stockroom
    run.1 = .ok 22 ∧ run.2.press.lineCount = 22 ∧ Press.linesByPage run.2.press.events = [7, 7, 8] ∧
    run.2.press.page.number = 4 ∧
    Press.OnPage 2 2 (eventsAfter 0 [0, 1, 2, 3, 4] stockroom 2)
      (eventsAfter 0 [0, 1, 2, 3, 4] stockroom 3) := by
  have hform : (stockroom.assembly.formOf 0).Packs 8 5 :=
    ⟨⟨by decide, by decide, by decide, by decide⟩, by decide, by decide, by decide, by decide, by decide⟩
  have hrun : (printAll 0 [0, 1, 2, 3, 4] true stockroom).1 = .ok 22 := by decide +kernel
  have hpress : stockroom.press = Press.start (Page.first 8) true := rfl
  obtain ⟨hdone, -⟩ := printAll_packs hpress hform [0, 1, 2, 3, 4]
  obtain ⟨hcount, -, -, hlines, hnumber, hplaced⟩ := hdone 22 hrun
  exact ⟨hpress, hform, hrun, hcount.symm, (hlines (by decide)).trans (by decide),
    (hnumber (by decide)).trans (by decide), (hplaced 2 (by decide)).1⟩

/-- A price with a superscript, which is a digit but no decimal digit. -/
def mispriced : Session :=
  ⟨⟨[⟨[⟨[.field ⟨.fixed ⟨1, 1, true⟩, false⟩], false, false, ["x"], ['@', '.', '#']⟩], [], none, ⟨0, 3⟩⟩],
    1⟩, ⟨0, 3⟩, Press.start (Page.first 3) false, [⟨.mapping, [("x", .text ['1', '.', '5', '²'])]⟩]⟩

/-- A record that cannot be composed is not packed. -/
theorem superscript_unpacked :
    mispriced.press = Press.start (Page.first 3) false ∧ (mispriced.assembly.formOf 0).Packs 3 3 ∧
    ∀ total, (printAll 0 [0] true mispriced).1 ≠ .ok total := by
  have hform : (mispriced.assembly.formOf 0).Packs 3 3 :=
    ⟨⟨by decide, by decide, by decide, by decide⟩, by decide, by decide, by decide, by decide, by decide⟩
  have hfails : (printAll 0 [0] true mispriced).1.toBool = false := by decide +kernel
  refine ⟨rfl, hform, fun total hok => ?_⟩
  rw [hok] at hfails
  cases hfails

end Session

end PictureReport
