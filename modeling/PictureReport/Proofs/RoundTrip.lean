import PictureReport.Proofs.Press.Steps
import PictureReport.Proofs.Reading.Records

/-!
# Printing records and reading them back

A picture without tildes and carets whose fields show texts and whole numbers prints records that fit its
columns so that they are read back, however long the pages are.  Printing a record puts the rows of its
lines on the pages and nothing else, and the rows match the patterns of the lines in order.
-/

namespace PictureReport

namespace Record

/-- The record maps just the variables of the lines, each to a value that its field holds, and in the last
field of each line or behind it something can be seen. -/
structure Fits (record : Record) (lines : List PictureLine) : Prop where
  holds : ∀ line ∈ lines, List.Forall₂
    (fun (f : Field) name => ∃ value, Entries.get? name record = some value ∧ f.Holds value)
    line.fields line.names
  mapped : ∀ name value, Entries.get? name record = some value → ∃ line ∈ lines, name ∈ line.names
  visible : ∀ line ∈ lines, line.EndVisible record

/-- Both records map the same variables to the same values. -/
def Same (record other : Record) : Prop := ∀ name, Entries.get? name record = Entries.get? name other

variable {record : Record} {lines : List PictureLine}

theorem resolve_of_holds {f : Field} {name : String} {value : Value}
    (hget : Entries.get? name record = some value) (h : f.Holds value) : resolve record name = value := by
  unfold resolve
  rw [hget]
  unfold Field.Holds at h
  split at h
  · rfl
  · rfl
  · exact h.elim

theorem Fits.lineHolds (h : record.Fits lines) {line : PictureLine} (hl : line ∈ lines) :
    line.Holds record := by
  refine (h.holds line hl).imp ?_
  rintro f name ⟨value, hget, hholds⟩
  rw [resolve_of_holds hget hholds]
  exact hholds

theorem exists_holds {fields : List Field} {names : List String} (h : List.Forall₂
    (fun (f : Field) name => ∃ value, Entries.get? name record = some value ∧ f.Holds value) fields names)
    {name : String} (hname : name ∈ names) :
    ∃ f value, Entries.get? name record = some value ∧ Field.Holds f value := by
  induction h with
  | nil => cases hname
  | @cons f other _ _ hfirst _ ih =>
    rcases List.mem_cons.mp hname with rfl | hname
    · exact ⟨f, hfirst⟩
    · exact ih hname

/-- Copied variable by variable, the record is the `Same`. -/
theorem Fits.copy_same (h : record.Fits lines) : Same (record.copy (lines.flatMap (·.names)) []) record := by
  intro name
  rw [get?_copy]
  by_cases hname : name ∈ lines.flatMap (·.names)
  · rw [if_pos hname]
    obtain ⟨line, hl, hn⟩ := List.mem_flatMap.mp hname
    obtain ⟨f, value, hget, hholds⟩ := exists_holds (h.holds line hl) hn
    rw [resolve_of_holds hget hholds, hget]
  · rw [if_neg hname]
    cases hget : Entries.get? name record with
    | none => rfl
    | some value =>
      obtain ⟨line, hl, hn⟩ := h.mapped name value hget
      exact absurd (List.mem_flatMap.mpr ⟨line, hl, hn⟩) hname

end Record

namespace Press

variable {lines : List PictureLine} {record : Record} {p u : Press}

/-- A readable line is composed once, and its text is held. -/
theorem composeTurns_prints {line : PictureLine} (hline : line.IsReadable) (hholds : line.Holds record)
    (hsource : u.desk.journal.source = ⟨.mapping, record⟩) (turns : Nat) :
    Ends (composeTurns (pure ()) hold line (turns + 1)) u
      (fun _ q => q.desk.journal = u.desk.journal ∧ ∃ t, line.Prints record t ∧
        q.pending.map (·.text) = u.pending.map (·.text) ++ [t])
      fun _ _ => False := by
  simp only [composeTurns, ends_bind, ends_pure, ends_onDesk]
  refine (Desk.texts_holds hsource hholds).mono ?_ fun _ _ he => he
  rintro held _ rfl
  simp only [ends_get]
  refine (PictureLine.compose_row hline.plain hline.exact hholds hsource _).mono ?_ fun _ _ he => he
  rintro shown desk ⟨⟨row, hrow, rfl⟩, hjournal⟩
  simp only [hold, hline.plain.2, ends_bind, ends_modify, Bool.false_eq_true, if_false, ends_pure]
  refine ⟨hjournal, row.trimRight, ⟨row, hrow, rfl⟩, ?_⟩
  rw [List.map_append, List.map_cons, List.map_nil]

theorem collect_prints (hlines : ∀ line ∈ lines, line.IsReadable)
    (hholds : ∀ line ∈ lines, line.Holds record)
    (hsource : u.desk.journal.source = ⟨.mapping, record⟩) :
    Ends (collect lines) u
      (fun _ q => ∃ ts, record.Prints lines ts ∧
        q.pending.map (·.text) = u.pending.map (·.text) ++ ts)
      fun _ _ => False := by
  induction lines generalizing u with
  | nil => exact ⟨[], .nil, (List.append_nil _).symm⟩
  | cons line rest ih =>
    rw [List.forall_mem_cons] at hlines hholds
    simp only [collect, composeAll, ends_bind, ends_get]
    refine (composeTurns_prints hlines.1 hholds.1 hsource _).mono ?_ fun _ _ he => he
    rintro count q ⟨hjournal, t, ht, hpending⟩
    have hq : q.desk.journal.source = ⟨.mapping, record⟩ := by
      rw [hjournal]
      exact hsource
    refine (ih hlines.2 hholds.2 hq).mono ?_ fun _ _ he => he
    rintro others r ⟨ts, hts, hr⟩
    refine ⟨t :: ts, .cons ht hts, ?_⟩
    rw [hr, hpending, List.append_assoc, List.singleton_append]

/-- A record is printed line by line, and printing it does not fail. -/
theorem printRecord_prints (form : Form) (hbands : form.bands = [])
    (hlines : ∀ line ∈ form.body, line.IsReadable)
    (hholds : ∀ line ∈ form.body, line.Holds record)
    (hjournal : p.desk.journal = Journal.start ⟨.mapping, record⟩) (hbare : Bare p) :
    Ends (printRecord form) p
      (fun _ q => Bare q ∧ ∃ ts, record.Prints form.body ts ∧
        bodyTexts q.events = bodyTexts p.events ++ ts)
      fun _ _ => False := by
  have hpageless : ∀ line ∈ form.body, line.IsPageless := by
    intro line hl f hf
    have hreadable := ((hlines line hl).exact f hf).readable
    unfold Field.IsReadable at hreadable
    unfold Field.showsPage
    split
    · rename_i hs
      rw [hs] at hreadable
      exact hreadable.elim
    · rfl
  have hsource : (p.holding []).desk.journal.source = ⟨.mapping, record⟩ := by
    rw [desk_holding, hjournal]
    rfl
  refine printRecord_collects (Form.band?_of_bands hbands) hpageless (by rw [hjournal]; rfl) hbare ?_
  refine (collect_prints hlines hholds hsource).mono ?_ fun _ _ he => he
  rintro count q ⟨ts, hts, hpending⟩
  rw [hpending]
  exact hts

end Press

namespace Session

/-- Compile a picture and print a record for each mapping with it; the page is not finished. -/
def printMappings (spec : Spec) (records : List Record) : Reporting FormId := do
  let form ← compileSpec spec
  modify fun session => { session with sources := records.map (Source.mk .mapping) }
  let _ ← printAll form (List.range records.length) false
  pure form

/-- The session prints with `lines` as the form alone, and nothing but records is printed so far. -/
structure Ready (lines : List PictureLine) (form : FormId) (session : Session) : Prop where
  pictures : session.assembly.formOf form = ⟨lines, []⟩
  bound : session.isBound form = true
  bare : Press.Bare session.press

section Printing

variable {lines : List PictureLine} {form : FormId} {session : Session}

theorem compileSpec_ready {spec : Spec} (hspec : spec.compile = .ok lines) (length : Int) :
    Ends (compileSpec spec) (start (Page.first length) false)
      (fun form session => Ready lines form session ∧ session.press.events = []) fun _ _ => False := by
  have hready : Ready lines 0
      ⟨⟨[⟨lines, [], none, ⟨0, length⟩⟩], 1⟩, ⟨0, length⟩, Press.start (Page.first length) false, []⟩ :=
    ⟨rfl, by simp [isBound, Assembly.contextOf], Press.bare_start length⟩
  have hrun : compileSpec spec (start (Page.first length) false) = (.ok 0,
      ⟨⟨[⟨lines, [], none, ⟨0, length⟩⟩], 1⟩, ⟨0, length⟩, Press.start (Page.first length) false, []⟩) := by
    unfold compileSpec
    rw [bind_apply]
    simp only [onAssembly, Assembly.create, hspec]
    rfl
  exact (ends_of_eq_ok hrun).mpr ⟨hready, rfl⟩

/-- `perform` does its task with the pictures of the form, if that is bound to the session. -/
theorem perform_ends (hbound : session.isBound form = true) {source : SourceId} {task : Task}
    {Q : Session → Prop} {E : Fault → Session → Prop}
    (h : Ends (task.run (session.assembly.formOf form))
      (session.press.withValues ((session.sources[source]?).getD ⟨.mapping, []⟩))
      (fun _ press => Q { session with
        press, sources := session.sources.set source press.desk.journal.source })
      fun fault press => E fault { session with
        press, sources := session.sources.set source press.desk.journal.source }) :
    Ends (perform form source task) session (fun _ t => Q t) E := by
  have hsource : Ends (withSource source (Press.counted (task.run (session.assembly.formOf form))))
      session (fun _ t => Q t) E := by
    rw [ends_withSource]
    exact Press.counted_ends.mpr h
  simp only [perform, ends_bind, ends_get]
  rw [ends_ite]
  split
  · simp only [bind, ends_bind, ends_modify]
    rw [if_pos hbound]
    exact hsource
  · exact hsource

/-- A record is printed, and the other sources stay as they are. -/
theorem perform_prints (hlines : ∀ line ∈ lines, line.IsReadable) {id : SourceId} {record : Record}
    (hsource : session.sources[id]? = some ⟨.mapping, record⟩)
    (hholds : ∀ line ∈ lines, line.Holds record) (hready : Ready lines form session) :
    Ends (perform form id .record) session
      (fun _ t => Ready lines form t ∧ (∀ other, other ≠ id → t.sources[other]? = session.sources[other]?) ∧
        ∃ ts, record.Prints lines ts ∧
          Press.bodyTexts t.press.events = Press.bodyTexts session.press.events ++ ts)
      fun _ _ => False := by
  refine perform_ends hready.bound ?_
  rw [hready.pictures, hsource]
  have hbare : Press.Bare (session.press.withValues ⟨.mapping, record⟩) :=
    hready.bare.congr rfl rfl rfl
  have hprints := Press.printRecord_prints ⟨lines, []⟩ rfl hlines hholds rfl hbare
  refine hprints.mono ?_ fun _ _ he => he
  rintro _ q ⟨hq, ts, hts, htexts⟩
  refine ⟨⟨hready.pictures, hready.bound, hq⟩, fun other hne => ?_, ts, hts, htexts⟩
  exact List.getElem?_set_ne (Ne.symm hne)

theorem printRecords_prints (hlines : ∀ line ∈ lines, line.IsReadable) {ids : List SourceId}
    {records : List Record} (hsources : List.Forall₂
      (fun (id : SourceId) record => session.sources[id]? = some ⟨.mapping, record⟩) ids records)
    (hids : ids.Nodup) (hholds : ∀ record ∈ records, ∀ line ∈ lines, line.Holds record)
    (hready : Ready lines form session) :
    Ends (printRecords form ids) session
      (fun _ t => Ready lines form t ∧ ∃ printed,
        List.Forall₂ (fun (record : Record) ts => record.Prints lines ts) records printed ∧
        Press.bodyTexts t.press.events = Press.bodyTexts session.press.events ++ printed.flatten)
      fun _ _ => False := by
  induction records generalizing ids session with
  | nil =>
    cases hsources
    exact ⟨hready, [], .nil, (List.append_nil _).symm⟩
  | cons record records ih =>
    cases hsources with
    | @cons id _ ids _ hsource hrest =>
      rw [List.forall_mem_cons] at hholds
      rw [List.nodup_cons] at hids
      simp only [printRecords, ends_bind, ends_pure]
      refine (perform_prints hlines hsource hholds.1 hready).mono ?_ fun _ _ he => he
      rintro count t ⟨ht, hothers, ts, hts, htexts⟩
      -- printing a record may set its own source; the others hold what they held
      have hlater : List.Forall₂
          (fun (id : SourceId) record => t.sources[id]? = some ⟨.mapping, record⟩) ids records := by
        have hne : ∀ other ∈ ids, other ≠ id := by
          rintro other ho rfl
          exact hids.1 ho
        refine ((List.forall₂_and_left _ _).mpr ⟨hne, hrest⟩).imp ?_
        rintro other later ⟨ho, hsame⟩
        rw [hothers other ho]
        exact hsame
      refine (ih hlater hids.2 hholds.2 ht).mono ?_ fun _ _ he => he
      rintro others r ⟨hr, printed, hprinted, hmore⟩
      refine ⟨hr, ts :: printed, .cons hts hprinted, ?_⟩
      rw [hmore, htexts, List.flatten_cons, List.append_assoc]

/-- A form without bands has no summary to print. -/
theorem summary_prints (hready : Ready lines form session) (id : SourceId) :
    Ends (perform form id .summary) session
      (fun _ t => Ready lines form t ∧ t.press.events = session.press.events) fun _ _ => False := by
  refine perform_ends hready.bound ?_
  rw [hready.pictures]
  have hnone : (Form.band? ⟨lines, []⟩ .summary).isSome = false := rfl
  simp only [Task.run, Press.printSummary, hnone, Bool.false_and, ends_bind, ends_get]
  exact ⟨⟨hready.pictures, hready.bound, hready.bare.congr rfl rfl rfl⟩, rfl⟩

theorem printAll_prints (hlines : ∀ line ∈ lines, line.IsReadable) {ids : List SourceId}
    {records : List Record} (hsources : List.Forall₂
      (fun (id : SourceId) record => session.sources[id]? = some ⟨.mapping, record⟩) ids records)
    (hids : ids.Nodup) (hholds : ∀ record ∈ records, ∀ line ∈ lines, line.Holds record)
    (hready : Ready lines form session) :
    Ends (printAll form ids false) session
      (fun _ t => Ready lines form t ∧ ∃ printed,
        List.Forall₂ (fun (record : Record) ts => record.Prints lines ts) records printed ∧
        Press.bodyTexts t.press.events = Press.bodyTexts session.press.events ++ printed.flatten)
      fun _ _ => False := by
  simp only [printAll, ends_bind, Bool.false_eq_true, if_false]
  refine (printRecords_prints hlines hsources hids hholds hready).mono ?_ fun _ _ he => he
  rintro count t ⟨ht, printed, hprinted, htexts⟩
  have hsummary : ∀ (id : SourceId) (u : Session), Ready lines form u → u.press = t.press →
      Ends (perform form id .summary) u
        (fun _ v => Ready lines form v ∧ ∃ printed,
          List.Forall₂ (fun (record : Record) ts => record.Prints lines ts) records printed ∧
          Press.bodyTexts v.press.events = Press.bodyTexts session.press.events ++ printed.flatten)
        fun _ _ => False := by
    intro id u hu hpress
    refine (summary_prints hu id).mono ?_ fun _ _ he => he
    rintro _ v ⟨hv, hevents⟩
    refine ⟨hv, printed, hprinted, ?_⟩
    rw [hevents, hpress, htexts]
  cases hlast : ids.getLast? with
  | some id =>
    simp only [ends_bind, ends_pure]
    exact hsummary id t ht rfl
  | none =>
    simp only [ends_bind, ends_pure]
    exact hsummary _ _ ⟨ht.pictures, ht.bound, ht.bare⟩ rfl

/-- A compiled line without tildes and carets whose fields are readable is `IsReadable`. -/
theorem compile_readable {spec : Spec} (hspec : spec.compile = .ok lines)
    (hmarks : ∀ raw ∈ spec.lines, '~' ∉ raw ∧ '^' ∉ raw)
    (hreadable : ∀ line ∈ lines, ∀ f ∈ line.fields, f.IsReadable) :
    ∀ line ∈ lines, line.IsReadable := by
  intro line hl
  obtain ⟨hcompiled, hsource⟩ := Spec.compile_compiled hspec line hl
  obtain ⟨htilde, hcaret⟩ := hmarks line.source hsource
  refine ⟨hcompiled.isPlain htilde, fun f hf => ?_, hcompiled.drawn.alternate,
    fun t ht => Spec.unbroken_of_literal hspec hl ht⟩
  have hpointless := hcompiled.drawn.pointless f (PictureLine.mem_fields.mp hf)
  exact ⟨hreadable line hl f hf, hcompiled.chomp hcaret hf, hpointless⟩

theorem printMappings_prints {spec : Spec} (hspec : spec.compile = .ok lines) (length : Int)
    (hlines : ∀ line ∈ lines, line.IsReadable) {records : List Record}
    (hholds : ∀ record ∈ records, ∀ line ∈ lines, line.Holds record) :
    Ends (printMappings spec records) (start (Page.first length) false)
      (fun form t => Ready lines form t ∧ ∃ printed,
        List.Forall₂ (fun (record : Record) ts => record.Prints lines ts) records printed ∧
        Press.bodyTexts t.press.events = printed.flatten)
      fun _ _ => False := by
  simp only [printMappings, ends_bind, ends_modify, ends_pure]
  refine (compileSpec_ready hspec length).mono ?_ fun _ _ he => he
  rintro form t ⟨ht, hevents⟩
  have hsources : List.Forall₂ (fun (id : SourceId) record =>
      (records.map (Source.mk .mapping))[id]? = some ⟨.mapping, record⟩)
      (List.range records.length) records := by
    refine List.forall₂_iff_get.mpr ⟨List.length_range, fun i hi hlt => ?_⟩
    simp at hlt ⊢
  have hready : Ready lines form { t with sources := records.map (Source.mk .mapping) } :=
    ⟨ht.pictures, ht.bound, ht.bare⟩
  refine (printAll_prints hlines hsources List.nodup_range hholds hready).mono ?_ fun _ _ he => he
  rintro count u ⟨hu, printed, hprinted, htexts⟩
  refine ⟨hu, printed, hprinted, ?_⟩
  rw [htexts]
  change Press.bodyTexts t.press.events ++ _ = _
  rw [hevents]
  rfl

/-- Whatever the page length, the records that a picture prints are read back in order. -/
theorem readLines_printMappings (length : Int) {spec : Spec} (hspec : spec.compile = .ok lines)
    (hne : lines ≠ []) (hmarks : ∀ raw ∈ spec.lines, '~' ∉ raw ∧ '^' ∉ raw)
    (hreadable : ∀ line ∈ lines, ∀ f ∈ line.fields, f.IsReadable) {records : List Record}
    (hrecords : ∀ record ∈ records, record.Fits lines) :
    let run := printMappings spec records (start (Page.first length) false)
    ∃ form patterns found, run.1 = .ok form ∧
      LinePattern.ofLines (run.2.assembly.linesOf form) = .ok patterns ∧
      readLines patterns run.2.press.lines = (found, none) ∧ List.Forall₂ Record.Same found records := by
  have hlines := compile_readable hspec hmarks hreadable
  have hholds : ∀ record ∈ records, ∀ line ∈ lines, line.Holds record :=
    fun record hr line hl => (hrecords record hr).lineHolds hl
  have hnames : ∀ line ∈ lines, line.names.length = line.fields.length :=
    fun line hl => (Spec.compile_compiled hspec line hl).1.names
  obtain ⟨form, hform, hready, printed, hprinted, htexts⟩ :=
    (printMappings_prints hspec length hlines hholds).exists_ok
  refine ⟨form, lines.map LinePattern.of, records.map fun record => record.copy (lines.flatMap (·.names)) [],
    hform, ?_, ?_, ?_⟩
  · have hbody : _ = lines := congrArg Form.body hready.pictures
    exact (congrArg LinePattern.ofLines hbody).trans (LinePattern.ofLines_eq hnames)
  · rw [hready.bare.lines, htexts]
    exact readLines_of_prints hne hlines
      (fun record hr line hl => ⟨hholds record hr line hl, (hrecords record hr).visible line hl⟩) hprinted
  · rw [List.forall₂_map_left_iff, List.forall₂_same]
    exact fun record hr => (hrecords record hr).copy_same

/-- A text and a number on one line. -/
def parcels : Spec := .text "@<<<<<< (@##)\nname, count".toList

def parcelLines : List PictureLine :=
  [⟨[.field ⟨.text .left 7, false⟩, .literal [' ', '('], .field ⟨.fixed ⟨3, 0, false⟩, false⟩,
    .literal [')']], false, false, ["name", "count"], "@<<<<<< (@##)".toList⟩]

def parcelRecords : List Record :=
  [[("name", .text "Ann Lee".toList), ("count", .int (-5))], [("count", .int 7), ("name", .text [])],
    [("name", .text "Bo".toList), ("count", .int 120)]]

theorem parcel_fits {record : Record} {t : Text} {i : Int}
    (hname : Entries.get? "name" record = some (.text t))
    (hcount : Entries.get? "count" record = some (.int i))
    (hlength : t.length ≤ 7) (hunbroken : t.all (!Text.isBreak ·) = true) (htrimmed : Text.IsTrimmed t)
    (hi : Field.Holds ⟨.fixed ⟨3, 0, false⟩, false⟩ (.int i))
    (hmapped : ∀ name ∈ record.map (·.1), name ∈ ["name", "count"]) :
    record.Fits parcelLines := by
  have ht : Field.Holds ⟨.text .left 7, false⟩ (.text t) := by
    refine ⟨hlength, fun c hc => ?_, htrimmed, fun h => by cases h⟩
    simpa using List.all_eq_true.mp hunbroken c hc
  refine ⟨?_, ?_, ?_⟩
  · rw [parcelLines, List.forall_mem_singleton]
    exact .cons ⟨_, hname, ht⟩ (.cons ⟨_, hcount, hi⟩ .nil)
  · exact fun name value hget => ⟨_, List.mem_singleton_self _, hmapped name (Entries.mem_keys hget)⟩
  · rw [parcelLines, List.forall_mem_singleton]
    rintro before f after - -
    left
    intro value hvalue
    have hresolve : Record.resolve record "count" = .int i := Record.resolve_of_holds hcount hi
    simp only [List.map_cons, List.map_nil, hresolve, List.getLast?_cons_cons,
      List.getLast?_singleton, Option.mem_some_iff] at hvalue
    subst hvalue
    exact Numeral.integerText_ne_nil i

/-- Three records on pages of two lines are read back. -/
theorem readLines_printMappings_parcels :
    let run := printMappings parcels parcelRecords (start (Page.first 2) false)
    parcels.compile = .ok parcelLines ∧ (∀ record ∈ parcelRecords, record.Fits parcelLines) ∧
    run.2.press.lines = ["Ann Lee ( -5)".toList, "        (7  )".toList, "Bo      (120)".toList] ∧
    ∃ form patterns found, run.1 = .ok form ∧
      LinePattern.ofLines (run.2.assembly.linesOf form) = .ok patterns ∧
      readLines patterns run.2.press.lines = (found, none) ∧
      List.Forall₂ Record.Same found parcelRecords := by
  have hspec : parcels.compile = .ok parcelLines := by decide +kernel
  have hmarks : ∀ raw ∈ parcels.lines, '~' ∉ raw ∧ '^' ∉ raw := by decide +kernel
  have hreadable : ∀ line ∈ parcelLines, ∀ f ∈ line.fields, f.IsReadable := by
    rw [parcelLines, List.forall_mem_singleton]
    intro f hf
    rcases List.mem_cons.mp hf with rfl | hf
    · trivial
    · obtain rfl := List.mem_singleton.mp hf
      rfl
  have hrecords : ∀ record ∈ parcelRecords, record.Fits parcelLines := by
    simp only [parcelRecords, List.forall_mem_cons]
    refine ⟨?_, ?_, ?_, List.forall_mem_nil _⟩
    · exact parcel_fits rfl rfl (by decide) (by decide) (by decide)
        ⟨by decide +kernel, by decide +kernel⟩ (by decide)
    · exact parcel_fits rfl rfl (by decide) (by decide) (by decide)
        ⟨by decide +kernel, by decide +kernel⟩ (by decide)
    · exact parcel_fits rfl rfl (by decide) (by decide) (by decide)
        ⟨by decide +kernel, by decide +kernel⟩ (by decide)
  have hlines : (printMappings parcels parcelRecords (start (Page.first 2) false)).2.press.lines =
      ["Ann Lee ( -5)".toList, "        (7  )".toList, "Bo      (120)".toList] := by decide +kernel
  exact ⟨hspec, hrecords, hlines,
    readLines_printMappings 2 hspec (List.cons_ne_nil _ _) hmarks hreadable hrecords⟩

end Printing

end Session

end PictureReport
