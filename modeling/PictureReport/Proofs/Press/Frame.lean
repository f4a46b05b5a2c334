import PictureReport.Proofs.Press.Lockstep
import PictureReport.Proofs.Press.Transparency
import PictureReport.Proofs.Rollback

/-!
# What a record touches and depends on

Printing a record reads the variables of the picture lines of the form, of its top, its group header and its
bottom, and it sets those of chomping fields in them.  The values of all other variables are neither looked at
nor changed: from presses that are equal but for such values, printing does the same step by step (`Framed`).
-/

namespace PictureReport

/-- The variables of chomping fields of the line: those that composing it may set. -/
def PictureLine.chomped (line : PictureLine) : List String :=
  ((line.fields.zip line.names).filter fun binding => binding.1.chomps).map (·.2)

namespace Form

/-- The picture lines that are composed when records are printed: those of the body and of `pageBands`. -/
def recordLines (form : Form) : List PictureLine := form.body ++ pageBands.flatMap form.lines

/-- The variables of `recordLines`. -/
def recordNames (form : Form) : List String := form.recordLines.flatMap (·.names)

/-- The variables of chomping fields of `recordLines`. -/
def chompedNames (form : Form) : List String := form.recordLines.flatMap (·.chomped)

end Form

/-! ## Journals -/

namespace Journal

/-- The journals have the same entries for the variables `names`, and they remember the same, all of it of
variables in `written`.  For all other variables they have the entries of `s` and `t`. -/
structure Tied (names written : List String) (s t : Record) (j k : Journal) : Prop where
  kind : k.source.kind = j.source.kind
  saved : k.saved = j.saved
  remembered : ∀ entry ∈ j.saved, entry.1 ∈ written
  entries : ∀ name ∈ names, Entries.get? name k.source.entries = Entries.get? name j.source.entries
  left : ∀ name ∉ written, Entries.get? name j.source.entries = Entries.get? name s
  right : ∀ name ∉ written, Entries.get? name k.source.entries = Entries.get? name t

variable {names written : List String} {s t : Record} {j k : Journal} {name : String}

theorem Tied.resolve (h : Tied names written s t j k) (hname : name ∈ names) :
    Record.resolve k.source.entries name = Record.resolve j.source.entries name :=
  Record.resolve_congr (h.entries name hname)

theorem Tied.get (h : Tied names written s t j k) (hname : name ∈ names) : k.get name = j.get name := by
  unfold Journal.get Source.get
  rw [h.kind, h.resolve hname]

theorem get?_set_congr {record record' : Record} {other : String} (value : Value)
    (h : Entries.get? other record' = Entries.get? other record) : Entries.get? other
      (Entries.set name value record') = Entries.get? other (Entries.set name value record) := by
  by_cases hname : name = other
  · subst hname
    rw [Entries.get?_set_self, Entries.get?_set_self]
  · rw [Entries.get?_set_of_ne hname, Entries.get?_set_of_ne hname, h]

theorem Tied.set (h : Tied names written s t j k) (hname : name ∈ names) (hwritten : name ∈ written)
    (value : Value) : Tied names written s t (j.set name value) (k.set name value) := by
  have hother : ∀ other ∉ written, name ≠ other := by
    rintro other hother rfl
    exact hother hwritten
  refine ⟨h.kind, ?_, fun entry he => ?_, fun other hnames => get?_set_congr value (h.entries other hnames),
    fun other ho => ?_, fun other ho => ?_⟩
  · show (if _ then k.saved else _) = if _ then j.saved else _
    rw [h.saved, h.resolve hname]
  · obtain heq | he := mem_saved_set he
    · rw [heq]
      exact hwritten
    · exact h.remembered entry he
  · exact (Entries.get?_set_of_ne (hother other ho) value _).trans (h.left other ho)
  · exact (Entries.get?_set_of_ne (hother other ho) value _).trans (h.right other ho)

theorem Tied.commit (h : Tied names written s t j k) : Tied names written s t j.commit k.commit :=
  ⟨h.kind, rfl, fun _ he => absurd he List.not_mem_nil, h.entries, h.left, h.right⟩

theorem get?_foldl_set_congr (saved : Record) {source source' : Source}
    (h : Entries.get? name source'.entries = Entries.get? name source.entries) :
    Entries.get? name (saved.foldl (fun source entry => source.set entry.1 entry.2) source').entries =
      Entries.get? name (saved.foldl (fun source entry => source.set entry.1 entry.2) source).entries := by
  induction saved generalizing source source' with
  | nil => exact h
  | cons entry rest ih => exact ih (get?_set_congr entry.2 h)

theorem Tied.rollback (h : Tied names written s t j k) : Tied names written s t j.rollback k.rollback := by
  have hne : ∀ name ∉ written, ∀ entry ∈ j.saved, entry.1 ≠ name := by
    rintro name hname entry he rfl
    exact hname (h.remembered entry he)
  unfold Journal.rollback
  rw [h.saved]
  refine ⟨?_, rfl, fun _ he => absurd he List.not_mem_nil,
    fun name hname => get?_foldl_set_congr j.saved (h.entries name hname), fun name hname => ?_,
    fun name hname => ?_⟩
  · rw [kind_foldl_set, kind_foldl_set]
    exact h.kind
  · exact (get?_foldl_set_of_ne j.saved (hne name hname) _).trans (h.left name hname)
  · exact (get?_foldl_set_of_ne j.saved (hne name hname) _).trans (h.right name hname)

theorem tied_start {kind : SourceKind} (h : ∀ name ∈ names, Entries.get? name t = Entries.get? name s) :
    Tied names written s t (start ⟨kind, s⟩) (start ⟨kind, t⟩) :=
  ⟨rfl, rfl, fun _ he => absurd he List.not_mem_nil, h, fun _ _ => rfl, fun _ _ => rfl⟩

end Journal

/-! ## Composing -/

/-- The desks show the same as far as their journals are `Tied`. -/
structure Desk.Tied (names written : List String) (s t : Record) (d e : Desk) : Prop where
  warnings : e.warnings = d.warnings
  journal : Journal.Tied names written s t d.journal e.journal

section Composing

variable {names written : List String} {s t : Record} {d e : Desk} {name : String}

theorem Desk.Tied.read (h : Desk.Tied names written s t d e) (hname : name ∈ names) :
    Mirrors (Desk.Tied names written s t) (Desk.read name) (Desk.read name) d e := by
  unfold Desk.read
  refine mirrors_get ?_
  rw [h.journal.get hname]
  cases d.journal.get name with
  | error fault => exact ⟨rfl, h⟩
  | ok value =>
    dsimp only
    split
    · exact mirrors_pure value h
    · exact ⟨rfl, h⟩

theorem Desk.Tied.texts (h : Desk.Tied names written s t d e) {others : List String}
    (hothers : ∀ name ∈ others, name ∈ names) :
    Mirrors (Desk.Tied names written s t) (Desk.texts others) (Desk.texts others) d e := by
  induction others generalizing d e with
  | nil => exact mirrors_pure [] h
  | cons name rest ih =>
    rw [List.forall_mem_cons] at hothers
    unfold Desk.texts
    refine (h.read hothers.1).bind fun value d e h => ?_
    exact (ih h hothers.2).bind fun others d e h => mirrors_pure _ h

theorem Desk.Tied.textSize (h : Desk.Tied names written s t d e) {others : List String}
    (hothers : ∀ name ∈ others, name ∈ names) : e.textSize others = d.textSize others := by
  induction others with
  | nil => rfl
  | cons name rest ih =>
    rw [List.forall_mem_cons] at hothers
    show (Record.resolve e.journal.source.entries name).shown.length + e.textSize rest =
      (Record.resolve d.journal.source.entries name).shown.length + d.textSize rest
    rw [h.journal.resolve hothers.1, ih hothers.2]

theorem Desk.Tied.warn (h : Desk.Tied names written s t d e) (warnings : List Warning) :
    Mirrors (Desk.Tied names written s t) (Desk.warn warnings) (Desk.warn warnings) d e :=
  mirrors_modify ⟨congrArg (· ++ warnings) h.warnings, h.journal⟩

namespace PictureLine

variable {page : Int}

theorem composeField_mirrors (h : Desk.Tied names written s t d e) {f : Field} (hname : name ∈ names)
    (hchomps : f.chomps = true → name ∈ written) :
    Mirrors (Desk.Tied names written s t) (composeField page f name) (composeField page f name) d e := by
  unfold composeField
  refine (h.read hname).bind fun value d e h => ?_
  cases hmade : f.format value page true with
  | error fault => exact ⟨rfl, h⟩
  | ok made =>
    refine (h.warn made.warnings).bind fun _ d e h => ?_
    cases hrest : made.rest with
    | none => exact mirrors_pure _ h
    | some rest =>
      have hwritten : name ∈ written := by
        cases hc : f.chomps with
        | true => exact hchomps hc
        | false =>
          rw [Field.format_rest hc hmade] at hrest
          cases hrest
      have hset : Desk.Tied names written s t { d with journal := d.journal.set name (.text rest) }
          { e with journal := e.journal.set name (.text rest) } :=
        ⟨h.warnings, h.journal.set hname hwritten _⟩
      exact ⟨rfl, hset⟩

theorem composeSegments_mirrors {segments : List Segment} {others : List String}
    (hbindings : ∀ binding ∈ (segments.filterMap Segment.field?).zip others,
      binding.2 ∈ names ∧ (binding.1.chomps = true → binding.2 ∈ written))
    (h : Desk.Tied names written s t d e) :
    Mirrors (Desk.Tied names written s t) (composeSegments page segments others)
      (composeSegments page segments others) d e := by
  induction segments generalizing others d e with
  | nil => exact mirrors_pure _ h
  | cons segment segments ih =>
    cases segment with
    | literal t =>
      unfold composeSegments
      exact (ih hbindings h).bind fun _ d e h => mirrors_pure _ h
    | field f =>
      cases others with
      | nil => exact mirrors_pure _ h
      | cons name others =>
        have hfields : (Segment.field f :: segments).filterMap Segment.field? =
            f :: segments.filterMap Segment.field? := rfl
        rw [hfields, List.zip_cons_cons, List.forall_mem_cons] at hbindings
        unfold composeSegments
        refine (composeField_mirrors h hbindings.1.1 hbindings.1.2).bind fun _ d e h => ?_
        exact (ih hbindings.2 h).bind fun _ d e h => mirrors_pure _ h

theorem compose_mirrors {line : PictureLine} (hnames : ∀ name ∈ line.names, name ∈ names)
    (hwritten : ∀ name ∈ line.chomped, name ∈ written) (h : Desk.Tied names written s t d e) :
    Mirrors (Desk.Tied names written s t) (line.compose page) (line.compose page) d e := by
  unfold compose
  cases line.bindings with
  | error fault => exact ⟨rfl, h⟩
  | ok bindings =>
    refine (composeSegments_mirrors (fun binding hb => ⟨hnames _ (List.of_mem_zip hb).2, ?_⟩) h).bind
      fun _ d e h => mirrors_pure _ h
    intro hchomps
    exact hwritten _ (List.mem_map_of_mem (List.mem_filter.mpr ⟨hb, hchomps⟩))

end PictureLine

end Composing

/-! ## Presses -/

namespace Press

/-- The presses are the same but for the values of variables that are not in `names`. -/
structure Framed (names written : List String) (s t : Record) (formFeed : Bool) (p q : Press) : Prop where
  pager : q.pager = p.pager
  formFeed : p.formFeed = formFeed ∧ q.formFeed = formFeed
  pending : q.pending = p.pending
  log : q.log = p.log
  desk : Desk.Tied names written s t p.desk q.desk

variable {α : Type} {names written : List String} {s t : Record} {formFeed : Bool} {p q : Press}

theorem Framed.onDesk (h : Framed names written s t formFeed p q) {x : Composing α}
    (hx : Mirrors (Desk.Tied names written s t) x x p.desk q.desk) :
    Mirrors (Framed names written s t formFeed) (onDesk x) (onDesk x) p q :=
  ⟨hx.1, h.pager, h.formFeed, h.pending, h.log, hx.2⟩

theorem Framed.paged (h : Framed names written s t formFeed p q) (f : Pager → Pager) :
    Framed names written s t formFeed (p.paged f) (q.paged f) :=
  ⟨congrArg f h.pager, h.formFeed, h.pending, h.log, h.desk⟩

theorem Framed.noted (h : Framed names written s t formFeed p q) (event : Event) :
    Framed names written s t formFeed (p.noted event) (q.noted event) :=
  ⟨h.pager, h.formFeed, h.pending, congrArg (·.push event) h.log, h.desk⟩

theorem Framed.lineCount (h : Framed names written s t formFeed p q) : q.lineCount = p.lineCount := by
  rw [Press.lineCount, Press.lineCount, printed, printed, h.log]

theorem framed_coupled : Coupled formFeed formFeed (Framed names written s t formFeed) where
  pager {p q} h := ⟨p.page.feedPending, h.pager⟩
  pending h := h.pending
  formFeed h := h.formFeed
  warn warnings _ _ h := h.onDesk (h.desk.warn warnings)
  commit _ _ h := mirrors_modify
    ⟨h.pager, h.formFeed, h.pending, h.log, h.desk.warnings, h.desk.journal.commit⟩
  rollback _ _ h := mirrors_modify
    ⟨h.pager, h.formFeed, h.pending, h.log, h.desk.warnings, h.desk.journal.rollback⟩
  holding _ h := ⟨h.pager, h.formFeed, rfl, h.log, h.desk⟩
  paged _ h := h.paged _
  noted _ h := h.noted _
  wrote {p q} origin line h := by
    refine ⟨congrArg (·.withFeed false) h.pager, h.formFeed, h.pending, ?_, h.desk⟩
    simp only [Press.wrote, Press.page, h.pager, h.log]

theorem framed_closes (feed : Bool) : Closes (Framed names written s t formFeed) feed feed :=
  fun _ _ _ h => (h.paged _).noted _

/-- A line whose variables are in `names` is composed in step on presses that are `Framed`. -/
theorem framed_line {line : PictureLine} (hnames : ∀ name ∈ line.names, name ∈ names)
    (hwritten : ∀ name ∈ line.chomped, name ∈ written) :
    LineInStep (Framed names written s t formFeed) line where
  size h := h.desk.textSize hnames
  texts _ _ h := h.onDesk (h.desk.texts hnames)
  compose _ _ _ h := h.onDesk (PictureLine.compose_mirrors hnames hwritten h.desk)

theorem framed_form (form : Form) :
    FormInStep (Framed form.recordNames form.chompedNames s t formFeed) form := by
  have hline : ∀ line ∈ form.recordLines,
      LineInStep (Framed form.recordNames form.chompedNames s t formFeed) line := fun line hl =>
    framed_line (fun name hname => List.mem_flatMap.mpr ⟨line, hl, hname⟩)
      fun name hname => List.mem_flatMap.mpr ⟨line, hl, hname⟩
  have hband : ∀ band ∈ Form.pageBands, ∀ line ∈ form.lines band,
      LineInStep (Framed form.recordNames form.chompedNames s t formFeed) line := fun band hb line hl =>
    hline line (List.mem_append_right _ (List.mem_flatMap.mpr ⟨band, hb, hl⟩))
  exact ⟨fun line hl => hline line (List.mem_append_left _ hl), hband .top (by decide),
    hband .groupHeader (by decide), hband .bottom (by decide)⟩

/-- For every form, every press and every mapping: printing a record leaves all variables as they are but those
of chomping fields.  With the values of another mapping that has the same entries for the variables of the form,
it ends in the same way and does the same to the pages, and these variables have the same entries afterwards. -/
theorem record_framed (form : Form) (p : Press) (s : Record) :
    let run record := counted (printRecord form) (p.withValues ⟨.mapping, record⟩)
    (∀ name ∉ form.chompedNames,
      Entries.get? name (run s).2.desk.journal.source.entries = Entries.get? name s) ∧
    ∀ t : Record, (∀ name ∈ form.recordNames, Entries.get? name t = Entries.get? name s) →
      (run t).1 = (run s).1 ∧ (run t).2.lines = (run s).2.lines ∧ (run t).2.log = (run s).2.log ∧
      (run t).2.pager = (run s).2.pager ∧ (run t).2.pending = (run s).2.pending ∧
      (run t).2.formFeed = (run s).2.formFeed ∧ (run t).2.desk.warnings = (run s).2.desk.warnings ∧
      ∀ name ∈ form.recordNames, Entries.get? name (run t).2.desk.journal.source.entries =
        Entries.get? name (run s).2.desk.journal.source.entries := by
  intro run
  have hruns : ∀ t : Record, (∀ name ∈ form.recordNames, Entries.get? name t = Entries.get? name s) →
      (run s).1 = (run t).1 ∧
        Framed form.recordNames form.chompedNames s t p.formFeed (run s).2 (run t).2 := by
    intro t hst
    have hstart : Framed form.recordNames form.chompedNames s t p.formFeed
        (p.withValues ⟨.mapping, s⟩) (p.withValues ⟨.mapping, t⟩) :=
      ⟨rfl, ⟨rfl, rfl⟩, rfl, rfl, rfl, Journal.tied_start hst⟩
    have hrecord := framed_coupled.printRecord (framed_form (s := s) (t := t) form)
      (framed_closes p.formFeed)
    exact (hrecord.counted fun h => h.lineCount) _ _ hstart
  refine ⟨(hruns s fun _ _ => rfl).2.desk.journal.left, fun t hst => ?_⟩
  obtain ⟨houtcome, hframed⟩ := hruns t hst
  have hlines : (run t).2.lines = (run s).2.lines := by
    rw [Press.lines, Press.lines, printed, printed, hframed.log]
  exact ⟨houtcome.symm, hlines, hframed.log, hframed.pager, hframed.pending,
    hframed.formFeed.2.trans hframed.formFeed.1.symm, hframed.desk.warnings, hframed.desk.journal.entries⟩

/-- A text, and a note that no picture shows. -/
def glossed : Record := [("t", .text "ab cd ef".toList), ("note", .int 1)]

/-- The text of `glossed` with another note. -/
def reglossed : Record := [("note", .int 2), ("t", .text "ab cd ef".toList)]

/-- The text goes over the end of a page, and is printed the same beside either note. -/
theorem record_framed_note :
    let run record :=
      counted (printRecord columns) ((start (Page.first 4) true).withValues ⟨.mapping, record⟩)
    (∀ name ∈ columns.recordNames, Entries.get? name reglossed = Entries.get? name glossed) ∧
    "note" ∉ columns.chompedNames ∧
    (run glossed).2.lines =
      ["T".toList, "ab".toList, "cd".toList, "B".toList, "\x0cT".toList, "ef".toList] ∧
    (run reglossed).1 = (run glossed).1 ∧ (run reglossed).2.lines = (run glossed).2.lines ∧
    Entries.get? "note" (run glossed).2.desk.journal.source.entries = some (.int 1) := by
  have hsame : ∀ name ∈ columns.recordNames, Entries.get? name reglossed = Entries.get? name glossed := by
    have hnames : columns.recordNames = ["t"] := by rfl
    rw [hnames]
    exact List.forall_mem_singleton.mpr rfl
  have hnote : "note" ∉ columns.chompedNames := by decide
  obtain ⟨hkept, hdepends⟩ := record_framed columns (start (Page.first 4) true) glossed
  obtain ⟨houtcome, hlines, -⟩ := hdepends reglossed hsame
  exact ⟨hsame, hnote, by decide +kernel, houtcome, hlines, hkept "note" hnote⟩

end Press

end PictureReport
