import PictureReport.Proofs.Reading.Partition
import PictureReport.Proofs.Reading.Pattern

/-!
# Records are read back

The lines of a record match the patterns of their picture lines one after the other, so a pass over the
patterns takes just these lines and sets every variable of the form to what the record shows.
-/

namespace PictureReport

namespace Record

/-- `made` after each of the variables is set to what it shows in `record`. -/
def copy (record : Record) (names : List String) (made : Record) : Record :=
  names.foldl (fun made name => Entries.set name (resolve record name) made) made

variable {record made : Record} {names : List String}

theorem copy_append (more : List String) :
    copy record (names ++ more) made = copy record more (copy record names made) :=
  List.foldl_append

theorem get?_copy (name : String) : Entries.get? name (copy record names made) =
    if name ∈ names then some (resolve record name) else Entries.get? name made := by
  induction names generalizing made with
  | nil => rfl
  | cons first rest ih =>
    have hcopy : copy record (first :: rest) made =
        copy record rest (Entries.set first (resolve record first) made) := rfl
    rw [hcopy, ih]
    by_cases hrest : name ∈ rest
    · rw [if_pos hrest, if_pos (List.mem_cons_of_mem _ hrest)]
    · rw [if_neg hrest]
      by_cases hfirst : first = name
      · subst hfirst
        rw [if_pos List.mem_cons_self, Entries.get?_set_self]
      · have hnone : name ∉ first :: rest := by
          rw [List.mem_cons, not_or]
          exact ⟨Ne.symm hfirst, hrest⟩
        rw [if_neg hnone, Entries.get?_set_of_ne hfirst]

end Record

theorem Field.save_of_valueOf {f : Field} (hchomp : f.chomp = false) {t : Text} {value : Value}
    (h : f.valueOf t = .ok value) (name : String) (record : Record) :
    f.save name t record = .ok (Entries.set name value record) := by
  unfold Field.save
  simp only [h, hchomp, Bool.false_and, Bool.false_eq_true, if_false]

/-- A line without separators of lines is read as it is. -/
theorem withoutEnd_of_unbroken {t : Text} (h : ∀ c ∈ t, Text.isBreak c = false) : withoutEnd t = t := by
  refine List.rdropWhile_eq_self_iff.mpr fun hne hend => ?_
  have hlast := h _ (List.getLast_mem hne)
  rw [Bool.or_eq_true, decide_eq_true_eq, decide_eq_true_eq] at hend
  obtain hend | hend := hend
  · rw [hend] at hlast
    exact absurd hlast (by decide)
  · rw [hend] at hlast
    exact absurd hlast (by decide)

/-- A line that prints each value so that it is read back. -/
structure PictureLine.IsReadable (line : PictureLine) : Prop where
  plain : line.IsPlain
  exact : ∀ f ∈ line.fields, f.IsExact
  alternate : Segment.Alternate line.segments
  literals : ∀ t, .literal t ∈ line.segments → ∀ c ∈ t, Text.isBreak c = false

/-- `printed` is the line as the record prints it. -/
def PictureLine.Prints (line : PictureLine) (record : Record) (printed : Text) : Prop :=
  ∃ row, Row line.segments (line.names.map (Record.resolve record)) row ∧ printed = row.trimRight

/-- `printed` are the lines as the record prints them, one by one. -/
def Record.Prints (record : Record) (lines : List PictureLine) (printed : List Text) : Prop :=
  List.Forall₂ (fun (line : PictureLine) t => line.Prints record t) lines printed

/-- In the last field of the line or behind it something can be seen. -/
def PictureLine.EndVisible (line : PictureLine) (record : Record) : Prop :=
  Segment.EndVisible line.segments (line.names.map (Record.resolve record))

namespace LinePattern

section Lines

variable {line : PictureLine} {record made : Record} {printed : Text}

/-- The pattern of a line whose fields are all named. -/
def of (line : PictureLine) : LinePattern :=
  ⟨partsOf line.segments, line.fields.zip line.names, line.repeated⟩

theorem ofLine_eq (h : line.names.length = line.fields.length) : ofLine line = .ok (of line) := by
  have hbindings : line.bindings = .ok (line.fields.zip line.names) := if_pos h.symm
  simp only [ofLine, hbindings, bind, Except.bind, pure, Except.pure]
  rfl

theorem ofLines_eq {lines : List PictureLine}
    (h : ∀ line ∈ lines, line.names.length = line.fields.length) :
    ofLines lines = .ok (lines.map of) := by
  induction lines with
  | nil => rfl
  | cons line rest ih =>
    rw [List.forall_mem_cons] at h
    have hrest := ih h.2
    unfold ofLines at hrest ⊢
    rw [List.mapM_cons, ofLine_eq h.1, hrest]
    rfl

theorem bindings_of_single {f : Field} {name : String} (hfields : line.fields = [f])
    (hnames : line.names = [name]) : (of line).bindings = [(f, name)] := by
  simp only [of, hfields, hnames, List.zip_cons_cons, List.zip_nil_left]

theorem saveAll_of_values {fields : List Field} {names : List String} {texts : List Text}
    (hchomp : ∀ f ∈ fields, f.chomp = false) (hlength : names.length = fields.length)
    (hvalues : List.zipWith Field.valueOf fields texts =
      (names.map (Record.resolve record)).map Except.ok) :
    saveAll (fields.zip names) texts made = (.ok (), Record.copy record names made) := by
  induction fields generalizing names texts made with
  | nil =>
    obtain rfl := List.length_eq_zero_iff.mp hlength
    rfl
  | cons f fields ih =>
    rw [List.forall_mem_cons] at hchomp
    cases names with
    | nil => cases hlength
    | cons name names =>
      cases texts with
      | nil => cases hvalues
      | cons t texts =>
        obtain ⟨hvalue, hrest⟩ := List.cons.inj hvalues
        rw [List.zip_cons_cons]
        unfold saveAll
        rw [Field.save_of_valueOf hchomp.1 hvalue]
        exact ih hchomp.2 (Nat.succ.inj hlength) hrest

/-- A printed line has no line end to be dropped. -/
theorem withoutEnd_of_prints (hliterals : ∀ t, .literal t ∈ line.segments → ∀ c ∈ t, Text.isBreak c = false)
    (h : line.Prints record printed) : withoutEnd printed = printed := by
  obtain ⟨row, hrow, rfl⟩ := h
  exact withoutEnd_of_unbroken fun c hc => hrow.unbroken hliterals c (Text.mem_of_mem_trimRight hc)

theorem map_withoutEnd_of_prints {lines : List PictureLine} {ts : List Text}
    (hlines : ∀ line ∈ lines, line.IsReadable) (h : record.Prints lines ts) : ts.map withoutEnd = ts := by
  induction h with
  | nil => rfl
  | cons hline _ ih =>
    rw [List.forall_mem_cons] at hlines
    rw [List.map_cons, withoutEnd_of_prints hlines.1.literals hline, ih hlines.2]

/-- A printed line is recognised, and each of its variables is set to what it showed (`Record.copy`). -/
theorem matchLine_of_prints (hline : line.IsReadable) (hholds : line.Holds record)
    (hvisible : line.EndVisible record) (h : line.Prints record printed) :
    (of line).matchLine printed made = (.ok true, Record.copy record line.names made) := by
  obtain ⟨row, hrow, rfl⟩ := h
  obtain ⟨texts, hmatch, hvalues⟩ := matchAt?_row hrow hline.alternate hvisible
  have hsave : saveAll (line.fields.zip line.names) texts made =
      (.ok (), Record.copy record line.names made) :=
    saveAll_of_values (fun f hf => (hline.exact f hf).chomp) hholds.length_eq.symm hvalues
  exact matchLine_of_saveAll (Part.search?_of_matchAt? hmatch) hsave

theorem absorb_of_prints (hline : line.IsReadable) (hholds : line.Holds record)
    (hvisible : line.EndVisible record) (h : line.Prints record printed) (rest : List Text) :
    (of line).absorb made (printed :: rest) = .ok (Record.copy record line.names made, rest) := by
  have hrepeated : (of line).repeated = false := hline.plain.2
  unfold absorb
  simp only [matchLine_of_prints hline hholds hvisible h, hrepeated, Bool.false_eq_true, if_false]

end Lines

/-- A pass over the patterns takes the lines that one record prints. -/
theorem pass_of_prints {lines : List PictureLine} {record : Record} {printed : List Text}
    (hlines : ∀ line ∈ lines, line.IsReadable) (hholds : ∀ line ∈ lines, line.Holds record)
    (hvisible : ∀ line ∈ lines, line.EndVisible record)
    (h : record.Prints lines printed) (rest : List Text) : ∀ made, pass made (printed ++ rest) (lines.map of) =
      .ok (Record.copy record (lines.flatMap (·.names)) made, rest) := by
  induction h with
  | nil => exact fun made => rfl
  | @cons line t _ _ hline _ ih =>
    intro made
    rw [List.forall_mem_cons] at hlines hholds hvisible
    rw [List.map_cons, List.cons_append]
    unfold pass
    rw [absorb_of_prints hlines.1 hholds.1 hvisible.1 hline]
    have hrest := ih hlines.2 hholds.2 hvisible.2 (Record.copy record line.names made)
    rw [List.flatMap_cons, Record.copy_append, ← hrest]
    rfl

end LinePattern

/-- The lines of records are read as one record after the other. -/
theorem readRecords_of_prints {lines : List PictureLine} (hne : lines ≠ [])
    (hlines : ∀ line ∈ lines, line.IsReadable) {records : List Record} {printed : List (List Text)}
    (hrecords : ∀ record ∈ records, ∀ line ∈ lines, line.Holds record ∧ line.EndVisible record)
    (h : List.Forall₂ (fun (record : Record) ts => record.Prints lines ts) records printed) :
    readRecords (lines.map LinePattern.of) printed.flatten =
      (records.map fun record => record.copy (lines.flatMap (·.names)) [], none) := by
  induction h with
  | nil =>
    rw [List.flatten_nil, readRecords]
    rfl
  | @cons record ts records printed hfirst hrest ih =>
    rw [List.forall_mem_cons] at hrecords
    have hpass := LinePattern.pass_of_prints hlines (fun line hl => (hrecords.1 line hl).1)
      (fun line hl => (hrecords.1 line hl).2) hfirst printed.flatten []
    have hlength := hfirst.length_eq
    cases ts with
    | nil => exact absurd (List.length_eq_zero_iff.mp hlength) hne
    | cons t ts =>
      have hshorter : printed.flatten.length < (t :: (ts ++ printed.flatten)).length := by
        simp only [List.length_cons, List.length_append]
        omega
      rw [List.flatten_cons, List.cons_append] at *
      rw [readRecords, hpass]
      simp only [hshorter, if_true, ih hrecords.2, List.map_cons]

/-- `readLines` gives back the records whose lines these are: the lines have no line ends to be dropped. -/
theorem readLines_of_prints {lines : List PictureLine} (hne : lines ≠ [])
    (hlines : ∀ line ∈ lines, line.IsReadable) {records : List Record} {printed : List (List Text)}
    (hrecords : ∀ record ∈ records, ∀ line ∈ lines, line.Holds record ∧ line.EndVisible record)
    (h : List.Forall₂ (fun (record : Record) ts => record.Prints lines ts) records printed) :
    readLines (lines.map LinePattern.of) printed.flatten =
      (records.map fun record => record.copy (lines.flatMap (·.names)) [], none) := by
  have hends : printed.flatten.map withoutEnd = printed.flatten := by
    clear hrecords
    induction h with
    | nil => rfl
    | cons hfirst _ ih =>
      rw [List.flatten_cons, List.map_append, LinePattern.map_withoutEnd_of_prints hlines hfirst, ih]
  unfold readLines
  rw [hends]
  exact readRecords_of_prints hne hlines hrecords h

end PictureReport
