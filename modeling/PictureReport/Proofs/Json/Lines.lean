import PictureReport.Command.Run
import PictureReport.Proofs.Ends
import PictureReport.Proofs.Json.Codec

/-!
# Records on lines

Records that a lawful codec writes on lines are read from them just if no text of a record holds one of the
separators `Json.isSeparator`, which end a line and are not escaped (`Records.ofJsonLines_ofLines`).  A record
with one of them stands on more than one line.  The first of these ends where a string is open, as the rest of
the record begins with a character beyond ASCII (`Json.string_of_scan`), so it is no document.
-/

namespace PictureReport

namespace Records

open Json

variable {json : Codec} {record : Record} {records : List Record} {t : Text}

/-- No text of the record holds a separator (`isSeparator`) that would end its line. -/
def Unbroken (record : Record) : Prop := ∀ t ∈ textsOf record, ∀ c ∈ t, isSeparator c = false

instance : DecidablePred Unbroken := fun record =>
  decidable_of_iff ((textsOf record).all (fun t => t.all fun c => !isSeparator c) = true)
    (by simp [Unbroken])

/-- What the codec writes for a record. -/
def lineOf (json : Codec) (record : Record) : Text := (json.dumps (.object record)).toOption.getD []

theorem dumps_eq (hjson : json.Lawful) (h : Keeps record) :
    json.dumps (.object record) = .ok (lineOf json record) := by
  obtain ⟨t, ht, -⟩ := hjson.loads_dumps h
  rw [lineOf, ht]
  rfl

theorem loads_lineOf (hjson : json.Lawful) (h : Keeps record) :
    json.loads (lineOf json record) = some (.object record) := by
  obtain ⟨t, ht, hloads⟩ := hjson.loads_dumps h
  rw [lineOf, ht]
  exact hloads

theorem toJsonLines_eq (hjson : json.Lawful) (h : ∀ record ∈ records, Keeps record) :
    toJsonLines json records = (Text.ofLines (records.map (lineOf json)), none) := by
  induction records with
  | nil => rfl
  | cons record rest ih =>
    rw [List.forall_mem_cons] at h
    rw [toJsonLines, dumps_eq hjson h.1, ih h.2]
    simp [Text.ofLines]

/-! ## The first line of a record -/

/-- A text up to the first character that ends a line. -/
def firstLine (t : Text) : Text := t.takeWhile fun c => !Text.isBreak c

theorem firstLine_append_break {front : Text} (h : ∀ c ∈ front, Text.isBreak c = false) {c : Char}
    (hc : Text.isBreak c = true) (back : Text) : firstLine (front ++ c :: back) = front := by
  rw [firstLine, List.takeWhile_append_of_pos fun d hd => by rw [h d hd]; rfl,
    List.takeWhile_cons_of_neg (by simp [hc]), List.append_nil]

/-- Unless a text is empty, the first of its lines is its `firstLine`. -/
theorem lines_eq (hne : t ≠ []) : ∃ others, Text.lines t = firstLine t :: others := by
  fun_induction Text.lines t with
  | case1 => exact absurd rfl hne
  | case2 rest => exact ⟨_, rfl⟩
  | case3 c rest _ hc => exact ⟨_, by rw [firstLine, List.takeWhile_cons_of_neg (by simp [hc])]⟩
  | case4 c rest _ hc hrest ih =>
    have hnil : rest = [] := by
      by_contra hne
      exact Text.lines_ne_nil hne hrest
    exact ⟨[], by simp [firstLine, hnil, hc]⟩
  | case5 c rest _ hc line others hrest ih =>
    have hne : rest ≠ [] := by
      rintro rfl
      cases hrest
    obtain ⟨more, hmore⟩ := ih hne
    rw [hrest] at hmore
    refine ⟨others, ?_⟩
    rw [(List.cons.inj hmore).1, firstLine, firstLine, List.takeWhile_cons_of_pos (by simp [hc])]

theorem lines_ended (h : ∀ c ∈ t, Text.isBreak c = false) : Text.lines (t ++ ['\n']) = [t] := by
  induction t with
  | nil => rfl
  | cons c rest ih =>
    rw [List.forall_mem_cons] at h
    rw [List.cons_append, Text.lines_cons h.1, ih h.2]
    rfl

theorem not_break_of_mem_lineOf (hjson : json.Lawful) (h : Keeps record) (hrecord : Unbroken record) :
    ∀ c ∈ lineOf json record, Text.isBreak c = false := by
  intro c hc
  by_contra hbreak
  -- Only a separator can end a line here, and it stands in a text of the record.
  have hseparator := isSeparator_of_isBreak (hjson.le_of_mem_dumps h (dumps_eq hjson h) hc)
    (Bool.not_eq_false _ ▸ hbreak)
  obtain ⟨t, ht, hmem⟩ := (hjson.mem_dumps h (dumps_eq hjson h) (le_of_isSeparator hseparator)).mp hc
  rw [hrecord t ht c hmem] at hseparator
  exact Bool.false_ne_true hseparator

/-- The line of a record that is not `Unbroken` is cut where a string is open. -/
theorem exists_cut (hjson : json.Lawful) (h : Keeps record) (hbroken : ¬ Unbroken record) :
    ∃ front c back, lineOf json record = front ++ c :: back ∧ Text.isBreak c = true ∧
      (∀ d ∈ front, Text.isBreak d = false) ∧ scan .outside front = .string := by
  obtain ⟨t, ht, c, hc, hseparator⟩ : ∃ t ∈ textsOf record, ∃ c ∈ t, isSeparator c = true := by
    simpa [Unbroken] using hbroken
  have hmem : c ∈ lineOf json record :=
    (hjson.mem_dumps h (dumps_eq hjson h) (le_of_isSeparator hseparator)).mpr ⟨t, ht, hc⟩
  have hsome : ((lineOf json record).find? Text.isBreak).isSome = true :=
    List.find?_isSome.mpr ⟨c, hmem, isBreak_of_isSeparator hseparator⟩
  obtain ⟨first, hfound⟩ := Option.isSome_iff_exists.mp hsome
  obtain ⟨hfirst, front, back, hline, hfront⟩ := List.find?_eq_some_iff_append.mp hfound
  refine ⟨front, first, back, hline, hfirst, fun d hd => by simpa using hfront d hd, ?_⟩
  have hlow : 32 ≤ first.toNat := by
    refine hjson.le_of_mem_dumps h (dumps_eq hjson h) ?_
    rw [hline]
    exact List.mem_append_right _ List.mem_cons_self
  -- The whole line is a document, so that it can have the separator only within a string.
  have hscan := hjson.scan_of_loads (loads_lineOf hjson h)
  rw [hline, scan_append] at hscan
  exact string_of_scan (le_of_isSeparator (isSeparator_of_isBreak hlow hfirst)) hscan

/-! ## Reading the lines -/

/-- The line is one that `ofJsonLines` reads: it is not blank. -/
def isHeld (line : Text) : Bool := !(Text.trim line).isEmpty

theorem isHeld_iff : isHeld t = true ↔ ¬ t.AllBlank := by
  rw [← Text.trim_eq_nil, isHeld, Bool.not_eq_true', List.isEmpty_eq_false_iff]

/-- What is read is not blank. -/
theorem isHeld_of_loads (hjson : json.Lawful) {v : Value} (h : json.loads t = some v) : isHeld t = true := by
  rw [isHeld_iff]
  intro hblank
  rw [hjson.loads_of_allBlank hblank] at h
  cases h

/-- A text in which a string is open has a quote, and so it is not blank. -/
theorem isHeld_of_scan (h : scan .outside t = .string) : isHeld t = true := by
  rw [isHeld_iff]
  intro hblank
  have hquote : '"' ∉ t := fun hmem => absurd (hblank _ hmem) (by decide)
  rcases scan_of_not_mem hquote with hscan | hscan <;> rw [hscan] at h <;> cases h

/-- The values on the lines behind a line feed are read after those before it. -/
theorem ofJsonLines_append (t u : Text) :
    ofJsonLines json (t ++ '\n' :: u) =
      (do
        let values ← ofJsonLines json (t ++ ['\n'])
        let others ← ofJsonLines json u
        pure (values ++ others)) := by
  unfold ofJsonLines
  rw [Text.lines_append_lineFeed, List.filter_append, List.mapM_append]

theorem ofJsonLines_line (hjson : json.Lawful) (h : Keeps record) (hrecord : Unbroken record) :
    ofJsonLines json (lineOf json record ++ ['\n']) = some [.object record] := by
  have hloads := loads_lineOf hjson h
  have hheld : [lineOf json record].filter isHeld = [lineOf json record] :=
    List.filter_cons_of_pos (isHeld_of_loads hjson hloads)
  show ((Text.lines _).filter isHeld).mapM json.loads = _
  rw [lines_ended (not_break_of_mem_lineOf hjson h hrecord), hheld, List.mapM_cons, hloads]
  rfl

theorem ofJsonLines_broken (hjson : json.Lawful) (h : Keeps record) (hbroken : ¬ Unbroken record) :
    ofJsonLines json (lineOf json record ++ ['\n']) = none := by
  obtain ⟨front, c, back, hline, hc, hfront, hscan⟩ := exists_cut hjson h hbroken
  obtain ⟨others, hlines⟩ := lines_eq (t := lineOf json record ++ ['\n']) (by simp)
  have hfirst : firstLine (lineOf json record ++ ['\n']) = front := by
    rw [hline, List.append_assoc, List.cons_append]
    exact firstLine_append_break hfront hc _
  have hrefused : json.loads front = none := by
    rw [Option.eq_none_iff_forall_ne_some]
    intro v hv
    rw [hjson.scan_of_loads hv] at hscan
    cases hscan
  have hheld : (front :: others).filter isHeld = front :: others.filter isHeld :=
    List.filter_cons_of_pos (isHeld_of_scan hscan)
  show ((Text.lines _).filter isHeld).mapM json.loads = _
  rw [hlines, hfirst, hheld, List.mapM_cons, hrefused]
  rfl

/-- The records on the lines are read back just if all of them are `Unbroken`; else a line is no JSON text. -/
theorem ofJsonLines_ofLines (hjson : json.Lawful) (h : ∀ record ∈ records, Keeps record) :
    ofJsonLines json (Text.ofLines (records.map (lineOf json))) =
      if ∀ record ∈ records, Unbroken record then some (records.map .object) else none := by
  induction records with
  | nil => rfl
  | cons record rest ih =>
    rw [List.forall_mem_cons] at h
    have hlines : Text.ofLines ((record :: rest).map (lineOf json)) =
        lineOf json record ++ '\n' :: Text.ofLines (rest.map (lineOf json)) := by simp [Text.ofLines]
    rw [hlines, ofJsonLines_append, ih h.2]
    by_cases hrecord : Unbroken record
    · rw [ofJsonLines_line hjson h.1 hrecord]
      by_cases hrest : ∀ record ∈ rest, Unbroken record
      · rw [if_pos hrest, if_pos (List.forall_mem_cons.mpr ⟨hrecord, hrest⟩)]
        rfl
      · rw [if_neg hrest, if_neg fun hall => hrest (List.forall_mem_cons.mp hall).2]
        rfl
    · rw [ofJsonLines_broken hjson h.1 hrecord, if_neg fun hall => hrecord (List.forall_mem_cons.mp hall).1]
      rfl

end Records

end PictureReport
