import PictureReport.Proofs.Picture.Columns
import PictureReport.Proofs.Picture.Compiled

/-!
# Printed lines and their patterns

A printed line has lost the blanks at its end.  If it still reaches the column at which its last field
starts, then its pattern matches it at the first column and each field takes what it shows, the last one
perhaps without blanks at its end; a line that ends before that column is too short for its pattern.
For the values that a field holds, what it takes is read back as the value as long as it is possible to
see where the last field ends.
-/

namespace PictureReport

namespace Part

theorem after?_eq_some {l t rest : Text} : after? l t = some rest ↔ t = l ++ rest := by
  induction l generalizing t with
  | nil =>
    constructor
    · intro h
      exact Option.some.inj h
    · rintro rfl
      rfl
  | cons c l ih =>
    cases t with
    | nil =>
      constructor
      · intro h
        cases h
      · intro h
        cases h
    | cons d t =>
      unfold after?
      by_cases hc : c = d
      · subst hc
        rw [if_pos rfl, ih, List.cons_append, List.cons_inj_right]
      · rw [if_neg hc]
        constructor
        · intro h
          cases h
        · intro h
          exact absurd (List.cons.inj h).1.symm hc

theorem findDown?_eq_some {α : Type} {f : Nat → Option α} {n m : Nat} {a : α} (hn : n ≤ m)
    (ha : f n = some a) (hnone : ∀ k, n < k → k ≤ m → f k = none) : findDown? f m = some a := by
  induction m with
  | zero =>
    obtain rfl : n = 0 := by omega
    exact ha
  | succ m ih =>
    unfold findDown?
    by_cases hm : n = m + 1
    · subst hm
      rw [ha]
      rfl
    · rw [hnone (m + 1) (by omega) (by omega), Option.none_or]
      exact ih (by omega) fun k hk hkm => hnone k hk (by omega)

theorem search?_of_matchAt? {parts : List Part} {t : Text} {texts : List Text}
    (h : matchAt? parts t = some texts) : search? parts t = some texts := by
  cases t with
  | nil => exact h
  | cons c rest =>
    unfold search?
    rw [h]
    rfl

/-- The last field leaves just the text behind it: the line is too short for the text any later. -/
theorem matchAt?_remainder {t u : Text} (ht : '\n' ∉ t) :
    matchAt? [.remainder, .literal u] (t ++ u) = some [t] := by
  have htake : (t ++ u).takeWhile (· ≠ '\n') = t ++ u.takeWhile (· ≠ '\n') := by
    refine List.takeWhile_append_of_pos fun c hc => ?_
    have hne : c ≠ '\n' := by
      rintro rfl
      exact ht hc
    simpa using hne
  unfold matchAt?
  rw [htake]
  have hlength : (t ++ u.takeWhile (· ≠ '\n')).length = _ := List.length_append
  refine findDown?_eq_some (n := t.length) (by omega) ?_ fun k hk hkm => ?_
  · have hafter : after? u ((t ++ u).drop t.length) = some [] := by
      rw [after?_eq_some, List.drop_left, List.append_nil]
    simp only [matchAt?, hafter, Option.bind_some, Option.map_some, List.take_left]
  · have hafter : after? u ((t ++ u).drop k) = none := by
      cases h : after? u ((t ++ u).drop k) with
      | none => rfl
      | some rest =>
        have hdrop := congrArg List.length (after?_eq_some.mp h)
        have hprefix := (List.takeWhile_prefix (l := u) (· ≠ '\n')).length_le
        simp only [List.length_drop, List.length_append] at hdrop
        omega
    simp only [matchAt?, hafter, Option.bind_none, Option.map_none]

/-! ### Texts that are too short -/

/-- The length of the shortest texts that the parts match. -/
def leastLength : List Part → Nat
  | [] => 0
  | literal l :: parts => l.length + leastLength parts
  | columns width :: parts => width + leastLength parts
  | remainder :: parts => leastLength parts

theorem exists_of_findDown? {α : Type} {f : Nat → Option α} {n : Nat} {a : α}
    (h : findDown? f n = some a) : ∃ k, f k = some a := by
  induction n with
  | zero => exact ⟨0, h⟩
  | succ n ih =>
    unfold findDown? at h
    obtain h | h := Option.or_eq_some_iff.mp h
    · exact ⟨n + 1, h⟩
    · exact ih h.2

theorem leastLength_le {parts : List Part} {t : Text} {texts : List Text}
    (h : matchAt? parts t = some texts) : leastLength parts ≤ t.length := by
  induction parts generalizing t texts with
  | nil => exact Nat.zero_le _
  | cons part parts ih =>
    cases part with
    | literal l =>
      obtain ⟨rest, hafter, hrest⟩ := Option.bind_eq_some_iff.mp h
      rw [after?_eq_some.mp hafter, List.length_append]
      exact Nat.add_le_add_left (ih hrest) _
    | columns width =>
      simp only [matchAt?] at h
      split at h
      · rename_i htaken
        obtain ⟨others, hothers, -⟩ := Option.map_eq_some_iff.mp h
        have hlength := ih hothers
        have hwidth := htaken.1
        rw [List.length_drop] at hlength
        rw [List.length_take] at hwidth
        simp only [leastLength]
        omega
      · cases h
    | remainder =>
      unfold matchAt? at h
      obtain ⟨n, hn⟩ := exists_of_findDown? h
      obtain ⟨others, hothers, -⟩ := Option.map_eq_some_iff.mp hn
      have hlength := ih hothers
      rw [List.length_drop] at hlength
      exact hlength.trans (Nat.sub_le _ _)

theorem matchAt?_eq_none {parts : List Part} {t : Text} (h : t.length < leastLength parts) :
    matchAt? parts t = none := by
  cases hmatch : matchAt? parts t with
  | none => rfl
  | some texts => exact absurd (leastLength_le hmatch) (by omega)

/-- A text shorter than `leastLength` is matched at none of its characters. -/
theorem search?_eq_none {parts : List Part} {t : Text} (h : t.length < leastLength parts) :
    search? parts t = none := by
  induction t with
  | nil => exact matchAt?_eq_none h
  | cons c rest ih =>
    unfold search?
    rw [matchAt?_eq_none h, Option.none_or]
    exact ih (Nat.lt_of_succ_lt h)

end Part

/-! ## The parts of a line -/

namespace LinePattern

variable {f : Field} {segments : List Segment}

theorem partsOf_last (hlast : segments.filterMap Segment.field? = []) :
    partsOf (.field f :: segments) = .remainder :: partsOf segments := by
  simp only [partsOf, hlast, List.isEmpty_nil, if_true]

theorem partsOf_inner (hmore : segments.filterMap Segment.field? ≠ []) :
    partsOf (.field f :: segments) = .columns f.width :: partsOf segments := by
  simp only [partsOf, List.isEmpty_iff, hmore, if_false]

end LinePattern

/-! ## The texts of a line -/

namespace Segment

variable {segments : List Segment} {texts : List Text}

/-- The text of segments whose fields show `texts` in order. -/
def lay : List Segment → List Text → Text
  | literal t :: segments, texts => t ++ lay segments texts
  | field _ :: segments, shown :: texts => shown ++ lay segments texts
  | _, _ => []

/-- The column at which the last field starts. -/
def lastColumn : List Segment → Nat
  | [] => 0
  | segment :: rest =>
    if (rest.filterMap field?).isEmpty then 0 else segment.width + lastColumn rest

/-- What the fields take of the texts that they show: with nothing but blanks behind it the last text has lost
those at its end. -/
def taken : List Segment → List Text → List Text
  | literal _ :: segments, texts => taken segments texts
  | field _ :: segments, shown :: texts =>
    if (segments.filterMap field?).isEmpty then
      [if (lay segments texts).trimRight.isEmpty then shown.trimRight else shown]
    else shown :: taken segments texts
  | _, _ => []

/-- Each text is as wide as its field and has no line feed. -/
def Filled (segments : List Segment) (texts : List Text) : Prop :=
  List.Forall₂ (fun (f : Field) shown => shown.length = f.width ∧ '\n' ∉ shown)
    (segments.filterMap field?) texts

/-- Behind the last field there is at most one text. -/
theorem Alternate.eq_of_no_field (h : Alternate segments) (hfields : segments.filterMap field? = []) :
    segments = [] ∨ ∃ u, segments = [literal u] := by
  cases segments with
  | nil => exact .inl rfl
  | cons segment rest =>
    cases segment with
    | field f => simp [field?] at hfields
    | literal u =>
      cases rest with
      | nil => exact .inr ⟨u, rfl⟩
      | cons next rest =>
        have hnext := h.1 next rfl
        cases next with
        | literal t => cases hnext
        | field f => simp [field?] at hfields

theorem Alternate.fields_ne_nil {t : Text} (h : Alternate (literal t :: segments))
    (hsegments : segments ≠ []) : segments.filterMap field? ≠ [] := by
  cases segments with
  | nil => exact absurd rfl hsegments
  | cons next rest =>
    have hnext := h.1 next rfl
    cases next with
    | literal u => cases hnext
    | field f => simp [field?]

theorem lastColumn_le_leastLength :
    lastColumn segments ≤ Part.leastLength (LinePattern.partsOf segments) := by
  induction segments with
  | nil => exact Nat.zero_le _
  | cons segment rest ih =>
    unfold lastColumn LinePattern.partsOf
    by_cases hlast : (rest.filterMap field?).isEmpty = true
    · rw [if_pos hlast]
      exact Nat.zero_le _
    · have hrest : rest.isEmpty = false := by
        cases rest with
        | nil => exact absurd rfl hlast
        | cons next rest => rfl
      rw [if_neg hlast]
      cases segment with
      | literal t =>
        simp only [hrest, Bool.false_eq_true, if_false, Part.leastLength, width]
        omega
      | field f =>
        simp only [hlast, Bool.false_eq_true, if_false, Part.leastLength, width]
        omega

/-- The last field takes what it shows, and the text behind it is found, also when blanks at the end are
dropped. -/
theorem matchAt?_last {shown u : Text} (hshown : '\n' ∉ shown) :
    Part.matchAt? [.remainder, .literal u.trimRight] (shown ++ u).trimRight =
      some [if u.trimRight.isEmpty then shown.trimRight else shown] := by
  by_cases hblank : Text.AllBlank u
  · have hmatch := Part.matchAt?_remainder (t := shown.trimRight) (u := [])
      fun hfeed => hshown (Text.mem_of_mem_trimRight hfeed)
    rw [List.append_nil] at hmatch
    rw [Text.trimRight_append_blank hblank, Text.trimRight_eq_nil.mpr hblank, hmatch]
    rfl
  · have hseen : u.trimRight.isEmpty = false := by
      rw [List.isEmpty_eq_false_iff]
      exact fun h => hblank (Text.trimRight_eq_nil.mp h)
    rw [Text.trimRight_append hblank, Part.matchAt?_remainder hshown, hseen]
    rfl

/-- A line that reaches its `lastColumn` is matched at its first column, and the fields take their texts. -/
theorem matchAt?_lay (halternate : Alternate segments) (hfilled : Filled segments texts)
    (hreach : lastColumn segments ≤ (lay segments texts).trimRight.length) :
    Part.matchAt? (LinePattern.partsOf segments) (lay segments texts).trimRight =
      some (taken segments texts) := by
  -- on the segments: dropping blanks at the end of the row leaves the front of it alone until the last field
  induction segments generalizing texts with
  | nil => rfl
  | cons segment rest ih =>
    cases segment with
    | literal t =>
      by_cases hend : rest = []
      · subst hend
        have hafter : Part.after? t.trimRight t.trimRight = some [] := by
          rw [Part.after?_eq_some, List.append_nil]
        simp only [LinePattern.partsOf, List.isEmpty_nil, if_true, lay, List.append_nil, Part.matchAt?,
          hafter, Option.bind_some, taken]
      · have hfields := halternate.fields_ne_nil hend
        simp only [lastColumn, List.isEmpty_iff, hfields, if_false, lay, width] at hreach
        have hrow := Text.trimRight_append_of_le (Nat.le_trans (Nat.le_add_right _ _) hreach)
        have hafter : Part.after? t (t ++ (lay rest texts).trimRight) =
            some (lay rest texts).trimRight := Part.after?_eq_some.mpr rfl
        rw [hrow, List.length_append] at hreach
        simp only [LinePattern.partsOf, List.isEmpty_iff, hend, if_false, lay, taken, hrow, Part.matchAt?,
          hafter, Option.bind_some]
        exact ih halternate.2 hfilled (by omega)
    | field f =>
      obtain _ | ⟨⟨hwidth, hfeed⟩, hfilled⟩ := hfilled
      rename_i shown texts
      by_cases hlast : rest.filterMap field? = []
      · rw [hlast] at hfilled
        cases hfilled
        simp only [LinePattern.partsOf_last hlast, lay, taken, hlast, List.isEmpty_nil, if_true]
        have hbehind : Alternate rest := halternate
        obtain rfl | ⟨u, rfl⟩ := hbehind.eq_of_no_field hlast
        · exact matchAt?_last (u := []) hfeed
        · have hlay : lay [literal u] [] = u := List.append_nil u
          rw [hlay]
          exact matchAt?_last hfeed
      · simp only [lastColumn, List.isEmpty_iff, hlast, if_false, lay, width, ← hwidth] at hreach
        have hrow := Text.trimRight_append_of_le (Nat.le_trans (Nat.le_add_right _ _) hreach)
        have hnone : shown.contains '\n' = false := by
          rw [List.contains_eq_mem, decide_eq_false_iff_not]
          exact hfeed
        have htake : (shown ++ (lay rest texts).trimRight).take f.width = shown := by
          rw [← hwidth, List.take_left]
        have hdrop : (shown ++ (lay rest texts).trimRight).drop f.width = (lay rest texts).trimRight := by
          rw [← hwidth, List.drop_left]
        rw [hrow, List.length_append] at hreach
        have hmatch := ih halternate hfilled (by omega)
        simp only [LinePattern.partsOf, List.isEmpty_iff, hlast, if_false, lay, taken, hrow, Part.matchAt?,
          htake, hdrop, hwidth, hnone, Bool.not_false, and_self, if_true, hmatch, Option.map_some]

/-- A line that ends before its `lastColumn` is nowhere matched. -/
theorem search?_lay (hshort : (lay segments texts).trimRight.length < lastColumn segments) :
    Part.search? (LinePattern.partsOf segments) (lay segments texts).trimRight = none :=
  Part.search?_eq_none (Nat.lt_of_lt_of_le hshort lastColumn_le_leastLength)

end Segment

/-! ## Rows -/

/-- The last value, or some text behind its field, can be seen. -/
def Segment.EndVisible (segments : List Segment) (values : List Value) : Prop :=
  ∀ before f after, segments = before ++ .field f :: after → after.filterMap Segment.field? = [] →
    (∀ value ∈ values.getLast?, value.shown ≠ []) ∨ ∃ t, .literal t ∈ after ∧ ¬ Text.AllBlank t

section Rows

variable {segments : List Segment} {values : List Value} {row : Text}

theorem Row.length (h : Row segments values row) :
    values.length = (segments.filterMap Segment.field?).length := by
  induction h with
  | nil => rfl
  | literal t _ ih => exact ih
  | field _ _ ih => exact congrArg (· + 1) ih

theorem Row.values_eq_nil (h : Row segments values row)
    (hfields : segments.filterMap Segment.field? = []) : values = [] := by
  have hlength := h.length
  rw [hfields] at hlength
  exact List.length_eq_zero_iff.mp hlength

theorem Row.mem_of_literal (h : Row segments values row) {t : Text} (ht : .literal t ∈ segments) {c : Char}
    (hc : c ∈ t) : c ∈ row := by
  induction h with
  | nil => cases ht
  | literal u _ ih =>
    rcases List.mem_cons.mp ht with ht | ht
    · obtain rfl := Segment.literal.inj ht
      exact List.mem_append_left _ hc
    · exact List.mem_append_right _ (ih ht)
  | field _ _ ih =>
    rcases List.mem_cons.mp ht with ht | ht
    · cases ht
    · exact List.mem_append_right _ (ih ht)

theorem Row.unbroken (h : Row segments values row)
    (hliterals : ∀ t, .literal t ∈ segments → ∀ c ∈ t, Text.isBreak c = false) :
    ∀ c ∈ row, Text.isBreak c = false := by
  induction h with
  | nil => exact fun c hc => absurd hc List.not_mem_nil
  | literal t _ ih =>
    intro c hc
    rcases List.mem_append.mp hc with hc | hc
    · exact hliterals t List.mem_cons_self c hc
    · exact ih (fun u hu => hliterals u (List.mem_cons_of_mem _ hu)) c hc
  | field hshows _ ih =>
    intro c hc
    rcases List.mem_append.mp hc with hc | hc
    · exact hshows.unbroken c hc
    · exact ih (fun u hu => hliterals u (List.mem_cons_of_mem _ hu)) c hc

theorem endVisible_of_literal {t : Text} (h : Segment.EndVisible (.literal t :: segments) values) :
    Segment.EndVisible segments values := by
  rintro before f after rfl hlast
  exact h (.literal t :: before) f after rfl hlast

theorem endVisible_of_field {f : Field} {value : Value}
    (h : Segment.EndVisible (.field f :: segments) (value :: values)) (hrow : Row segments values row) :
    Segment.EndVisible segments values := by
  rintro before g after rfl hlast
  have hlength := hrow.length
  rw [List.filterMap_append, List.length_append] at hlength
  cases values with
  | nil => simp [Segment.field?] at hlength
  | cons other values =>
    have hend := h (.field f :: before) g after rfl hlast
    rw [List.getLast?_cons_cons] at hend
    exact hend

/-- A row with fields is not blank from any of its segments on, if its end is visible. -/
theorem Row.visible (h : Row segments values row) (hend : Segment.EndVisible segments values)
    (hfields : segments.filterMap Segment.field? ≠ []) : ¬ Text.AllBlank row := by
  induction h with
  | nil => exact absurd rfl hfields
  | literal t _ ih =>
    intro hblank
    exact ih (endVisible_of_literal hend) hfields fun c hc => hblank c (List.mem_append_right _ hc)
  | @field f value shown segments values row hshows hrow ih =>
    intro hblank
    have hrest : Text.AllBlank row := fun c hc => hblank c (List.mem_append_right _ hc)
    by_cases hlast : segments.filterMap Segment.field? = []
    · obtain hvalue | ⟨t, ht, hseen⟩ := hend [] f segments rfl hlast
      · obtain rfl := hrow.values_eq_nil hlast
        exact hshows.visible (hvalue value rfl) fun c hc => hblank c (List.mem_append_left _ hc)
      · exact hseen fun c hc => hrest c (hrow.mem_of_literal ht hc)
    · exact ih (endVisible_of_field hend hrow) hlast hrest

/-- The last value is read back from its columns if it can be seen, or if there is text behind its field. -/
theorem Row.taken_last {f : Field} {value : Value} {shown : Text} (hshows : f.Shows value shown)
    (hrow : Row segments values row)
    (hend : value.shown ≠ [] ∨ ∃ t, .literal t ∈ segments ∧ ¬ Text.AllBlank t) :
    f.valueOf (if row.trimRight.isEmpty then shown.trimRight else shown) = .ok value := by
  by_cases hblank : row.trimRight.isEmpty = true
  · rw [if_pos hblank]
    obtain hvalue | ⟨t, ht, hseen⟩ := hend
    · exact hshows.trimmed hvalue
    · have hrest := Text.trimRight_eq_nil.mp (List.isEmpty_iff.mp hblank)
      exact absurd (fun c hc => hrest c (hrow.mem_of_literal ht hc)) hseen
  · rw [if_neg hblank]
    exact hshows.reads

/-- A row lays out texts that fill its fields; the line reaches its last field, and what the fields take is
read back as the values. -/
theorem Row.laid (h : Row segments values row) (hend : Segment.EndVisible segments values) :
    ∃ texts, Segment.Filled segments texts ∧ Segment.lay segments texts = row ∧
      Segment.lastColumn segments ≤ row.trimRight.length ∧
      List.zipWith Field.valueOf (segments.filterMap Segment.field?) (Segment.taken segments texts) =
        values.map .ok := by
  induction h with
  | nil => exact ⟨[], .nil, rfl, Nat.zero_le _, rfl⟩
  | @literal t segments values row hrow ih =>
    obtain ⟨texts, hfilled, rfl, hreach, hvalues⟩ := ih (endVisible_of_literal hend)
    refine ⟨texts, hfilled, rfl, ?_, hvalues⟩
    unfold Segment.lastColumn
    by_cases hlast : segments.filterMap Segment.field? = []
    · rw [hlast]
      exact Nat.zero_le _
    · rw [if_neg (by rwa [List.isEmpty_iff]),
        Text.trimRight_append (hrow.visible (endVisible_of_literal hend) hlast), List.length_append]
      exact Nat.add_le_add_left hreach _
  | @field f value shown segments values row hshows hrow ih =>
    obtain ⟨texts, hfilled, rfl, hreach, hvalues⟩ := ih (endVisible_of_field hend hrow)
    have hfeed : '\n' ∉ shown := fun hc => absurd (hshows.unbroken _ hc) (by decide)
    refine ⟨shown :: texts, .cons ⟨hshows.width, hfeed⟩ hfilled, rfl, ?_, ?_⟩
    · unfold Segment.lastColumn
      by_cases hlast : segments.filterMap Segment.field? = []
      · rw [hlast]
        exact Nat.zero_le _
      · rw [if_neg (by rwa [List.isEmpty_iff]),
          Text.trimRight_append (hrow.visible (endVisible_of_field hend hrow) hlast), List.length_append,
          hshows.width]
        exact Nat.add_le_add_left hreach _
    · unfold Segment.taken
      by_cases hlast : segments.filterMap Segment.field? = []
      · obtain rfl := hrow.values_eq_nil hlast
        have hseen : value.shown ≠ [] ∨ ∃ t, .literal t ∈ segments ∧ ¬ Text.AllBlank t :=
          (hend [] f segments rfl hlast).imp_left fun h => h value rfl
        have hvalue := Row.taken_last hshows hrow hseen
        simp only [List.filterMap_cons, Segment.field?, hlast, List.isEmpty_nil, if_true,
          List.zipWith_cons_cons, List.zipWith_nil_left, hvalue, List.map_cons, List.map_nil]
      · simp only [List.filterMap_cons, Segment.field?, List.isEmpty_iff, hlast, if_false,
          List.zipWith_cons_cons, hshows.reads, hvalues, List.map_cons]

/-- The texts that the fields of a row take are read back as its values. -/
theorem matchAt?_row (hrow : Row segments values row) (halternate : Segment.Alternate segments)
    (hend : Segment.EndVisible segments values) :
    ∃ texts, Part.matchAt? (LinePattern.partsOf segments) row.trimRight = some texts ∧
      List.zipWith Field.valueOf (segments.filterMap Segment.field?) texts = values.map .ok := by
  obtain ⟨texts, hfilled, rfl, hreach, hvalues⟩ := hrow.laid hend
  exact ⟨_, Segment.matchAt?_lay halternate hfilled hreach, hvalues⟩

end Rows

end PictureReport
