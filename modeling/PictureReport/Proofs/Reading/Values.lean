import PictureReport.Proofs.Numerals.Nearest
import PictureReport.Proofs.Numerals.Reading
import PictureReport.Proofs.Picture.Chomping
import PictureReport.Reading.Records

/-!
# The values of columns

What a text is read as when a number is looked for in it, and what the fragments of a chomping field
are put together to. Both can fail: a number without an integer part is no integer
(`ofNumeral_reads`), and a fragment that is no text may have no text before it (`save_accumulates`).
-/

namespace PictureReport

/-! ## Numbers -/

namespace Value

open Numeral (WritesInteger WritesNumber)

/-- The value that a text has where a number is looked for, a double-precision one if `float` asks for it:
none if it is blank, the number that it writes, and else the text without the blanks around it.  An integer is
cut from any number that has one. -/
inductive Reads (float : Bool) (t : Text) : Value → Prop
  | null (hblank : Text.AllBlank t) : Reads float t .null
  | float {x : Binary64} (hkind : float = true) (hx : WritesNumber t.trim x) : Reads float t (.float x)
  | int {i : Int} (hkind : float = false) (hi : WritesInteger t.trim i) : Reads float t (.int i)
  | cut {negative : Bool} {mantissa : Nat} {exponent : Int} (hkind : float = false)
      (hno : ∀ i, ¬ WritesInteger t.trim i)
      (hx : WritesNumber t.trim (.finite negative mantissa exponent)) :
      Reads float t (.int (Binary64.truncate negative mantissa exponent))
  | text (hvisible : ¬ Text.AllBlank t) (hno : ∀ x, ¬ WritesNumber t.trim x) :
      Reads float t (.text t.trim)

/-- The text writes a number that is infinite or none at all, and no integer. -/
def Unbounded (t : Text) : Prop :=
  (∀ i, ¬ WritesInteger t i) ∧ ((∃ negative, WritesNumber t (.infinite negative)) ∨ WritesNumber t .nan)

theorem not_writesNumber_nil (x : Binary64) : ¬ WritesNumber [] x := by
  rw [← Numeral.number?_eq_some_iff (by decide)]
  intro h
  cases h

/-- An integer can be read as a number, too. -/
theorem writesNumber_of_writesInteger {t : Text} {i : Int} (h : WritesInteger t i) :
    ∃ x, WritesNumber t x := by
  cases h with
  | @digits s u _ _ hs hu hcount =>
    have hx : WritesNumber (s ++ (u ++ [])) _ := .decimal hs (.whole hu) .absent
    rw [List.append_nil] at hx
    exact ⟨_, hx⟩

section Reading

variable {t : Text} {float : Bool} {value : Value}

theorem not_allBlank_of_writesNumber {x : Binary64} (hx : WritesNumber t.trim x) : ¬ Text.AllBlank t := by
  intro hblank
  rw [Text.trim_eq_nil.mpr hblank] at hx
  exact not_writesNumber_nil x hx

theorem ofNumeral_of_writesInteger {i : Int} (hi : WritesInteger t.trim i) :
    ofNumeral t false = .ok (.int i) := by
  obtain ⟨x, hx⟩ := writesNumber_of_writesInteger hi
  have hvisible : t.trim.isEmpty = false :=
    List.isEmpty_eq_false_iff.mpr (mt Text.trim_eq_nil.mp (not_allBlank_of_writesNumber hx))
  unfold ofNumeral
  simp only [hvisible, Bool.false_eq_true, if_false,
    (Numeral.integer_eq_ok_iff (Text.isTrimmed_trim t)).mpr hi]

/-- Where an integer is looked for and none is written, a number is looked for and cut. -/
theorem ofNumeral_of_not_integer (hvisible : ¬ Text.AllBlank t) (hno : ∀ i, ¬ WritesInteger t.trim i) :
    ofNumeral t false = match Numeral.number? t.trim with
      | some x => x.toInteger.map .int
      | none => .ok (.text t.trim) := by
  have hsome : t.trim.isEmpty = false :=
    List.isEmpty_eq_false_iff.mpr (mt Text.trim_eq_nil.mp hvisible)
  unfold ofNumeral
  simp only [hsome, Bool.false_eq_true, if_false]
  cases hi : Numeral.integer t.trim with
  | ok i => exact absurd ((Numeral.integer_eq_ok_iff (Text.isTrimmed_trim t)).mp hi) (hno i)
  | error fault => rfl

/-- `ofNumeral` finds the value that the text `Reads` as. -/
theorem Reads.ofNumeral (h : Reads float t value) : ofNumeral t float = .ok value := by
  have htrimmed := Text.isTrimmed_trim t
  cases h with
  | null hblank =>
    unfold Value.ofNumeral
    rw [Text.trim_eq_nil.mpr hblank]
    rfl
  | @float x hkind hx =>
    have hvisible := mt Text.trim_eq_nil.mp (not_allBlank_of_writesNumber hx)
    have hread := (Numeral.number?_eq_some_iff htrimmed).mpr hx
    subst hkind
    unfold Value.ofNumeral
    simp only [List.isEmpty_eq_false_iff.mpr hvisible, Bool.false_eq_true, if_false, if_true, hread]
    rfl
  | int hkind hi =>
    rw [hkind]
    exact ofNumeral_of_writesInteger hi
  | cut hkind hno hx =>
    rw [hkind, ofNumeral_of_not_integer (not_allBlank_of_writesNumber hx) hno,
      (Numeral.number?_eq_some_iff htrimmed).mpr hx]
    rfl
  | text hvisible hno =>
    have hread : Numeral.number? t.trim = none := by
      rw [Option.eq_none_iff_forall_ne_some]
      intro x hx
      exact hno x ((Numeral.number?_eq_some_iff htrimmed).mp hx)
    cases float with
    | true =>
      have hsome := mt Text.trim_eq_nil.mp hvisible
      unfold Value.ofNumeral
      simp only [List.isEmpty_eq_false_iff.mpr hsome, Bool.false_eq_true, if_false, if_true, hread]
      rfl
    | false =>
      have hint : ∀ i, ¬ WritesInteger t.trim i := by
        intro i hi
        obtain ⟨x, hx⟩ := writesNumber_of_writesInteger hi
        exact hno x hx
      rw [ofNumeral_of_not_integer hvisible hint, hread]

theorem Unbounded.ofNumeral (h : Unbounded t.trim) : ∃ fault, ofNumeral t false = .error fault := by
  have htrimmed := Text.isTrimmed_trim t
  obtain ⟨hno, ⟨negative, hx⟩ | hx⟩ := h
  · refine ⟨.infinite, ?_⟩
    rw [ofNumeral_of_not_integer (not_allBlank_of_writesNumber hx) hno,
      (Numeral.number?_eq_some_iff htrimmed).mpr hx]
    rfl
  · refine ⟨.notNumber, ?_⟩
    rw [ofNumeral_of_not_integer (not_allBlank_of_writesNumber hx) hno,
      (Numeral.number?_eq_some_iff htrimmed).mpr hx]
    rfl

/-- A text has a value unless an integer is asked of a number that has no integer part (`Unbounded`). -/
theorem reads_or_unbounded (t : Text) (float : Bool) :
    (∃ value, Reads float t value) ∨ (float = false ∧ Unbounded t.trim) := by
  by_cases hblank : Text.AllBlank t
  · exact .inl ⟨_, .null hblank⟩
  · by_cases hnumber : ∃ x, WritesNumber t.trim x
    · obtain ⟨x, hx⟩ := hnumber
      cases float with
      | true => exact .inl ⟨_, .float rfl hx⟩
      | false =>
        by_cases hinteger : ∃ i, WritesInteger t.trim i
        · obtain ⟨i, hi⟩ := hinteger
          exact .inl ⟨_, .int rfl hi⟩
        · have hno := not_exists.mp hinteger
          cases x with
          | finite negative mantissa exponent => exact .inl ⟨_, .cut rfl hno hx⟩
          | infinite negative => exact .inr ⟨rfl, hno, .inl ⟨negative, hx⟩⟩
          | nan => exact .inr ⟨rfl, hno, .inr hx⟩
    · exact .inl ⟨_, .text hblank (not_exists.mp hnumber)⟩

/-- `ofNumeral` finds no other value than the one that the text `Reads` as. -/
theorem reads_of_ofNumeral (h : ofNumeral t float = .ok value) : Reads float t value := by
  rcases reads_or_unbounded t float with ⟨found, hfound⟩ | ⟨rfl, hunbounded⟩
  · obtain rfl := Except.ok.inj (hfound.ofNumeral.symm.trans h)
    exact hfound
  · obtain ⟨fault, herror⟩ := hunbounded.ofNumeral
    rw [herror] at h
    cases h

end Reading

/-- A text is read as the value that it has, and nothing goes wrong as long as an integer is not asked
of a number that has no integer part. -/
theorem ofNumeral_reads (t : Text) (float : Bool) :
    (∀ value, ofNumeral t float = .ok value ↔ Reads float t value) ∧
    ((∃ fault, ofNumeral t float = .error fault) ↔ float = false ∧ Unbounded t.trim) := by
  refine ⟨fun value => ⟨reads_of_ofNumeral, Reads.ofNumeral⟩, ?_, ?_⟩
  · rintro ⟨fault, herror⟩
    rcases reads_or_unbounded t float with ⟨found, hfound⟩ | hunbounded
    · rw [hfound.ofNumeral] at herror
      cases herror
    · exact hunbounded
  · rintro ⟨rfl, hunbounded⟩
    exact hunbounded.ofNumeral

/-- An integer that a text writes has few digits, and so it has a text itself (`HasText`). -/
theorem hasText_of_writesInteger {i : Int} (hi : WritesInteger t i) : (int i).HasText := by
  cases hi with
  | @digits s u negative vs hs hu hcount =>
    have hpos : 0 < Numeral.maxDigits := by decide
    have hvalue : Numeral.value vs < 10 ^ vs.length := by
      have hlt := Numeral.natural_lt fun c hc => Numeral.isAsciiDigit_of_mem_shownDigits hu.areDigits hc
      rwa [Numeral.natural_shownDigits hu.areDigits, Numeral.length_shownDigits] at hlt
    have habs : (Numeral.negateIf negative (Numeral.value vs)).natAbs = Numeral.value vs := by
      cases negative <;> simp [Numeral.negateIf]
    rw [hasText_int, habs]
    exact Numeral.length_decimalDigits_le hpos
      (hvalue.trans_le (Nat.pow_le_pow_right (by decide) hcount))

/-- The integer part of a number that a text writes has few digits, too. -/
theorem hasText_truncate {negative : Bool} {mantissa : Nat} {exponent : Int}
    (hx : WritesNumber t (.finite negative mantissa exponent)) :
    (int (Binary64.truncate negative mantissa exponent)).HasText := by
  generalize hwritten : Binary64.finite negative mantissa exponent = x at hx
  cases hx with
  | infinite => cases hwritten
  | nan => cases hwritten
  | decimal =>
    have hlt := (Binary64.isCanonical_ofDecimal hwritten.symm).truncate_lt negative
    rw [hasText_int]
    exact (Numeral.length_decimalDigits_le (by decide) hlt).trans (by decide)

/-- The digits of any script are read, and their groups; behind a point they are cut off. -/
example : ofNumeral " -1_٢.7e1 ".toList false = .ok (.int (-127)) := by rfl

/-- The word for infinity is no integer, and reading it as one goes wrong. -/
theorem infinity_unread : ofNumeral "inf".toList false = .error .infinite := rfl

/-! ## Fragments -/

/-- The texts of values that are not empty, with a space between each two. -/
def joined (values : List Value) : Text :=
  Text.joinWith [' '] ((values.map shown).filter (!·.isEmpty))

/-- A value can follow others: it is a text, or it holds something and a text stands before it. -/
def CanFollow (front : List Value) (value : Value) : Prop :=
  (∃ t, value = .text t) ∨ value.holds = true ∧ joined front ≠ []

/-- Each of `values` can follow those before it, where `front` stands before all of them. -/
def Chained (front values : List Value) : Prop :=
  ∀ before value after, values = before ++ value :: after → CanFollow (front ++ before) value

theorem chained_cons {front values : List Value} {value : Value} :
    Chained front (value :: values) ↔ CanFollow front value ∧ Chained (front ++ [value]) values := by
  constructor
  · intro h
    refine ⟨?_, fun before next after hvalues => ?_⟩
    · have hfirst := h [] value values rfl
      rw [List.append_nil] at hfirst
      exact hfirst
    · have hnext := h (value :: before) next after (by rw [hvalues]; rfl)
      rw [List.append_assoc]
      exact hnext
  · rintro ⟨hfirst, hrest⟩ before next after hvalues
    cases before with
    | nil =>
      obtain ⟨rfl, -⟩ := List.cons.inj hvalues
      rw [List.append_nil]
      exact hfirst
    | cons first before =>
      obtain ⟨rfl, htail⟩ := List.cons.inj hvalues
      have hnext := hrest before next after htail
      rw [List.append_assoc] at hnext
      exact hnext

/-- A value that a field which shows no number can have: an integer is short enough to be shown. -/
inductive IsFragment : Value → Prop
  | null : IsFragment .null
  | int {i : Int} (hi : (Value.int i).HasText) : IsFragment (.int i)
  | text (t : Text) : IsFragment (.text t)

theorem joinWith_filled_ne_nil {pieces : List Text} (hne : pieces ≠ []) (hfilled : ∀ t ∈ pieces, t ≠ []) :
    Text.joinWith [' '] pieces ≠ [] := by
  cases pieces with
  | nil => exact absurd rfl hne
  | cons t rest =>
    have ht := hfilled t List.mem_cons_self
    cases rest with
    | nil => exact ht
    | cons u rest => exact List.append_ne_nil_of_left_ne_nil (List.append_ne_nil_of_left_ne_nil ht _) _

theorem joined_concat (front : List Value) (value : Value) :
    joined (front ++ [value]) =
      if value.shown = [] then joined front
      else if joined front = [] then value.shown
      else joined front ++ [' '] ++ value.shown := by
  have hfilled : ∀ t ∈ (front.map shown).filter (!·.isEmpty), t ≠ [] := by
    intro t ht
    simpa using (List.mem_filter.mp ht).2
  unfold joined
  rw [List.map_append, List.filter_append]
  by_cases hvalue : value.shown = []
  · simp [hvalue]
  · have hlast : ([value].map shown).filter (!·.isEmpty) = [value.shown] := by simp [hvalue]
    rw [hlast, if_neg hvalue]
    by_cases hfront : (front.map shown).filter (!·.isEmpty) = []
    · rw [hfront]
      rfl
    · rw [if_neg (joinWith_filled_ne_nil hfront hfilled),
        Text.joinWith_append [' '] hfront (List.cons_ne_nil _ _)]
      rfl

/-- The value of a name before the first fragment is saved is null; then it is the text `joined front`. -/
def gathered (front : List Value) : Value := if front = [] then .null else .text (joined front)

theorem followedBy_gathered (front : List Value) (value : Value) :
    (gathered front).followedBy value = (Value.text (joined front)).followedBy value := by
  unfold gathered
  split
  · rename_i hfront
    rw [hfront]
    rfl
  · rfl

theorem holds_text (t : Text) : (Value.text t).holds = !t.isEmpty := rfl

/-- A text that follows a text stands behind it, with a space between if neither is empty. -/
theorem followedBy_text (t u : Text) :
    followedBy (.text t) (.text u) =
      .ok (.text (if u = [] then t else if t = [] then u else t ++ [' '] ++ u)) := by
  by_cases hu : u = []
  · subst hu
    by_cases ht : t = []
    · subst ht
      rfl
    · simp [followedBy, holds_text, ht]
  · by_cases ht : t = []
    · subst ht
      simp [followedBy, holds_text, hu]
    · simp [followedBy, holds_text, hu, ht, (hasText_text _).stringify, shown, asText]

/-- Where both hold something, the text of the one stands before the text of the other. -/
theorem followedBy_of_holds {value : Value} {t : Text} (ht : t ≠ []) (hholds : value.holds = true)
    (htext : value.HasText) : followedBy (.text t) value = .ok (.text (t ++ [' '] ++ value.shown)) := by
  have hboth : ((Value.text t).holds && value.holds) = true := by
    rw [holds_text, hholds]
    simpa using ht
  unfold followedBy
  rw [if_pos hboth, (hasText_text t).stringify, htext.stringify]
  rfl

/-- A value that is no text follows no text where one of the two holds nothing. -/
theorem followedBy_other {value : Value} (hother : ∀ u, value ≠ .text u) {t : Text}
    (hnone : ¬ (t ≠ [] ∧ value.holds = true)) :
    followedBy (.text t) value = .error (.cannotFollow "str" value.kindName) := by
  have hnot : ((Value.text t).holds && value.holds) = false := by
    rw [holds_text]
    simpa using hnone
  have hsame : (if (Value.text t).holds then Value.text t else .text []) = .text t := by
    rw [holds_text]
    cases t <;> rfl
  unfold followedBy
  rw [hnot, if_neg Bool.false_ne_true, hsame]
  cases value with
  | text u => exact absurd rfl (hother u)
  | _ => rfl

theorem followedBy_of_canFollow {front : List Value} {value : Value} (hvalue : IsFragment value)
    (h : CanFollow front value) :
    (gathered front).followedBy value = .ok (.text (joined (front ++ [value]))) := by
  rw [followedBy_gathered, joined_concat]
  rcases h with ⟨t, rfl⟩ | ⟨hholds, hfront⟩
  · exact followedBy_text (joined front) t
  · cases hvalue with
    | null => cases hholds
    | @int i htext =>
      have hshown : (Value.int i).shown ≠ [] := Numeral.integerText_ne_nil i
      rw [followedBy_of_holds hfront hholds htext, if_neg hshown, if_neg hfront]
    | text t => rw [followedBy_text]; rfl

theorem followedBy_of_not_canFollow {front : List Value} {value : Value} (h : ¬ CanFollow front value) :
    (gathered front).followedBy value = .error (.cannotFollow "str" value.kindName) := by
  rw [CanFollow, not_or] at h
  obtain ⟨hother, hnot⟩ := h
  rw [followedBy_gathered]
  refine followedBy_other (not_exists.mp hother) ?_
  rintro ⟨hfront, hholds⟩
  exact hnot ⟨hholds, hfront⟩

end Value

/-! ## Chomping fields -/

namespace Field

open Value (Reads joined CanFollow Chained IsFragment gathered)

variable {f : Field} {name : String} {t : Text} {value : Value} {front : List Value}

/-- A page number is read as an integer, and each other field without a number as a text. -/
theorem page_or_text (hshape : f.shape.isNumeric = false) (h : f.valueOf t = .ok value) :
    ((∃ width, f.shape = .page width) ∧ Value.ofNumeral t false = .ok value) ∨ ∃ u, value = .text u := by
  unfold valueOf at h
  split at h
  · rename_i number hfixed
    rw [hfixed] at hshape
    cases hshape
  · rename_i number hscientific
    rw [hscientific] at hshape
    cases hshape
  · rename_i width hpage
    cases hread : Value.ofNumeral t false with
    | ok read =>
      rw [hread] at h
      exact .inl ⟨⟨width, hpage⟩, h⟩
    | error fault =>
      rw [hread] at h
      cases h
  · exact .inr ⟨_, (Except.ok.inj h).symm⟩
  · exact .inr ⟨_, (Except.ok.inj h).symm⟩
  · exact .inr ⟨_, (Except.ok.inj h).symm⟩

theorem isFragment_of_valueOf (hshape : f.shape.isNumeric = false) (h : f.valueOf t = .ok value) :
    IsFragment value := by
  rcases page_or_text hshape h with ⟨-, hread⟩ | ⟨u, rfl⟩
  · cases Value.reads_of_ofNumeral hread with
    | null => exact .null
    | float hkind => cases hkind
    | int _ hi => exact .int (Value.hasText_of_writesInteger hi)
    | cut _ _ hx => exact .int (Value.hasText_truncate hx)
    | text => exact .text _
  · exact .text u

/-- Each fragment of a field of text is a text. -/
theorem eq_text_of_valueOf (hshape : f.shape.isNumeric = false) (hpage : ∀ width, f.shape ≠ .page width)
    (h : f.valueOf t = .ok value) : ∃ u, value = .text u := by
  rcases page_or_text hshape h with ⟨⟨width, hwidth⟩, -⟩ | htext
  · exact absurd hwidth (hpage width)
  · exact htext

/-- The record that has only what a name has gathered. -/
def gatheredRecord (name : String) (front : List Value) : Record :=
  if front = [] then [] else [(name, .text (joined front))]

theorem get?_gatheredRecord (name : String) (front : List Value) :
    (Entries.get? name (gatheredRecord name front)).getD .null = gathered front := by
  unfold gatheredRecord gathered
  split
  · rfl
  · simp [Entries.get?_cons]

theorem set_gatheredRecord (name : String) (front : List Value) (value : Value) :
    Entries.set name (.text (joined (front ++ [value]))) (gatheredRecord name front) =
      gatheredRecord name (front ++ [value]) := by
  have hnext : gatheredRecord name (front ++ [value]) = [(name, .text (joined (front ++ [value])))] :=
    if_neg (by simp)
  rw [hnext, gatheredRecord]
  split
  · rfl
  · simp [Entries.set]

/-- Saving a fragment that `CanFollow` those before adds it to them: one step of the induction over fragments.
-/
theorem save_gatheredRecord (hchomp : f.chomp = true) (hshape : f.shape.isNumeric = false)
    (hvalue : f.valueOf t = .ok value) (h : CanFollow front value) :
    f.save name t (gatheredRecord name front) = .ok (gatheredRecord name (front ++ [value])) := by
  have hfollowed := Value.followedBy_of_canFollow (isFragment_of_valueOf hshape hvalue) h
  unfold save
  rw [hvalue]
  simp only [hchomp, hshape, Bool.not_false, Bool.and_self, if_true, get?_gatheredRecord, hfollowed]
  exact congrArg Except.ok (set_gatheredRecord name front value)

theorem save_gatheredRecord_error (hchomp : f.chomp = true) (hshape : f.shape.isNumeric = false)
    (hvalue : f.valueOf t = .ok value) (h : ¬ CanFollow front value) :
    f.save name t (gatheredRecord name front) = .error (.cannotFollow "str" value.kindName) := by
  unfold save
  rw [hvalue]
  simp only [hchomp, hshape, Bool.not_false, Bool.and_self, if_true, get?_gatheredRecord,
    Value.followedBy_of_not_canFollow h]
  rfl

/-- The texts that a field takes are saved in turn under one name. -/
def saveInTurn (f : Field) (name : String) (texts : List Text) (record : Record) : Except Fault Record :=
  texts.foldlM (fun made t => f.save name t made) record

/-- The texts have the values in the field. -/
abbrev Decodes (f : Field) (texts : List Text) (values : List Value) : Prop :=
  List.Forall₂ (fun t value => f.valueOf t = .ok value) texts values

variable {texts : List Text} {values : List Value}

/-- Fragments that are `Chained` are all gathered, and others end in an error.  By induction on the texts,
behind any fragments that are saved already. -/
theorem saveInTurn_gatheredRecord (hchomp : f.chomp = true) (hshape : f.shape.isNumeric = false)
    (hvalues : f.Decodes texts values) (name : String) :
    ∀ front,
      (Chained front values →
        f.saveInTurn name texts (gatheredRecord name front) = .ok (gatheredRecord name (front ++ values))) ∧
      (¬ Chained front values → ∃ value ∈ values,
        f.saveInTurn name texts (gatheredRecord name front) =
          .error (.cannotFollow "str" value.kindName)) := by
  induction hvalues with
  | nil =>
    intro front
    refine ⟨fun _ => ?_, fun h => absurd ?_ h⟩
    · rw [List.append_nil]
      rfl
    · intro before value after h
      simp at h
  | @cons t value texts values ht hrest ih =>
    intro front
    by_cases hfirst : CanFollow front value
    · have hstep : f.saveInTurn name (t :: texts) (gatheredRecord name front) =
          f.saveInTurn name texts (gatheredRecord name (front ++ [value])) := by
        unfold saveInTurn
        rw [List.foldlM_cons, save_gatheredRecord hchomp hshape ht hfirst]
        rfl
      obtain ⟨hok, herror⟩ := ih (front ++ [value])
      rw [hstep]
      refine ⟨fun h => ?_, fun h => ?_⟩
      · rw [hok (Value.chained_cons.mp h).2, List.append_assoc]
        rfl
      · obtain ⟨other, hother, hfault⟩ := herror fun hrest => h (Value.chained_cons.mpr ⟨hfirst, hrest⟩)
        exact ⟨other, List.mem_cons_of_mem _ hother, hfault⟩
    · refine ⟨fun h => absurd (Value.chained_cons.mp h).1 hfirst, fun _ => ⟨value, List.mem_cons_self, ?_⟩⟩
      unfold saveInTurn
      rw [List.foldlM_cons, save_gatheredRecord_error hchomp hshape ht hfirst]
      rfl

/-- The values of a field of text can always follow one another. -/
theorem chained_of_text (hshape : f.shape.isNumeric = false) (hpage : ∀ width, f.shape ≠ .page width)
    (hvalues : f.Decodes texts values) (front : List Value) : Chained front values := by
  have htext : ∀ value ∈ values, ∃ u, value = .text u := by
    induction hvalues with
    | nil => exact List.forall_mem_nil _
    | cons ht _ ih => exact List.forall_mem_cons.mpr ⟨eq_text_of_valueOf hshape hpage ht, ih⟩
  intro before value after h
  have hmem : value ∈ values := by
    rw [h]
    exact List.mem_append_right _ List.mem_cons_self
  exact .inl (htext value hmem)

/-- The fragments of a chomping field without a number are put together with single spaces, as long as each
fragment that is no text holds something and has a text before it; otherwise saving goes wrong.  The fragments
of fields of text are all put together. -/
theorem save_accumulates (hchomp : f.chomp = true) (hshape : f.shape.isNumeric = false) (name : String)
    (hvalues : f.Decodes texts values) :
    (Chained [] values → ∃ record, f.saveInTurn name texts [] = .ok record ∧
      record.resolve name = .text (joined values) ∧
      (texts ≠ [] → record = [(name, .text (joined values))])) ∧
    (¬ Chained [] values → ∃ value ∈ values,
      f.saveInTurn name texts [] = .error (.cannotFollow "str" value.kindName)) ∧
    ((∀ width, f.shape ≠ .page width) → Chained [] values) := by
  obtain ⟨hok, herror⟩ := saveInTurn_gatheredRecord hchomp hshape hvalues name []
  have hempty : gatheredRecord name [] = [] := rfl
  rw [hempty] at hok herror
  refine ⟨fun h => ⟨gatheredRecord name values, hok h, ?_, fun hne => ?_⟩, herror, fun hpage =>
    chained_of_text hshape hpage hvalues []⟩
  · cases values with
    | nil => rfl
    | cons value values =>
      have hrecord : gatheredRecord name (value :: values) = [(name, .text (joined (value :: values)))] :=
        if_neg (List.cons_ne_nil _ _)
      rw [hrecord]
      simp [Record.resolve, Entries.get?_cons]
  · refine if_neg ?_
    rintro rfl
    cases hvalues
    exact hne rfl

/-- A page number behind a word. -/
theorem save_accumulates_numbered :
    (⟨.page 2, true⟩ : Field).Decodes ["no.".toList, " 7".toList] [.text "no.".toList, .int 7] ∧
    Chained [] [.text "no.".toList, .int 7] ∧
    ∃ record, (⟨.page 2, true⟩ : Field).saveInTurn "n" ["no.".toList, " 7".toList] [] = .ok record ∧
      record.resolve "n" = .text "no. 7".toList := by
  have hvalues : (⟨.page 2, true⟩ : Field).Decodes ["no.".toList, " 7".toList]
      [.text "no.".toList, .int 7] := .cons rfl (.cons rfl .nil)
  have hchained : Chained [] [.text "no.".toList, .int 7] := by
    refine Value.chained_cons.mpr ⟨.inl ⟨_, rfl⟩, Value.chained_cons.mpr ⟨.inr ⟨rfl, by decide⟩, ?_⟩⟩
    intro before value after h
    simp at h
  obtain ⟨record, hsaved, hresolve, -⟩ := (save_accumulates rfl rfl "n" hvalues).1 hchained
  exact ⟨hvalues, hchained, record, hsaved, hresolve⟩

/-- A page number cannot be the first fragment. -/
theorem lone_number_unsaved :
    (⟨.page 2, true⟩ : Field).valueOf ['5'] = .ok (.int 5) ∧
    (⟨.page 2, true⟩ : Field).saveInTurn "n" [['5']] [] = .error (.cannotFollow "str" "int") :=
  ⟨rfl, rfl⟩

end Field

end PictureReport
