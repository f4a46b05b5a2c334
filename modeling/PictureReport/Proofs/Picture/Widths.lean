import PictureReport.Proofs.Picture.Columns
import PictureReport.Proofs.Picture.Compiled

/-!
# The width of what fields show

A field shows a value in as many columns as it has, whatever the value is.  A number may have a whole part,
and a number with an exponent a text, that is longer than the field: it is shown in full (`Field.Fills`).
Two values take more columns without such a need: a page number with more digits than the field has columns,
and a fraction in which rounding meets a nine of another script, that is written as a ten
(`Field.Overruns`).
-/

namespace PictureReport

/-! ## Texts -/

namespace Text

variable {t : Text}

theorem lastSpace?_lt {i : Nat} (h : lastSpace? t = some i) : i < t.length := by
  induction t generalizing i with
  | nil => cases h
  | cons c rest ih =>
    rw [List.length_cons]
    unfold lastSpace? at h
    cases hlast : lastSpace? rest with
    | some j =>
      have hj := ih hlast
      simp only [hlast, Option.some.injEq] at h
      omega
    | none =>
      simp only [hlast] at h
      split at h
      · cases h
        omega
      · cases h

/-- What is shown of a text fits in the columns. -/
theorem shownLength_le (t : Text) (width : Nat) : t.shownLength width ≤ width := by
  unfold shownLength
  split
  · assumption
  · cases hlast : lastSpace? (t.take (width + 1)) with
    | none => exact Nat.le_refl _
    | some i =>
      have hi := lastSpace?_lt hlast
      have hfew := List.length_take_le (width + 1) t
      rw [Option.getD_some]
      omega

theorem length_justify {width : Nat} (align : Align) (h : t.length ≤ width) :
    (justify align t width).length = width := by
  obtain ⟨left, right, hjustify, hwidth, -⟩ := justify_eq align h
  rw [hjustify]
  simp only [List.length_append, length_spaces]
  exact hwidth

theorem headD_separate (mark : Char) (t : Text) :
    (separate mark t).headD [] = t.takeWhile (· ≠ mark) := by
  induction t with
  | nil => rfl
  | cons c rest ih =>
    unfold separate
    by_cases hc : c = mark
    · rw [if_pos hc, List.takeWhile_cons_of_neg (by simpa using hc)]
      rfl
    · rw [if_neg hc, List.takeWhile_cons_of_pos (by simpa using hc), ← ih]
      cases separate mark rest <;> rfl

end Text

/-! ## Numbers with a fixed number of digits -/

namespace FixedPoint

variable {f : FixedPoint} {t shown digits raised : Text} {fault : NumberFault}

/-- A nine of another script, that is not known for one: raised, it becomes the two digits of a ten. -/
def IsForeignNine (c : Char) : Prop := c ≠ '9' ∧ Digit.value? c = some 9

/-- A carry through the reversed digits comes to a nine of another script. -/
def Swells (digits : Text) : Prop := ∃ c ∈ (digits.dropWhile (· = '9')).head?, IsForeignNine c

instance (c : Char) : Decidable (IsForeignNine c) :=
  inferInstanceAs (Decidable (c ≠ '9' ∧ Digit.value? c = some 9))

-- by its name, as a search through all characters is an instance as well
instance (digits : Text) : Decidable (Swells digits) :=
  Option.decidableExistsMem (digits.dropWhile (· = '9')).head?

/-- A digit that the rules of rounding call one but give no value. -/
def Unvalued (c : Char) (fault : NumberFault) : Prop :=
  Digit.isDigit c = true ∧ Digit.value? c = none ∧ fault = .notInteger [c]

theorem swells_cons_nine (digits : Text) : Swells ('9' :: digits) ↔ Swells digits := by
  unfold Swells
  rw [List.dropWhile_cons_of_pos (by decide)]

theorem swells_cons {c : Char} (hc : c ≠ '9') (digits : Text) :
    Swells (c :: digits) ↔ Digit.value? c = some 9 := by
  unfold Swells IsForeignNine
  rw [List.dropWhile_cons_of_neg (by simpa using hc)]
  simp [hc]

theorem length_decimalDigits_succ : ∀ value < 10,
    (decimalDigits (value + 1)).length = if value = 9 then 2 else 1 := by
  decide

/-- `carry` keeps the number of characters, but where it `Swells` it adds one. -/
theorem length_carry (h : carry digits = .ok raised) :
    raised.length = digits.length + if Swells digits then 1 else 0 := by
  -- on the reversed digits: nines pass the carry on, and the first other character ends it
  induction digits generalizing raised with
  | nil =>
    cases h
    have hnone : ¬ Swells [] := by
      rintro ⟨c, hc, -⟩
      cases hc
    rw [if_neg hnone, Nat.add_zero]
  | cons c rest ih =>
    unfold carry at h
    by_cases hdigit : Digit.isDigit c = true
    · rw [hdigit, Bool.not_true, if_neg (by decide)] at h
      by_cases hnine : c = '9'
      · subst hnine
        rw [if_pos rfl] at h
        obtain ⟨later, hlater, h⟩ := bind_eq_ok.mp h
        cases h
        simp only [List.length_cons, ih hlater, swells_cons_nine]
        omega
      · rw [if_neg hnine] at h
        simp only [swells_cons hnine]
        cases hvalue : Digit.value? c with
        | none =>
          simp only [hvalue] at h
          cases h
        | some value =>
          simp only [hvalue] at h
          cases h
          have hlength := length_decimalDigits_succ value (Digit.value?_lt hvalue)
          simp only [List.length_append, List.length_reverse, List.length_cons, hlength, Option.some.injEq]
          split <;> omega
    · have hvalue : Digit.value? c = none := by
        cases hvalue : Digit.value? c with
        | none => rfl
        | some value => simp [Digit.isDigit, hvalue] at hdigit
      have hnine : c ≠ '9' := by
        rintro rfl
        exact hdigit (by decide)
      rw [Bool.not_eq_true _ |>.mp hdigit, Bool.not_false, if_pos rfl] at h
      cases h
      simp [swells_cons hnine, hvalue]

theorem carry_error (h : carry digits = .error fault) : ∃ c ∈ digits, Unvalued c fault := by
  induction digits with
  | nil => cases h
  | cons c rest ih =>
    unfold carry at h
    split at h
    · cases h
    · rename_i hdigit
      split at h
      · cases hlater : carry rest with
        | error other =>
          rw [hlater] at h
          cases h
          obtain ⟨d, hd, hd'⟩ := ih hlater
          exact ⟨d, List.mem_cons_of_mem _ hd, hd'⟩
        | ok later =>
          rw [hlater] at h
          cases h
      · split at h
        · cases h
        · rename_i hvalue
          cases h
          exact ⟨c, List.mem_cons_self, by simpa using hdigit, hvalue, rfl⟩

theorem roundsUp_error (h : roundsUp digits = .error fault) : ∃ c ∈ digits, Unvalued c fault := by
  unfold roundsUp at h
  split at h
  · cases h
  · rename_i c rest
    split at h
    · cases h
    · rename_i hdigit
      split at h
      · cases h
      · rename_i hvalue
        cases h
        exact ⟨c, List.mem_cons_self, by simpa using hdigit, hvalue, rfl⟩

/-! ### The parts of a number -/

/-- The characters before the point. -/
def wholePart (t : Text) : Text := t.takeWhile (· ≠ '.')

/-- The characters after the first point, up to the next one. -/
def fractionPart (t : Text) : Text := ((Text.separate '.' t)[1]?).getD []

/-- The columns that are left for the point and the digits after it. -/
def space (f : FixedPoint) (t : Text) : Nat :=
  if f.whole < (wholePart t).length then f.width - (wholePart t).length
  else f.fraction + radixWidth f.radix

/-- The digits after the point, with zeros for those that the field has beyond them. -/
def digitsAfter (f : FixedPoint) (t : Text) : Text := fractionPart t ++ List.replicate f.fraction '0'

/-- Rounding takes one column more than there is: the whole part leaves no blank column, and the digits that
are kept of the fraction are raised at a nine of another script. -/
structure Widens (f : FixedPoint) (t : Text) : Prop where
  several : t.length ≠ 1
  full : f.whole ≤ (wholePart t).length
  raised : roundsUp ((f.digitsAfter t).drop (f.space t - 1)) = .ok true
  swells : Swells ((f.digitsAfter t).take (f.space t - 1)).reverse

instance (f : FixedPoint) (t : Text) : Decidable (f.Widens t) :=
  decidable_of_iff (t.length ≠ 1 ∧ f.whole ≤ (wholePart t).length ∧
      roundsUp ((f.digitsAfter t).drop (f.space t - 1)) = .ok true ∧
      Swells ((f.digitsAfter t).take (f.space t - 1)).reverse)
    ⟨fun ⟨h1, h2, h3, h4⟩ => ⟨h1, h2, h3, h4⟩, fun ⟨h1, h2, h3, h4⟩ => ⟨h1, h2, h3, h4⟩⟩

/-- The point and the digits after it, as many as `space` has room for. -/
def tail (f : FixedPoint) (t : Text) : Except NumberFault Text :=
  if f.space t = 0 then .ok []
  else if f.space t = 1 then .ok ['.']
  else (roundFraction (fractionPart t) f.fraction (f.space t - 1)).map ('.' :: ·)

theorem format_eq (h : t.length ≠ 1) :
    f.format t = (f.tail t).map fun tail => (wholePart t ++ tail).padLeft f.width := by
  unfold format tail
  rw [if_neg h]
  extract_lets parts whole fraction columns
  have hwhole : whole = wholePart t := Text.headD_separate '.' t
  have hspace : f.space t = columns := by rw [space, ← hwhole]
  have hfraction : fractionPart t = fraction := rfl
  rw [← hwhole, hspace, hfraction]
  by_cases hnone : columns = 0
  · rw [if_pos hnone, if_pos hnone]
    rfl
  · by_cases hone : columns = 1
    · rw [if_neg hnone, if_neg hnone, if_pos hone, if_pos hone]
      rfl
    · rw [if_neg hnone, if_neg hnone, if_neg hone, if_neg hone]
      cases roundFraction fraction f.fraction (columns - 1) <;> rfl

theorem length_wholePart_le (t : Text) : (wholePart t).length ≤ t.length :=
  (List.takeWhile_prefix _).length_le

/-- Of the digits after the point there are as many as columns are left for them, and one more where a carry
`Swells`. -/
theorem length_roundFraction {fraction rounded : Text} {pad keep : Nat} (hkeep : keep ≤ pad)
    (h : roundFraction fraction pad keep = .ok rounded) :
    rounded.length = keep +
      if roundsUp ((fraction ++ List.replicate pad '0').drop keep) = .ok true ∧
        Swells ((fraction ++ List.replicate pad '0').take keep).reverse then 1 else 0 := by
  have hlength : ((fraction ++ List.replicate pad '0').take keep).length = keep := by
    rw [List.length_take, List.length_append, List.length_replicate]
    omega
  obtain ⟨raise, hraise, h⟩ := bind_eq_ok.mp h
  rw [hraise]
  cases raise with
  | false =>
    cases h
    simp [hlength]
  | true =>
    obtain ⟨raised, hraised, h⟩ := bind_eq_ok.mp h
    cases h
    have hcarry := length_carry hraised
    rw [List.length_reverse, hlength] at hcarry
    simpa using hcarry

/-- A character without a value is one of the number itself, not one of the zeros behind it. -/
theorem Unvalued.mem_number {c : Char} (hc : c ∈ f.digitsAfter t) (h : Unvalued c fault) : c ∈ t := by
  rcases List.mem_append.mp hc with hc | hc
  · unfold fractionPart at hc
    cases hsecond : (Text.separate '.' t)[1]? with
    | none =>
      rw [hsecond] at hc
      cases hc
    | some second =>
      rw [hsecond] at hc
      exact Text.mem_of_mem_separate (List.mem_of_getElem? hsecond) hc
  · obtain rfl := (List.mem_replicate.mp hc).2
    exact absurd h.2.1 (by decide)

theorem roundFraction_error {fraction : Text} {pad keep : Nat}
    (h : roundFraction fraction pad keep = .error fault) :
    ∃ c ∈ fraction ++ List.replicate pad '0', Unvalued c fault := by
  unfold roundFraction at h
  cases hraise : roundsUp ((fraction ++ List.replicate pad '0').drop keep) with
  | error other =>
    simp only [hraise] at h
    cases h
    obtain ⟨c, hc, hfault⟩ := roundsUp_error hraise
    exact ⟨c, List.mem_of_mem_drop hc, hfault⟩
  | ok raise =>
    cases raise with
    | false =>
      simp only [hraise] at h
      cases h
    | true =>
      cases hraised : carry ((fraction ++ List.replicate pad '0').take keep).reverse with
      | error other =>
        simp only [hraise, hraised] at h
        cases h
        obtain ⟨c, hc, hfault⟩ := carry_error hraised
        exact ⟨c, List.mem_of_mem_take (List.mem_reverse.mp hc), hfault⟩
      | ok raised =>
        simp only [hraise, hraised] at h
        cases h

theorem format_error (h : f.format t = .error fault) : ∃ c ∈ t, Unvalued c fault := by
  by_cases hone : t.length = 1
  · unfold format at h
    rw [if_pos hone] at h
    cases h
  · rw [format_eq hone] at h
    unfold tail at h
    split at h
    · cases h
    · split at h
      · cases h
      · cases hround : roundFraction (fractionPart t) f.fraction (f.space t - 1) with
        | error other =>
          rw [hround] at h
          cases h
          obtain ⟨c, hc, hfault⟩ := roundFraction_error hround
          exact ⟨c, hfault.mem_number (f := f) hc, hfault⟩
        | ok rounded =>
          rw [hround] at h
          cases h

/-- The `tail` takes the columns that are left for it, and one more where a carry `Swells`. -/
theorem length_tail {made : Text} (h : f.tail t = .ok made) :
    made.length = f.space t +
      if roundsUp ((f.digitsAfter t).drop (f.space t - 1)) = .ok true ∧
        Swells ((f.digitsAfter t).take (f.space t - 1)).reverse then 1 else 0 := by
  have hkept : ∀ keep, keep = 0 → ¬ Swells ((f.digitsAfter t).take keep).reverse := by
    rintro keep rfl
    simp [Swells]
  unfold tail at h
  by_cases hnone : f.space t = 0
  · rw [if_pos hnone] at h
    cases h
    rw [if_neg fun hs => hkept _ (by omega) hs.2, hnone]
    rfl
  · rw [if_neg hnone] at h
    by_cases hone : f.space t = 1
    · rw [if_pos hone] at h
      cases h
      rw [if_neg fun hs => hkept _ (by omega) hs.2, hone]
      rfl
    · rw [if_neg hone] at h
      have hkeep : f.space t - 1 ≤ f.fraction := by
        unfold space width radixWidth
        split <;> split <;> omega
      cases hround : roundFraction (fractionPart t) f.fraction (f.space t - 1) with
      | error fault =>
        rw [hround] at h
        cases h
      | ok rounded =>
        rw [hround] at h
        cases h
        have hlength := length_roundFraction hkeep hround
        rw [List.length_cons, hlength]
        change _ = f.space t + if roundsUp _ = _ ∧ _ then 1 else 0
        unfold digitsAfter
        omega

theorem space_of_lt (h : (wholePart t).length < f.whole) : (wholePart t).length + f.space t < f.width := by
  unfold space width
  rw [if_neg (by omega)]
  omega

theorem space_of_le (h : f.whole ≤ (wholePart t).length) (hfits : (wholePart t).length ≤ f.width) :
    (wholePart t).length + f.space t = f.width := by
  unfold space
  split
  · omega
  · unfold width
    omega

theorem space_of_long (h : f.width < (wholePart t).length) : f.space t = 0 := by
  unfold space
  unfold width at h ⊢
  rw [if_pos (by omega)]
  omega

/-- A whole part that is longer than the field is all that is shown. -/
theorem format_long (h : f.format t = .ok shown) (hlong : f.width < (wholePart t).length)
    (hwidth : 0 < f.width) : shown = wholePart t := by
  have hone : t.length ≠ 1 := by
    have hle := length_wholePart_le t
    omega
  have htail : f.tail t = .ok [] := if_pos (space_of_long hlong)
  rw [format_eq hone, htail] at h
  cases h
  change (wholePart t ++ []).padLeft f.width = wholePart t
  rw [List.append_nil, Text.padLeft, Nat.sub_eq_zero_of_le hlong.le]
  rfl

/-- Where the whole part fits, the field shows as many characters as it has columns, and one more where
rounding `Widens` the number. -/
theorem length_format (h : f.format t = .ok shown) (hfits : (wholePart t).length ≤ f.width)
    (hwidth : 0 < f.width) : shown.length = f.width + if f.Widens t then 1 else 0 := by
  by_cases hone : t.length = 1
  · unfold format at h
    rw [if_pos hone] at h
    cases h
    rw [if_neg fun hw => hw.several hone, Text.length_padRight]
    omega
  · rw [format_eq hone] at h
    cases hmade : f.tail t with
    | error fault =>
      rw [hmade] at h
      cases h
    | ok made =>
      rw [hmade] at h
      cases h
      have htail := length_tail hmade
      rw [Text.length_padLeft, List.length_append, htail]
      -- only where the whole part takes all its columns does one more character show
      by_cases hfull : f.whole ≤ (wholePart t).length
      · have hspace := space_of_le hfull hfits
        by_cases hw : f.Widens t
        · rw [if_pos ⟨hw.raised, hw.swells⟩, if_pos hw]
          omega
        · rw [if_neg fun hs => hw ⟨hone, hfull, hs.1, hs.2⟩, if_neg hw]
          omega
      · have hspace := space_of_lt (Nat.lt_of_not_le hfull)
        rw [if_neg fun hw : f.Widens t => hfull hw.full]
        split <;> omega

/-- Where a whole part is longer than the field nothing is rounded. -/
theorem not_widens_of_long (hlong : f.width < (wholePart t).length) : ¬ f.Widens t := by
  intro hw
  have hswells := hw.swells
  rw [space_of_long hlong] at hswells
  simp [Swells] at hswells

end FixedPoint

/-! ## Numbers with an exponent -/

namespace Scientific

/-- The number that a text gives as the field prints it, or nothing where it gives none. -/
def printed (f : Scientific) (t : Text) : Text :=
  if (Text.trim t).isEmpty then [] else ((Numeral.number? t).map f.digits).getD []

theorem format_fst (f : Scientific) (t : Text) : (f.format t).1 = (f.printed t).padLeft f.width := by
  have hblank : Text.padLeft [] f.width = Text.spaces f.width := by simp [Text.padLeft]
  unfold format printed
  by_cases hempty : (Text.trim t).isEmpty = true
  · rw [if_pos hempty, if_pos hempty, hblank]
  · rw [if_neg hempty, if_neg hempty]
    cases Numeral.number? t with
    | none => exact hblank.symm
    | some x => rfl

end Scientific

/-! ## Fields -/

namespace Field

variable {f : Field} {value : Value} {page : Int} {t : Text}

/-- The number that a field shows in full even where it is longer than the field: the whole part of one with
fixed digits, and one with an exponent as it is printed. -/
def unbroken (f : Field) (value : Value) : Text :=
  match f.shape with
  | .fixed _ => FixedPoint.wholePart value.shownPlain
  | .scientific number => number.printed value.shown
  | _ => []

/-- The text takes the columns of the field, or it is the number that is `unbroken`. -/
structure Fills (f : Field) (value : Value) (t : Text) : Prop where
  long : f.width < (f.unbroken value).length → t = f.unbroken value
  exact : (f.unbroken value).length ≤ f.width → t.length = f.width

/-- The page number has more digits than the field has columns, or rounding `Widens` a number. -/
def Overruns (f : Field) (value : Value) (page : Int) : Prop :=
  match f.shape with
  | .page width => width < (integerText page).length
  | .fixed number => number.Widens value.shownPlain
  | _ => False

/-- Every field that can be read has a column. -/
theorem width_pos {tail rest : Text} (hread : Shape.read? tail = some (f.shape, rest)) : 0 < f.width := by
  rw [width, (Shape.read?_reads hread).width]
  exact Nat.succ_pos _

theorem fills_iff_of_short (hshort : (f.unbroken value).length ≤ f.width) :
    f.Fills value t ↔ t.length = f.width :=
  ⟨fun h => h.exact hshort, fun h => ⟨fun hlong => absurd hlong (Nat.not_lt.mpr hshort), fun _ => h⟩⟩

theorem fills_padLeft : f.Fills value ((f.unbroken value).padLeft f.width) := by
  refine ⟨fun hlong => ?_, fun hshort => ?_⟩
  · rw [Text.padLeft, Nat.sub_eq_zero_of_le hlong.le]
    rfl
  · rw [Text.length_padLeft]
    exact Nat.max_eq_right hshort

theorem fills_fixed {number : FixedPoint} (hs : f.shape = .fixed number) (hpos : 0 < number.width)
    (h : number.format value.shownPlain = .ok t) :
    f.Fills value t ↔ ¬ number.Widens value.shownPlain := by
  have hunbroken : f.unbroken value = FixedPoint.wholePart value.shownPlain := by
    rw [unbroken, hs]
  have hwidth : f.width = number.width := by
    rw [width, hs]
    rfl
  by_cases hlong : number.width < (FixedPoint.wholePart value.shownPlain).length
  · have hshown := FixedPoint.format_long h hlong hpos
    refine iff_of_true ⟨fun _ => ?_, fun hshort => ?_⟩ (FixedPoint.not_widens_of_long hlong)
    · rw [hunbroken]
      exact hshown
    · rw [hunbroken, hwidth] at hshort
      omega
  · have hlength := FixedPoint.length_format h (Nat.le_of_not_lt hlong) hpos
    rw [fills_iff_of_short (by rw [hunbroken, hwidth]; omega), hwidth, hlength]
    split <;> simp_all

theorem fills_page {width : Nat} (hs : f.shape = .page width) :
    f.Fills value ((integerText page).padBoth width) ↔ ¬ width < (integerText page).length := by
  have hshort : (f.unbroken value).length ≤ f.width := by
    rw [unbroken, hs]
    exact Nat.zero_le _
  have hwidth : f.width = width := by
    rw [Field.width, hs]
    rfl
  rw [fills_iff_of_short hshort, hwidth, Text.length_padBoth]
  omega

theorem fills_text {align : Align} {width : Nat} (hs : f.shape = .text align width)
    (hfits : t.length ≤ width) :
    f.Fills value (Text.justify align t width) := by
  have hshort : (f.unbroken value).length ≤ f.width := by
    rw [unbroken, hs]
    exact Nat.zero_le _
  rw [fills_iff_of_short hshort, Field.width, hs]
  exact Text.length_justify align hfits

/-- What `fit` shows of a text `Fills` the field, unless the value `Overruns` it. -/
theorem fit_fills (hpos : 0 < f.width) {made : Formatted} {writable : Bool}
    (h : f.fit (f.textFor value page) writable = .ok made) :
    f.Fills value made.text ↔ ¬ f.Overruns value page := by
  cases hs : f.shape with
  | page width =>
    simp only [fit, textFor, Overruns, hs] at h ⊢
    cases h
    exact fills_page hs
  | fixed number =>
    simp only [fit, textFor, Overruns, hs] at h ⊢
    have hwidth : 0 < number.width := by
      rw [Field.width, hs] at hpos
      exact hpos
    obtain ⟨shown, hformat, hmade⟩ := bind_eq_ok.mp h
    cases hmade
    exact fills_fixed hs hwidth hformat
  | scientific number =>
    simp only [fit, textFor, Overruns, hs, not_false_eq_true, iff_true] at h ⊢
    cases h
    have hfills : f.Fills value ((f.unbroken value).padLeft f.width) := fills_padLeft
    rw [unbroken, width, hs] at hfills
    rw [Scientific.format_fst]
    exact hfills
  | text align width =>
    simp only [fit, textFor, Overruns, hs, not_false_eq_true, iff_true] at h ⊢
    split at h
    · cases h
      refine fills_text hs ?_
      exact (List.length_take_le _ _).trans (Text.shownLength_le value.shown width)
    · cases h
      exact fills_text hs (List.length_take_le _ _)

/-- Only a fixed-point field cannot show a text, one that has a digit without a value. -/
theorem fit_error {unfit : NumberFault} {writable : Bool} (h : f.fit t writable = .error unfit) :
    (∃ number, f.shape = .fixed number) ∧ ∃ c ∈ t, FixedPoint.Unvalued c unfit := by
  cases hs : f.shape with
  | fixed number =>
    simp only [fit, hs] at h
    rcases bind_eq_error.mp h with hformat | ⟨_, -, hmade⟩
    · exact ⟨⟨number, rfl⟩, FixedPoint.format_error hformat⟩
    · cases hmade
  | text align width =>
    simp only [fit, hs] at h
    split at h <;> cases h
  | page width | scientific number =>
    simp only [fit, hs] at h
    cases h

/-- Whatever the value is, the page and the use that is made of the rest of a text: what a field shows takes
its columns, or is the number that must not be broken, unless the value overruns the field (`Overruns`).
Nothing is shown where the text for the field is missing (`obstacle`), and else only for a number with a digit
that has no value. -/
theorem format_fills {tail rest : Text} (hread : Shape.read? tail = some (f.shape, rest)) (value : Value)
    (page : Int) (writable : Bool) :
    (∀ made, f.format value page writable = .ok made →
      (f.Fills value made.text ↔ ¬ f.Overruns value page)) ∧
    (∀ missing, f.obstacle value page = some missing →
      f.format value page writable = .error (.noText missing)) ∧
    (f.obstacle value page = none → ∀ fault, f.format value page writable = .error fault →
      (∃ number, f.shape = .fixed number) ∧
        ∃ unfit, fault = .number unfit ∧ ∃ c ∈ value.shownPlain, FixedPoint.Unvalued c unfit) := by
  refine ⟨fun made h => fit_fills (width_pos hread) (format_eq_ok.mp h).2, fun missing h => ?_,
    fun hnone fault h => ?_⟩
  · exact format_eq_error.mpr (.inl ⟨missing, h, rfl⟩)
  · rcases format_eq_error.mp h with ⟨missing, hsome, -⟩ | ⟨-, unfit, hfit, rfl⟩
    · rw [hnone] at hsome
      cases hsome
    · obtain ⟨⟨number, hs⟩, hdigit⟩ := fit_error hfit
      rw [textFor, hs] at hdigit
      exact ⟨⟨number, hs⟩, unfit, rfl, hdigit⟩

/-- A whole part and a number with an exponent stand out of their columns in full.  A page whose number has
more than `Numeral.maxDigits` digits has no text. -/
theorem format_fills_price :
    let price : Field := ⟨.fixed ⟨2, 2, true⟩, false⟩
    let ratio : Field := ⟨.scientific ⟨0, 1, true, ⟨false, false⟩, 2⟩, false⟩
    let number : Field := ⟨.page 2, false⟩
    let dear : Value := .text "1234567.5".toList
    let far : Int := Int.ofNat (Nat.pow 10 4300)
    Shape.read? "#.##<".toList = some (price.shape, ['<']) ∧
    Shape.read? ".#e##".toList = some (ratio.shape, []) ∧
    Shape.read? "&".toList = some (number.shape, []) ∧
    ¬ price.Overruns dear 1 ∧ ¬ ratio.Overruns dear 1 ∧
    (∃ made, price.format dear 1 true = .ok made ∧ price.Fills dear made.text ∧
      made.text = "1234567".toList) ∧
    (∃ made, ratio.format dear 1 true = .ok made ∧ ratio.Fills dear made.text ∧
      made.text = "1.2e+06".toList) ∧
    number.format dear far true = .error (.noText .tooLong) := by
  intro price ratio number dear far
  have hprice : Shape.read? "#.##<".toList = some (price.shape, ['<']) := by decide +kernel
  have hratio : Shape.read? ".#e##".toList = some (ratio.shape, []) := by decide +kernel
  have hnumber : Shape.read? "&".toList = some (number.shape, []) := by decide +kernel
  have hprice' : ¬ price.Overruns dear 1 := by
    change ¬ FixedPoint.Widens ⟨2, 2, true⟩ "1234567.5".toList
    decide +kernel
  have hratio' : ¬ ratio.Overruns dear 1 := id
  have hcut : price.format dear 1 true = .ok ⟨"1234567".toList, none, []⟩ := by decide +kernel
  have hshort : ratio.format dear 1 true = .ok ⟨"1.2e+06".toList, none, []⟩ := by decide +kernel
  have hfar : number.obstacle dear far = some .tooLong := by decide +kernel
  refine ⟨hprice, hratio, hnumber, hprice', hratio', ⟨_, hcut, ?_, rfl⟩, ⟨_, hshort, ?_, rfl⟩, ?_⟩
  · exact ((format_fills hprice dear 1 true).1 _ hcut).mpr hprice'
  · exact ((format_fills hratio dear 1 true).1 _ hshort).mpr hratio'
  · exact (format_fills hnumber dear far true).2.1 _ hfar

/-- The hundredth page takes a third column of two, and a nine of another script, rounded, a fourth of three.
-/
theorem overrun_of_hundredth_page :
    let number : Field := ⟨.page 2, false⟩
    let amount : Field := ⟨.fixed ⟨1, 1, true⟩, false⟩
    let nine : Value := .text "1.\u06695".toList
    Shape.read? "&".toList = some (number.shape, []) ∧
    number.format .null 100 true = .ok ⟨"100".toList, none, []⟩ ∧ ¬ number.Fills .null "100".toList ∧
    Shape.read? ".#".toList = some (amount.shape, []) ∧
    amount.format nine 1 true = .ok ⟨"1.10".toList, none, []⟩ ∧ ¬ amount.Fills nine "1.10".toList := by
  intro number amount nine
  refine ⟨by decide +kernel, by decide +kernel, fun h => ?_, by decide +kernel, by decide +kernel,
    fun h => ?_⟩
  · exact absurd (h.exact (by decide +kernel)) (by decide +kernel)
  · exact absurd (h.exact (by decide +kernel)) (by decide +kernel)

end Field

end PictureReport
