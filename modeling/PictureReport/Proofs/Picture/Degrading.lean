import PictureReport.Proofs.Picture.Widths

/-!
# Texts in fields for numbers

A field for numbers takes any text.  One with an exponent stays blank where the text is no number.  One with
fixed digits shows the characters as they stand (`FixedPoint.unrounded`), and rounds them where the first
character that has no room is a digit from five up.  Rounding goes wrong in one way only: it meets a
character that counts as a digit and has no value, a superscript or a circled digit
(`FixedPoint.Sticks`).
-/

namespace PictureReport

namespace FixedPoint

variable {f : FixedPoint} {t digits : Text} {fault : NumberFault}

/-- The characters after the point that have room. -/
def kept (f : FixedPoint) (t : Text) : Text := (f.digitsAfter t).take (f.space t - 1)

/-- The characters after the point that have no room. -/
def dropped (f : FixedPoint) (t : Text) : Text := (f.digitsAfter t).drop (f.space t - 1)

/-- The first character is a digit from five up. -/
def RoundsUp (digits : Text) : Prop := ∃ c ∈ digits.head?, ∃ value ∈ Digit.value? c, 5 ≤ value

/-- The first character behind the nines counts as a digit and has no value, so that it cannot be raised. -/
def StopsCarry (digits : Text) (fault : NumberFault) : Prop :=
  ∃ c ∈ (digits.dropWhile (· = '9')).head?, Unvalued c fault

/-- Rounding the number meets a character that counts as a digit and has no value: the first one that has no
room, or one that a carry through the others comes to. -/
structure Sticks (f : FixedPoint) (t : Text) (fault : NumberFault) : Prop where
  several : t.length ≠ 1
  room : 2 ≤ f.space t
  meets : (∃ c ∈ (f.dropped t).head?, Unvalued c fault) ∨
    RoundsUp (f.dropped t) ∧ StopsCarry (f.kept t).reverse fault

/-- The number in its columns with the characters of the fraction as they stand. -/
def unrounded (f : FixedPoint) (t : Text) : Text :=
  if t.length = 1 then t.padRight f.width
  else (wholePart t ++ if f.space t = 0 then [] else '.' :: f.kept t).padLeft f.width

/-- The number is shown `unrounded`, unless the first character without room is a digit from five up; then the
characters in front of it are raised by one. -/
structure Shows (f : FixedPoint) (t shown : Text) : Prop where
  plain : t.length = 1 ∨ f.space t < 2 ∨ ¬ RoundsUp (f.dropped t) → shown = f.unrounded t
  raised : t.length ≠ 1 → 2 ≤ f.space t → RoundsUp (f.dropped t) →
    ∃ raised, carry (f.kept t).reverse = .ok raised ∧
      shown = (wholePart t ++ '.' :: raised.reverse).padLeft f.width

/-! ## Rounding character by character -/

theorem value?_of_not_isDigit {c : Char} (h : Digit.isDigit c = false) : Digit.value? c = none := by
  cases hvalue : Digit.value? c with
  | none => rfl
  | some value => simp [Digit.isDigit, hvalue] at h

theorem roundsUp_eq_error : roundsUp digits = .error fault ↔ ∃ c ∈ digits.head?, Unvalued c fault := by
  cases digits with
  | nil => simp [roundsUp]
  | cons c rest =>
    unfold roundsUp Unvalued
    cases hdigit : Digit.isDigit c with
    | false => simp [hdigit]
    | true => cases hvalue : Digit.value? c <;> simp [hdigit, hvalue, eq_comm (a := fault)]

theorem roundsUp_eq_true : roundsUp digits = .ok true ↔ RoundsUp digits := by
  cases digits with
  | nil => simp [roundsUp, RoundsUp]
  | cons c rest =>
    unfold roundsUp RoundsUp
    cases hdigit : Digit.isDigit c with
    | false => simp [hdigit, value?_of_not_isDigit hdigit]
    | true => cases hvalue : Digit.value? c <;> simp [hdigit, hvalue]

theorem carry_eq_error : carry digits = .error fault ↔ StopsCarry digits fault := by
  unfold StopsCarry
  induction digits with
  | nil => simp [carry]
  | cons c rest ih =>
    unfold carry
    by_cases hnine : c = '9'
    · subst hnine
      have hdigit : Digit.isDigit '9' = true := by decide
      rw [hdigit, Bool.not_true, if_neg (by decide), if_pos rfl, bind_eq_error,
        List.dropWhile_cons_of_pos (by decide), ← ih]
      simp [pure, Except.pure]
    · rw [List.dropWhile_cons_of_neg (by simpa using hnine)]
      unfold Unvalued
      cases hdigit : Digit.isDigit c with
      | false => simp [hdigit]
      | true => cases hvalue : Digit.value? c <;> simp [hnine, hdigit, hvalue, eq_comm (a := fault)]

/-! ## The number in its columns -/

theorem roundFraction_eq (f : FixedPoint) (t : Text) :
    roundFraction (fractionPart t) f.fraction (f.space t - 1) = (do
      if ← roundsUp (f.dropped t) then
        let raised ← carry (f.kept t).reverse
        pure raised.reverse
      else pure (f.kept t)) := rfl

/-- A number with room for digits after the point has those of `roundFraction`. -/
theorem tail_of_room (h : 2 ≤ f.space t) :
    f.tail t = (roundFraction (fractionPart t) f.fraction (f.space t - 1)).map ('.' :: ·) := by
  unfold tail
  rw [if_neg (by omega), if_neg (by omega)]

/-- Without room for digits after the point nothing can go wrong. -/
theorem format_of_no_room (h : t.length = 1 ∨ f.space t < 2) : f.format t = .ok (f.unrounded t) := by
  by_cases hone : t.length = 1
  · unfold format unrounded
    rw [if_pos hone, if_pos hone]
  · have hroom : f.space t < 2 := h.resolve_left hone
    rw [format_eq hone]
    unfold tail unrounded kept
    rw [if_neg hone]
    by_cases hnone : f.space t = 0
    · rw [if_pos hnone, if_pos hnone]
      rfl
    · have hspace : f.space t = 1 := by omega
      rw [if_neg hnone, if_pos hspace, if_neg hnone, hspace]
      rfl

theorem format_eq_error : f.format t = .error fault ↔ f.Sticks t fault := by
  -- a single character, or no room behind the point: then nothing is rounded
  by_cases hfree : t.length = 1 ∨ f.space t < 2
  · rw [format_of_no_room hfree]
    refine iff_of_false (fun h => (by cases h)) fun hsticks => ?_
    rcases hfree with hone | hroom
    · exact hsticks.several hone
    · have hspace := hsticks.room
      omega
  · push Not at hfree
    obtain ⟨hone, hroom⟩ := hfree
    have hround : roundFraction (fractionPart t) f.fraction (f.space t - 1) = .error fault ↔
        (∃ c ∈ (f.dropped t).head?, Unvalued c fault) ∨
          RoundsUp (f.dropped t) ∧ StopsCarry (f.kept t).reverse fault := by
      rw [roundFraction_eq, bind_eq_error, roundsUp_eq_error, ← roundsUp_eq_true, ← carry_eq_error]
      refine or_congr_right ⟨?_, fun ⟨hup, hcarry⟩ => ⟨true, hup, ?_⟩⟩
      · rintro ⟨up, hup, hrest⟩
        cases up with
        | false => cases hrest
        | true =>
          rcases bind_eq_error.mp hrest with hcarry | ⟨_, _, hrest⟩
          · exact ⟨hup, hcarry⟩
          · cases hrest
      · exact bind_eq_error.mpr (.inl hcarry)
    rw [format_eq hone, tail_of_room hroom]
    constructor
    · intro h
      refine ⟨hone, hroom, hround.mp ?_⟩
      cases hmade : roundFraction (fractionPart t) f.fraction (f.space t - 1) with
      | error other =>
        rw [hmade] at h
        cases h
        rfl
      | ok made =>
        rw [hmade] at h
        cases h
    · intro h
      rw [hround.mpr h.meets]
      rfl

/-- What `format` shows are the characters as they stand, or raised by one where they are rounded up. -/
theorem shows_of_format {shown : Text} (h : f.format t = .ok shown) : f.Shows t shown := by
  by_cases hfree : t.length = 1 ∨ f.space t < 2
  · rw [format_of_no_room hfree] at h
    cases h
    refine ⟨fun _ => rfl, fun hone hroom => ?_⟩
    rcases hfree with hlength | hspace
    · exact absurd hlength hone
    · omega
  · push Not at hfree
    obtain ⟨hone, hroom⟩ := hfree
    rw [format_eq hone, tail_of_room hroom, roundFraction_eq] at h
    cases hup : roundsUp (f.dropped t) with
    | error fault =>
      rw [hup] at h
      cases h
    | ok up =>
      rw [hup] at h
      cases up with
      | false =>
        cases h
        have hdown : ¬ RoundsUp (f.dropped t) := by
          rw [← roundsUp_eq_true, hup]
          simp
        refine ⟨fun _ => ?_, fun _ _ hrounds => absurd hrounds hdown⟩
        unfold unrounded
        rw [if_neg hone, if_neg (by omega)]
      | true =>
        cases hcarry : carry (f.kept t).reverse with
        | error fault =>
          simp only [hcarry, bind, Except.bind, if_true] at h
          cases h
        | ok raised =>
          simp only [hcarry, bind, Except.bind, if_true] at h
          cases h
          refine ⟨fun hplain => ?_, fun _ _ _ => ⟨raised, hcarry, rfl⟩⟩
          have hrounds := roundsUp_eq_true.mp hup
          rcases hplain with hlength | hspace | hdown
          · exact absurd hlength hone
          · omega
          · exact absurd hrounds hdown

end FixedPoint

namespace Field

/-- Rounding the number that the text is to be meets a digit without a value (`FixedPoint.Sticks`), or the
number of the page that is to be shown is too long for a text. -/
def Sticks (f : Field) (t : Text) (page : Int) (fault : Fault) : Prop :=
  match f.shape with
  | .fixed number => ∃ unfit, number.Sticks t unfit ∧ fault = .number unfit
  | .page _ => Value.isTooLong page = true ∧ fault = .noText .tooLong
  | _ => False

/-- What a field for numbers makes of a text: a number with an exponent, or blanks; or the characters of the
text, the digits after the point rounded where they can be. -/
def Degrades (f : Field) (t shown : Text) : Prop :=
  match f.shape with
  | .fixed number => number.Shows t shown
  | .scientific number => Numeral.number? t = none → shown = Text.spaces number.width
  | _ => True

/-- A text in a field gives a text (`Degrades`), whether or not it looks like a number, unless rounding it
meets a digit without a value (`Sticks`), and then it always fails.  What is no number leaves a field blank or
shows as it stands. -/
theorem format_degrades (f : Field) (t : Text) (page : Int) (writable : Bool) :
    ((∀ fault, ¬ f.Sticks t page fault) →
      ∃ made, f.format (.text t) page writable = .ok made ∧ f.Degrades t made.text) ∧
    ∀ fault, f.Sticks t page fault → f.format (.text t) page writable = .error fault := by
  cases hs : f.shape with
  | page width =>
    -- the text is not looked at
    rw [format_number hs]
    simp only [Sticks, Degrades, hs]
    constructor
    · intro hfree
      rw [if_neg fun hlong => hfree _ ⟨hlong, rfl⟩]
      exact ⟨_, rfl, trivial⟩
    · rintro _ ⟨hlong, rfl⟩
      rw [if_pos hlong]
  | text align width =>
    rw [format_text (by simp [hs])]
    simp only [Sticks, Degrades, fit, hs]
    refine ⟨fun _ => ?_, fun _ => False.elim⟩
    split <;> exact ⟨_, rfl, trivial⟩
  | scientific number =>
    rw [format_text (by simp [hs])]
    simp only [Sticks, Degrades, fit, hs]
    refine ⟨fun _ => ⟨_, rfl, fun hnone => ?_⟩, fun _ => False.elim⟩
    show (number.format t).1 = Text.spaces number.width
    unfold Scientific.format
    rw [hnone]
    split <;> rfl
  | fixed number =>
    rw [format_text (by simp [hs])]
    simp only [Sticks, Degrades, fit, hs]
    constructor
    · intro hfree
      cases hformat : number.format t with
      | error unfit => exact absurd ⟨unfit, FixedPoint.format_eq_error.mp hformat, rfl⟩ (hfree _)
      | ok shown => exact ⟨_, rfl, FixedPoint.shows_of_format hformat⟩
    · rintro _ ⟨unfit, hsticks, rfl⟩
      rw [FixedPoint.format_eq_error.mpr hsticks]
      rfl

/-- What is no number shows as it stands in a field for amounts, cut behind its point, and leaves a field with
an exponent blank. -/
theorem format_degrades_scrawl :
    let amount : Field := ⟨.fixed ⟨1, 1, true⟩, false⟩
    let ratio : Field := ⟨.scientific ⟨0, 1, true, ⟨false, false⟩, 2⟩, false⟩
    (∀ fault, ¬ amount.Sticks "1.5x".toList 1 fault) ∧ (∀ fault, ¬ ratio.Sticks "1.5x".toList 1 fault) ∧
    (∃ made, amount.format (.text "1.5x".toList) 1 true = .ok made ∧
      amount.Degrades "1.5x".toList made.text ∧ made.text = "1.5".toList) ∧
    ∃ made, ratio.format (.text "1.5x".toList) 1 true = .ok made ∧
      ratio.Degrades "1.5x".toList made.text ∧ made.text = Text.spaces 6 := by
  intro amount ratio
  have hamount : ∀ fault, ¬ amount.Sticks "1.5x".toList 1 fault := by
    rintro _ ⟨unfit, hsticks, -⟩
    have hshown : FixedPoint.format ⟨1, 1, true⟩ "1.5x".toList = .ok "1.5".toList := by decide +kernel
    rw [FixedPoint.format_eq_error.mpr hsticks] at hshown
    cases hshown
  have hratio : ∀ fault, ¬ ratio.Sticks "1.5x".toList 1 fault := fun _ => id
  obtain ⟨made, hmade, hdegrades⟩ := (format_degrades amount "1.5x".toList 1 true).1 hamount
  obtain ⟨blank, hblank, hdegrades'⟩ := (format_degrades ratio "1.5x".toList 1 true).1 hratio
  have hnone : Numeral.number? "1.5x".toList = none := by decide +kernel
  refine ⟨hamount, hratio, ⟨made, hmade, hdegrades, ?_⟩, blank, hblank, hdegrades', hdegrades' hnone⟩
  have hshown : amount.format (.text "1.5x".toList) 1 true = .ok ⟨"1.5".toList, none, []⟩ := by
    decide +kernel
  rw [hshown] at hmade
  cases hmade
  rfl

/-- A superscript in the first place without room cannot be rounded, nor can one that is to be raised. -/
theorem superscript_unformatted :
    let amount : Field := ⟨.fixed ⟨1, 1, true⟩, false⟩
    Shape.read? ".#".toList = some (amount.shape, []) ∧
    amount.format (.text "1.5²".toList) 1 true = .error (.number (.notInteger "²".toList)) ∧
    amount.format (.text "1.²7".toList) 1 true = .error (.number (.notInteger "²".toList)) := by
  decide +kernel

end Field

end PictureReport
