import Mathlib.Data.Rat.Floor
import Mathlib.Tactic.FieldSimp
import Mathlib.Tactic.Linarith
import PictureReport.Proofs.Integers
import PictureReport.Proofs.Picture.Widths

/-!
# Rounding to the places of a picture

A number that is written with digits keeps its whole part and its sign, and of its fraction as many digits
are printed as there is room for behind the point.  They are the fraction rounded half up to so many places;
a carry out of the first of them is dropped (`FixedPoint.format_rounds`).

Rounding is done on characters, from the last digit that is kept to the left, while the law is about numbers.
The two meet in `natural`: a digit more is ten times the number, and the digits that are dropped are at least
one half just if the first of them is a five or more.
-/

namespace PictureReport

namespace Numeral

variable {digits more : Text} {c : Char}

theorem natural_append (digits more : Text) :
    natural (digits ++ more) = natural digits * 10 ^ more.length + natural more := by
  induction more using List.reverseRecOn with
  | nil => simp [natural]
  | append_singleton more c ih =>
    rw [← List.append_assoc, natural_concat, ih, natural_concat, List.length_append,
      List.length_singleton, pow_succ]
    ring

theorem natural_cons (c : Char) (rest : Text) :
    natural (c :: rest) = (c.toNat - 48) * 10 ^ rest.length + natural rest := by
  have hone : natural [c] = c.toNat - 48 := by simp [natural]
  rw [← hone, ← natural_append, List.singleton_append]

theorem natural_lt (h : ∀ c ∈ digits, isAsciiDigit c = true) : natural digits < 10 ^ digits.length := by
  induction digits with
  | nil => simp [natural]
  | cons c rest ih =>
    rw [List.forall_mem_cons] at h
    have hrest := ih h.2
    have hc := lt_of_isAsciiDigit h.1
    have hdigit : (c.toNat - 48) * 10 ^ rest.length ≤ 9 * 10 ^ rest.length :=
      Nat.mul_le_mul_right _ (by omega)
    rw [natural_cons, List.length_cons, pow_succ]
    omega

theorem natural_zeros (count : Nat) : natural (List.replicate count '0') = 0 := by
  induction count with
  | zero => rfl
  | succ count ih =>
    rw [List.replicate_succ, natural_cons, ih]
    simp

/-- A number as digits write it: perhaps a minus sign, digits, and perhaps a point with digits behind it. -/
structure Written where
  negative : Bool
  whole : Text
  /-- The digits behind the point, if there is one. -/
  fraction : Option Text
  whole_ne_nil : whole ≠ []
  whole_digits : ∀ c ∈ whole, isAsciiDigit c = true
  fraction_digits : ∀ digits ∈ fraction, ∀ c ∈ digits, isAsciiDigit c = true

namespace Written

/-- The sign and the digits before the point. -/
def front (n : Written) : Text := (if n.negative then ['-'] else []) ++ n.whole

/-- The digits behind the point; none without a point. -/
def fractionDigits (n : Written) : Text := n.fraction.getD []

def text (n : Written) : Text :=
  n.front ++ match n.fraction with
    | none => []
    | some digits => '.' :: digits

theorem point_not_mem_front (n : Written) : '.' ∉ n.front := by
  intro hc
  rcases List.mem_append.mp hc with hc | hc
  · split at hc <;> simp at hc
  · exact absurd (n.whole_digits _ hc) (by decide)

theorem digits_of_mem_fraction (n : Written) : ∀ c ∈ n.fractionDigits, isAsciiDigit c = true := by
  unfold fractionDigits
  cases h : n.fraction with
  | none => simp
  | some digits => exact n.fraction_digits digits h

theorem separate_text (n : Written) : Text.separate '.' n.text = n.front :: n.fraction.toList := by
  have hpoint := n.point_not_mem_front
  unfold text
  cases h : n.fraction with
  | none => simpa using Text.separate_of_not_mem hpoint
  | some digits =>
    have hdigits : '.' ∉ digits := fun hc => absurd (n.fraction_digits digits h _ hc) (by decide)
    simp only [Text.separate_append hpoint, Text.separate_of_not_mem hdigits, Option.toList_some]

end Written

end Numeral

open Numeral (isAsciiDigit natural Written)

namespace FixedPoint

/-! ## Digits that are raised -/

/-- The reversed digits that `carry` leaves are those of the next number, but for a carry out of the first
digit, which is lost modulo `10 ^ length`. -/
theorem carry_digits {digits : Text} (h : ∀ c ∈ digits, isAsciiDigit c = true) :
    ∃ raised, carry digits = .ok raised ∧ raised.length = digits.length ∧
      (∀ c ∈ raised, isAsciiDigit c = true) ∧
      natural raised.reverse = (natural digits.reverse + 1) % 10 ^ digits.length := by
  induction digits with
  | nil => exact ⟨[], rfl, rfl, by simp, by simp [natural]⟩
  | cons c rest ih =>
    rw [List.forall_mem_cons] at h
    have hc := Numeral.lt_of_isAsciiDigit h.1
    have hvalue := Digit.value?_of_isAsciiDigit h.1
    have hdigit : Digit.isDigit c = true := by simp [Digit.isDigit, hvalue]
    have hrest : ∀ d ∈ rest.reverse, isAsciiDigit d = true := fun d hd => h.2 d (List.mem_reverse.mp hd)
    have hlt := Numeral.natural_lt hrest
    rw [List.length_reverse] at hlt
    -- a nine becomes a zero and the carry goes on; any other digit ends it
    by_cases hnine : c = '9'
    · obtain ⟨raised, hraised, hlength, hdigits, hnatural⟩ := ih h.2
      refine ⟨'0' :: raised, ?_, by simp [hlength], ?_, ?_⟩
      · subst hnine
        simp [carry, hdigit, hraised, bind, Except.bind, pure, Except.pure]
      · exact List.forall_mem_cons.mpr ⟨by decide, hdigits⟩
      · rw [List.reverse_cons, List.reverse_cons, Numeral.natural_concat, Numeral.natural_concat, hnatural,
          hnine, List.length_cons, pow_succ']
        rw [show 10 * natural rest.reverse + ('9'.toNat - 48) + 1 = 10 * (natural rest.reverse + 1) by
          simp; ring, Nat.mul_mod_mul_left]
        simp
    · have hsmall : c.toNat - 48 + 1 < 10 := by
        have hne : c.toNat ≠ 57 := fun he => hnine (Char.toNat_inj.mp he)
        omega
      have hone : decimalDigits (c.toNat - 48 + 1) = [Nat.digitChar (c.toNat - 48 + 1)] :=
        Nat.toDigits_of_lt_base hsmall
      refine ⟨Nat.digitChar (c.toNat - 48 + 1) :: rest, ?_, by simp, ?_, ?_⟩
      · simp [carry, hdigit, hnine, hvalue, hone]
      · refine List.forall_mem_cons.mpr ⟨?_, h.2⟩
        exact Numeral.isAsciiDigit_of_mem (n := c.toNat - 48 + 1) (by rw [hone]; exact List.mem_cons_self)
      · have hraised := Nat.toNat_digitChar_sub_48_of_lt_ten hsmall
        rw [List.reverse_cons, List.reverse_cons, Numeral.natural_concat, Numeral.natural_concat, hraised,
          List.length_cons, pow_succ', Nat.mod_eq_of_lt]
        · omega
        · omega

/-- `roundsUp` says of digits that are dropped whether they are at least one half. -/
theorem roundsUp_digits {digits : Text} (h : ∀ c ∈ digits, isAsciiDigit c = true) :
    roundsUp digits = .ok (decide (10 ^ digits.length ≤ 2 * natural digits)) := by
  cases digits with
  | nil => simp [roundsUp, natural]
  | cons c rest =>
    rw [List.forall_mem_cons] at h
    have hvalue := Digit.value?_of_isAsciiDigit h.1
    have hdigit : Digit.isDigit c = true := by simp [Digit.isDigit, hvalue]
    have hlt := Numeral.natural_lt h.2
    have hhalf : 5 ≤ c.toNat - 48 ↔ 10 ^ (c :: rest).length ≤ 2 * natural (c :: rest) := by
      rw [Numeral.natural_cons, List.length_cons, pow_succ]
      constructor
      · intro hfive
        have hmul := Nat.mul_le_mul_right (10 ^ rest.length) hfive
        omega
      · intro hle
        by_contra hfour
        have hmul := Nat.mul_le_mul_right (10 ^ rest.length) (show c.toNat - 48 ≤ 4 by omega)
        omega
    simp only [roundsUp, hdigit, hvalue, Bool.not_true, Bool.false_eq_true, if_false, hhalf]

/-! ## Fractions that are rounded -/

/-- The fraction that digits after a point write. -/
def fractionOf (digits : Text) : ℚ := natural digits / 10 ^ digits.length

/-- The fraction rounded half up to so many places, as a number of units of the last one:
`⌊x * 10 ^ places + 1 / 2⌋`. -/
def halfUp (x : ℚ) (places : Nat) : Nat := ⌊x * 10 ^ places + 1 / 2⌋₊

/-- Zeros behind the digits do not change the fraction. -/
theorem fractionOf_zeros (digits : Text) (count : Nat) :
    fractionOf (digits ++ List.replicate count '0') = fractionOf digits := by
  unfold fractionOf
  rw [Numeral.natural_append, Numeral.natural_zeros, List.length_append, List.length_replicate, pow_add]
  push_cast
  field_simp
  simp

/-- Of `kept ++ dropped` the digits that are dropped count as one unit if they are at least one half. -/
theorem halfUp_append (kept : Text) {dropped : Text} (h : ∀ c ∈ dropped, isAsciiDigit c = true) :
    halfUp (fractionOf (kept ++ dropped)) kept.length =
      natural kept + if 10 ^ dropped.length ≤ 2 * natural dropped then 1 else 0 := by
  have hlt : (natural dropped : ℚ) < 10 ^ dropped.length := by exact_mod_cast Numeral.natural_lt h
  have hpos : (0 : ℚ) < 10 ^ dropped.length := by positivity
  -- scaled by the places that are kept, the number is the digits kept and a fraction below one
  have hscaled : fractionOf (kept ++ dropped) * 10 ^ kept.length =
      natural kept + natural dropped / 10 ^ dropped.length := by
    unfold fractionOf
    rw [Numeral.natural_append, List.length_append, pow_add]
    push_cast
    field_simp
  have hnonneg : (0 : ℚ) ≤ natural dropped / 10 ^ dropped.length := by positivity
  have hone : (natural dropped : ℚ) / 10 ^ dropped.length < 1 := (div_lt_one hpos).mpr hlt
  unfold halfUp
  rw [hscaled, Nat.floor_eq_iff (by positivity)]
  split
  · rename_i hhalf
    have hhalf' : (1 / 2 : ℚ) ≤ natural dropped / 10 ^ dropped.length := by
      rw [le_div_iff₀ hpos]
      have : ((10 ^ dropped.length : ℕ) : ℚ) ≤ ((2 * natural dropped : ℕ) : ℚ) := by exact_mod_cast hhalf
      push_cast at this
      linarith
    push_cast
    constructor <;> linarith
  · rename_i hhalf
    have hhalf' : (natural dropped : ℚ) / 10 ^ dropped.length < 1 / 2 := by
      rw [div_lt_iff₀ hpos]
      have : ((2 * natural dropped : ℕ) : ℚ) < ((10 ^ dropped.length : ℕ) : ℚ) := by
        exact_mod_cast Nat.lt_of_not_le hhalf
      push_cast at this
      linarith
    push_cast
    constructor <;> linarith

/-- `roundFraction` keeps the digits of the fraction rounded half up, without a carry out of the first one. -/
theorem roundFraction_digits {fraction : Text} (h : ∀ c ∈ fraction, isAsciiDigit c = true) {pad keep : Nat}
    (hkeep : keep ≤ pad) :
    ∃ rounded, roundFraction fraction pad keep = .ok rounded ∧ rounded.length = keep ∧
      (∀ c ∈ rounded, isAsciiDigit c = true) ∧
      natural rounded = halfUp (fractionOf fraction) keep % 10 ^ keep := by
  generalize hall : fraction ++ List.replicate pad '0' = all
  have hdigits : ∀ c ∈ all, isAsciiDigit c = true := by
    intro c hc
    rw [← hall] at hc
    rcases List.mem_append.mp hc with hc | hc
    · exact h c hc
    · rw [(List.mem_replicate.mp hc).2]
      decide
  have hkept : ∀ c ∈ all.take keep, isAsciiDigit c = true := fun c hc => hdigits c (List.mem_of_mem_take hc)
  have hdropped : ∀ c ∈ all.drop keep, isAsciiDigit c = true :=
    fun c hc => hdigits c (List.mem_of_mem_drop hc)
  have hlength : (all.take keep).length = keep := by
    rw [List.length_take, ← hall, List.length_append, List.length_replicate]
    omega
  have hlaw := halfUp_append (all.take keep) hdropped
  rw [hlength, List.take_append_drop, ← hall, fractionOf_zeros, hall] at hlaw
  have hraise := roundsUp_digits hdropped
  unfold roundFraction
  simp only [hall, hraise, bind, Except.bind]
  by_cases hhalf : 10 ^ (all.drop keep).length ≤ 2 * natural (all.drop keep)
  · have hreversed : ∀ c ∈ (all.take keep).reverse, isAsciiDigit c = true :=
      fun c hc => hkept c (List.mem_reverse.mp hc)
    obtain ⟨raised, hraised, hsame, hlegal, hnatural⟩ := carry_digits hreversed
    rw [List.length_reverse, hlength] at hsame hnatural
    rw [List.reverse_reverse] at hnatural
    refine ⟨raised.reverse, ?_, by rw [List.length_reverse, hsame], ?_, ?_⟩
    · simp only [hhalf, decide_true, if_true, hraised, pure, Except.pure]
    · exact fun c hc => hlegal c (List.mem_reverse.mp hc)
    · rw [hnatural, hlaw, if_pos hhalf]
  · refine ⟨all.take keep, ?_, hlength, hkept, ?_⟩
    · simp only [hhalf, decide_false, Bool.false_eq_true, if_false, pure, Except.pure]
    · have hlt := Numeral.natural_lt hkept
      rw [hlength] at hlt
      rw [hlaw, if_neg hhalf, Nat.add_zero, Nat.mod_eq_of_lt hlt]

/-! ## Numbers in their columns -/

/-- The number without its sign. -/
def magnitude (n : Written) : ℚ := natural n.whole + fractionOf n.fractionDigits

/-- Rounding a number is rounding its fraction: the whole part is a multiple of the last place. -/
theorem halfUp_magnitude (n : Written) (places : Nat) :
    halfUp (magnitude n) places =
      natural n.whole * 10 ^ places + halfUp (fractionOf n.fractionDigits) places := by
  have hnonneg : 0 ≤ fractionOf n.fractionDigits * 10 ^ places + 1 / 2 := by
    unfold fractionOf
    positivity
  have hsum : magnitude n * 10 ^ places + 1 / 2 =
      fractionOf n.fractionDigits * 10 ^ places + 1 / 2 + (natural n.whole * 10 ^ places : ℕ) := by
    unfold magnitude
    push_cast
    ring
  unfold halfUp
  rw [hsum, Nat.floor_add_natCast hnonneg, Nat.add_comm]

/-- A fraction is rounded up to one at most. -/
theorem halfUp_fractionOf_le {digits : Text} (h : ∀ c ∈ digits, isAsciiDigit c = true) (places : Nat) :
    halfUp (fractionOf digits) places ≤ 10 ^ places := by
  have hlt : (natural digits : ℚ) < 10 ^ digits.length := by exact_mod_cast Numeral.natural_lt h
  have hone : fractionOf digits < 1 := (div_lt_one (by positivity)).mpr hlt
  have hscaled : fractionOf digits * 10 ^ places < 10 ^ places :=
    mul_lt_of_lt_one_left (by positivity) hone
  have hnonneg : 0 ≤ fractionOf digits * 10 ^ places + 1 / 2 := by
    unfold fractionOf
    positivity
  refine Nat.lt_succ_iff.mp ((Nat.floor_lt hnonneg).mpr ?_)
  push_cast
  linarith

theorem wholePart_text (n : Written) : wholePart n.text = n.front := by
  rw [wholePart, ← Text.headD_separate, n.separate_text, List.headD_cons]

theorem fractionPart_text (n : Written) : fractionPart n.text = n.fractionDigits := by
  rw [fractionPart, n.separate_text, Written.fractionDigits]
  cases n.fraction <;> rfl

/-- The columns behind the whole part, if it has not more than there are: those of the point and the fraction,
or as many as a long whole part leaves of them. -/
def room (f : FixedPoint) (whole : Text) : Int :=
  if whole.length ≤ f.whole then f.fraction + radixWidth f.radix else f.width - whole.length

theorem space_text (f : FixedPoint) (n : Written) : f.space n.text = (f.room n.front).toNat := by
  unfold space room
  rw [wholePart_text]
  split <;> split <;> omega

theorem tail_text (f : FixedPoint) (n : Written) :
    ∃ digits, f.tail n.text = .ok (if 0 < f.room n.front then '.' :: digits else []) ∧
      digits.length = (max (f.room n.front - 1) 0).toNat ∧ (∀ c ∈ digits, isAsciiDigit c = true) ∧
      natural digits = halfUp (fractionOf n.fractionDigits) digits.length % 10 ^ digits.length := by
  have hspace := space_text f n
  unfold tail
  rw [hspace, fractionPart_text]
  by_cases hnone : f.room n.front ≤ 0
  · refine ⟨[], ?_, by simp; omega, by simp, by simp [natural, Nat.mod_one]⟩
    rw [if_pos (by omega), if_neg (by omega)]
  · by_cases hone : f.room n.front = 1
    · refine ⟨[], ?_, by simp; omega, by simp, by simp [natural, Nat.mod_one]⟩
      rw [if_neg (by omega), if_pos (by omega), if_pos (by omega)]
    · have hkeep : (f.room n.front).toNat - 1 ≤ f.fraction := by
        unfold room width radixWidth
        split <;> split <;> omega
      obtain ⟨digits, hround, hlength, hdigits, hnatural⟩ :=
        roundFraction_digits n.digits_of_mem_fraction hkeep
      refine ⟨digits, ?_, by omega, hdigits, by rw [hlength]; exact hnatural⟩
      rw [if_neg (by omega), if_neg (by omega), if_pos (by omega), hround]
      rfl

/-- The whole part is printed as it is, and behind it as many digits as there is room for: those of the fraction
rounded half up, without a carry out of the first of them.  What is printed is the number rounded half up, if
there is no such carry; with one it is the number without its fraction. -/
theorem format_rounds (f : FixedPoint) (n : Written) (hlong : 2 ≤ n.text.length) :
    let places := (max (f.room n.front - 1) 0).toNat
    let rounded := halfUp (fractionOf n.fractionDigits) places
    ∃ digits shown, f.format n.text = .ok shown ∧
      shown = (n.front ++ if 0 < f.room n.front then '.' :: digits else []).padLeft f.width ∧
      shown.length = max f.width n.front.length ∧
      digits.length = places ∧ (∀ c ∈ digits, isAsciiDigit c = true) ∧
      natural digits = rounded % 10 ^ places ∧
      (rounded < 10 ^ places →
        natural n.whole + fractionOf digits = halfUp (magnitude n) places / 10 ^ places) ∧
      (10 ^ places ≤ rounded →
        halfUp (magnitude n) places = (natural n.whole + 1) * 10 ^ places ∧ fractionOf digits = 0) := by
  intro places rounded
  obtain ⟨digits, htail, hlength, hdigits, hvalue⟩ := tail_text f n
  have hplaces : digits.length = places := hlength
  have hnatural : natural digits = rounded % 10 ^ places := by
    rw [hvalue, hplaces]
  have hsum : halfUp (magnitude n) places = natural n.whole * 10 ^ places + rounded :=
    halfUp_magnitude n places
  have hmost : rounded ≤ 10 ^ places := halfUp_fractionOf_le n.digits_of_mem_fraction places
  have hformat : f.format n.text =
      .ok ((n.front ++ if 0 < f.room n.front then '.' :: digits else []).padLeft f.width) := by
    rw [format_eq (by omega), htail, wholePart_text]
    rfl
  refine ⟨digits, _, hformat, rfl, ?_, hplaces, hdigits, hnatural, fun hlt => ?_, fun hcarry => ?_⟩
  · have hfits : f.room n.front ≤ f.width - n.front.length ∨ f.room n.front ≤ 0 := by
      unfold room width
      split <;> omega
    rw [Text.length_padLeft, List.length_append]
    split
    · rw [List.length_cons, hplaces]
      omega
    · simp [max_comm]
  · rw [hsum, fractionOf, hplaces, hnatural, Nat.mod_eq_of_lt hlt]
    push_cast
    field_simp
  · have hone : rounded = 10 ^ places := Nat.le_antisymm hmost hcarry
    refine ⟨?_, ?_⟩
    · rw [hsum, hone]
      ring
    · rw [fractionOf, hnatural, hone, Nat.mod_self, Nat.cast_zero, zero_div]

/-- A number whose fraction is rounded to the next whole number. -/
def almostThirteen : Written where
  negative := true
  whole := "12".toList
  fraction := some "996".toList
  whole_ne_nil := by decide
  whole_digits := List.all_eq_true.mp (by decide)
  fraction_digits := by
    intro digits hdigits
    obtain rfl := Option.some.inj hdigits
    exact List.all_eq_true.mp (by decide)

/-- A carry out of the fraction is dropped, and the sign takes a column of the whole part. -/
theorem format_rounds_carry :
    let f : FixedPoint := ⟨3, 2, true⟩
    let n := almostThirteen
    let places := (max (f.room n.front - 1) 0).toNat
    let rounded := halfUp (fractionOf n.fractionDigits) places
    n.text = "-12.996".toList ∧ 2 ≤ n.text.length ∧ f.format n.text = .ok "-12.00".toList ∧
    ∃ digits shown, f.format n.text = .ok shown ∧
      shown = (n.front ++ if 0 < f.room n.front then '.' :: digits else []).padLeft f.width ∧
      shown.length = max f.width n.front.length ∧
      digits.length = places ∧ (∀ c ∈ digits, isAsciiDigit c = true) ∧
      natural digits = rounded % 10 ^ places ∧
      (rounded < 10 ^ places →
        natural n.whole + fractionOf digits = halfUp (magnitude n) places / 10 ^ places) ∧
      (10 ^ places ≤ rounded →
        halfUp (magnitude n) places = (natural n.whole + 1) * 10 ^ places ∧ fractionOf digits = 0) := by
  intro f n places rounded
  exact ⟨by decide, by decide, by decide +kernel, format_rounds f n (by decide)⟩

end FixedPoint

end PictureReport
