import Mathlib.Algebra.Order.Field.Power
import PictureReport.Proofs.Picture.Rounding

/-!
# What the text of a decimal denotes

A decimal is written with a point where it belongs (`Decimal.written`) or with one digit before the point
and an exponent (`Decimal.scaled`).  Either way the text denotes the number that the decimal is, digit by
digit and without rounding (`Decimal.value_written`, `Decimal.value_scaled`), and the text with an exponent is
read as that decimal (`Decimal.parsed?_scaled`).  So a number whose text has an exponent is the same number when
a fixed-point field writes it out (`Value.shownPlain_denotes`), however far the point moves.
-/

namespace PictureReport

namespace Numeral

/-- The factor of a sign. -/
def sign (negative : Bool) : ℚ := if negative then -1 else 1

theorem ne_zero_of_sign (negative : Bool) : sign negative ≠ 0 := by
  cases negative <;> simp [sign]

/-- The number that digits with a point among them denote. -/
def Written.value (n : Written) : ℚ := sign n.negative * FixedPoint.magnitude n

/-- The digits before and behind the point, read as one number, are the number but for the point. -/
theorem Written.magnitude_eq (n : Written) :
    FixedPoint.magnitude n = natural (n.whole ++ n.fractionDigits) / 10 ^ n.fractionDigits.length := by
  have hpow : (10 : ℚ) ^ n.fractionDigits.length ≠ 0 := by positivity
  rw [FixedPoint.magnitude, FixedPoint.fractionOf, natural_append, eq_div_iff hpow, add_mul,
    div_mul_cancel₀ _ hpow]
  push_cast
  rfl

/-- A number with an exponent: digits with perhaps a point among them, and behind the letter the signed
power of ten by which they are scaled. -/
structure Scaled where
  front : Written
  /-- Is the exponent negative? -/
  down : Bool
  power : Text
  power_ne_nil : power ≠ []
  power_digits : ∀ c ∈ power, isAsciiDigit c = true

namespace Scaled

def text (m : Scaled) : Text := m.front.text ++ 'e' :: (if m.down then '-' else '+') :: m.power

def exponent (m : Scaled) : Int := negateIf m.down (natural m.power)

/-- The number that the text denotes: its front times the power of ten. -/
def value (m : Scaled) : ℚ := m.front.value * 10 ^ m.exponent

theorem letter_mem_text (m : Scaled) : 'e' ∈ m.text := by simp [text]

end Scaled

/-- The characters of a number without exponent: a minus sign, a point, digits of ASCII. -/
theorem Written.mem_text {n : Written} {c : Char} (hc : c ∈ n.text) :
    c = '-' ∨ c = '.' ∨ isAsciiDigit c = true := by
  unfold Written.text Written.front at hc
  rcases List.mem_append.mp hc with hc | hc
  · rcases List.mem_append.mp hc with hc | hc
    · split at hc
      · exact .inl (List.mem_singleton.mp hc)
      · exact absurd hc List.not_mem_nil
    · exact .inr (.inr (n.whole_digits c hc))
  · cases hfraction : n.fraction with
    | none => simp [hfraction] at hc
    | some digits =>
      rw [hfraction] at hc
      rcases List.mem_cons.mp hc with rfl | hc
      · exact .inr (.inl rfl)
      · exact .inr (.inr (n.fraction_digits digits hfraction c hc))

/-- A number without exponent has no letter. -/
theorem Written.letter_not_mem_text (n : Written) : 'e' ∉ n.text := by
  intro he
  rcases Written.mem_text he with he | he | he <;> exact absurd he (by decide)

/-- The characters of a number with an exponent: those of its front, the letter, signs, and digits of ASCII.
-/
theorem Scaled.mem_text {m : Scaled} {c : Char} (hc : c ∈ m.text) :
    c ∈ m.front.text ∨ c = 'e' ∨ c = '-' ∨ c = '+' ∨ isAsciiDigit c = true := by
  unfold Scaled.text at hc
  simp only [List.mem_append, List.mem_cons] at hc
  rcases hc with hc | hc | hc | hc
  · exact .inl hc
  · exact .inr (.inl hc)
  · split at hc
    · exact .inr (.inr (.inl hc))
    · exact .inr (.inr (.inr (.inl hc)))
  · exact .inr (.inr (.inr (.inr (m.power_digits c hc))))

/-! ## Reading a number with an exponent -/

/-- The decimal that a text writes behind its sign. -/
def parsed? (t : Text) : Option Decimal := decimal? (signed t).1 (signed t).2

/-- The digits at the front end at a character that is none. -/
theorem digits_append {digits : Text} (h : ∀ c ∈ digits, isAsciiDigit c = true) {c : Char}
    (hc : isAsciiDigit c = false) (rest : Text) :
    (digits ++ c :: rest).takeWhile isAsciiDigit = digits ∧
      (digits ++ c :: rest).dropWhile isAsciiDigit = c :: rest := by
  rw [List.takeWhile_append_of_pos h, List.dropWhile_append_of_pos h, List.takeWhile_cons_of_neg (by simp [hc]),
    List.dropWhile_cons_of_neg (by simp [hc]), List.append_nil]
  exact ⟨rfl, rfl⟩

namespace Scaled

variable (m : Scaled)

/-- The letter and what stands behind it. -/
def tail : Text := 'e' :: (if m.down then '-' else '+') :: m.power

theorem exponent?_tail : exponent? m.tail = some m.exponent := by
  have hdigits : (m.power.isEmpty || !m.power.all isAsciiDigit) = false := by
    rw [List.isEmpty_eq_false_iff.mpr m.power_ne_nil, List.all_eq_true.mpr m.power_digits]
    rfl
  have hsigned : signed ((if m.down then '-' else '+') :: m.power) = (m.down, m.power) := by
    cases m.down <;> rfl
  simp only [tail, exponent?, hsigned, hdigits, Bool.false_eq_true, if_false]
  rfl

theorem signed_text : signed m.text = (m.front.negative,
    m.front.whole ++ (m.front.fraction.elim [] ('.' :: ·) ++ m.tail)) := by
  have htext : m.text = (if m.front.negative then ['-'] else []) ++
      (m.front.whole ++ (m.front.fraction.elim [] ('.' :: ·) ++ m.tail)) := by
    unfold text tail Written.text Written.front
    cases m.front.fraction <;> simp
  rw [htext]
  cases m.front.negative with
  | true => rfl
  | false =>
    cases hwhole : m.front.whole with
    | nil => exact absurd hwhole m.front.whole_ne_nil
    | cons c rest =>
      have hc : isAsciiDigit c = true := m.front.whole_digits c (hwhole ▸ List.mem_cons_self)
      rw [if_neg Bool.false_ne_true, List.nil_append, List.cons_append, signed]
      · rintro others hminus
        cases hminus
        exact absurd hc (by decide)
      · rintro others hplus
        cases hplus
        exact absurd hc (by decide)

/-- A number with an exponent is read digit by digit: each digit behind the point lowers the exponent. -/
theorem parsed?_text : parsed? m.text =
    some ⟨m.front.negative, natural (m.front.whole ++ m.front.fractionDigits),
      m.exponent - m.front.fractionDigits.length⟩ := by
  have hletter : isAsciiDigit 'e' = false := by decide
  have hwhole : m.front.whole.isEmpty = false := List.isEmpty_eq_false_iff.mpr m.front.whole_ne_nil
  have hexponent := m.exponent?_tail
  rw [parsed?, signed_text, Written.fractionDigits]
  unfold tail at hexponent ⊢
  cases hfraction : m.front.fraction with
  | none =>
    obtain ⟨htake, hdrop⟩ :=
      digits_append m.front.whole_digits hletter ((if m.down then '-' else '+') :: m.power)
    rw [Option.elim_none, List.nil_append]
    simp only [decimal?, htake, hdrop, hwhole, Bool.false_and, Bool.false_eq_true, if_false]
    change (exponent? ('e' :: (if m.down then '-' else '+') :: m.power)).map _ = _
    rw [hexponent]
    rfl
  | some digits =>
    obtain ⟨htake, hdrop⟩ := digits_append m.front.whole_digits (by decide : isAsciiDigit '.' = false)
      (digits ++ 'e' :: (if m.down then '-' else '+') :: m.power)
    obtain ⟨htake', hdrop'⟩ := digits_append (m.front.fraction_digits digits hfraction) hletter
      ((if m.down then '-' else '+') :: m.power)
    rw [Option.elim_some, List.cons_append]
    simp only [decimal?, htake, hdrop, htake', hdrop', hwhole, Bool.false_and, Bool.false_eq_true, if_false,
      hexponent]
    rfl

end Scaled

/-! ## The digits of a number -/

theorem length_decimalDigits_pos (n : Nat) : 0 < (decimalDigits n).length :=
  List.length_pos_of_ne_nil (decimalDigits_ne_nil n)

theorem lt_pow_length (n : Nat) : n < 10 ^ (decimalDigits n).length := by
  have hlt := natural_lt (fun c (hc : c ∈ decimalDigits n) => isAsciiDigit_of_mem hc)
  rwa [natural_decimalDigits] at hlt

theorem length_decimalDigits_le {n k : Nat} (hk : 0 < k) (hlt : n < 10 ^ k) : (decimalDigits n).length ≤ k :=
  (Nat.length_toDigits_le_iff (by decide) hk).mpr hlt

/-- The first digit of a number `n` other than zero is no zero. -/
theorem pow_le_of_ne_zero {n : Nat} (hn : n ≠ 0) : 10 ^ ((decimalDigits n).length - 1) ≤ n := by
  by_contra hlt
  by_cases hone : (decimalDigits n).length = 1
  · rw [hone] at hlt
    omega
  · have hpos := length_decimalDigits_pos n
    have hlength := length_decimalDigits_le (by omega) (not_le.mp hlt)
    omega

theorem head_decimalDigits {n : Nat} (hn : n ≠ 0) : (decimalDigits n).head? ≠ some '0' := by
  intro hhead
  obtain ⟨rest, hrest⟩ := List.head?_eq_some_iff.mp hhead
  have hvalue := natural_decimalDigits n
  have hlow := pow_le_of_ne_zero hn
  have hdigits : ∀ c ∈ rest, isAsciiDigit c = true := fun c hc =>
    isAsciiDigit_of_mem (n := n) (hrest ▸ List.mem_cons_of_mem _ hc)
  have hhigh := natural_lt hdigits
  rw [hrest, natural_cons] at hvalue
  rw [hrest, List.length_cons, Nat.add_sub_cancel] at hlow
  simp only [Char.reduceToNat, Nat.sub_self, Nat.zero_mul, Nat.zero_add] at hvalue
  omega

end Numeral

namespace Decimal

open Numeral (Written Scaled natural isAsciiDigit isAsciiDigit_of_mem)

def magnitude (d : Decimal) : ℚ := d.coefficient * 10 ^ d.exponent

/-- The number that a decimal is. -/
def value (d : Decimal) : ℚ := Numeral.sign d.negative * d.magnitude

/-! ## The point among the digits -/

/-- How many digits stand behind the point. -/
def places (d : Decimal) : Nat := (-d.exponent).toNat

/-- The digits before the point. -/
def wholeDigits (d : Decimal) : Text :=
  if 0 ≤ d.exponent then
    decimalDigits d.coefficient ++ List.replicate (if d.coefficient = 0 then 0 else d.exponent.toNat) '0'
  else (splitDigits (decimalDigits d.coefficient) d.places).1

/-- The digits behind the point. -/
def fractionDigits (d : Decimal) : Text :=
  if 0 ≤ d.exponent then [] else (splitDigits (decimalDigits d.coefficient) d.places).2

theorem splitDigits_append (digits : Text) (places : Nat) :
    (splitDigits digits places).1 ++ (splitDigits digits places).2 =
      List.replicate (places + 1 - digits.length) '0' ++ digits :=
  List.take_append_drop _ _

/-- There is at least one digit before the point, and there are just so many behind it. -/
theorem splitDigits_lengths (digits : Text) (places : Nat) :
    0 < (splitDigits digits places).1.length ∧ (splitDigits digits places).2.length = places := by
  simp only [splitDigits, List.length_take, List.length_drop, List.length_append, List.length_replicate]
  omega

theorem append_digits_of_neg {d : Decimal} (h : d.exponent < 0) :
    d.wholeDigits ++ d.fractionDigits =
      List.replicate (d.places + 1 - (decimalDigits d.coefficient).length) '0' ++
        decimalDigits d.coefficient := by
  rw [wholeDigits, fractionDigits, if_neg (by omega), if_neg (by omega), splitDigits_append]

theorem digits_of_mem (d : Decimal) :
    ∀ c ∈ d.wholeDigits ++ d.fractionDigits, isAsciiDigit c = true := by
  have hzeros : ∀ count, ∀ c ∈ List.replicate count '0', isAsciiDigit c = true := by
    intro count c hc
    rw [List.eq_of_mem_replicate hc]
    decide
  intro c hc
  rcases lt_or_ge d.exponent 0 with hneg | hpos
  · rw [append_digits_of_neg hneg] at hc
    rcases List.mem_append.mp hc with hc | hc
    · exact hzeros _ c hc
    · exact isAsciiDigit_of_mem hc
  · rw [wholeDigits, fractionDigits, if_pos hpos, if_pos hpos, List.append_nil] at hc
    rcases List.mem_append.mp hc with hc | hc
    · exact isAsciiDigit_of_mem hc
    · exact hzeros _ c hc

theorem wholeDigits_ne_nil (d : Decimal) : d.wholeDigits ≠ [] := by
  unfold wholeDigits
  split
  · simp [Numeral.decimalDigits_ne_nil]
  · exact List.ne_nil_of_length_pos (splitDigits_lengths _ _).1

theorem length_fractionDigits (d : Decimal) : d.fractionDigits.length = d.places := by
  unfold fractionDigits
  split
  · rw [places, Int.toNat_of_nonpos (by omega)]
    rfl
  · exact (splitDigits_lengths _ _).2

/-- All digits together are the coefficient, with zeros for a power of ten that is not negative. -/
theorem natural_digits (d : Decimal) :
    natural (d.wholeDigits ++ d.fractionDigits) = d.coefficient * 10 ^ d.exponent.toNat := by
  rcases lt_or_ge d.exponent 0 with hneg | hpos
  · rw [append_digits_of_neg hneg, Numeral.natural_append, Numeral.natural_zeros,
      Numeral.natural_decimalDigits, Int.toNat_of_nonpos (by omega)]
    omega
  · rw [wholeDigits, fractionDigits, if_pos hpos, if_pos hpos, List.append_nil, Numeral.natural_append,
      Numeral.natural_zeros, Numeral.natural_decimalDigits, List.length_replicate]
    split
    · rename_i hzero
      rw [hzero]
      omega
    · rfl

/-- A zero stands in front of no other digit before the point. -/
theorem length_of_head_zero {d : Decimal} (h : d.wholeDigits.head? = some '0') :
    d.wholeDigits.length = 1 := by
  rcases lt_or_ge d.exponent 0 with hneg | hpos
  · have happend := append_digits_of_neg hneg
    have hlength := congrArg List.length happend
    have hfraction := d.length_fractionDigits
    have hdigits := Numeral.length_decimalDigits_pos d.coefficient
    simp only [List.length_append, List.length_replicate, hfraction] at hlength
    by_cases hwide : d.places + 1 ≤ (decimalDigits d.coefficient).length
    · -- no zeros are put in front, so the zero is the coefficient's first digit
      rw [Nat.sub_eq_zero_of_le hwide, List.replicate_zero, List.nil_append] at happend
      have hhead : (decimalDigits d.coefficient).head? = some '0' := by
        rw [← happend, List.head?_append, h, Option.some_or]
      have hzero : d.coefficient = 0 := by
        by_contra hne
        exact Numeral.head_decimalDigits hne hhead
      have hone : (decimalDigits d.coefficient).length = 1 := by rw [hzero]; rfl
      omega
    · omega
  · rw [wholeDigits, if_pos hpos] at h ⊢
    rw [List.head?_append_of_ne_nil _ (Numeral.decimalDigits_ne_nil _)] at h
    have hzero : d.coefficient = 0 := by
      by_contra hne
      exact Numeral.head_decimalDigits hne h
    rw [if_pos hzero, hzero]
    rfl

/-- The decimal with its point, and without point when nothing stands behind it. -/
def written (d : Decimal) : Written where
  negative := d.negative
  whole := d.wholeDigits
  fraction := if 0 ≤ d.exponent then none else some d.fractionDigits
  whole_ne_nil := d.wholeDigits_ne_nil
  whole_digits := fun c hc => d.digits_of_mem c (List.mem_append_left _ hc)
  fraction_digits := by
    intro digits hdigits c hc
    split at hdigits
    · exact absurd hdigits (Option.not_mem_none _)
    · rw [Option.mem_some_iff] at hdigits
      exact d.digits_of_mem c (List.mem_append_right _ (hdigits ▸ hc))

theorem fractionDigits_written (d : Decimal) : d.written.fractionDigits = d.fractionDigits := by
  unfold Written.fractionDigits written
  by_cases h : 0 ≤ d.exponent <;> simp [h, fractionDigits]

theorem text_written (d : Decimal) : d.positional = d.written.text := by
  unfold positional Written.text Written.front written wholeDigits fractionDigits sign places
  by_cases h : 0 ≤ d.exponent <;> simp [h]

/-- The power of ten is what the zeros behind the digits and the places behind the point make of it. -/
theorem zpow_exponent (d : Decimal) : (10 : ℚ) ^ d.exponent = 10 ^ d.exponent.toNat / 10 ^ d.places := by
  rw [← zpow_natCast, ← zpow_natCast, ← zpow_sub₀ (by norm_num : (10 : ℚ) ≠ 0), places]
  congr 1
  omega

theorem magnitude_of_digits {d : Decimal} {n : Written} (hwhole : n.whole = d.wholeDigits)
    (hfraction : n.fractionDigits = d.fractionDigits) :
    FixedPoint.magnitude n = d.magnitude := by
  rw [magnitude, Written.magnitude_eq, hwhole, hfraction, natural_digits, length_fractionDigits,
    zpow_exponent]
  push_cast
  ring

/-- The numeral `written` without exponent denotes the decimal. -/
theorem value_written (d : Decimal) : d.written.value = d.value := by
  rw [Written.value, magnitude_of_digits (d := d) rfl d.fractionDigits_written]
  rfl

/-! ## One digit before the point -/

/-- The digits of the coefficient with a point behind the first. -/
def scaledFront (d : Decimal) : Written where
  negative := d.negative
  whole := (decimalDigits d.coefficient).take 1
  fraction :=
    if (decimalDigits d.coefficient).tail.isEmpty then none else some (decimalDigits d.coefficient).tail
  whole_ne_nil := by simp [Numeral.decimalDigits_ne_nil]
  whole_digits := fun c hc => isAsciiDigit_of_mem (List.mem_of_mem_take hc)
  fraction_digits := by
    intro digits hdigits c hc
    split at hdigits
    · exact absurd hdigits (Option.not_mem_none _)
    · rw [Option.mem_some_iff] at hdigits
      exact isAsciiDigit_of_mem (List.mem_of_mem_tail (hdigits ▸ hc))

/-- The decimal with an exponent, which has as many digits as the style wants at least. -/
def scaled (style : Style) (d : Decimal) : Scaled where
  front := d.scaledFront
  down := decide (d.leading < 0)
  power := List.replicate (style.exponentDigits - (decimalDigits d.leading.natAbs).length) '0' ++
    decimalDigits d.leading.natAbs
  power_ne_nil := by simp [Numeral.decimalDigits_ne_nil]
  power_digits := by
    intro c hc
    rcases List.mem_append.mp hc with hc | hc
    · rw [List.eq_of_mem_replicate hc]
      decide
    · exact isAsciiDigit_of_mem hc

theorem fractionDigits_scaledFront (d : Decimal) :
    d.scaledFront.fractionDigits = (decimalDigits d.coefficient).tail := by
  unfold Written.fractionDigits scaledFront
  by_cases h : (decimalDigits d.coefficient).tail = [] <;> simp [h]

theorem text_scaledFront (d : Decimal) :
    d.scaledFront.text = d.sign ++ (decimalDigits d.coefficient).take 1 ++
      (if (decimalDigits d.coefficient).tail.isEmpty then []
        else '.' :: (decimalDigits d.coefficient).tail) := by
  unfold Written.text Written.front scaledFront sign
  by_cases h : (decimalDigits d.coefficient).tail = [] <;> simp [h]

theorem text_scaled {style : Style} (hplus : style.plus = true) (d : Decimal) :
    d.scientific style = (d.scaled style).text := by
  have hpower : exponentText style d.leading =
      (if (d.scaled style).down then '-' else '+') :: (d.scaled style).power := by
    unfold exponentText scaled
    by_cases hdown : d.leading < 0 <;> simp [hdown, hplus]
  rw [Scaled.text, ← hpower, show (d.scaled style).front = d.scaledFront from rfl, text_scaledFront,
    scientific]
  cases hdigits : decimalDigits d.coefficient with
  | nil => exact absurd hdigits (Numeral.decimalDigits_ne_nil _)
  | cons first rest => simp

theorem exponent_scaled (style : Style) (d : Decimal) : (d.scaled style).exponent = d.leading := by
  unfold Scaled.exponent scaled
  simp only [Numeral.natural_append, Numeral.natural_zeros, Numeral.natural_decimalDigits,
    Numeral.negateIf, decide_eq_true_eq]
  split <;> omega

theorem digits_scaledFront (d : Decimal) :
    d.scaledFront.whole ++ d.scaledFront.fractionDigits = decimalDigits d.coefficient := by
  have hwhole : d.scaledFront.whole = (decimalDigits d.coefficient).take 1 := rfl
  rw [hwhole, fractionDigits_scaledFront, ← List.drop_one, List.take_append_drop]

/-- The power of ten of the first digit is as many higher as digits stand behind the point. -/
theorem leading_eq_length (d : Decimal) :
    d.leading = (d.scaledFront.fractionDigits.length : Int) + d.exponent := by
  have hpos := Numeral.length_decimalDigits_pos d.coefficient
  rw [fractionDigits_scaledFront, List.length_tail, leading]
  omega

/-- The numeral `scaled` with an exponent denotes the decimal. -/
theorem value_scaled (style : Style) (d : Decimal) : (d.scaled style).value = d.value := by
  have hfront : FixedPoint.magnitude d.scaledFront =
      d.coefficient / 10 ^ d.scaledFront.fractionDigits.length := by
    rw [Written.magnitude_eq, digits_scaledFront, Numeral.natural_decimalDigits]
  have hpow : (10 : ℚ) ^ d.scaledFront.fractionDigits.length ≠ 0 := by positivity
  calc (d.scaled style).value
      = Numeral.sign d.negative * FixedPoint.magnitude d.scaledFront * 10 ^ d.leading := by
        rw [Scaled.value, exponent_scaled]
        rfl
    _ = Numeral.sign d.negative * d.magnitude := by
        rw [magnitude, hfront, leading_eq_length, zpow_add₀ (by norm_num : (10 : ℚ) ≠ 0), zpow_natCast]
        field_simp

/-- Read as it is written, the numeral `scaled` with an exponent is the decimal again, digit by digit. -/
theorem parsed?_scaled (style : Style) (d : Decimal) : Numeral.parsed? (d.scaled style).text = some d := by
  have hfront : (d.scaled style).front = d.scaledFront := rfl
  have hexponent : d.leading - (d.scaledFront.fractionDigits.length : Int) = d.exponent := by
    rw [leading_eq_length]
    omega
  rw [Scaled.parsed?_text, exponent_scaled, hfront, hexponent, digits_scaledFront, Numeral.natural_decimalDigits]
  rfl

/-! ## A decimal as text -/

/-- The decimal with its point, and a zero behind the point when nothing else stands there. -/
def pointed (d : Decimal) : Written where
  negative := d.negative
  whole := d.wholeDigits
  fraction := some (if 0 ≤ d.exponent then ['0'] else d.fractionDigits)
  whole_ne_nil := d.wholeDigits_ne_nil
  whole_digits := fun c hc => d.digits_of_mem c (List.mem_append_left _ hc)
  fraction_digits := by
    intro digits hdigits c hc
    rw [Option.mem_some_iff] at hdigits
    subst hdigits
    split at hc
    · rw [List.mem_singleton.mp hc]
      decide
    · exact d.digits_of_mem c (List.mem_append_right _ hc)

/-- The zero behind the point does not change the number. -/
theorem value_pointed (d : Decimal) : d.pointed.value = d.value := by
  by_cases h : 0 ≤ d.exponent
  · have hfraction : d.pointed.fractionDigits = ['0'] := by simp [Written.fractionDigits, pointed, h]
    have hzero : FixedPoint.fractionOf ['0'] = 0 := by simp [FixedPoint.fractionOf, natural]
    have hnone : FixedPoint.fractionOf d.fractionDigits = 0 := by
      simp [FixedPoint.fractionOf, fractionDigits, h, natural]
    rw [← value_written, Written.value, Written.value, FixedPoint.magnitude, FixedPoint.magnitude, hfraction,
      fractionDigits_written, hzero, hnone]
    rfl
  · rw [Written.value, magnitude_of_digits (d := d) rfl (by simp [Written.fractionDigits, pointed, h])]
    rfl

/-- The text of a number is `scaled` if the number is not zero and outside the range of the style, and else
`pointed`. -/
theorem text_eq {style : Style} (hplus : style.plus = true) (d : Decimal) :
    d.text style = if d.coefficient ≠ 0 ∧ d.needsExponent style then (d.scaled style).text
      else d.pointed.text := by
  unfold text
  split
  · exact text_scaled hplus d
  · unfold positional Written.text Written.front pointed wholeDigits fractionDigits sign places
    by_cases h : 0 ≤ d.exponent <;> simp [h]

end Decimal

/-! ## Numbers written out -/

open Numeral (Written Scaled)

theorem Value.shown_finite (negative : Bool) (mantissa : Nat) (exponent : Int) :
    (Value.float (.finite negative mantissa exponent)).shown =
      (Binary64.shortest negative mantissa exponent).text shownNumber := rfl

theorem Value.shownPlain_finite (negative : Bool) (mantissa : Nat) (exponent : Int) :
    (Value.float (.finite negative mantissa exponent)).shownPlain =
      if (Binary64.shortest negative mantissa exponent).coefficient ≠ 0 ∧
          (Binary64.shortest negative mantissa exponent).needsExponent shownNumber then
        (Binary64.shortest negative mantissa exponent).positional
      else (Binary64.shortest negative mantissa exponent).text shownNumber := rfl

/-- A text with an exponent is read as a decimal, and a fixed-point field is given that decimal `written` with
the point where it belongs. -/
theorem Value.shownPlain_parsed {negative : Bool} {mantissa : Nat} {exponent : Int}
    (hletter : 'e' ∈ (Value.float (.finite negative mantissa exponent)).shown) :
    ∃ d, Numeral.parsed? (Value.float (.finite negative mantissa exponent)).shown = some d ∧
      (Value.float (.finite negative mantissa exponent)).shownPlain = d.positional := by
  rw [shown_finite, Decimal.text_eq rfl] at hletter ⊢
  rw [shownPlain_finite]
  split at hletter
  · rename_i hexp
    rw [if_pos hexp, if_pos hexp]
    exact ⟨_, Decimal.parsed?_scaled shownNumber _, rfl⟩
  · exact absurd hletter (Written.letter_not_mem_text _)

/-- A fixed-point field is given a finite number as digits with at most one point among them.  If the text
of the number has an exponent, they have its sign and denote the number that the text denotes; a text without
exponent stays. -/
theorem Value.shownPlain_denotes (negative : Bool) (mantissa : Nat) (exponent : Int) :
    ('e' ∈ (Value.float (.finite negative mantissa exponent)).shown →
      ∃ (m : Scaled) (n : Written), (Value.float (.finite negative mantissa exponent)).shown = m.text ∧
        (Value.float (.finite negative mantissa exponent)).shownPlain = n.text ∧
        n.negative = m.front.negative ∧ n.value = m.value) ∧
    ('e' ∉ (Value.float (.finite negative mantissa exponent)).shown →
      (Value.float (.finite negative mantissa exponent)).shownPlain =
        (Value.float (.finite negative mantissa exponent)).shown) := by
  rw [shown_finite, shownPlain_finite]
  generalize Binary64.shortest negative mantissa exponent = d
  rw [Decimal.text_eq rfl]
  by_cases hexp : d.coefficient ≠ 0 ∧ d.needsExponent shownNumber
  · rw [if_pos hexp, if_pos hexp]
    refine ⟨fun _ => ⟨d.scaled shownNumber, d.written, rfl, d.text_written, rfl, ?_⟩,
      fun hletter => absurd (Scaled.letter_mem_text _) hletter⟩
    rw [Decimal.value_written, Decimal.value_scaled]
  · rw [if_neg hexp, if_neg hexp]
    exact ⟨fun hletter => absurd hletter (Written.letter_not_mem_text _), fun _ => rfl⟩

/-- The point moves to the left of the digits, behind the sign and a zero. -/
theorem Value.shownPlain_denotes_tiny :
    'e' ∈ "-1e-05".toList ∧
      ∃ (m : Scaled) (n : Written), "-1e-05".toList = m.text ∧ "-0.00001".toList = n.text ∧
        n.negative = m.front.negative ∧ n.value = m.value := by
  have hshown : (Value.float (.finite true 5902958103587057 (-69))).shown = "-1e-05".toList := by
    decide +kernel
  have hplain : (Value.float (.finite true 5902958103587057 (-69))).shownPlain = "-0.00001".toList := by
    decide +kernel
  have hletter : 'e' ∈ "-1e-05".toList := by decide
  obtain ⟨m, n, hm, hn, hnegative, hvalue⟩ :=
    (shownPlain_denotes true 5902958103587057 (-69)).1 (by rw [hshown]; exact hletter)
  exact ⟨hletter, m, n, hshown.symm.trans hm, hplain.symm.trans hn, hnegative, hvalue⟩

end PictureReport
