import Mathlib.Data.Int.Log
import PictureReport.Number.Binary64
import PictureReport.Proofs.Numerals.Decimals

/-!
# The nearest double-precision number

Rounding is computed with natural numbers, but what comes out depends on the sign and on the number alone
(`Binary64.ofRatio_congr`, `Binary64.ofDecimal_congr`): the power of two that scales it is the logarithm of
the ratio, and rounding a ratio to a natural number does not see how the ratio is written.  A number with 53
binary digits is its own nearest one, so the shortest decimal of a finite number is read as that number
(`Binary64.ofDecimal_shortest`): the decimals are tried until one does, and the last of them is exact.
-/

namespace PictureReport

/-! ## Ratios of natural numbers -/

section Ratio

variable {num den num' den' : Nat}

theorem roundHalfEven_mul_left {k : Nat} (hk : 0 < k) (num den : Nat) :
    roundHalfEven (k * num) (k * den) = roundHalfEven num den := by
  have hlt : ∀ a b, k * a < k * b ↔ a < b := fun a b => Nat.mul_lt_mul_left hk
  simp only [roundHalfEven, Nat.mul_div_mul_left _ _ hk, Nat.mul_mod_mul_left, Nat.mul_left_comm 2 k, hlt]

theorem roundHalfEven_congr (hden : 0 < den) (hden' : 0 < den') (h : (num : ℚ) / den = num' / den') :
    roundHalfEven num den = roundHalfEven num' den' := by
  have hcross : num * den' = num' * den := by
    have hq : (den : ℚ) ≠ 0 := by positivity
    have hq' : (den' : ℚ) ≠ 0 := by positivity
    rw [div_eq_div_iff hq hq'] at h
    exact_mod_cast h
  calc roundHalfEven num den
      = roundHalfEven (den' * num) (den' * den) := (roundHalfEven_mul_left hden' num den).symm
    _ = roundHalfEven (den * num') (den * den') := by
        rw [Nat.mul_comm den' num, hcross, Nat.mul_comm num' den, Nat.mul_comm den' den]
    _ = roundHalfEven num' den' := roundHalfEven_mul_left hden num' den'

theorem roundHalfEven_whole (hden : 0 < den) (n : Nat) : roundHalfEven (n * den) den = n := by
  simp [roundHalfEven, Nat.mul_div_cancel _ hden, hden]

/-- What `overPower` gives is the ratio over the power. -/
theorem overPower_ratio {base : Nat} (hbase : 0 < base) (hden : 0 < den) (num : Nat) (power : Int) :
    0 < (overPower base num den power).2 ∧
      ((overPower base num den power).1 : ℚ) / (overPower base num den power).2 =
        num / den / (base : ℚ) ^ power := by
  have hq : (base : ℚ) ≠ 0 := by positivity
  have hd : (den : ℚ) ≠ 0 := by positivity
  unfold overPower
  by_cases hpower : 0 ≤ power
  · obtain ⟨k, rfl⟩ := Int.eq_ofNat_of_zero_le hpower
    rw [if_pos hpower]
    refine ⟨Nat.mul_pos hden (Nat.pow_pos hbase), ?_⟩
    simp only [Nat.pow_eq, Int.toNat_natCast, Nat.cast_mul, Nat.cast_pow, zpow_natCast, div_div]
  · obtain ⟨k, rfl⟩ : ∃ k : Nat, power = -(k : Int) := ⟨(-power).toNat, by omega⟩
    rw [if_neg hpower]
    refine ⟨hden, ?_⟩
    simp only [Nat.pow_eq, neg_neg, Int.toNat_natCast, Nat.cast_mul, Nat.cast_pow, zpow_neg, zpow_natCast]
    field_simp

/-- A logarithm is determined by the powers that enclose the number. -/
theorem log_eq {base : Nat} (hbase : 1 < base) {r : ℚ} {power : Int} (hlow : (base : ℚ) ^ power ≤ r)
    (hhigh : r < (base : ℚ) ^ (power + 1)) : Int.log base r = power := by
  have hr : 0 < r := lt_of_lt_of_le (zpow_pos (by positivity) _) hlow
  have hle := (Int.zpow_le_iff_le_log hbase hr).mp hlow
  have hlt := (Int.lt_zpow_iff_log_lt hbase hr).mp hhigh
  omega

end Ratio

namespace Binary64

variable {num den num' den' : Nat} {negative : Bool} {mantissa : Nat} {exponent : Int}

/-! ## The power of two of a ratio -/

/-- The quotient of two numbers is within one binary digit of the quotient of their leading powers. -/
theorem ratio_between (hnum : num ≠ 0) (hden : den ≠ 0) :
    (2 : ℚ) ^ ((num.log2 : Int) - den.log2 - 1) < num / den ∧
      (num : ℚ) / den < 2 ^ ((num.log2 : Int) - den.log2 + 1) := by
  have hnumLow : (2 : ℚ) ^ (num.log2 : Int) ≤ num := by exact_mod_cast Nat.log2_self_le hnum
  have hnumHigh : (num : ℚ) < 2 ^ ((num.log2 : Int) + 1) := by exact_mod_cast Nat.lt_log2_self (n := num)
  have hdenLow : (2 : ℚ) ^ (den.log2 : Int) ≤ den := by exact_mod_cast Nat.log2_self_le hden
  have hdenHigh : (den : ℚ) < 2 ^ ((den.log2 : Int) + 1) := by exact_mod_cast Nat.lt_log2_self (n := den)
  have hpos : (0 : ℚ) < den := by exact_mod_cast Nat.pos_of_ne_zero hden
  have htwo : (2 : ℚ) ≠ 0 := by norm_num
  constructor
  · rw [lt_div_iff₀ hpos]
    calc (2 : ℚ) ^ ((num.log2 : Int) - den.log2 - 1) * den
        < 2 ^ ((num.log2 : Int) - den.log2 - 1) * 2 ^ ((den.log2 : Int) + 1) := by gcongr
      _ = 2 ^ (num.log2 : Int) := by
        rw [← zpow_add₀ htwo]
        congr 1
        ring
      _ ≤ num := hnumLow
  · rw [div_lt_iff₀ hpos]
    calc (num : ℚ) < 2 ^ ((num.log2 : Int) + 1) := hnumHigh
      _ = 2 ^ ((num.log2 : Int) - den.log2 + 1) * 2 ^ (den.log2 : Int) := by
        rw [← zpow_add₀ htwo]
        congr 1
        ring
      _ ≤ 2 ^ ((num.log2 : Int) - den.log2 + 1) * den := by gcongr

theorem leadingBit_eq_log (hnum : num ≠ 0) (hden : den ≠ 0) :
    leadingBit num den = Int.log 2 ((num : ℚ) / den) := by
  obtain ⟨hlow, hhigh⟩ := ratio_between hnum hden
  obtain ⟨hpos, hratio⟩ := overPower_ratio (by norm_num : 0 < 2) (Nat.pos_of_ne_zero hden) num
    ((num.log2 : Int) - den.log2)
  have hpow : (0 : ℚ) < 2 ^ ((num.log2 : Int) - den.log2) := by positivity
  have hiff : (overPower 2 num den ((num.log2 : Int) - den.log2)).2 ≤
      (overPower 2 num den ((num.log2 : Int) - den.log2)).1 ↔
      (2 : ℚ) ^ ((num.log2 : Int) - den.log2) ≤ num / den := by
    have hposq : (0 : ℚ) < (overPower 2 num den ((num.log2 : Int) - den.log2)).2 := by exact_mod_cast hpos
    rw [← one_le_div₀ hpow, show ((2 : ℚ)) = ((2 : Nat) : ℚ) by norm_num, ← hratio, one_le_div₀ hposq,
      Nat.cast_le]
  unfold leadingBit
  dsimp only
  split
  · rename_i h
    exact (log_eq (by norm_num) (by exact_mod_cast hiff.mp h) (by exact_mod_cast hhigh)).symm
  · rename_i h
    refine (log_eq (by norm_num) (by exact_mod_cast hlow.le) ?_).symm
    rw [sub_add_cancel]
    exact_mod_cast not_le.mp (fun hle => h (hiff.mpr hle))

/-! ## Rounding sees the number alone -/

/-- The number nearest to a ratio does not depend on how the ratio is written: `ofRatio` sees its value alone.
-/
theorem ofRatio_congr (hden : 0 < den) (hden' : 0 < den') (h : (num : ℚ) / den = num' / den')
    (negative : Bool) : ofRatio negative num den = ofRatio negative num' den' := by
  have hq : (den : ℚ) ≠ 0 := by positivity
  have hq' : (den' : ℚ) ≠ 0 := by positivity
  by_cases hnum : num = 0
  · have hnum' : num' = 0 := by
      rw [hnum, Nat.cast_zero, zero_div, eq_comm, div_eq_zero_iff, or_iff_left hq', Nat.cast_eq_zero] at h
      exact h
    rw [hnum, hnum', ofRatio, ofRatio]
    rfl
  · have hnum' : num' ≠ 0 := by
      rintro rfl
      rw [Nat.cast_zero, zero_div, div_eq_zero_iff, or_iff_left hq, Nat.cast_eq_zero] at h
      exact hnum h
    have hbit : leadingBit num den = leadingBit num' den' := by
      rw [leadingBit_eq_log hnum (by omega), leadingBit_eq_log hnum' (by omega), h]
    have hround : ∀ power, roundHalfEven (overPower 2 num den power).1 (overPower 2 num den power).2 =
        roundHalfEven (overPower 2 num' den' power).1 (overPower 2 num' den' power).2 := by
      intro power
      obtain ⟨hpos, hratio⟩ := overPower_ratio (by norm_num : 0 < 2) hden num power
      obtain ⟨hpos', hratio'⟩ := overPower_ratio (by norm_num : 0 < 2) hden' num' power
      exact roundHalfEven_congr hpos hpos' (by rw [hratio, hratio', h])
    simp only [ofRatio, if_neg hnum, if_neg hnum', hbit, hround]

/-- The first digit of a decimal that is not zero has the power that is its logarithm. -/
theorem leading_eq_log {d : Decimal} (h : d.coefficient ≠ 0) : d.leading = Int.log 10 d.magnitude := by
  have hpow : (0 : ℚ) < 10 ^ d.exponent := by positivity
  have hten : (10 : ℚ) ≠ 0 := by norm_num
  have hpos := Numeral.length_decimalDigits_pos d.coefficient
  have hlow : (10 : ℚ) ^ (((decimalDigits d.coefficient).length : Int) - 1) ≤ d.coefficient := by
    rw [show ((decimalDigits d.coefficient).length : Int) - 1 =
      (((decimalDigits d.coefficient).length - 1 : Nat) : Int) by omega, zpow_natCast]
    exact_mod_cast Numeral.pow_le_of_ne_zero h
  have hhigh : (d.coefficient : ℚ) < 10 ^ ((decimalDigits d.coefficient).length : Int) := by
    rw [zpow_natCast]
    exact_mod_cast Numeral.lt_pow_length d.coefficient
  refine (log_eq (by norm_num) ?_ ?_).symm
  · rw [Decimal.leading, Nat.cast_ofNat, zpow_add₀ hten, Decimal.magnitude]
    gcongr
  · rw [Decimal.leading, Nat.cast_ofNat,
      show ((decimalDigits d.coefficient).length : Int) - 1 + d.exponent + 1 =
        (decimalDigits d.coefficient).length + d.exponent by ring, zpow_add₀ hten, Decimal.magnitude]
    gcongr

theorem magnitude_eq_zero {d : Decimal} : d.magnitude = 0 ↔ d.coefficient = 0 := by
  have hpow : (10 : ℚ) ^ d.exponent ≠ 0 := by positivity
  rw [Decimal.magnitude, mul_eq_zero, or_iff_left hpow, Nat.cast_eq_zero]

/-- Within its range a decimal is read as a ratio that is its magnitude. -/
theorem ofDecimal_eq_ofRatio {d : Decimal} (h : d.coefficient ≠ 0) (hhigh : d.leading < 310)
    (hlow : -400 ≤ d.leading) :
    ∃ num den : Nat, 0 < den ∧ (num : ℚ) / den = d.magnitude ∧ ofDecimal d = ofRatio d.negative num den := by
  unfold ofDecimal
  rw [if_neg h, if_neg (by omega), if_neg (by omega)]
  by_cases hexp : 0 ≤ d.exponent
  · refine ⟨_, 1, Nat.one_pos, ?_, if_pos hexp⟩
    rw [Decimal.magnitude, Nat.cast_one, div_one, Nat.cast_mul, Nat.pow_eq, Nat.cast_pow, Nat.cast_ofNat,
      ← zpow_natCast, Int.toNat_of_nonneg hexp]
  · refine ⟨d.coefficient, _, Nat.pow_pos (by norm_num), ?_, if_neg hexp⟩
    rw [Decimal.magnitude, Nat.cast_pow, Nat.cast_ofNat, ← zpow_natCast, Int.toNat_of_nonneg (by omega),
      zpow_neg, div_inv_eq_mul]

/-- The number nearest to a decimal does not depend on how the decimal is written: `ofDecimal` sees its sign
and its value alone. -/
theorem ofDecimal_congr {d d' : Decimal} (hnegative : d.negative = d'.negative)
    (hmagnitude : d.magnitude = d'.magnitude) : ofDecimal d = ofDecimal d' := by
  by_cases hzero : d.coefficient = 0
  · have hzero' : d'.coefficient = 0 := by
      rw [← magnitude_eq_zero, ← hmagnitude, magnitude_eq_zero]
      exact hzero
    rw [ofDecimal, ofDecimal, if_pos hzero, if_pos hzero', hnegative]
  · have hzero' : d'.coefficient ≠ 0 := by
      rw [ne_eq, ← magnitude_eq_zero, ← hmagnitude, magnitude_eq_zero]
      exact hzero
    have hleading : d.leading = d'.leading := by
      rw [leading_eq_log hzero, leading_eq_log hzero', hmagnitude]
    by_cases hhigh : 310 ≤ d'.leading
    · rw [ofDecimal, ofDecimal, hleading, if_neg hzero, if_neg hzero', if_pos hhigh, if_pos hhigh, hnegative]
    · by_cases hlow : d'.leading < -400
      · rw [ofDecimal, ofDecimal, hleading, if_neg hzero, if_neg hzero', if_neg hhigh, if_neg hhigh,
          if_pos hlow, if_pos hlow, hnegative]
      · obtain ⟨num, den, hden, hratio, heq⟩ := ofDecimal_eq_ofRatio hzero (by omega) (by omega)
        obtain ⟨num', den', hden', hratio', heq'⟩ := ofDecimal_eq_ofRatio hzero' (by omega) (by omega)
        rw [heq, heq', hnegative]
        exact ofRatio_congr hden hden' (by rw [hratio, hratio', hmagnitude]) _

/-! ## Finite numbers are their own nearest ones -/

/-- The mantissas and exponents of finite numbers: all 53 binary digits are used unless the exponent is the
least one. -/
structure IsCanonical (mantissa : Nat) (exponent : Int) : Prop where
  mantissa_lt : mantissa < mantissaBound
  full : mantissaBound / 2 ≤ mantissa ∨ exponent = leastExponent
  least_le : leastExponent ≤ exponent
  le_greatest : exponent ≤ greatestExponent

/-- The exponent that a number is rounded with is its own. -/
theorem IsCanonical.exponent_eq (h : IsCanonical mantissa exponent) (hmantissa : mantissa ≠ 0) :
    max (Int.log 2 ((mantissa : ℚ) * 2 ^ exponent) - 52) leastExponent = exponent := by
  have htwo : (2 : ℚ) ≠ 0 := by norm_num
  have hhigh : (mantissa : ℚ) * 2 ^ exponent < 2 ^ (53 + exponent) := by
    rw [zpow_add₀ htwo]
    gcongr
    exact_mod_cast h.mantissa_lt
  rcases h.full with hfull | hleast
  · have hlow : (2 : ℚ) ^ (52 + exponent) ≤ mantissa * 2 ^ exponent := by
      rw [zpow_add₀ htwo]
      gcongr
      exact_mod_cast hfull
    have hlog : Int.log 2 ((mantissa : ℚ) * 2 ^ exponent) = 52 + exponent := by
      refine log_eq (by norm_num) (by exact_mod_cast hlow) ?_
      rw [show 52 + exponent + 1 = 53 + exponent by ring]
      exact_mod_cast hhigh
    have hleast := h.least_le
    rw [hlog]
    omega
  · have hpos : (0 : ℚ) < mantissa * 2 ^ exponent := by
      have hone : (0 : ℚ) < mantissa := by exact_mod_cast Nat.pos_of_ne_zero hmantissa
      positivity
    have hlog : Int.log 2 ((mantissa : ℚ) * 2 ^ exponent) < 53 + exponent :=
      (Int.lt_zpow_iff_log_lt (by norm_num) hpos).mp (by exact_mod_cast hhigh)
    omega

theorem ofRatio_of_isCanonical (h : IsCanonical mantissa exponent) (hmantissa : mantissa ≠ 0)
    (hden : 0 < den) (hratio : (num : ℚ) / den = mantissa * 2 ^ exponent) (negative : Bool) :
    ofRatio negative num den = finite negative mantissa exponent := by
  have hnum : num ≠ 0 := by
    rintro rfl
    have hpow : (2 : ℚ) ^ exponent ≠ 0 := by positivity
    rw [Nat.cast_zero, zero_div, eq_comm, mul_eq_zero, or_iff_left hpow, Nat.cast_eq_zero] at hratio
    exact hmantissa hratio
  have hexponent : max (leadingBit num den - 52) leastExponent = exponent := by
    rw [leadingBit_eq_log hnum (by omega), hratio, h.exponent_eq hmantissa]
  have hround : roundHalfEven (overPower 2 num den exponent).1 (overPower 2 num den exponent).2 =
      mantissa := by
    obtain ⟨hpos, hover⟩ := overPower_ratio (by norm_num : 0 < 2) hden num exponent
    have hpow : (2 : ℚ) ^ exponent ≠ 0 := by positivity
    rw [← roundHalfEven_whole Nat.one_pos mantissa]
    refine roundHalfEven_congr hpos Nat.one_pos ?_
    rw [hover, hratio, Nat.cast_ofNat, mul_div_cancel_right₀ _ hpow]
    simp
  simp only [ofRatio, if_neg hnum, hexponent, hround, if_neg h.mantissa_lt.ne, if_neg h.le_greatest.not_gt]

/-! ## What is read is a finite number of 64 bits -/

theorem le_roundHalfEven (num den : Nat) : num / den ≤ roundHalfEven num den := by
  unfold roundHalfEven
  dsimp only
  split_ifs <;> omega

theorem roundHalfEven_le (num den : Nat) : roundHalfEven num den ≤ num / den + 1 := by
  unfold roundHalfEven
  dsimp only
  split_ifs <;> omega

/-- Scaled so that 53 digits stand before the point, a ratio is rounded to at most `mantissaBound`, and to
half of it at least unless the exponent is the least one. -/
theorem scaled_bounds (hnum : num ≠ 0) (hden : 0 < den) :
    let power := max (leadingBit num den - 52) leastExponent
    let mantissa := roundHalfEven (overPower 2 num den power).1 (overPower 2 num den power).2
    mantissa ≤ mantissaBound ∧ (mantissaBound / 2 ≤ mantissa ∨ power = leastExponent) := by
  intro power mantissa
  obtain ⟨hpos, hratio⟩ := overPower_ratio (by norm_num : 0 < 2) hden num power
  have hposq : (0 : ℚ) < (overPower 2 num den power).2 := by exact_mod_cast hpos
  have hnumq : (0 : ℚ) < num := by exact_mod_cast Nat.pos_of_ne_zero hnum
  have hdenq : (0 : ℚ) < den := by exact_mod_cast hden
  have hr : (0 : ℚ) < num / den := by positivity
  have htwo : (2 : ℚ) ≠ 0 := by norm_num
  have hpow : (0 : ℚ) < 2 ^ power := by positivity
  rw [Nat.cast_ofNat] at hratio
  have hlog := leadingBit_eq_log hnum hden.ne'
  have hpower : leadingBit num den - 52 ≤ power := le_max_left _ _
  -- both bounds come from the logarithm: it says between which powers of two the scaled ratio lies
  constructor
  · have hbelow : (num : ℚ) / den < ((2 : Nat) : ℚ) ^ (53 + power) :=
      (Int.lt_zpow_iff_log_lt (by norm_num) hr).mpr (by omega)
    have hhigh : (num : ℚ) / den < 2 ^ (53 + power) := by exact_mod_cast hbelow
    have hlt : (overPower 2 num den power).1 < mantissaBound * (overPower 2 num den power).2 := by
      have hscaled : ((overPower 2 num den power).1 : ℚ) / (overPower 2 num den power).2 < 2 ^ (53 : Int) := by
        rwa [hratio, div_lt_iff₀ hpow, ← zpow_add₀ htwo]
      rw [div_lt_iff₀ hposq] at hscaled
      exact_mod_cast hscaled
    have hquotient := (Nat.div_lt_iff_lt_mul hpos).mpr hlt
    have hround := roundHalfEven_le (overPower 2 num den power).1 (overPower 2 num den power).2
    omega
  · rcases max_choice (leadingBit num den - 52) leastExponent with hfull | hleast
    · left
      have habove : ((2 : Nat) : ℚ) ^ (52 + power) ≤ num / den :=
        (Int.zpow_le_iff_le_log (by norm_num) hr).mpr (by omega)
      have hlow : (2 : ℚ) ^ (52 + power) ≤ num / den := by exact_mod_cast habove
      have hle : mantissaBound / 2 * (overPower 2 num den power).2 ≤ (overPower 2 num den power).1 := by
        have hscaled : (2 : ℚ) ^ (52 : Int) ≤
            ((overPower 2 num den power).1 : ℚ) / (overPower 2 num den power).2 := by
          rwa [hratio, le_div_iff₀ hpow, ← zpow_add₀ htwo]
        rw [le_div_iff₀ hposq] at hscaled
        exact_mod_cast hscaled
      exact ((Nat.le_div_iff_mul_le hpos).mpr hle).trans (le_roundHalfEven _ _)
    · exact .inr hleast

theorem isCanonical_zero : IsCanonical 0 leastExponent := ⟨by decide, .inr rfl, le_rfl, by decide⟩

theorem isCanonical_ofRatio (hden : 0 < den) {sign : Bool}
    (h : ofRatio negative num den = finite sign mantissa exponent) : IsCanonical mantissa exponent := by
  unfold ofRatio at h
  by_cases hnum : num = 0
  · rw [if_pos hnum] at h
    cases h
    exact isCanonical_zero
  · rw [if_neg hnum] at h
    obtain ⟨hbound, hfull⟩ := scaled_bounds hnum hden
    have hleast : leastExponent ≤ max (leadingBit num den - 52) leastExponent := le_max_right _ _
    dsimp only at h hbound hfull
    generalize max (leadingBit num den - 52) leastExponent = power at h hbound hfull hleast
    generalize roundHalfEven (overPower 2 num den power).1 (overPower 2 num den power).2 = rounded
      at h hbound hfull
    by_cases htop : rounded = mantissaBound
    · -- a mantissa that is rounded up to the bound is halved
      simp only [if_pos htop] at h
      by_cases hgreat : greatestExponent < power + 1
      · rw [if_pos hgreat] at h
        cases h
      · rw [if_neg hgreat] at h
        cases h
        exact ⟨by decide, .inl le_rfl, by omega, by omega⟩
    · simp only [if_neg htop] at h
      by_cases hgreat : greatestExponent < power
      · rw [if_pos hgreat] at h
        cases h
      · rw [if_neg hgreat] at h
        cases h
        exact ⟨by omega, hfull, hleast, by omega⟩

/-- The number nearest to a decimal `IsCanonical`: it has 53 binary digits at most, and an exponent within the
bounds. -/
theorem isCanonical_ofDecimal {d : Decimal} {sign : Bool}
    (h : ofDecimal d = finite sign mantissa exponent) : IsCanonical mantissa exponent := by
  by_cases hzero : d.coefficient = 0
  · rw [ofDecimal, if_pos hzero] at h
    cases h
    exact isCanonical_zero
  · by_cases hhigh : 310 ≤ d.leading
    · rw [ofDecimal, if_neg hzero, if_pos hhigh] at h
      cases h
    · by_cases hlow : d.leading < -400
      · rw [ofDecimal, if_neg hzero, if_neg hhigh, if_pos hlow] at h
        cases h
        exact isCanonical_zero
      · obtain ⟨num, den, hden, -, heq⟩ := ofDecimal_eq_ofRatio hzero (by omega) (by omega)
        rw [heq] at h
        exact isCanonical_ofRatio hden h

/-- The integer part of a finite number has few digits. -/
theorem IsCanonical.truncate_lt (h : IsCanonical mantissa exponent) (negative : Bool) :
    (truncate negative mantissa exponent).natAbs < 10 ^ 310 := by
  have hmantissa := h.mantissa_lt
  have hquotient : (ratio mantissa exponent).1 / (ratio mantissa exponent).2 < 10 ^ 310 := by
    unfold ratio
    split
    · -- the greatest exponent has a name, as its power of two is evaluated only at the end
      obtain ⟨greatest, hgreatest⟩ : ∃ greatest, greatest = 971 := ⟨971, rfl⟩
      have hexponent : exponent.toNat ≤ greatest := by
        have hle : exponent ≤ 971 := h.le_greatest
        omega
      rw [Nat.div_one]
      calc mantissa * Nat.pow 2 exponent.toNat
          ≤ mantissaBound * Nat.pow 2 greatest :=
            Nat.mul_le_mul hmantissa.le (Nat.pow_le_pow_right Nat.two_pos hexponent)
        _ < 10 ^ 310 := by
          subst hgreatest
          decide +kernel
    · refine (Nat.div_le_self _ _).trans_lt (hmantissa.trans ?_)
      decide +kernel
  unfold truncate
  dsimp only
  split
  · rwa [Int.natAbs_neg, Int.natAbs_natCast]
  · rwa [Int.natAbs_natCast]

theorem magnitude_exactDecimal (negative : Bool) (mantissa : Nat) (exponent : Int) :
    (exactDecimal negative mantissa exponent).magnitude = mantissa * 2 ^ exponent := by
  unfold exactDecimal
  split
  · rename_i hexp
    obtain ⟨k, rfl⟩ := Int.eq_ofNat_of_zero_le hexp
    simp [Decimal.magnitude]
  · rename_i hexp
    obtain ⟨k, rfl⟩ : ∃ k : Nat, exponent = -(k : Int) := ⟨(-exponent).toNat, by omega⟩
    have hten : (10 : ℚ) ^ k = 2 ^ k * 5 ^ k := by rw [← mul_pow]; norm_num
    simp only [Decimal.magnitude, Nat.pow_eq, neg_neg, Int.toNat_natCast, Nat.cast_mul, Nat.cast_pow,
      Nat.cast_ofNat, zpow_neg, zpow_natCast, hten]
    field_simp

/-- Finite numbers are far within the range in which decimals are rounded. -/
theorem IsCanonical.leading_bounds (h : IsCanonical mantissa exponent) (hmantissa : mantissa ≠ 0) :
    -400 ≤ Int.log 10 ((mantissa : ℚ) * 2 ^ exponent) ∧ Int.log 10 ((mantissa : ℚ) * 2 ^ exponent) < 310 := by
  have hone : (1 : ℚ) ≤ mantissa := by exact_mod_cast Nat.one_le_iff_ne_zero.mpr hmantissa
  have hpos : (0 : ℚ) < mantissa * 2 ^ exponent := by positivity
  have hlow : (10 : ℚ) ^ (-400 : Int) ≤ mantissa * 2 ^ exponent := by
    have hpow : (2 : ℚ) ^ 1074 ≤ 10 ^ 400 := by exact_mod_cast (by decide +kernel : 2 ^ 1074 ≤ 10 ^ 400)
    calc (10 : ℚ) ^ (-400 : Int) ≤ 2 ^ (-1074 : Int) := inv_anti₀ (by positivity) hpow
      _ ≤ 2 ^ exponent := zpow_le_zpow_right₀ (by norm_num) h.least_le
      _ ≤ mantissa * 2 ^ exponent := le_mul_of_one_le_left (by positivity) hone
  have hhigh : (mantissa : ℚ) * 2 ^ exponent < 10 ^ (310 : Int) := by
    have hmantissa : (mantissa : ℚ) < 2 ^ (53 : Int) := by exact_mod_cast h.mantissa_lt
    calc (mantissa : ℚ) * 2 ^ exponent < 2 ^ (53 : Int) * 2 ^ exponent := by gcongr
      _ ≤ 2 ^ (53 : Int) * 2 ^ (971 : Int) := by
        gcongr
        · norm_num
        · exact h.le_greatest
      _ ≤ 10 ^ (310 : Int) := by exact_mod_cast (by decide +kernel : 2 ^ 53 * 2 ^ 971 ≤ 10 ^ 310)
  exact ⟨(Int.zpow_le_iff_le_log (by norm_num) hpos).mp (by exact_mod_cast hlow),
    (Int.lt_zpow_iff_log_lt (by norm_num) hpos).mp (by exact_mod_cast hhigh)⟩

/-- A decimal that is a finite number is read as that number. -/
theorem ofDecimal_of_isCanonical (h : IsCanonical mantissa exponent) {d : Decimal}
    (hmagnitude : d.magnitude = mantissa * 2 ^ exponent) :
    ofDecimal d = finite d.negative mantissa exponent := by
  by_cases hmantissa : mantissa = 0
  · have hexponent : exponent = leastExponent := by
      rcases h.full with hfull | hleast
      · rw [hmantissa] at hfull
        exact absurd hfull (by decide)
      · exact hleast
    have hzero : d.coefficient = 0 := by
      rw [← magnitude_eq_zero, hmagnitude, hmantissa, Nat.cast_zero, zero_mul]
    rw [ofDecimal, if_pos hzero, hmantissa, hexponent]
  · have hzero : d.coefficient ≠ 0 := by
      have hpow : (2 : ℚ) ^ exponent ≠ 0 := by positivity
      rw [ne_eq, ← magnitude_eq_zero, hmagnitude, mul_eq_zero, or_iff_left hpow, Nat.cast_eq_zero]
      exact hmantissa
    obtain ⟨hlow, hhigh⟩ := h.leading_bounds hmantissa
    rw [← hmagnitude, ← leading_eq_log hzero] at hlow hhigh
    obtain ⟨num, den, hden, hratio, heq⟩ := ofDecimal_eq_ofRatio hzero hhigh hlow
    rw [heq]
    exact ofRatio_of_isCanonical h hmantissa hden (by rw [hratio, hmagnitude]) _

/-! ## The shortest decimal -/

theorem stripZeros_magnitude (d : Decimal) (steps : Nat) :
    (d.stripZeros steps).negative = d.negative ∧ (d.stripZeros steps).magnitude = d.magnitude := by
  induction steps generalizing d with
  | zero => exact ⟨rfl, rfl⟩
  | succ steps ih =>
    unfold Decimal.stripZeros
    split
    · rename_i hzeros
      obtain ⟨hnegative, hmagnitude⟩ :=
        ih { d with coefficient := d.coefficient / 10, exponent := d.exponent + 1 }
      refine ⟨hnegative, hmagnitude.trans ?_⟩
      have hcast : (d.coefficient : ℚ) = (d.coefficient / 10 : Nat) * 10 := by
        exact_mod_cast (Nat.div_mul_cancel (Nat.dvd_of_mod_eq_zero hzeros.2)).symm
      rw [Decimal.magnitude, Decimal.magnitude, zpow_add_one₀ (by norm_num), hcast]
      ring
    · exact ⟨rfl, rfl⟩

/-- The `shortest` decimal of a finite number is read as the number. -/
theorem ofDecimal_shortest (h : IsCanonical mantissa exponent) (negative : Bool) :
    ofDecimal (shortest negative mantissa exponent) = finite negative mantissa exponent := by
  unfold shortest
  split
  · rename_i hmantissa
    exact ofDecimal_of_isCanonical h (by simp [Decimal.magnitude, hmantissa])
  · dsimp only
    obtain ⟨hnegative, hmagnitude⟩ := stripZeros_magnitude
      (((candidates negative mantissa exponent).find? fun d =>
        ofDecimal d = finite negative mantissa exponent).getD (exactDecimal negative mantissa exponent)) _
    rw [ofDecimal_congr hnegative hmagnitude]
    cases hfound : (candidates negative mantissa exponent).find? fun d =>
      ofDecimal d = finite negative mantissa exponent with
    | some d => simpa using List.find?_some hfound
    | none =>
      have hexact := ofDecimal_of_isCanonical h (magnitude_exactDecimal negative mantissa exponent)
      have hsign : (exactDecimal negative mantissa exponent).negative = negative := by
        unfold exactDecimal
        split <;> rfl
      rw [Option.getD_none, hexact, hsign]

end Binary64

end PictureReport
