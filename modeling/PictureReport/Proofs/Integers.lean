import PictureReport.Number.Numeral
import PictureReport.Proofs.Text

/-!
# Reading integers back

The text of an integer is read as that integer, with any blanks around it, as long as it has not too
many digits.
-/

namespace PictureReport

namespace Numeral

theorem isAsciiDigit_of_mem {n : Nat} {c : Char} (h : c ∈ decimalDigits n) : isAsciiDigit c = true := by
  have hdigit : c.isDigit = true := Nat.isDigit_of_mem_toDigits (by decide) (by decide) h
  simp only [Char.isDigit, Bool.and_eq_true, decide_eq_true_eq, UInt32.le_iff_toNat_le] at hdigit
  simp only [isAsciiDigit, Bool.and_eq_true, decide_eq_true_eq]
  exact hdigit

theorem decimalDigits_ne_nil (n : Nat) : decimalDigits n ≠ [] := Nat.toDigits_ne_nil

theorem natural_concat (digits : Text) (c : Char) :
    natural (digits ++ [c]) = 10 * natural digits + (c.toNat - 48) := by
  simp [natural]

/-- The digits `decimalDigits n` write `n`: `natural` reads them as `n`. -/
theorem natural_decimalDigits (n : Nat) : natural (decimalDigits n) = n := by
  induction n using Nat.strongRecOn with
  | ind n ih =>
    by_cases hn : n < 10
    · rw [decimalDigits, Nat.toDigits_of_lt_base hn]
      simp [natural, Nat.toNat_digitChar_sub_48_of_lt_ten hn]
    · have hrest := ih (n / 10) (by omega)
      have hlast := Nat.toNat_digitChar_sub_48_of_lt_ten (Nat.mod_lt n (by decide : 0 < 10))
      rw [decimalDigits] at hrest
      rw [decimalDigits, Nat.toDigits_of_base_le (by decide) (by omega), natural_concat, hrest, hlast]
      omega

/-- Digits without underscores pass `ungroup` as they are. -/
theorem ungroup_digits {digits : Text} (h : ∀ c ∈ digits, isAsciiDigit c = true) {last : Char}
    (hlast : last ≠ '_') : ungroup last digits = some digits := by
  induction digits generalizing last with
  | nil => simp [ungroup, hlast]
  | cons c rest ih =>
    rw [List.forall_mem_cons] at h
    have hc : c ≠ '_' := by
      rintro rfl
      exact absurd h.1 (by decide)
    simp [ungroup, hc, hlast, ih h.2 hc]

theorem lt_of_isAsciiDigit {c : Char} (h : isAsciiDigit c = true) : 48 ≤ c.toNat ∧ c.toNat ≤ 57 := by
  simpa [isAsciiDigit] using h

theorem plainChar_of_isAsciiDigit {c : Char} (h : isAsciiDigit c = true) : plainChar c = c := by
  have hc := lt_of_isAsciiDigit h
  unfold plainChar
  rw [if_pos (by omega)]

theorem isMargin_of_isAsciiDigit {c : Char} (h : isAsciiDigit c = true) : isMargin c = false := by
  have hc := lt_of_isAsciiDigit h
  have hspace : c ≠ ' ' := by
    rintro rfl
    exact absurd h (by decide)
  simp only [isMargin, hspace, decide_false, Bool.or_false, Bool.and_eq_false_iff,
    decide_eq_false_iff_not]
  omega

theorem isBlank_of_isAsciiDigit {c : Char} (h : isAsciiDigit c = true) : isBlank c = false := by
  have hc := lt_of_isAsciiDigit h
  simp only [isBlank, Bool.or_eq_false_iff, Bool.and_eq_false_iff, decide_eq_false_iff_not,
    beq_eq_false_iff_ne]
  omega

/-- The text `integerText i` has digits and perhaps a minus sign. -/
theorem mem_integerText {i : Int} {c : Char} (h : c ∈ integerText i) :
    c = '-' ∨ isAsciiDigit c = true := by
  unfold integerText at h
  split at h
  · rcases List.mem_cons.mp h with rfl | h
    · exact .inl rfl
    · exact .inr (isAsciiDigit_of_mem h)
  · exact .inr (isAsciiDigit_of_mem h)

theorem isBlank_of_mem_integerText {i : Int} {c : Char} (h : c ∈ integerText i) :
    isBlank c = false := by
  rcases mem_integerText h with rfl | h
  · decide
  · exact isBlank_of_isAsciiDigit h

theorem integerText_ne_nil (i : Int) : integerText i ≠ [] := by
  unfold integerText
  split
  · simp
  · exact decimalDigits_ne_nil _

theorem isTrimmed_integerText (i : Int) : Text.IsTrimmed (integerText i) :=
  ⟨fun _ hc => isBlank_of_mem_integerText (List.mem_of_head? hc),
    fun _ hc => isBlank_of_mem_integerText (List.mem_of_getLast? hc)⟩

/-- The text `integerText i` is in ASCII already and has no blanks around it, so that `plain` keeps it. -/
theorem plain_integerText (i : Int) : plain (integerText i) = integerText i := by
  have hplain : ∀ c ∈ integerText i, plainChar c = c := by
    intro c hc
    rcases mem_integerText hc with rfl | hc
    · decide
    · exact plainChar_of_isAsciiDigit hc
  have hmargin : ∀ c ∈ integerText i, isMargin c = false := by
    intro c hc
    rcases mem_integerText hc with rfl | hc
    · decide
    · exact isMargin_of_isAsciiDigit hc
  unfold plain
  rw [List.map_congr_left hplain, List.map_id']
  have hfront : (integerText i).dropWhile isMargin = integerText i := by
    cases ht : integerText i with
    | nil => rfl
    | cons c rest =>
      rw [List.dropWhile_cons_of_neg]
      rw [hmargin c (by rw [ht]; exact List.mem_cons_self)]
      exact Bool.false_ne_true
  rw [hfront]
  refine List.rdropWhile_eq_self_iff.mpr fun ht => ?_
  rw [hmargin _ (List.getLast_mem ht)]
  exact Bool.false_ne_true

theorem signed_integerText (i : Int) :
    signed (integerText i) = (decide (i < 0), decimalDigits i.natAbs) := by
  unfold integerText
  split
  · rename_i h
    simp [signed, h]
  · rename_i h
    cases hd : decimalDigits i.natAbs with
    | nil => exact absurd hd (decimalDigits_ne_nil _)
    | cons c rest =>
      have hc : isAsciiDigit c = true :=
        isAsciiDigit_of_mem (n := i.natAbs) (by rw [hd]; exact List.mem_cons_self)
      unfold signed
      split
      · rename_i he
        cases he
        exact absurd hc (by decide)
      · rename_i he
        cases he
        exact absurd hc (by decide)
      · simp [h]

/-- `integer` reads `integerText i` as `i`, as long as there are no more digits than `maxDigits`. -/
theorem integer_integerText {i : Int} (h : (decimalDigits i.natAbs).length ≤ maxDigits) :
    integer (integerText i) = .ok i := by
  have hdigits : ∀ c ∈ decimalDigits i.natAbs, isAsciiDigit c = true := fun c => isAsciiDigit_of_mem
  have hrun : (decimalDigits i.natAbs).takeWhile (fun c => isAsciiDigit c || c = '_') =
      decimalDigits i.natAbs := by
    refine List.takeWhile_eq_self_iff.mpr fun c hc => ?_
    rw [hdigits c hc]
    rfl
  have hsign : negateIf (decide (i < 0)) (natural (decimalDigits i.natAbs)) = i := by
    rw [natural_decimalDigits]
    unfold negateIf
    split <;> rename_i hi <;> simp only [decide_eq_true_eq] at hi <;> omega
  unfold integer
  rw [plain_integerText, signed_integerText]
  simp only [hrun, ungroup_digits hdigits (by decide : ' ' ≠ '_')]
  rw [if_neg (by omega), if_neg (by simp [decimalDigits_ne_nil]), hsign]

end Numeral

/-! ## Digits of any script -/

namespace Digit

theorem value?_lt {c : Char} {value : Nat} (h : Digit.value? c = some value) : value < 10 := by
  obtain ⟨first, hfirst, rfl⟩ := Option.map_eq_some_iff.mp h
  have hrange := List.find?_some hfirst
  simp only [Bool.and_eq_true, decide_eq_true_eq] at hrange
  omega

theorem value?_of_isAsciiDigit {c : Char} (h : Numeral.isAsciiDigit c = true) :
    Digit.value? c = some (c.toNat - 48) := by
  obtain ⟨hlow, hhigh⟩ := Numeral.lt_of_isAsciiDigit h
  have hfind : Digit.zeros.find? (fun first => first ≤ c.toNat && c.toNat < first + 10) = some 48 := by
    unfold Digit.zeros
    rw [List.find?_cons_of_pos]
    simp only [Bool.and_eq_true, decide_eq_true_eq]
    omega
  rw [Digit.value?, hfind, Option.map_some]

end Digit

end PictureReport
