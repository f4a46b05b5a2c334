import PictureReport.Proofs.Integers
import PictureReport.Proofs.Showing

/-!
# Fields on one line

A field shows characters of its value, padding and the marks of numbers.  So it has no line feed when its
value has none, and neither has what a chomping field leaves.
-/

namespace PictureReport

variable {t u : Text}

namespace Text

@[simp] theorem lineFeed_not_mem_spaces (count : Nat) : '\n' ∉ spaces count := by
  intro h
  exact absurd (eq_space_of_mem_spaces h) (by decide)

theorem lineFeed_not_mem_padBoth (h : '\n' ∉ t) (width : Nat) : '\n' ∉ padBoth t width := by
  simp [padBoth, h]

theorem lineFeed_not_mem_justify (h : '\n' ∉ t) (align : Align) (width : Nat) :
    '\n' ∉ justify align t width := by
  cases align with
  | left => simp [justify, padRight, h]
  | center => exact lineFeed_not_mem_padBoth h width
  | right => simp [justify, padLeft, h]

end Text

/-! ## Numbers -/

@[simp] theorem lineFeed_not_mem_decimalDigits (n : Nat) : '\n' ∉ decimalDigits n := by
  intro h
  exact absurd (Numeral.isAsciiDigit_of_mem h) (by decide)

theorem lineFeed_not_mem_integerText (i : Int) : '\n' ∉ integerText i := by
  unfold integerText
  split <;> simp

theorem Decimal.lineFeed_not_mem_splitDigits (h : '\n' ∉ t) (places : Nat) :
    '\n' ∉ (splitDigits t places).1 ∧ '\n' ∉ (splitDigits t places).2 := by
  have hpadded : '\n' ∉ List.replicate (places + 1 - t.length) '0' ++ t := by simp [h]
  exact ⟨fun hc => hpadded (List.mem_of_mem_take hc), fun hc => hpadded (List.mem_of_mem_drop hc)⟩

theorem Decimal.lineFeed_not_mem_positional (d : Decimal) : '\n' ∉ d.positional := by
  have hsign : '\n' ∉ d.sign := by
    unfold sign
    split <;> simp
  unfold positional
  split
  · simp [hsign]
  · have hsplit := lineFeed_not_mem_splitDigits (lineFeed_not_mem_decimalDigits d.coefficient)
      (-d.exponent).toNat
    simp [hsign, hsplit]

/-- A fixed-point field shows a number as it is or written out, neither with a line feed. -/
theorem Value.lineFeed_not_mem_shownPlain {value : Value} (h : '\n' ∉ value.shown) :
    '\n' ∉ value.shownPlain := by
  unfold shownPlain
  split
  · rename_i negative mantissa exponent
    simp only
    split
    · exact Decimal.lineFeed_not_mem_positional _
    · exact h
  · exact h

namespace Binary64

theorem lineFeed_not_mem_exponentPart (e : Int) : '\n' ∉ exponentPart e := by
  unfold exponentPart
  split <;> simp

theorem lineFeed_not_mem_exactDigits (count n : Nat) : '\n' ∉ exactDigits count n := by
  simp [exactDigits]

theorem lineFeed_not_mem_afterPoint (h : '\n' ∉ t) : '\n' ∉ afterPoint t := by
  unfold afterPoint
  split <;> simp [h]

theorem lineFeed_not_mem_exponential (precision num den : Nat) :
    '\n' ∉ exponential precision num den := by
  unfold exponential
  generalize significant num den (precision + 1) = found
  have hdigits := lineFeed_not_mem_exactDigits (precision + 1) found.1
  simp only [List.mem_append, not_or]
  refine ⟨⟨fun hc => hdigits (List.mem_of_mem_take hc), ?_⟩, lineFeed_not_mem_exponentPart _⟩
  exact lineFeed_not_mem_afterPoint fun hc => hdigits (List.mem_of_mem_drop hc)

theorem lineFeed_not_mem_general (precision num den : Nat) : '\n' ∉ general precision num den := by
  have hend : ∀ {t : Text}, '\n' ∉ t → '\n' ∉ Text.dropEnd (· = '0') t :=
    fun ht hc => ht ((List.rdropWhile_prefix _ _).subset hc)
  simp only [general]
  generalize significant num den (max precision 1) = found
  have hdigits := lineFeed_not_mem_exactDigits (max precision 1) found.1
  split
  · simp only [List.mem_append, not_or]
    refine ⟨⟨fun hc => hdigits (List.mem_of_mem_take hc), ?_⟩, lineFeed_not_mem_exponentPart _⟩
    exact lineFeed_not_mem_afterPoint (hend fun hc => hdigits (List.mem_of_mem_drop hc))
  · have hsplit := Decimal.lineFeed_not_mem_splitDigits hdigits
      (((max precision 1 : Nat) : Int) - 1 - found.2).toNat
    rw [List.mem_append, not_or]
    exact ⟨hsplit.1, lineFeed_not_mem_afterPoint (hend hsplit.2)⟩

theorem lineFeed_not_mem_inNotation {digits : Nat → Nat → Text} (h : ∀ num den, '\n' ∉ digits num den)
    (x : Binary64) : '\n' ∉ x.inNotation digits := by
  cases x with
  | finite negative mantissa exponent => cases negative <;> simp [inNotation, h]
  | infinite negative => cases negative <;> simp [inNotation]
  | nan => simp [inNotation]

end Binary64

/-! ## Fields -/

namespace FixedPoint

theorem lineFeed_not_mem_carry (h : carry t = .ok u) (ht : '\n' ∉ t) : '\n' ∉ u := by
  induction t generalizing u with
  | nil =>
    cases h
    exact ht
  | cons c rest ih =>
    have hrest : '\n' ∉ rest := fun hc => ht (List.mem_cons_of_mem _ hc)
    unfold carry at h
    split at h
    · cases h
      exact ht
    · split at h
      · obtain ⟨raised, hraised, h⟩ := bind_eq_ok.mp h
        cases h
        simp [ih hraised hrest]
      · split at h
        · cases h
          simp [hrest]
        · cases h

theorem lineFeed_not_mem_roundFraction {pad keep : Nat} (h : roundFraction t pad keep = .ok u)
    (ht : '\n' ∉ t) : '\n' ∉ u := by
  have hkept : '\n' ∉ (t ++ List.replicate pad '0').take keep := by
    intro hc
    have hdigits := List.mem_of_mem_take hc
    simp [ht] at hdigits
  obtain ⟨raise, -, h⟩ := bind_eq_ok.mp h
  split at h
  · obtain ⟨raised, hraised, h⟩ := bind_eq_ok.mp h
    cases h
    have hcarried := lineFeed_not_mem_carry hraised (by simpa using hkept)
    simpa using hcarried
  · cases h
    exact hkept

theorem lineFeed_not_mem_format {f : FixedPoint} (h : f.format t = .ok u) (ht : '\n' ∉ t) : '\n' ∉ u := by
  have hpiece : ∀ piece ∈ Text.separate '.' t, '\n' ∉ piece :=
    fun piece hp hc => ht (Text.mem_of_mem_separate hp hc)
  have hwhole : '\n' ∉ (Text.separate '.' t).headD [] := by
    cases hpieces : Text.separate '.' t with
    | nil => exact List.not_mem_nil
    | cons first rest => exact hpiece first (by rw [hpieces]; exact List.mem_cons_self)
  have hfraction : '\n' ∉ ((Text.separate '.' t)[1]?).getD [] := by
    cases hsecond : (Text.separate '.' t)[1]? with
    | none => exact List.not_mem_nil
    | some second => exact hpiece second (List.mem_of_getElem? hsecond)
  unfold format at h
  split at h
  · cases h
    simp [Text.padRight, ht]
  · extract_lets parts whole fraction space at h
    have hhead : '\n' ∉ whole := hwhole
    split at h
    · cases h
      simp [Text.padLeft, hhead]
    · split at h
      · cases h
        simp [Text.padLeft, hhead]
      · obtain ⟨rounded, hround, h⟩ := bind_eq_ok.mp h
        cases h
        simp [Text.padLeft, hhead, lineFeed_not_mem_roundFraction hround hfraction]

end FixedPoint

theorem toUpper_ne_lineFeed {c : Char} (h : c ≠ '\n') : c.toUpper ≠ '\n' := by
  unfold Char.toUpper
  split
  · rename_i hlower
    intro he
    have hval : c.val + _ = '\n'.val := congrArg Char.val he
    -- A lower-case letter is at least 97, and its capital 32 before it.
    have hsum := congrArg UInt32.toNat hval
    rw [UInt32.toNat_add] at hsum
    have hleast := UInt32.le_iff_toNat_le.mp hlower.1
    have hgreatest := UInt32.le_iff_toNat_le.mp hlower.2
    have hfirst : 'a'.val.toNat = 97 := by decide
    have hlast : 'z'.val.toNat = 122 := by decide
    have hstep : ('A'.val - 'a'.val).toNat = 4294967264 := by decide
    have hfeed : '\n'.val.toNat = 10 := by decide
    omega
  · exact h

theorem Scientific.lineFeed_not_mem_digits (f : Scientific) (x : Binary64) : '\n' ∉ f.digits x := by
  have hshown : '\n' ∉ (if f.letter.general then x.inNotation (Binary64.general f.precision)
      else x.inNotation (Binary64.exponential f.precision)) := by
    split
    · exact Binary64.lineFeed_not_mem_inNotation (Binary64.lineFeed_not_mem_general _) x
    · exact Binary64.lineFeed_not_mem_inNotation (Binary64.lineFeed_not_mem_exponential _) x
  simp only [digits]
  generalize (if f.letter.general then x.inNotation (Binary64.general f.precision)
      else x.inNotation (Binary64.exponential f.precision)) = shown at hshown
  split
  · intro hc
    obtain ⟨c, hmem, hc⟩ := List.mem_map.mp hc
    refine toUpper_ne_lineFeed ?_ hc
    rintro rfl
    exact hshown hmem
  · exact hshown

theorem Scientific.lineFeed_not_mem_format (f : Scientific) (t : Text) : '\n' ∉ (f.format t).1 := by
  unfold format
  split
  · exact Text.lineFeed_not_mem_spaces _
  · split
    · simp [Text.padLeft, lineFeed_not_mem_digits]
    · exact Text.lineFeed_not_mem_spaces _

namespace Field

variable {f : Field} {value : Value} {page : Int} {writable : Bool} {made : Formatted}

theorem lineFeed_not_mem_textFor (hvalue : '\n' ∉ value.shown) : '\n' ∉ f.textFor value page := by
  unfold textFor
  split
  · exact lineFeed_not_mem_integerText page
  · exact Value.lineFeed_not_mem_shownPlain hvalue
  · exact hvalue

theorem lineFeed_not_mem_fit (h : f.fit t writable = .ok made) (ht : '\n' ∉ t) :
    '\n' ∉ made.text ∧ ∀ rest ∈ made.rest, '\n' ∉ rest := by
  have hrest : ∀ rest ∈ (none : Option Text), '\n' ∉ rest := fun rest hr => by cases hr
  unfold fit at h
  split at h
  · cases h
    exact ⟨Text.lineFeed_not_mem_padBoth ht _, hrest⟩
  · obtain ⟨u, hnumber, hmade⟩ := bind_eq_ok.mp h
    cases hmade
    exact ⟨FixedPoint.lineFeed_not_mem_format hnumber ht, hrest⟩
  · rename_i number _
    cases h
    exact ⟨Scientific.lineFeed_not_mem_format number t, hrest⟩
  · split at h
    · cases h
      refine ⟨Text.lineFeed_not_mem_justify (fun hc => ht (List.mem_of_mem_take hc)) _ _, ?_⟩
      rintro rest hr hc
      cases hr
      exact ht (List.mem_of_mem_drop ((List.dropWhile_suffix _).subset hc))
    · cases h
      exact ⟨Text.lineFeed_not_mem_justify (fun hc => ht (List.mem_of_mem_take hc)) _ _, hrest⟩

/-- Neither what `format` shows nor what it leaves of a value has a line feed, if the value has none. -/
theorem lineFeed_not_mem_format (h : f.format value page writable = .ok made) (hvalue : '\n' ∉ value.shown) :
    '\n' ∉ made.text ∧ ∀ rest ∈ made.rest, '\n' ∉ rest :=
  lineFeed_not_mem_fit (format_eq_ok.mp h).2 (lineFeed_not_mem_textFor hvalue)

end Field

end PictureReport
