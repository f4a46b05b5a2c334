import PictureReport.Proofs.Json.Codec

/-!
# Scalars read back

What is written for a scalar is read as that scalar, whatever follows it that does not continue a number
(`Json.value_scalarOf`).  Strings come back character by character, as each escape stands for one character;
integers by their digits; and numbers with a point or an exponent because their text denotes the shortest
decimal, which rounds to them.
-/

namespace PictureReport.Json

open Numeral (isAsciiDigit natural Written Scaled)

/-! ## Strings -/

/-- The first character of a string's text, put before what is found in the rest. -/
def withUnit (unit : Nat) (found : List Nat × Text) : List Nat × Text := (unit :: found.1, found.2)

theorem units_plain {c : Char} (hquote : c ≠ '"') (hescape : c ≠ '\\') (hc : 32 ≤ c.toNat) (t : Text) :
    units (c :: t) = (units t).map (withUnit c.toNat) := by
  rw [units.eq_5 c t hquote (fun _ _ _ _ _ h _ => hescape h) (fun _ _ h _ => hescape h), if_neg (by omega)]
  cases units t <;> rfl

theorem units_escaped {mark c : Char} (hmark : mark ≠ 'u') (hc : escaped? mark = some c) (t : Text) :
    units ('\\' :: mark :: t) = (units t).map (withUnit c.toNat) := by
  rw [units.eq_4 _ _ (fun _ _ _ _ _ h _ => hmark h), hc]
  cases units t <;> rfl

/-- The four digits of a control character write it. -/
theorem hexUnit?_hex : ∀ n < 32, hexUnit? (Text.hexDigit (n / 16 / 16 / 16 % 16))
    (Text.hexDigit (n / 16 / 16 % 16)) (Text.hexDigit (n / 16 % 16)) (Text.hexDigit (n % 16)) = some n := by
  decide

theorem hex_four (n : Nat) :
    Text.hex n 4 = [Text.hexDigit (n / 16 / 16 / 16 % 16), Text.hexDigit (n / 16 / 16 % 16),
      Text.hexDigit (n / 16 % 16), Text.hexDigit (n % 16)] := rfl

theorem units_hex {n : Nat} (hn : n < 32) (t : Text) :
    units (['\\', 'u'] ++ Text.hex n 4 ++ t) = (units t).map (withUnit n) := by
  simp only [hex_four, List.cons_append, List.nil_append, units.eq_3, hexUnit?_hex n hn]
  cases units t <;> rfl

/-- What `escape` writes for a character is read as the character. -/
theorem units_escape (c : Char) (t : Text) : units (escape c ++ t) = (units t).map (withUnit c.toNat) := by
  unfold escape
  split
  · exact units_escaped (by decide) rfl t
  · exact units_escaped (by decide) rfl t
  · exact units_escaped (by decide) rfl t
  · exact units_escaped (by decide) rfl t
  · exact units_escaped (by decide) rfl t
  · exact units_escaped (by decide) rfl t
  · exact units_escaped (by decide) rfl t
  · rename_i hquote hescape _ _ _ _ _
    split
    · rename_i hc
      exact units_hex hc t
    · exact units_plain hquote hescape (by omega) t

theorem units_flatMap (t rest : Text) :
    units (t.flatMap escape ++ '"' :: rest) = some (t.map Char.toNat, rest) := by
  induction t with
  | nil => rw [List.flatMap_nil, List.nil_append, units.eq_2, List.map_nil]
  | cons c t ih =>
    rw [List.flatMap_cons, List.append_assoc, units_escape, ih]
    rfl

theorem not_surrogate (c : Char) : isHighSurrogate c.toNat = false ∧ isLowSurrogate c.toNat = false := by
  have hvalid : c.toNat < 0xD800 ∨ 0xDFFF < c.toNat ∧ c.toNat < 0x110000 := c.valid
  simp only [isHighSurrogate, isLowSurrogate, Bool.and_eq_false_iff, decide_eq_false_iff_not]
  omega

/-- The units of characters are those characters. -/
theorem characters_toNat (replace : Bool) (t : Text) : characters replace (t.map Char.toNat) = some t := by
  induction t with
  | nil => rfl
  | cons c rest ih =>
    obtain ⟨hhigh, hlow⟩ := not_surrogate c
    cases rest with
    | nil => simp [characters, hhigh, hlow, Char.ofNat_toNat]
    | cons d rest =>
      rw [List.map_cons] at ih
      rw [List.map_cons, List.map_cons, characters, ih]
      simp [hhigh, hlow, Char.ofNat_toNat]

theorem string_flatMap (dialect : Dialect) (t rest : Text) :
    string dialect (t.flatMap escape ++ '"' :: rest) = .ok (t, rest) := by
  simp only [string, units_flatMap, characters_toNat]

/-! ## Numbers -/

/-- The text does not continue a number that stands before it. -/
def Closes (rest : Text) : Prop := ∀ c ∈ rest.head?, isAsciiDigit c = false ∧ c ∉ ['.', 'e', 'E']

theorem digits?_append {digits rest : Text} (hne : digits ≠ [])
    (hdigits : ∀ c ∈ digits, isAsciiDigit c = true)
    (hrest : ∀ c ∈ rest.head?, isAsciiDigit c = false) : digits? (digits ++ rest) = some (digits, rest) := by
  have hfront : rest.takeWhile isAsciiDigit = [] ∧ rest.dropWhile isAsciiDigit = rest := by
    cases rest with
    | nil => exact ⟨rfl, rfl⟩
    | cons c rest => simp [hrest c rfl]
  simp only [digits?, List.takeWhile_append_of_pos hdigits, List.dropWhile_append_of_pos hdigits, hfront,
    List.append_nil, List.isEmpty_eq_false_iff.mpr hne, Bool.false_eq_true, if_false]

/-- A number as it may stand in a text: no zero in front of other digits, and digits behind a point. -/
structure IsTight (n : Written) : Prop where
  whole_tight : n.whole.head? = some '0' → n.whole.length = 1
  fraction_ne_nil : n.fraction ≠ some []

theorem head_text (n : Written) : ∃ c more, n.text = c :: more ∧ (c = '-' ∨ isAsciiDigit c = true) := by
  unfold Written.text Written.front
  cases n.negative with
  | true => exact ⟨'-', _, rfl, .inl rfl⟩
  | false =>
    cases hwhole : n.whole with
    | nil => exact absurd hwhole n.whole_ne_nil
    | cons c more => exact ⟨c, _, rfl, .inr (n.whole_digits c (hwhole ▸ List.mem_cons_self))⟩

/-- The parts of a number behind its sign. -/
def unsignedParts? (negative : Bool) (t : Text) : Option (NumberParts × Text) := do
  let (whole, t) ← digits? t
  if whole.head? = some '0' && whole.length ≠ 1 then none
  else
    let (fraction, t) ← fraction? t
    let (exponent, t) ← exponentPart? t
    pure (⟨negative, whole, fraction, exponent⟩, t)

theorem numberParts?_of_ne {c : Char} (hc : c ≠ '-') (t : Text) :
    numberParts? (c :: t) = unsignedParts? false (c :: t) := by
  unfold numberParts?
  split
  rename_i heq
  split at heq
  · rename_i hminus
    exact absurd (List.cons.inj hminus).1 hc
  · cases heq
    rfl

theorem fraction?_tail (n : Written) (hn : IsTight n) {tail : Text}
    (htail : ∀ c ∈ tail.head?, isAsciiDigit c = false ∧ c ≠ '.') :
    fraction? (n.fraction.elim [] ('.' :: ·) ++ tail) = some (n.fraction, tail) := by
  cases hfraction : n.fraction with
  | none =>
    rw [Option.elim_none, List.nil_append]
    unfold fraction?
    split
    · exact absurd rfl (htail '.' rfl).2
    · rfl
  | some digits =>
    rw [Option.elim_some, List.cons_append, fraction?,
      digits?_append (fun hnil => hn.fraction_ne_nil (hnil ▸ hfraction)) (n.fraction_digits digits hfraction)
        (fun c hc => (htail c hc).1)]
    rfl

theorem unsignedParts?_digits {n : Written} (hn : IsTight n) (negative : Bool) {tail rest : Text}
    {exponent : Option (Char × Text)} (htail : ∀ c ∈ tail.head?, isAsciiDigit c = false ∧ c ≠ '.')
    (hexponent : exponentPart? tail = some (exponent, rest)) :
    unsignedParts? negative (n.whole ++ (n.fraction.elim [] ('.' :: ·) ++ tail)) =
      some (⟨negative, n.whole, n.fraction, exponent⟩, rest) := by
  have hwhole : ¬ ((n.whole.head? = some '0' && n.whole.length ≠ 1) = true) := by
    simp only [Bool.and_eq_true, decide_eq_true_eq, not_and, ne_eq, not_not]
    exact hn.whole_tight
  have hstop : ∀ c ∈ (n.fraction.elim [] ('.' :: ·) ++ tail).head?, isAsciiDigit c = false := by
    cases n.fraction with
    | none => exact fun c hc => (htail c hc).1
    | some digits =>
      intro c hc
      cases hc
      decide
  simp only [unsignedParts?, digits?_append n.whole_ne_nil n.whole_digits hstop, bind, Option.bind_some,
    if_neg hwhole, fraction?_tail n hn htail, hexponent]
  rfl

theorem numberParts?_text {n : Written} (hn : IsTight n) {tail rest : Text} {exponent : Option (Char × Text)}
    (htail : ∀ c ∈ tail.head?, isAsciiDigit c = false ∧ c ≠ '.')
    (hexponent : exponentPart? tail = some (exponent, rest)) :
    numberParts? (n.text ++ tail) = some (⟨n.negative, n.whole, n.fraction, exponent⟩, rest) := by
  have htext : n.text ++ tail = (if n.negative then ['-'] else []) ++
      (n.whole ++ (n.fraction.elim [] ('.' :: ·) ++ tail)) := by
    unfold Written.text Written.front
    cases n.fraction <;> simp
  have hparts := unsignedParts?_digits hn n.negative htail hexponent
  rw [htext]
  cases hnegative : n.negative with
  | true =>
    rw [hnegative] at hparts
    exact hparts
  | false =>
    rw [hnegative] at hparts
    cases hwhole : n.whole with
    | nil => exact absurd hwhole n.whole_ne_nil
    | cons c more =>
      have hc : c ≠ '-' := by
        rintro rfl
        exact absurd (n.whole_digits '-' (hwhole ▸ List.mem_cons_self)) (by decide)
      rw [hwhole] at hparts
      rw [if_neg Bool.false_ne_true, List.nil_append, List.cons_append, numberParts?_of_ne hc]
      exact hparts

theorem exponentPart?_of_closes {rest : Text} (hrest : Closes rest) :
    exponentPart? rest = some (none, rest) := by
  cases rest with
  | nil => rfl
  | cons c rest =>
    have hc := (hrest c rfl).2
    simp only [List.mem_cons, List.not_mem_nil, or_false, not_or] at hc
    simp only [exponentPart?, hc.2.1, hc.2.2, decide_false, Bool.or_self, Bool.false_eq_true, if_false]

/-- The exponent of a number as its parts hold it. -/
def exponentOf (m : Scaled) : Char × Text := ('e', (if m.down then '-' else '+') :: m.power)

theorem exponentPart?_scaled (m : Scaled) {rest : Text} (hrest : Closes rest) :
    exponentPart? ('e' :: (if m.down then '-' else '+') :: m.power ++ rest) =
      some (some (exponentOf m), rest) := by
  have hdigits := digits?_append m.power_ne_nil m.power_digits (fun c hc => (hrest c hc).1)
  unfold exponentOf
  cases m.down with
  | true => simp [exponentPart?, hdigits]
  | false => simp [exponentPart?, hdigits]

theorem magnitude_decimal (n : Written) (exponent : Option (Char × Text)) :
    (NumberParts.mk n.negative n.whole n.fraction exponent).decimal.magnitude =
      FixedPoint.magnitude n *
        10 ^ (NumberParts.mk n.negative n.whole n.fraction exponent).exponentValue := by
  have hten : (10 : ℚ) ≠ 0 := by norm_num
  rw [Written.magnitude_eq, Decimal.magnitude, NumberParts.decimal]
  simp only
  rw [zpow_sub₀ hten, zpow_natCast, Written.fractionDigits]
  ring

theorem exponentValue_scaled (m : Scaled) (negative : Bool) (whole : Text) (fraction : Option Text) :
    (NumberParts.mk negative whole fraction (some (exponentOf m))).exponentValue = m.exponent := by
  unfold NumberParts.exponentValue exponentOf Scaled.exponent
  cases m.down <;> rfl

/-! ## The text of a number -/

theorem isTight_pointed (d : Decimal) : IsTight d.pointed where
  whole_tight := d.length_of_head_zero
  fraction_ne_nil := by
    intro hnil
    rw [Decimal.pointed, Option.some_inj] at hnil
    split at hnil
    · exact absurd hnil (by simp)
    · have hplaces := d.length_fractionDigits
      rw [hnil, Decimal.places] at hplaces
      simp only [List.length_nil] at hplaces
      omega

theorem isTight_scaledFront (d : Decimal) : IsTight d.scaledFront where
  whole_tight := by
    intro _
    have hpos := Numeral.length_decimalDigits_pos d.coefficient
    rw [Decimal.scaledFront, List.length_take]
    omega
  fraction_ne_nil := by
    unfold Decimal.scaledFront
    by_cases htail : (decimalDigits d.coefficient).tail = [] <;> simp [htail]

/-- The magnitude of a number without its sign. -/
theorem magnitude_of_value {n : Written} {d : Decimal} {factor : ℚ} (hnegative : n.negative = d.negative)
    (hvalue : n.value * factor = d.value) : FixedPoint.magnitude n * factor = d.magnitude := by
  rw [Written.value, Decimal.value, hnegative, mul_assoc] at hvalue
  exact mul_left_cancel₀ (Numeral.ne_zero_of_sign _) hvalue

/-- The parts of a decimal's text: the decimal that they make is the number, and they are no integer's. -/
theorem numberParts?_decimal {style : Decimal.Style} (hplus : style.plus = true) (d : Decimal) {rest : Text}
    (hrest : Closes rest) :
    ∃ parts, numberParts? (d.text style ++ rest) = some (parts, rest) ∧
      (parts.fraction.isNone && parts.exponent.isNone) = false ∧ parts.decimal.negative = d.negative ∧
        parts.decimal.magnitude = d.magnitude := by
  rw [Decimal.text_eq hplus]
  split
  · refine ⟨⟨d.negative, d.scaledFront.whole, d.scaledFront.fraction, some (exponentOf (d.scaled style))⟩,
      ?_, Bool.and_false _, rfl, ?_⟩
    · rw [Scaled.text, List.append_assoc]
      refine numberParts?_text (isTight_scaledFront d) ?_ (exponentPart?_scaled (d.scaled style) hrest)
      intro c hc
      cases hc
      exact ⟨by decide, by decide⟩
    · refine (magnitude_decimal d.scaledFront _).trans ?_
      rw [exponentValue_scaled]
      exact magnitude_of_value rfl (d.value_scaled style)
  · refine ⟨⟨d.negative, d.pointed.whole, d.pointed.fraction, none⟩,
      numberParts?_text (isTight_pointed d) (fun c hc => ?_) (exponentPart?_of_closes hrest), rfl, rfl, ?_⟩
    · obtain ⟨hdigit, hmarks⟩ := hrest c hc
      exact ⟨hdigit, fun hpoint => hmarks (by simp [hpoint])⟩
    · refine (magnitude_decimal d.pointed none).trans ?_
      exact magnitude_of_value rfl (by rw [← d.value_pointed]; simp [NumberParts.exponentValue])

/-- The integer as a decimal without point. -/
def decimalOfInt (i : Int) : Decimal := ⟨decide (i < 0), i.natAbs, 0⟩

theorem text_decimalOfInt (i : Int) : integerText i = (decimalOfInt i).written.text := by
  rw [← Decimal.text_written, integerText, Decimal.positional, Decimal.sign, decimalOfInt]
  by_cases hi : i < 0 <;> simp [hi]

theorem numberParts?_integer (i : Int) {rest : Text} (hrest : Closes rest) :
    numberParts? (integerText i ++ rest) =
      some (⟨decide (i < 0), decimalDigits i.natAbs, none, none⟩, rest) := by
  have hwhole : (decimalOfInt i).wholeDigits = decimalDigits i.natAbs := by
    simp [Decimal.wholeDigits, decimalOfInt]
  rw [text_decimalOfInt, ← hwhole]
  refine numberParts?_text ⟨(decimalOfInt i).length_of_head_zero, by simp [Decimal.written, decimalOfInt]⟩
    (fun c hc => ?_) (exponentPart?_of_closes hrest)
  obtain ⟨hdigit, hmarks⟩ := hrest c hc
  exact ⟨hdigit, fun hpoint => hmarks (by simp [hpoint])⟩

/-! ## Scalars -/

/-- What is written for a scalar. -/
def scalarOf (v : Value) : Text := (scalarText v).toOption.getD []

variable {v : Value}

theorem scalarText_eq (h : Storable v) : scalarText v = .ok (scalarOf v) := by
  cases h with
  | int hi => simp only [scalarOf, scalarText, if_pos hi]; rfl
  | _ => rfl

theorem scalarOf_int {i : Int} (hi : -signedBound ≤ i ∧ i < unsignedBound) :
    scalarOf (.int i) = integerText i := by
  simp only [scalarOf, scalarText, if_pos hi]
  rfl

theorem value_eq_scalar (dialect : Dialect) {c : Char} (hc : c ∉ ['"', '[', '\x7b']) (level depth : Nat)
    (t : Text) : value dialect level (depth + 1) (c :: t) = scalar dialect (c :: t) := by
  simp only [List.mem_cons, List.not_mem_nil, or_false, not_or] at hc
  rw [value.eq_def]
  simp only
  split
  · rename_i heq
    exact absurd (List.cons.inj heq).1 hc.1
  · rename_i heq
    exact absurd (List.cons.inj heq).1 hc.2.1
  · rename_i heq
    exact absurd (List.cons.inj heq).1 hc.2.2
  · rfl

/-- A number is no word and starts no string, list or object. -/
theorem value_number {c : Char} {t rest : Text} {parts : NumberParts}
    (hc : c = '-' ∨ isAsciiDigit c = true) (hparts : numberParts? (c :: t) = some (parts, rest))
    (hvalue : parts.value .strict = .ok v) (level depth : Nat) :
    value .strict level (depth + 1) (c :: t) = .ok (v, rest) := by
  have hmarks : c ∉ ['"', '[', '\x7b', 'n', 't', 'f'] := by
    intro hmem
    rcases hc with rfl | hdigit
    · exact absurd hmem (by decide)
    · have hall : ['"', '[', '\x7b', 'n', 't', 'f'].all (fun d => !isAsciiDigit d) = true := by decide
      have hnot := List.all_eq_true.mp hall c hmem
      rw [hdigit] at hnot
      exact Bool.false_ne_true hnot
  simp only [List.mem_cons, List.not_mem_nil, or_false, not_or] at hmarks
  obtain ⟨hquote, hlist, hobject, hnull, htrue, hfalse⟩ := hmarks
  have hword : word? .strict (c :: t) = none := by
    simp [word?, words, Ne.symm hnull, Ne.symm htrue, Ne.symm hfalse]
  rw [value_eq_scalar _ (by simp [hquote, hlist, hobject]), scalar, hword]
  simp only [hparts, hvalue]
  rfl

theorem value_text {n : Written} {tail rest : Text} {parts : NumberParts}
    (hparts : numberParts? (n.text ++ tail) = some (parts, rest)) (hvalue : parts.value .strict = .ok v)
    (level depth : Nat) : value .strict level (depth + 1) (n.text ++ tail) = .ok (v, rest) := by
  obtain ⟨c, more, htext, hc⟩ := head_text n
  rw [htext, List.cons_append] at hparts ⊢
  exact value_number hc hparts hvalue level depth

theorem value_integer {i : Int} (hi : -signedBound ≤ i ∧ i < unsignedBound) {rest : Text}
    (hrest : Closes rest) (level depth : Nat) :
    value .strict level (depth + 1) (integerText i ++ rest) = .ok (.int i, rest) := by
  have hparts := numberParts?_integer i hrest
  have hsign : Numeral.negateIf (decide (i < 0)) (natural (decimalDigits i.natAbs)) = i := by
    rw [Numeral.natural_decimalDigits, Numeral.negateIf]
    split <;> rename_i hnegative <;> simp only [decide_eq_true_eq] at hnegative <;> omega
  rw [text_decimalOfInt] at hparts ⊢
  refine value_text hparts ?_ level depth
  simp only [NumberParts.value, Option.isNone_none, Bool.and_self, if_true, hsign, if_pos hi]

theorem value_finite {negative : Bool} {mantissa : Nat} {exponent : Int}
    (h : Binary64.IsCanonical mantissa exponent) {rest : Text} (hrest : Closes rest) (level depth : Nat) :
    value .strict level (depth + 1)
        ((Binary64.shortest negative mantissa exponent).text writtenNumber ++ rest) =
      .ok (.float (.finite negative mantissa exponent), rest) := by
  have hplus : writtenNumber.plus = true := rfl
  obtain ⟨parts, hparts, hpointed, hnegative, hmagnitude⟩ :=
    numberParts?_decimal hplus (Binary64.shortest negative mantissa exponent) hrest
  have hvalue : parts.value .strict = .ok (.float (.finite negative mantissa exponent)) := by
    simp only [NumberParts.value, hpointed, Bool.false_eq_true, if_false,
      Binary64.ofDecimal_congr hnegative hmagnitude, Binary64.ofDecimal_shortest h]
  rw [Decimal.text_eq rfl] at hparts ⊢
  split
  · rename_i hexp
    rw [if_pos hexp] at hparts
    rw [Scaled.text, List.append_assoc] at hparts ⊢
    exact value_text hparts hvalue level depth
  · rename_i hexp
    rw [if_neg hexp] at hparts
    exact value_text hparts hvalue level depth

/-- `value` reads what is written for a scalar as the scalar. -/
theorem value_scalarOf (h : Storable v) {rest : Text} (hrest : Closes rest) (level depth : Nat) :
    value .strict level (depth + 1) (scalarOf v ++ rest) = .ok (v, rest) := by
  cases h with
  | null => exact value_eq_scalar .strict (by decide) level depth _
  | int hi =>
    rw [scalarOf_int hi]
    exact value_integer hi hrest level depth
  | float h => exact value_finite h hrest level depth
  | text t =>
    have hquote : scalarOf (.text t) ++ rest = '"' :: (t.flatMap escape ++ '"' :: rest) := by
      simp [scalarOf, scalarText, quote, Except.toOption]
    rw [hquote, value, string_flatMap]
    rfl

/-! ## The characters of a scalar -/

/-- The characters of ASCII that can be seen, and the space. -/
def IsPrintable (c : Char) : Prop := 32 ≤ c.toNat ∧ c.toNat < 127

instance (c : Char) : Decidable (IsPrintable c) := inferInstanceAs (Decidable (_ ∧ _))

theorem isPrintable_of_isAsciiDigit {c : Char} (h : isAsciiDigit c = true) : IsPrintable c := by
  have hrange := Numeral.lt_of_isAsciiDigit h
  unfold IsPrintable
  omega

theorem isPrintable_hexDigit (n : Nat) : IsPrintable (Text.hexDigit (n % 16)) := by
  have hall : ∀ n < 16, IsPrintable (Text.hexDigit n) := by decide
  exact hall _ (Nat.mod_lt _ (by decide))

/-- What `escape` writes for a character `c` is printable, unless it is `c`, and then `c` is no control
character. -/
theorem mem_escape {c d : Char} (h : d ∈ escape c) : IsPrintable d ∨ 32 ≤ c.toNat ∧ d = c := by
  have hpair : ∀ mark, IsPrintable mark → d ∈ ['\\', mark] → IsPrintable d := by
    intro mark hmark hd
    simp only [List.mem_cons, List.not_mem_nil, or_false] at hd
    rcases hd with rfl | rfl
    · decide
    · exact hmark
  unfold escape at h
  split at h
  · exact .inl (hpair '"' (by decide) h)
  · exact .inl (hpair '\\' (by decide) h)
  · exact .inl (hpair 'b' (by decide) h)
  · exact .inl (hpair 'f' (by decide) h)
  · exact .inl (hpair 'n' (by decide) h)
  · exact .inl (hpair 'r' (by decide) h)
  · exact .inl (hpair 't' (by decide) h)
  · split at h
    · rw [hex_four] at h
      simp only [List.cons_append, List.nil_append, List.mem_cons, List.not_mem_nil, or_false] at h
      rcases h with rfl | rfl | rfl | rfl | rfl | rfl
      · exact .inl (by decide)
      · exact .inl (by decide)
      all_goals exact .inl (isPrintable_hexDigit _)
    · rename_i hlow
      exact .inr ⟨by omega, List.mem_singleton.mp h⟩

/-- `quote` writes printable characters and those of its text. -/
theorem mem_quote {t : Text} {c : Char} (h : c ∈ quote t) : IsPrintable c ∨ 32 ≤ c.toNat ∧ c ∈ t := by
  simp only [quote, List.cons_append, List.mem_cons, List.mem_append, List.not_mem_nil, or_false] at h
  rcases h with rfl | h | rfl
  · exact .inl (by decide)
  · obtain ⟨d, hd, hc⟩ := List.mem_flatMap.mp h
    rcases mem_escape hc with hprintable | ⟨hlow, rfl⟩
    · exact .inl hprintable
    · exact .inr ⟨hlow, hd⟩
  · exact .inl (by decide)

theorem escape_of_le {c : Char} (hc : 127 ≤ c.toNat) : escape c = [c] := by
  unfold escape
  split <;> first
    | exact absurd hc (by decide)
    | exact if_neg (by omega)

/-- Characters beyond ASCII stand in a string as they are. -/
theorem mem_quote_of_le {t : Text} {c : Char} (hc : 127 ≤ c.toNat) (h : c ∈ t) : c ∈ quote t := by
  have hwritten : c ∈ t.flatMap escape :=
    List.mem_flatMap.mpr ⟨c, h, by rw [escape_of_le hc]; exact List.mem_singleton_self c⟩
  exact List.mem_cons_of_mem _ (List.mem_append_left _ hwritten)

theorem isPrintable_of_mem_written {n : Written} {c : Char} (hc : c ∈ n.text) : IsPrintable c := by
  rcases Written.mem_text hc with rfl | rfl | hdigit
  · decide
  · decide
  · exact isPrintable_of_isAsciiDigit hdigit

theorem isPrintable_of_mem_scaled {m : Scaled} {c : Char} (hc : c ∈ m.text) : IsPrintable c := by
  rcases Scaled.mem_text hc with hc | rfl | rfl | rfl | hdigit
  · exact isPrintable_of_mem_written hc
  · decide
  · decide
  · decide
  · exact isPrintable_of_isAsciiDigit hdigit

/-- A scalar is written with printable characters and those of its text. -/
theorem mem_scalarOf (h : Storable v) {c : Char} (hc : c ∈ scalarOf v) :
    IsPrintable c ∨ 32 ≤ c.toNat ∧ ∃ t ∈ stringsOf v, c ∈ t := by
  cases h with
  | null =>
    have hnull : (scalarOf .null).all (fun d => decide (IsPrintable d)) = true := by decide
    exact .inl (of_decide_eq_true (List.all_eq_true.mp hnull c hc))
  | int hi =>
    rw [scalarOf_int hi, text_decimalOfInt] at hc
    exact .inl (isPrintable_of_mem_written hc)
  | @float negative mantissa exponent _ =>
    have htext : c ∈ (Binary64.shortest negative mantissa exponent).text writtenNumber := hc
    rw [Decimal.text_eq rfl] at htext
    refine .inl ?_
    split at htext
    · exact isPrintable_of_mem_scaled htext
    · exact isPrintable_of_mem_written htext
  | text t =>
    rcases mem_quote (show c ∈ quote t from hc) with hprintable | ⟨hlow, hmem⟩
    · exact .inl hprintable
    · exact .inr ⟨hlow, t, List.mem_singleton_self t, hmem⟩

/-- The characters beyond ASCII of a scalar's text stand in what is written for it. -/
theorem mem_scalarOf_of_le {t : Text} (ht : t ∈ stringsOf v) {c : Char} (hc : 127 ≤ c.toNat) (h : c ∈ t) :
    c ∈ scalarOf v := by
  cases v with
  | text u =>
    obtain rfl := List.mem_singleton.mp ht
    exact mem_quote_of_le hc h
  | _ => exact absurd ht List.not_mem_nil

theorem head_written (n : Written) : ∃ c more, n.text = c :: more ∧ isSpace c = false := by
  obtain ⟨c, more, htext, hc⟩ := head_text n
  refine ⟨c, more, htext, ?_⟩
  rcases hc with rfl | hdigit
  · decide
  · by_contra hspace
    simp only [isSpace, Bool.not_eq_false, Bool.or_eq_true, decide_eq_true_eq] at hspace
    rcases hspace with ((rfl | rfl) | rfl) | rfl <;> exact absurd hdigit (by decide)

theorem head_decimal (d : Decimal) : ∃ c more, d.text writtenNumber = c :: more ∧ isSpace c = false := by
  rw [Decimal.text_eq rfl]
  split
  · obtain ⟨c, more, htext, hc⟩ := head_written (d.scaled writtenNumber).front
    exact ⟨c, _, by rw [Scaled.text, htext, List.cons_append], hc⟩
  · exact head_written _

/-- A scalar starts with no space, so that it is found where it is looked for. -/
theorem head_scalarOf (h : Storable v) : ∃ c more, scalarOf v = c :: more ∧ isSpace c = false := by
  cases h with
  | null => exact ⟨'n', _, rfl, by decide⟩
  | int hi =>
    rw [scalarOf_int hi, text_decimalOfInt]
    exact head_written _
  | float => exact head_decimal _
  | text t => exact ⟨'"', _, rfl, by decide⟩

theorem skipSpace_scalarOf (h : Storable v) (rest : Text) :
    skipSpace (scalarOf v ++ rest) = scalarOf v ++ rest := by
  obtain ⟨c, more, htext, hc⟩ := head_scalarOf h
  rw [htext, List.cons_append, skipSpace, List.dropWhile_cons_of_neg (by rw [hc]; exact Bool.false_ne_true)]

end PictureReport.Json
