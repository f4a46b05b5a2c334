import PictureReport.Proofs.Integers

/-!
# The grammar of numerals

Which texts are numerals, and which number each of them writes, without the way in which they are
read: a sign, digits of any script with single underscores between them, a point, an exponent, or
one of the words for what is no finite number.

The readers work on a text in ASCII from which the underscores are taken, so what they find has to
be found again in the text itself: `exists_run` cuts a text where its first digits end.
-/

namespace PictureReport

namespace Numeral

/-! ## The grammar -/

/-- A sign, which may be missing.  Is it a minus sign? -/
inductive Sign : Text → Bool → Prop
  | absent : Sign [] false
  | plus : Sign ['+'] false
  | minus : Sign ['-'] true

/-- Digits of any script with the values `vs`; a single underscore may stand between two of them. -/
inductive Digits : Text → List Nat → Prop
  | last {c : Char} {v : Nat} (hc : Digit.value? c = some v) : Digits [c] [v]
  | next {c : Char} {v : Nat} {t : Text} {vs : List Nat} (hc : Digit.value? c = some v)
      (ht : Digits t vs) : Digits (c :: t) (v :: vs)
  | grouped {c : Char} {v : Nat} {t : Text} {vs : List Nat} (hc : Digit.value? c = some v)
      (ht : Digits t vs) : Digits (c :: '_' :: t) (v :: vs)

/-- The number with the digits `vs`, the most significant first. -/
def value (vs : List Nat) : Nat := vs.foldl (fun n v => 10 * n + v) 0

/-- Digits with at most one point before, among or behind them, the digits' values, and how many of them stand
behind the point. -/
inductive Pointed : Text → List Nat → Nat → Prop
  | whole {t : Text} {vs : List Nat} (ht : Digits t vs) : Pointed t vs 0
  | behind {t : Text} {vs : List Nat} (ht : Digits t vs) : Pointed (t ++ ['.']) vs 0
  | before {u : Text} {ws : List Nat} (hu : Digits u ws) : Pointed ('.' :: u) ws ws.length
  | among {t u : Text} {vs ws : List Nat} (ht : Digits t vs) (hu : Digits u ws) :
      Pointed (t ++ '.' :: u) (vs ++ ws) ws.length

/-- An exponent, which may be missing. -/
inductive Exponent : Text → Int → Prop
  | absent : Exponent [] 0
  | given {mark : Char} {s t : Text} {negative : Bool} {vs : List Nat}
      (hmark : mark = 'e' ∨ mark = 'E') (hs : Sign s negative) (ht : Digits t vs) :
      Exponent (mark :: (s ++ t)) (negateIf negative (value vs))

/-- The text writes an integer, with no more than `maxDigits` digits. -/
inductive WritesInteger : Text → Int → Prop
  | digits {s t : Text} {negative : Bool} {vs : List Nat} (hs : Sign s negative) (ht : Digits t vs)
      (hcount : vs.length ≤ maxDigits) : WritesInteger (s ++ t) (negateIf negative (value vs))

/-- The text writes a double-precision number.  The words are written in any case. -/
inductive WritesNumber : Text → Binary64 → Prop
  | infinite {s word : Text} {negative : Bool} (hs : Sign s negative)
      (hword : word.map Char.toLower = "inf".toList ∨ word.map Char.toLower = "infinity".toList) :
      WritesNumber (s ++ word) (.infinite negative)
  | nan {s word : Text} {negative : Bool} (hs : Sign s negative)
      (hword : word.map Char.toLower = "nan".toList) : WritesNumber (s ++ word) .nan
  | decimal {s t u : Text} {negative : Bool} {vs : List Nat} {places : Nat} {e : Int}
      (hs : Sign s negative) (ht : Pointed t vs places) (hu : Exponent u e) :
      WritesNumber (s ++ (t ++ u)) (Binary64.ofDecimal ⟨negative, value vs, e - places⟩)

/-! ## Characters in ASCII -/

/-- The text in ASCII, as `plainChar` turns each of its characters. -/
def ascii (t : Text) : Text := t.map plainChar

@[simp] theorem ascii_nil : ascii [] = [] := rfl

@[simp] theorem ascii_cons (c : Char) (t : Text) : ascii (c :: t) = plainChar c :: ascii t := rfl

@[simp] theorem ascii_append (t u : Text) : ascii (t ++ u) = ascii t ++ ascii u := List.map_append

/-- The runs of digits other than those of ASCII are beyond it, and no blank stands among them. -/
theorem zeros_apart : ∀ first ∈ Digit.zeros, first = 48 ∨
    0x660 ≤ first ∧ (first + 10 ≤ 0x1680 ∨ 0x1680 < first ∧ first + 10 ≤ 0x2000 ∨ 0x3000 < first) := by
  decide

/-- A digit of any script becomes the ASCII digit with its value. -/
theorem plainChar_of_value? {c : Char} {v : Nat} (h : Digit.value? c = some v) :
    plainChar c = Digit.ofValue v := by
  obtain ⟨first, hfirst, hv⟩ := Option.map_eq_some_iff.mp h
  have hrange := List.find?_some hfirst
  simp only [Bool.and_eq_true, decide_eq_true_eq] at hrange
  have hapart := zeros_apart first (List.mem_of_find?_eq_some hfirst)
  unfold plainChar
  by_cases hc : c.toNat < 127
  · have hascii : 48 + v = c.toNat := by omega
    rw [if_pos hc, Digit.ofValue, hascii, Char.ofNat_toNat]
  · have hblank : isBlank c = false := by
      simp only [isBlank, Bool.or_eq_false_iff, Bool.and_eq_false_iff, decide_eq_false_iff_not,
        beq_eq_false_iff_ne]
      omega
    rw [if_neg hc, hblank, if_neg Bool.false_ne_true, h]

theorem isAsciiDigit_ofValue {v : Nat} (h : v < 10) : isAsciiDigit (Digit.ofValue v) = true := by
  have hall : ∀ v < 10, isAsciiDigit (Digit.ofValue v) = true := by decide
  exact hall v h

theorem isAsciiDigit_plainChar {c : Char} {v : Nat} (h : Digit.value? c = some v) :
    isAsciiDigit (plainChar c) = true := by
  rw [plainChar_of_value? h]
  exact isAsciiDigit_ofValue (Digit.value?_lt h)

theorem toNat_ofValue {v : Nat} (h : v < 10) : (Digit.ofValue v).toNat - 48 = v := by
  have hall : ∀ v < 10, (Digit.ofValue v).toNat - 48 = v := by decide
  exact hall v h

/-- A character that is written in ASCII is the same there, a space, a digit or a question mark. -/
theorem plainChar_cases (c : Char) :
    (c.toNat < 127 ∧ plainChar c = c) ∨ (127 ≤ c.toNat ∧ isBlank c = true ∧ plainChar c = ' ') ∨
      (127 ≤ c.toNat ∧ ∃ v, Digit.value? c = some v ∧ plainChar c = Digit.ofValue v) ∨
        (127 ≤ c.toNat ∧ plainChar c = '?') := by
  by_cases hc : c.toNat < 127
  · exact .inl ⟨hc, if_pos hc⟩
  · cases hb : isBlank c with
    | true => exact .inr (.inl ⟨by omega, rfl, by simp [plainChar, hc, hb]⟩)
    | false =>
      cases hv : Digit.value? c with
      | some v => exact .inr (.inr (.inl ⟨by omega, v, rfl, plainChar_of_value? hv⟩))
      | none => exact .inr (.inr (.inr ⟨by omega, by simp [plainChar, hc, hb, hv]⟩))

/-- Only digits become ASCII digits. -/
theorem value?_of_isAsciiDigit_plainChar {c : Char} (h : isAsciiDigit (plainChar c) = true) :
    ∃ v, Digit.value? c = some v := by
  rcases plainChar_cases c with ⟨-, hc⟩ | ⟨-, -, hc⟩ | ⟨-, v, hv, -⟩ | ⟨-, hc⟩
  · rw [hc] at h
    exact ⟨_, Digit.value?_of_isAsciiDigit h⟩
  · rw [hc] at h
    exact absurd h (by decide)
  · exact ⟨v, hv⟩
  · rw [hc] at h
    exact absurd h (by decide)

/-- The characters of numerals that are no digits. -/
def marks : Text := ['_', '.', 'e', 'E', '+', '-']

theorem isAsciiDigit_of_mem_marks {x : Char} (hx : x ∈ marks) : isAsciiDigit x = false := by
  have hall : marks.all (fun x => !isAsciiDigit x) = true := by decide
  simpa using List.all_eq_true.mp hall x hx

theorem ne_mark_of_isAsciiDigit {c x : Char} (hc : isAsciiDigit c = true) (hx : x ∈ marks) : c ≠ x := by
  rintro rfl
  rw [isAsciiDigit_of_mem_marks hx] at hc
  cases hc

theorem not_sign_of_isAsciiDigit {c : Char} (hc : isAsciiDigit c = true) : c ≠ '-' ∧ c ≠ '+' :=
  ⟨ne_mark_of_isAsciiDigit hc (by decide), ne_mark_of_isAsciiDigit hc (by decide)⟩

/-- A character becomes one of the `marks` only if it is that mark. -/
theorem plainChar_eq_mark {c x : Char} (hx : x ∈ marks) : plainChar c = x ↔ c = x := by
  have hmarks : marks.all (fun x => plainChar x = x ∧ x ≠ ' ' ∧ x ≠ '?') = true := by decide
  obtain ⟨hsame, hspace, hunknown⟩ := of_decide_eq_true (List.all_eq_true.mp hmarks x hx)
  constructor
  · intro h
    rcases plainChar_cases c with ⟨-, hc⟩ | ⟨-, -, hc⟩ | ⟨-, v, hv, -⟩ | ⟨-, hc⟩
    · rw [← hc, h]
    · exact absurd (h.symm.trans hc) hspace
    · exact absurd h (ne_mark_of_isAsciiDigit (isAsciiDigit_plainChar hv) hx)
    · exact absurd (h.symm.trans hc) hunknown
  · rintro rfl
    exact hsame

/-- The letters of the words. -/
def letters : Text := ['i', 'n', 'f', 't', 'y', 'a']

theorem toLower_of_le {c : Char} (h : 127 ≤ c.toNat) : c.toLower = c := by
  have hupper : ¬ (c.val ≥ 'A'.val ∧ c.val ≤ 'Z'.val) := by
    rintro ⟨-, hle⟩
    have hle' : c.toNat ≤ 90 := hle
    omega
  unfold Char.toLower
  exact dif_neg hupper

theorem toLower_not_mem_letters {c : Char} (h : isAsciiDigit c = true) : c.toLower ∉ letters := by
  obtain ⟨hlow, hhigh⟩ := lt_of_isAsciiDigit h
  have hall : ∀ n < 58, (Char.ofNat n).toLower ∉ letters := by decide
  rw [← Char.ofNat_toNat c]
  exact hall c.toNat (by omega)

/-- A character becomes one of the `letters` only if it is that letter, in either case. -/
theorem toLower_plainChar {c x : Char} (hx : x ∈ letters) :
    (plainChar c).toLower = x ↔ c.toLower = x := by
  have hletters : letters.all (fun x => x.toNat < 127) = true := by decide
  have hlt : x.toNat < 127 := of_decide_eq_true (List.all_eq_true.mp hletters x hx)
  have hne : 127 ≤ c.toNat → c.toLower ≠ x := by
    rintro hc rfl
    rw [toLower_of_le hc] at hlt
    omega
  have hother : ∀ {d : Char}, d.toLower ∉ letters → d.toLower ≠ x := by
    rintro d hd rfl
    exact hd hx
  rcases plainChar_cases c with ⟨-, hc⟩ | ⟨hle, -, hc⟩ | ⟨hle, v, hv, hc⟩ | ⟨hle, hc⟩
  · rw [hc]
  · rw [hc]
    exact iff_of_false (hother (by decide)) (hne hle)
  · rw [hc]
    have hdigit := toLower_not_mem_letters (isAsciiDigit_ofValue (Digit.value?_lt hv))
    exact iff_of_false (hother hdigit) (hne hle)
  · rw [hc]
    exact iff_of_false (hother (by decide)) (hne hle)

theorem toLower_ascii {word : Text} (hword : ∀ x ∈ word, x ∈ letters) (t : Text) :
    (ascii t).map Char.toLower = word ↔ t.map Char.toLower = word := by
  induction t generalizing word with
  | nil => rfl
  | cons c rest ih =>
    cases word with
    | nil => simp
    | cons x word =>
      rw [List.forall_mem_cons] at hword
      simp only [ascii_cons, List.map_cons, List.cons.injEq, toLower_plainChar hword.1, ih hword.2]

theorem isMargin_plainChar {c : Char} (h : isMargin (plainChar c) = true) : isBlank c = true := by
  rcases plainChar_cases c with ⟨-, hc⟩ | ⟨-, hblank, -⟩ | ⟨-, v, hv, hc⟩ | ⟨-, hc⟩
  · rw [hc] at h
    simp only [isMargin, Bool.or_eq_true, Bool.and_eq_true, decide_eq_true_eq] at h
    rcases h with h | rfl
    · simp [isBlank, h]
    · decide
  · exact hblank
  · rw [hc, isMargin_of_isAsciiDigit (isAsciiDigit_ofValue (Digit.value?_lt hv))] at h
    cases h
  · rw [hc] at h
    exact absurd h (by decide)

/-- A text without blanks around it has none around it in ASCII. -/
theorem plain_of_isTrimmed {t : Text} (h : Text.IsTrimmed t) : plain t = ascii t := by
  obtain ⟨hfirst, hlast⟩ := h
  have hinner : ∀ c, isBlank c = false → ¬ isMargin (plainChar c) = true := by
    intro c hc hmargin
    rw [isMargin_plainChar hmargin] at hc
    cases hc
  have hfront : (ascii t).dropWhile isMargin = ascii t := by
    cases t with
    | nil => rfl
    | cons c rest => exact List.dropWhile_cons_of_neg (hinner c (hfirst c rfl))
  unfold plain
  show Text.dropEnd isMargin ((ascii t).dropWhile isMargin) = ascii t
  rw [hfront]
  refine List.rdropWhile_eq_self_iff.mpr fun hne => ?_
  have ht : t ≠ [] := by
    rintro rfl
    exact hne rfl
  have hget : (ascii t).getLast hne = plainChar (t.getLast ht) := List.getLast_map hne
  rw [hget]
  exact hinner _ (hlast _ (List.getLast?_eq_some_getLast ht))

/-! ## Signs -/

section Reading

variable {s t u w out rest : Text} {vs ws : List Nat} {negative : Bool} {last : Char}

/-- The sign at the front of a text is read off the text in ASCII. -/
theorem exists_sign (t : Text) :
    ∃ s u negative, t = s ++ u ∧ Sign s negative ∧ signed (ascii t) = (negative, ascii u) := by
  cases t with
  | nil => exact ⟨[], [], false, rfl, .absent, rfl⟩
  | cons c rest =>
    by_cases hminus : c = '-'
    · subst hminus
      exact ⟨['-'], rest, true, rfl, .minus, rfl⟩
    · by_cases hplus : c = '+'
      · subst hplus
        exact ⟨['+'], rest, false, rfl, .plus, rfl⟩
      · refine ⟨[], c :: rest, false, rfl, .absent, ?_⟩
        rw [ascii_cons]
        unfold signed
        split
        · rename_i he
          exact absurd ((plainChar_eq_mark (by decide)).mp (List.cons.inj he).1) hminus
        · rename_i he
          exact absurd ((plainChar_eq_mark (by decide)).mp (List.cons.inj he).1) hplus
        · rfl

/-- `signed` takes the sign from a text that goes on without a sign. -/
theorem signed_sign (hs : Sign s negative) (hrest : ∀ c ∈ rest.head?, c ≠ '-' ∧ c ≠ '+') :
    signed (s ++ rest) = (negative, rest) := by
  cases hs with
  | plus => rfl
  | minus => rfl
  | absent =>
    show signed rest = (false, rest)
    unfold signed
    split
    · exact absurd rfl (hrest '-' rfl).1
    · exact absurd rfl (hrest '+' rfl).2
    · rfl

theorem Sign.ascii (hs : Sign s negative) : ascii s = s := by
  cases hs <;> rfl

/-! ## Digits and underscores -/

/-- The digits with the values `vs` in ASCII. -/
def shownDigits (vs : List Nat) : Text := vs.map Digit.ofValue

/-- All values are those of digits. -/
def AreDigits (vs : List Nat) : Prop := ∀ v ∈ vs, v < 10

theorem Digits.areDigits (h : Digits w vs) : AreDigits vs := by
  induction h with
  | last hc =>
    intro v hv
    rw [List.mem_singleton.mp hv]
    exact Digit.value?_lt hc
  | next hc ht ih => exact List.forall_mem_cons.mpr ⟨Digit.value?_lt hc, ih⟩
  | grouped hc ht ih => exact List.forall_mem_cons.mpr ⟨Digit.value?_lt hc, ih⟩

theorem Digits.ne_nil (h : Digits w vs) : vs ≠ [] := by
  cases h <;> exact List.cons_ne_nil _ _

theorem isAsciiDigit_of_mem_shownDigits (hvs : AreDigits vs) {c : Char} (hc : c ∈ shownDigits vs) :
    isAsciiDigit c = true := by
  obtain ⟨v, hv, rfl⟩ := List.mem_map.mp hc
  exact isAsciiDigit_ofValue (hvs v hv)

theorem length_shownDigits (vs : List Nat) : (shownDigits vs).length = vs.length := List.length_map _

theorem isEmpty_shownDigits (hne : vs ≠ []) : (shownDigits vs).isEmpty = false := by
  rw [List.isEmpty_eq_false_iff]
  exact mt List.map_eq_nil_iff.mp hne

theorem natural_shownDigits (hvs : AreDigits vs) : natural (shownDigits vs) = value vs := by
  unfold natural shownDigits value
  rw [List.foldl_map]
  refine List.foldl_ext _ _ 0 fun n v hv => ?_
  rw [toNat_ofValue (hvs v hv)]

theorem takeWhile_shownDigits (hvs : AreDigits vs) (hrest : ∀ c ∈ rest.head?, isAsciiDigit c = false) :
    (shownDigits vs ++ rest).takeWhile isAsciiDigit = shownDigits vs := by
  rw [List.takeWhile_append_of_pos fun c hc => isAsciiDigit_of_mem_shownDigits hvs hc]
  cases rest with
  | nil => exact List.append_nil _
  | cons c rest =>
    rw [List.takeWhile_cons_of_neg, List.append_nil]
    rw [hrest c rfl]
    exact Bool.false_ne_true

theorem dropWhile_shownDigits (hvs : AreDigits vs) (hrest : ∀ c ∈ rest.head?, isAsciiDigit c = false) :
    (shownDigits vs ++ rest).dropWhile isAsciiDigit = rest := by
  rw [List.dropWhile_append_of_pos fun c hc => isAsciiDigit_of_mem_shownDigits hvs hc]
  cases rest with
  | nil => rfl
  | cons c rest =>
    rw [List.dropWhile_cons_of_neg]
    rw [hrest c rfl]
    exact Bool.false_ne_true

theorem ungroup_nil (hlast : last ≠ '_') : ungroup last [] = some [] := if_neg hlast

theorem ungroup_of_ne {c : Char} (hc : c ≠ '_') (hlast : last ≠ '_') (t : Text) :
    ungroup last (c :: t) = (ungroup c t).map (c :: ·) := by
  simp [ungroup, hc, hlast]

theorem ungroup_ofValue {v : Nat} (hv : v < 10) (last : Char) (t : Text) :
    ungroup last (Digit.ofValue v :: t) = (ungroup (Digit.ofValue v) t).map (Digit.ofValue v :: ·) := by
  have hdigit := isAsciiDigit_ofValue hv
  have hc := ne_mark_of_isAsciiDigit hdigit (by decide : '_' ∈ marks)
  simp [ungroup, hc, hdigit]

/-- `ungroup` leaves no underscore and adds no other character. -/
theorem mem_of_mem_ungroup (h : ungroup last t = some out) {c : Char} (hc : c ∈ out) :
    c ∈ t ∧ c ≠ '_' := by
  induction t generalizing last out with
  | nil =>
    unfold ungroup at h
    split at h
    · cases h
    · obtain rfl := Option.some.inj h
      cases hc
  | cons d t ih =>
    unfold ungroup at h
    split at h
    · split at h
      · obtain ⟨hmem, hne⟩ := ih h hc
        exact ⟨List.mem_cons_of_mem _ hmem, hne⟩
      · cases h
    · rename_i hd
      split at h
      · cases h
      · obtain ⟨more, hmore, rfl⟩ := Option.map_eq_some_iff.mp h
        rcases List.mem_cons.mp hc with rfl | hc
        · exact ⟨List.mem_cons_self, hd⟩
        · obtain ⟨hmem, hne⟩ := ih hmore hc
          exact ⟨List.mem_cons_of_mem _ hmem, hne⟩

/-- The digits lose their underscores, and what follows them is read behind a digit. -/
theorem Digits.ungroup_append (h : Digits w vs) : ∃ d, isAsciiDigit d = true ∧ ∀ last rest,
    ungroup last (ascii w ++ rest) = (ungroup d rest).map (shownDigits vs ++ ·) := by
  induction h with
  | @last c v hc =>
    refine ⟨Digit.ofValue v, isAsciiDigit_ofValue (Digit.value?_lt hc), fun last rest => ?_⟩
    show ungroup last (plainChar c :: rest) = _
    rw [plainChar_of_value? hc, ungroup_ofValue (Digit.value?_lt hc)]
    rfl
  | @next c v t vs hc ht ih =>
    obtain ⟨d, hd, hrest⟩ := ih
    refine ⟨d, hd, fun last rest => ?_⟩
    rw [ascii_cons, List.cons_append, plainChar_of_value? hc, ungroup_ofValue (Digit.value?_lt hc),
      hrest, Option.map_map]
    rfl
  | @grouped c v t vs hc ht ih =>
    obtain ⟨d, hd, hrest⟩ := ih
    refine ⟨d, hd, fun last rest => ?_⟩
    have hunderscore : ungroup (Digit.ofValue v) ('_' :: (ascii t ++ rest)) =
        ungroup '_' (ascii t ++ rest) := by
      simp [ungroup, isAsciiDigit_ofValue (Digit.value?_lt hc)]
    show ungroup last (plainChar c :: '_' :: (ascii t ++ rest)) = _
    rw [plainChar_of_value? hc, ungroup_ofValue (Digit.value?_lt hc), hunderscore, hrest,
      Option.map_map]
    rfl

/-- A character behind which a numeral, a point, an exponent or a sign begins. -/
def Opens (last : Char) : Prop := last ≠ '_' ∧ isAsciiDigit last = false

/-- What follows the digits at the front of a text, and the same in ASCII without its underscores. -/
inductive Left : Text → Text → Prop
  | nothing : Left [] []
  | more {x : Char} {t out : Text} (hx : Opens (plainChar x))
      (h : ungroup (plainChar x) (ascii t) = some out) : Left (x :: t) (plainChar x :: out)

theorem Left.head (h : Left u rest) : ∀ c ∈ rest.head?, isAsciiDigit c = false := by
  intro c hc
  cases h with
  | nothing => cases hc
  | more hx =>
    cases hc
    exact hx.2

theorem Left.eq_nil (h : Left u []) : u = [] := by
  cases h
  rfl

/-- The first character of a text from which the underscores can be taken: an underscore behind a digit, a
digit, or another character. -/
theorem ungroup_cases {c : Char} (h : ungroup last (ascii (c :: t)) = some out) :
    (c = '_' ∧ isAsciiDigit last = true ∧ ungroup '_' (ascii t) = some out) ∨
      (∃ v more, Digit.value? c = some v ∧ out = Digit.ofValue v :: more ∧
        ungroup (Digit.ofValue v) (ascii t) = some more) ∨
      (last ≠ '_' ∧ Left (c :: t) out) := by
  rw [ascii_cons, ungroup] at h
  by_cases hc : plainChar c = '_'
  · rw [if_pos hc, hc] at h
    cases hlast : isAsciiDigit last with
    | true =>
      rw [hlast, if_pos rfl] at h
      exact .inl ⟨(plainChar_eq_mark (by decide)).mp hc, rfl, h⟩
    | false =>
      rw [hlast, if_neg Bool.false_ne_true] at h
      cases h
  · rw [if_neg hc] at h
    cases hdigit : isAsciiDigit (plainChar c) with
    | true =>
      rw [hdigit, if_neg (by simp)] at h
      obtain ⟨more, hmore, rfl⟩ := Option.map_eq_some_iff.mp h
      obtain ⟨v, hv⟩ := value?_of_isAsciiDigit_plainChar hdigit
      rw [plainChar_of_value? hv] at hmore ⊢
      exact .inr (.inl ⟨v, more, hv, rfl, hmore⟩)
    | false =>
      by_cases hlast : last = '_'
      · rw [if_pos (by simp [hlast, hdigit])] at h
        cases h
      · rw [if_neg (by simp [hlast])] at h
        obtain ⟨more, hmore, rfl⟩ := Option.map_eq_some_iff.mp h
        exact .inr (.inr ⟨hlast, .more ⟨hc, hdigit⟩ hmore⟩)

/-- A text is cut behind `w`, where `out` is cut behind the digits `vs`. -/
def Cut (w : Text) (vs : List Nat) (t out : Text) : Prop :=
  ∃ u rest, t = w ++ u ∧ out = shownDigits vs ++ rest ∧ Left u rest

theorem Left.cut (h : Left t out) : Cut [] [] t out := ⟨t, out, rfl, rfl, h⟩

theorem Cut.digit (h : Cut w vs t out) (c : Char) (v : Nat) :
    Cut (c :: w) (v :: vs) (c :: t) (Digit.ofValue v :: out) := by
  obtain ⟨u, rest, rfl, rfl, hleft⟩ := h
  exact ⟨u, rest, rfl, rfl, hleft⟩

theorem Cut.underscore (h : Cut w vs t out) : Cut ('_' :: w) vs ('_' :: t) out := by
  obtain ⟨u, rest, rfl, rfl, hleft⟩ := h
  exact ⟨u, rest, rfl, rfl, hleft⟩

/-- Behind a digit a text is `Cut` where the digits end; behind an underscore it begins with them.  By
induction on the text, for both at once: a digit may lead to an underscore, which leads to a digit. -/
theorem exists_cut (t : Text) :
    (∀ {last out}, isAsciiDigit last = true → ungroup last (ascii t) = some out →
      ∃ w vs, Cut w vs t out ∧
        ∀ {c v}, Digit.value? c = some v → Digits (c :: w) (v :: vs)) ∧
    (∀ {out}, ungroup '_' (ascii t) = some out → ∃ w vs, Cut w vs t out ∧ Digits w vs) := by
  induction t with
  | nil =>
    constructor
    · intro last out hlast h
      rw [ascii_nil, ungroup_nil (ne_mark_of_isAsciiDigit hlast (by decide))] at h
      obtain rfl := Option.some.inj h
      exact ⟨[], [], Left.nothing.cut, fun hc => .last hc⟩
    · intro out h
      exact absurd h (by simp [ungroup])
  | cons c t ih =>
    obtain ⟨hbehind, hgrouped⟩ := ih
    have hdigit : ∀ {v more}, Digit.value? c = some v →
        ungroup (Digit.ofValue v) (ascii t) = some more →
        ∃ w vs, Cut w vs (c :: t) (Digit.ofValue v :: more) ∧ Digits w vs ∧
          ∀ {d u}, Digit.value? d = some u → Digits (d :: w) (u :: vs) := by
      intro v more hv hmore
      obtain ⟨w, vs, hcut, hw⟩ := hbehind (isAsciiDigit_ofValue (Digit.value?_lt hv)) hmore
      exact ⟨c :: w, v :: vs, hcut.digit c v, hw hv, fun hd => .next hd (hw hv)⟩
    constructor
    · intro last out hlast h
      rcases ungroup_cases h with ⟨rfl, -, hmore⟩ | ⟨v, more, hv, rfl, hmore⟩ | ⟨-, hleft⟩
      · obtain ⟨w, vs, hcut, hw⟩ := hgrouped hmore
        exact ⟨'_' :: w, vs, hcut.underscore, fun hd => .grouped hd hw⟩
      · obtain ⟨w, vs, hcut, -, hw⟩ := hdigit hv hmore
        exact ⟨w, vs, hcut, hw⟩
      · exact ⟨[], [], hleft.cut, fun hd => .last hd⟩
    · intro out h
      rcases ungroup_cases h with ⟨-, hlast, -⟩ | ⟨v, more, hv, rfl, hmore⟩ | ⟨hlast, -⟩
      · exact absurd hlast (by decide)
      · obtain ⟨w, vs, hcut, hw, -⟩ := hdigit hv hmore
        exact ⟨w, vs, hcut, hw⟩
      · exact absurd rfl hlast

/-- `Digits` or nothing. -/
def Run (w : Text) (vs : List Nat) : Prop := Digits w vs ∨ w = [] ∧ vs = []

theorem Run.areDigits (h : Run w vs) : AreDigits vs := by
  rcases h with h | ⟨-, rfl⟩
  · exact h.areDigits
  · exact List.forall_mem_nil _

theorem Run.digits (h : Run w vs) (hne : vs ≠ []) : Digits w vs :=
  h.resolve_right fun hnil => hne hnil.2

/-- A text that begins anew is `Cut` where the digits at its front end. -/
theorem exists_run (hlast : Opens last) (h : ungroup last (ascii t) = some out) :
    ∃ w vs, Run w vs ∧ Cut w vs t out := by
  cases t with
  | nil =>
    rw [ascii_nil, ungroup_nil hlast.1] at h
    obtain rfl := Option.some.inj h
    exact ⟨[], [], .inr ⟨rfl, rfl⟩, Left.nothing.cut⟩
  | cons c t =>
    rcases ungroup_cases h with ⟨-, hdigit, -⟩ | ⟨v, more, hv, rfl, hmore⟩ | ⟨-, hleft⟩
    · rw [hlast.2] at hdigit
      cases hdigit
    · have hdigit := isAsciiDigit_ofValue (Digit.value?_lt hv)
      obtain ⟨w, vs, hcut, hw⟩ := (exists_cut t).1 hdigit hmore
      exact ⟨c :: w, v :: vs, .inl (hw hv), hcut.digit c v⟩
    · exact ⟨[], [], .inr ⟨rfl, rfl⟩, hleft.cut⟩

/-- A text that is all digits in ASCII writes these digits. -/
theorem exists_digits (hlast : Opens last) (h : ungroup last (ascii t) = some out) (hne : out ≠ [])
    (hall : ∀ c ∈ out, isAsciiDigit c = true) : ∃ vs, Digits t vs ∧ out = shownDigits vs := by
  obtain ⟨w, vs, hrun, u, rest, rfl, rfl, hleft⟩ := exists_run hlast h
  obtain rfl : rest = [] := by
    cases rest with
    | nil => rfl
    | cons c rest =>
      have hdigit := hall c (List.mem_append_right _ List.mem_cons_self)
      rw [hleft.head c rfl] at hdigit
      cases hdigit
  obtain rfl := hleft.eq_nil
  rw [List.append_nil] at hne ⊢
  have hvs : vs ≠ [] := by
    rintro rfl
    exact hne rfl
  exact ⟨vs, hrun.digits hvs, List.append_nil _⟩

end Reading

end Numeral

end PictureReport
