import PictureReport.Proofs.Numerals.Grammar

/-!
# Numerals are read by their grammar

`integer` and `number?` read the texts of the grammar and no others, each as the number that it
writes (`integer_eq_ok_iff`, `number?_eq_some_iff`). What is read comes from a text of the grammar
because the text is cut where its digits end; a text of the grammar is read because what follows
its digits begins with no digit.
-/

namespace PictureReport

namespace Numeral

section Reading

variable {s t u w out rest : Text} {vs ws : List Nat} {negative : Bool} {last : Char}

/-! ## Integers -/

/-- Digits are written with digits and underscores alone. -/
theorem Digits.grouped_of_mem (h : Digits w vs) :
    ∀ c ∈ ascii w, (isAsciiDigit c || c = '_') = true := by
  have hdigit : ∀ {c v}, Digit.value? c = some v →
      (isAsciiDigit (plainChar c) || plainChar c = '_') = true := by
    intro c v hc
    rw [isAsciiDigit_plainChar hc, Bool.true_or]
  induction h with
  | last hc => exact List.forall_mem_singleton.mpr (hdigit hc)
  | next hc ht ih => exact List.forall_mem_cons.mpr ⟨hdigit hc, ih⟩
  | grouped hc ht ih =>
    exact List.forall_mem_cons.mpr ⟨hdigit hc, List.forall_mem_cons.mpr ⟨by decide, ih⟩⟩

/-- Digits begin with a digit. -/
theorem Digits.head (h : Digits w vs) : ∀ c ∈ (ascii w).head?, isAsciiDigit c = true := by
  intro c hc
  cases h with
  | last hv =>
    cases hc
    exact isAsciiDigit_plainChar hv
  | next hv ht =>
    cases hc
    exact isAsciiDigit_plainChar hv
  | grouped hv ht =>
    cases hc
    exact isAsciiDigit_plainChar hv

theorem Digits.ungroup (h : Digits w vs) (last : Char) :
    ungroup last (ascii w) = some (shownDigits vs) := by
  obtain ⟨d, hd, hrest⟩ := h.ungroup_append
  have hall := hrest last []
  rw [List.append_nil, ungroup_nil (ne_mark_of_isAsciiDigit hd (by decide)), Option.map_some,
    List.append_nil] at hall
  exact hall

/-- What is read as an integer is digits behind a sign, and there are not too many of them. -/
theorem exists_of_integer {i : Int} (h : integer t = .ok i) (hsigned : signed (plain t) = (negative, u)) :
    ∃ digits, ungroup ' ' u = some digits ∧ digits ≠ [] ∧ (∀ c ∈ digits, isAsciiDigit c = true) ∧
      digits.length ≤ maxDigits ∧ i = negateIf negative (natural digits) := by
  unfold integer at h
  rw [hsigned] at h
  dsimp only at h
  split at h
  · cases h
  · rename_i digits hrun
    split at h
    · cases h
    · rename_i hcount
      split at h
      · cases h
      · rename_i hwhole
        simp only [Bool.or_eq_true, List.isEmpty_iff, decide_eq_true_eq, not_or] at hwhole
        -- the run of digits and underscores is all that stands behind the sign
        have hall : u.takeWhile (fun c => isAsciiDigit c || c = '_') = u :=
          (List.takeWhile_prefix _).eq_of_length_le (by omega)
        rw [hall] at hrun
        refine ⟨digits, hrun, hwhole.1, fun c hc => ?_, by omega, (Except.ok.inj h).symm⟩
        obtain ⟨hmem, hne⟩ := mem_of_mem_ungroup hrun hc
        have hgrouped := List.takeWhile_eq_self_iff.mp hall c hmem
        simpa [hne] using hgrouped

/-- `integer` reads a text exactly if it `WritesInteger`. -/
theorem integer_eq_ok_iff (ht : Text.IsTrimmed t) {i : Int} :
    integer t = .ok i ↔ WritesInteger t i := by
  constructor
  · intro h
    obtain ⟨s, u, negative, rfl, hs, hsigned⟩ := exists_sign t
    rw [← plain_of_isTrimmed ht] at hsigned
    obtain ⟨digits, hrun, hne, hall, hcount, rfl⟩ := exists_of_integer h hsigned
    obtain ⟨vs, hu, rfl⟩ := exists_digits ⟨by decide, by decide⟩ hrun hne hall
    rw [natural_shownDigits hu.areDigits]
    rw [length_shownDigits] at hcount
    exact .digits hs hu hcount
  · intro h
    cases h with
    | @digits s w negative vs hs hw hcount =>
      have hsigned : signed (ascii (s ++ w)) = (negative, ascii w) := by
        rw [ascii_append, hs.ascii]
        exact signed_sign hs fun c hc => not_sign_of_isAsciiDigit (hw.head c hc)
      have hrun : (ascii w).takeWhile (fun c => isAsciiDigit c || c = '_') = ascii w :=
        List.takeWhile_eq_self_iff.mpr hw.grouped_of_mem
      unfold integer
      rw [plain_of_isTrimmed ht, hsigned]
      simp only [hrun, hw.ungroup ' ', length_shownDigits]
      rw [if_neg (by omega), isEmpty_shownDigits hw.ne_nil, natural_shownDigits hw.areDigits,
        if_neg (by simp)]

/-! ## Exponents -/

/-- The sign at the front of a text can be told when the underscores are gone. -/
theorem exists_sign_behind (hlast : Opens last) (h : ungroup last (ascii t) = some out) :
    ∃ s u negative before rest, t = s ++ u ∧ Sign s negative ∧ signed out = (negative, rest) ∧
      Opens before ∧ ungroup before (ascii u) = some rest := by
  -- where the first character is no sign, nothing is taken and the text stays as it is
  have habsent : (∀ c ∈ out.head?, c ≠ '-' ∧ c ≠ '+') →
      ∃ s u negative before rest, t = s ++ u ∧ Sign s negative ∧ signed out = (negative, rest) ∧
        Opens before ∧ ungroup before (ascii u) = some rest := by
    intro hhead
    exact ⟨[], t, false, last, out, rfl, .absent, signed_sign .absent hhead, hlast, h⟩
  cases t with
  | nil =>
    apply habsent
    rw [ascii_nil, ungroup_nil hlast.1] at h
    obtain rfl := Option.some.inj h
    intro c hc
    cases hc
  | cons c t =>
    rcases ungroup_cases h with ⟨-, hdigit, -⟩ | ⟨v, more, hv, rfl, -⟩ | ⟨-, hleft⟩
    · rw [hlast.2] at hdigit
      cases hdigit
    · apply habsent
      intro d hd
      cases hd
      exact not_sign_of_isAsciiDigit (isAsciiDigit_ofValue (Digit.value?_lt hv))
    · cases hleft with
      | @more _ _ more hx hmore =>
        by_cases hminus : c = '-'
        · subst hminus
          exact ⟨['-'], t, true, '-', more, rfl, .minus, rfl, hx, hmore⟩
        · by_cases hplus : c = '+'
          · subst hplus
            exact ⟨['+'], t, false, '+', more, rfl, .plus, rfl, hx, hmore⟩
          · apply habsent
            intro d hd
            cases hd
            exact ⟨mt (plainChar_eq_mark (by decide)).mp hminus,
              mt (plainChar_eq_mark (by decide)).mp hplus⟩

/-- What `exponent?` reads is an `Exponent`. -/
theorem Left.exponent (h : Left u rest) {e : Int} (he : exponent? rest = some e) : Exponent u e := by
  cases h with
  | nothing =>
    obtain rfl := Option.some.inj he
    exact .absent
  | @more x t out hx hmore =>
    rw [exponent?] at he
    split at he
    · rename_i hmark
      have hletter : x = 'e' ∨ x = 'E' := by
        simpa only [Bool.or_eq_true, decide_eq_true_eq, plainChar_eq_mark (by decide : 'e' ∈ marks),
          plainChar_eq_mark (by decide : 'E' ∈ marks)] using hmark
      obtain ⟨s, u, negative, before, digits, rfl, hs, hsigned, hbefore, hdigits⟩ :=
        exists_sign_behind hx hmore
      rw [hsigned] at he
      dsimp only at he
      split at he
      · cases he
      · rename_i hall
        simp only [Bool.or_eq_true, List.isEmpty_iff, Bool.not_eq_true', not_or,
          Bool.not_eq_false, List.all_eq_true] at hall
        obtain ⟨vs, hu, rfl⟩ := exists_digits hbefore hdigits hall.1 hall.2
        obtain rfl := Option.some.inj he
        rw [natural_shownDigits hu.areDigits]
        exact .given hletter hs hu
    · cases he

/-- The text of an exponent in ASCII, without underscores, which are gone behind any character. -/
theorem Exponent.ungroup {e : Int} (h : Exponent u e) :
    ∃ rest, exponent? rest = some e ∧ (∀ c ∈ rest.head?, isAsciiDigit c = false ∧ c ≠ '.') ∧
      ∀ last, last ≠ '_' → ungroup last (ascii u) = some rest := by
  cases h with
  | absent =>
    refine ⟨[], rfl, ?_, fun last hlast => ?_⟩
    · intro c hc
      cases hc
    · rw [ascii_nil, ungroup_nil hlast]
  | @given mark s t negative vs hmark hs ht =>
    have hsigned : signed (s ++ shownDigits vs) = (negative, shownDigits vs) := by
      refine signed_sign hs fun c hc => not_sign_of_isAsciiDigit ?_
      exact isAsciiDigit_of_mem_shownDigits ht.areDigits (List.mem_of_head? hc)
    have hall : (shownDigits vs).all isAsciiDigit = true :=
      List.all_eq_true.mpr fun c hc => isAsciiDigit_of_mem_shownDigits ht.areDigits hc
    have hrun : ∀ last, last ≠ '_' → ungroup last (s ++ ascii t) = some (s ++ shownDigits vs) := by
      intro last hlast
      cases hs with
      | absent => exact ht.ungroup last
      | plus =>
        show Numeral.ungroup last ('+' :: ascii t) = _
        rw [ungroup_of_ne (by decide) hlast, ht.ungroup]
        rfl
      | minus =>
        show Numeral.ungroup last ('-' :: ascii t) = _
        rw [ungroup_of_ne (by decide) hlast, ht.ungroup]
        rfl
    have hplain : ∀ {m : Char}, m = 'e' ∨ m = 'E' →
        plainChar m = m ∧ m ≠ '_' ∧ m ≠ '.' ∧ isAsciiDigit m = false := by
      rintro m (rfl | rfl) <;> decide
    obtain ⟨hsame, hunderscore, hpoint, hdigit⟩ := hplain hmark
    refine ⟨mark :: (s ++ shownDigits vs), ?_, ?_, fun last hlast => ?_⟩
    · rw [exponent?, if_pos (by simpa using hmark), hsigned]
      dsimp only
      rw [isEmpty_shownDigits ht.ne_nil, hall, if_neg (by simp), natural_shownDigits ht.areDigits]
    · intro c hc
      cases hc
      exact ⟨hdigit, hpoint⟩
    · rw [ascii_cons, ascii_append, hs.ascii, hsame, ungroup_of_ne hunderscore hlast,
        hrun mark hunderscore]
      rfl

/-! ## Decimals -/

/-- The decimal of the digits before and behind a point, of which there must be one. -/
def ofRuns (negative : Bool) (vs ws : List Nat) (rest : Text) : Option Decimal :=
  if vs ++ ws = [] then none
  else (exponent? rest).map fun e => ⟨negative, value (vs ++ ws), e - ws.length⟩

theorem ofRuns_eq (hvs : AreDigits vs) (hws : AreDigits ws) :
    (if (shownDigits vs).isEmpty && (shownDigits ws).isEmpty then none
      else (exponent? rest).map fun e =>
        (⟨negative, natural (shownDigits vs ++ shownDigits ws), e - (shownDigits ws).length⟩ : Decimal)) =
      ofRuns negative vs ws rest := by
  have happend : shownDigits vs ++ shownDigits ws = shownDigits (vs ++ ws) := List.map_append.symm
  have hempty : ((shownDigits vs).isEmpty && (shownDigits ws).isEmpty) = true ↔ vs ++ ws = [] := by
    simp [shownDigits]
  have hboth : AreDigits (vs ++ ws) := List.forall_mem_append.mpr ⟨hvs, hws⟩
  unfold ofRuns
  rw [happend, natural_shownDigits hboth, length_shownDigits]
  simp only [hempty]

theorem decimal?_whole (hvs : AreDigits vs)
    (hrest : ∀ c ∈ rest.head?, isAsciiDigit c = false ∧ c ≠ '.') :
    decimal? negative (shownDigits vs ++ rest) = ofRuns negative vs [] rest := by
  have hdigit : ∀ c ∈ rest.head?, isAsciiDigit c = false := fun c hc => (hrest c hc).1
  rw [← ofRuns_eq hvs (List.forall_mem_nil _), decimal?, takeWhile_shownDigits hvs hdigit,
    dropWhile_shownDigits hvs hdigit]
  split
  rename_i fraction more hmatch
  split at hmatch
  · exact absurd rfl (hrest '.' rfl).2
  · cases hmatch
    rfl

theorem decimal?_pointed (hvs : AreDigits vs) (hws : AreDigits ws)
    (hrest : ∀ c ∈ rest.head?, isAsciiDigit c = false) :
    decimal? negative (shownDigits vs ++ '.' :: (shownDigits ws ++ rest)) =
      ofRuns negative vs ws rest := by
  have hpoint : ∀ c ∈ ('.' :: (shownDigits ws ++ rest)).head?, isAsciiDigit c = false := by
    intro c hc
    cases hc
    decide
  rw [← ofRuns_eq hvs hws, decimal?, takeWhile_shownDigits hvs hpoint,
    dropWhile_shownDigits hvs hpoint]
  simp only [takeWhile_shownDigits hws hrest, dropWhile_shownDigits hws hrest]

theorem ofRuns_eq_some {d : Decimal} (h : ofRuns negative vs ws rest = some d) :
    vs ++ ws ≠ [] ∧ ∃ e, exponent? rest = some e ∧ d = ⟨negative, value (vs ++ ws), e - ws.length⟩ := by
  unfold ofRuns at h
  split at h
  · cases h
  · rename_i hne
    obtain ⟨e, he, rfl⟩ := Option.map_eq_some_iff.mp h
    exact ⟨hne, e, he, rfl⟩

/-- Digits on at least one side of a point are `Pointed`. -/
theorem pointed_of_runs (ht : Run t vs) (hu : Run u ws) (hne : vs ++ ws ≠ []) :
    Pointed (t ++ '.' :: u) (vs ++ ws) ws.length := by
  rcases ht with ht | ⟨rfl, rfl⟩
  · rcases hu with hu | ⟨rfl, rfl⟩
    · exact .among ht hu
    · rw [List.append_nil]
      exact .behind ht
  · rcases hu with hu | ⟨rfl, rfl⟩
    · exact .before hu
    · exact absurd rfl hne

/-- What `decimal?` reads is digits with a point and an exponent. -/
theorem exists_of_decimal? (h : ungroup ' ' (ascii t) = some out) {d : Decimal}
    (hd : decimal? negative out = some d) :
    ∃ a b vs places e, t = a ++ b ∧ Pointed a vs places ∧ Exponent b e ∧
      d = ⟨negative, value vs, e - places⟩ := by
  obtain ⟨w, vs, hrun, u, rest, rfl, rfl, hleft⟩ := exists_run ⟨by decide, by decide⟩ h
  -- without a point behind the first run, the digits of that run are all there are
  have hwhole : (∀ c ∈ rest.head?, c ≠ '.') →
      ∃ a b vs places e, w ++ u = a ++ b ∧ Pointed a vs places ∧ Exponent b e ∧
        d = ⟨negative, value vs, e - places⟩ := by
    intro hpoint
    rw [decimal?_whole hrun.areDigits fun c hc => ⟨hleft.head c hc, hpoint c hc⟩] at hd
    obtain ⟨hne, e, he, rfl⟩ := ofRuns_eq_some hd
    rw [List.append_nil] at hne
    exact ⟨w, u, vs, 0, e, rfl, .whole (hrun.digits hne), hleft.exponent he, by rw [List.append_nil]; rfl⟩
  cases hleft with
  | nothing =>
    apply hwhole
    intro c hc
    cases hc
  | @more x u more hx hmore =>
    by_cases hpoint : x = '.'
    · subst hpoint
      obtain ⟨v, ws, hbehind, b, rest, rfl, rfl, hleft⟩ := exists_run hx hmore
      change decimal? negative (shownDigits vs ++ '.' :: (shownDigits ws ++ rest)) = some d at hd
      rw [decimal?_pointed hrun.areDigits hbehind.areDigits hleft.head] at hd
      obtain ⟨hne, e, he, rfl⟩ := ofRuns_eq_some hd
      refine ⟨w ++ '.' :: v, b, vs ++ ws, ws.length, e, ?_, ?_, hleft.exponent he, rfl⟩
      · rw [List.append_assoc, List.cons_append]
      · exact pointed_of_runs hrun hbehind hne
    · apply hwhole
      intro c hc
      cases hc
      exact mt (plainChar_eq_mark (by decide)).mp hpoint

/-- A run of digits loses its underscores behind any character but an underscore. -/
theorem Run.ungroup_append (h : Run w vs) (hlast : last ≠ '_') :
    ∃ d, d ≠ '_' ∧ ∀ rest, ungroup last (ascii w ++ rest) = (ungroup d rest).map (shownDigits vs ++ ·) := by
  rcases h with h | ⟨rfl, rfl⟩
  · obtain ⟨d, hd, hrest⟩ := h.ungroup_append
    exact ⟨d, ne_mark_of_isAsciiDigit hd (by decide), hrest last⟩
  · exact ⟨last, hlast, fun rest => Option.map_id'.symm⟩

theorem decimal?_of_runs (negative : Bool) (hw : Run w vs) (ht : Run t ws) (hne : vs ++ ws ≠ []) {e : Int}
    (hu : Exponent u e) :
    ∃ out, ungroup ' ' (ascii (w ++ '.' :: t ++ u)) = some out ∧
      decimal? negative out = some ⟨negative, value (vs ++ ws), e - ws.length⟩ := by
  obtain ⟨rest, he, hhead, hrest⟩ := hu.ungroup
  obtain ⟨d, hd, hfront⟩ := hw.ungroup_append (by decide : ' ' ≠ '_')
  obtain ⟨d', hd', hback⟩ := ht.ungroup_append (by decide : '.' ≠ '_')
  refine ⟨shownDigits vs ++ '.' :: (shownDigits ws ++ rest), ?_, ?_⟩
  · have hsplit : ascii (w ++ '.' :: t ++ u) = ascii w ++ '.' :: (ascii t ++ ascii u) := by
      rw [ascii_append, ascii_append, List.append_assoc]
      rfl
    rw [hsplit, hfront, ungroup_of_ne (by decide) hd, hback, hrest d' hd']
    rfl
  · rw [decimal?_pointed hw.areDigits ht.areDigits fun c hc => (hhead c hc).1, ofRuns, if_neg hne, he]
    rfl

/-- Digits with a point and an exponent are read as the decimal that they write. -/
theorem Pointed.decimal? {places : Nat} (ht : Pointed t vs places) {e : Int} (hu : Exponent u e)
    (negative : Bool) :
    ∃ out, ungroup ' ' (ascii (t ++ u)) = some out ∧
      decimal? negative out = some ⟨negative, value vs, e - places⟩ := by
  cases ht with
  | whole ht =>
    obtain ⟨rest, he, hhead, hrest⟩ := hu.ungroup
    obtain ⟨d, hd, hfront⟩ := Run.ungroup_append (.inl ht) (by decide : ' ' ≠ '_')
    refine ⟨shownDigits vs ++ rest, ?_, ?_⟩
    · rw [ascii_append, hfront, hrest d hd]
      rfl
    · rw [decimal?_whole ht.areDigits hhead, ofRuns, List.append_nil, if_neg ht.ne_nil, he]
      rfl
  | behind ht =>
    have hne : vs ++ [] ≠ [] := by
      rw [List.append_nil]
      exact ht.ne_nil
    have hread := decimal?_of_runs negative (.inl ht) (.inr ⟨rfl, rfl⟩) hne hu
    rw [List.append_nil] at hread
    exact hread
  | before ht => exact decimal?_of_runs negative (.inr ⟨rfl, rfl⟩) (.inl ht) ht.ne_nil hu
  | @among _ _ vs ws ht hu' =>
    have hne : vs ++ ws ≠ [] := List.append_ne_nil_of_left_ne_nil ht.ne_nil ws
    exact decimal?_of_runs negative (.inl ht) (.inl hu') hne hu

/-! ## Double-precision numbers -/

/-- Digits with a point begin with a digit or the point. -/
theorem Pointed.head {places : Nat} (h : Pointed t vs places) :
    ∃ c, (ascii t).head? = some c ∧ (isAsciiDigit c = true ∨ c = '.') := by
  have hdigits : ∀ {t u : Text} {vs}, Digits t vs →
      ∃ c, (ascii (t ++ u)).head? = some c ∧ (isAsciiDigit c = true ∨ c = '.') := by
    intro t u vs ht
    cases t with
    | nil => cases ht
    | cons c t => exact ⟨plainChar c, rfl, .inl (ht.head _ rfl)⟩
  cases h with
  | whole ht =>
    rw [← List.append_nil t]
    exact hdigits ht
  | behind ht => exact hdigits ht
  | before ht => exact ⟨'.', rfl, .inr rfl⟩
  | among ht => exact hdigits ht

/-- The words for what is no finite number. -/
def numberWords : List Text := ["inf".toList, "infinity".toList, "nan".toList]

theorem letters_of_mem_numberWords {word : Text} (h : word ∈ numberWords) : ∀ x ∈ word, x ∈ letters := by
  have hall : numberWords.all (fun word => word.all (· ∈ letters)) = true := by decide
  have hword := List.all_eq_true.mp hall word h
  intro x hx
  exact of_decide_eq_true (List.all_eq_true.mp hword x hx)

/-- A text in ASCII that is one of `numberWords` has only their letters. -/
theorem toLower_mem_letters (h : t.map Char.toLower ∈ numberWords) :
    ∀ c ∈ ascii t, c.toLower ∈ letters := by
  have hletters := letters_of_mem_numberWords h
  have hascii : (ascii t).map Char.toLower = t.map Char.toLower := (toLower_ascii hletters t).mpr rfl
  intro c hc
  apply hletters
  rw [← hascii]
  exact List.mem_map_of_mem hc

theorem signed_word (hs : Sign s negative) (h : t.map Char.toLower ∈ numberWords) :
    signed (ascii (s ++ t)) = (negative, ascii t) := by
  have hsigns : '-'.toLower ∉ letters ∧ '+'.toLower ∉ letters := by decide
  rw [ascii_append, hs.ascii]
  refine signed_sign hs fun c hc => ⟨?_, ?_⟩
  · rintro rfl
    exact hsigns.1 (toLower_mem_letters h _ (List.mem_of_head? hc))
  · rintro rfl
    exact hsigns.2 (toLower_mem_letters h _ (List.mem_of_head? hc))

/-- Digits with a point are none of `numberWords`, whatever follows them. -/
theorem Pointed.not_word {places : Nat} (h : Pointed t vs places) (u : Text) :
    (t ++ u).map Char.toLower ∉ numberWords := by
  obtain ⟨c, hc, hfront⟩ := h.head
  intro hword
  have hmem : c ∈ ascii (t ++ u) := by
    rw [ascii_append]
    exact List.mem_append_left _ (List.mem_of_head? hc)
  have hletter := toLower_mem_letters hword c hmem
  rcases hfront with hdigit | rfl
  · exact toLower_not_mem_letters hdigit hletter
  · exact absurd hletter (by decide)

theorem Pointed.signed {places : Nat} (h : Pointed t vs places) (hs : Sign s negative) (u : Text) :
    signed (ascii (s ++ (t ++ u))) = (negative, ascii (t ++ u)) := by
  obtain ⟨c, hc, hfront⟩ := h.head
  rw [ascii_append, hs.ascii]
  refine signed_sign hs fun d hd => ?_
  rw [ascii_append, List.head?_append, hc] at hd
  obtain rfl := Option.some.inj hd
  rcases hfront with hdigit | rfl
  · exact not_sign_of_isAsciiDigit hdigit
  · decide

/-- `number?` reads a text exactly if it `WritesNumber`. -/
theorem number?_eq_some_iff (ht : Text.IsTrimmed t) {x : Binary64} :
    number? t = some x ↔ WritesNumber t x := by
  have hinf := toLower_ascii (letters_of_mem_numberWords (by decide : "inf".toList ∈ numberWords))
  have hinfinity :=
    toLower_ascii (letters_of_mem_numberWords (by decide : "infinity".toList ∈ numberWords))
  have hnan := toLower_ascii (letters_of_mem_numberWords (by decide : "nan".toList ∈ numberWords))
  constructor
  · intro h
    obtain ⟨s, u, negative, rfl, hs, hsigned⟩ := exists_sign t
    unfold number? at h
    rw [plain_of_isTrimmed ht, hsigned] at h
    simp only [hinf, hinfinity, hnan] at h
    split at h
    · rename_i hword
      obtain rfl := Option.some.inj h
      exact .infinite hs hword
    · split at h
      · rename_i hword
        obtain rfl := Option.some.inj h
        exact .nan hs hword
      · obtain ⟨out, hout, hmore⟩ := Option.bind_eq_some_iff.mp h
        obtain ⟨d, hd, hx⟩ := Option.bind_eq_some_iff.mp hmore
        obtain rfl := Option.some.inj hx
        obtain ⟨a, b, vs, places, e, rfl, ha, hb, rfl⟩ := exists_of_decimal? hout hd
        exact .decimal hs ha hb
  · intro h
    unfold number?
    rw [plain_of_isTrimmed ht]
    cases h with
    | @infinite s word negative hs hword =>
      have hmem : word.map Char.toLower ∈ numberWords := by
        rcases hword with hword | hword <;> rw [hword] <;> decide
      rw [signed_word hs hmem]
      simp only [hinf, hinfinity, if_pos hword]
    | @nan s word negative hs hword =>
      have hmem : word.map Char.toLower ∈ numberWords := by
        rw [hword]
        decide
      rw [signed_word hs hmem]
      simp only [hinf, hinfinity, hnan, hword]
      rfl
    | @decimal s t u negative vs places e hs hpointed hexponent =>
      have hword := hpointed.not_word u
      simp only [numberWords, List.mem_cons, List.not_mem_nil, or_false, not_or] at hword
      obtain ⟨out, hout, hdecimal⟩ := hpointed.decimal? hexponent negative
      rw [hpointed.signed hs u]
      simp only [hinf, hinfinity, hnan, hword, or_self, if_false, hout]
      show (decimal? negative out).bind _ = _
      rw [hdecimal]
      rfl

end Reading

end Numeral

end PictureReport
