import PictureReport.Proofs.Ends
import PictureReport.Proofs.Json.Records

/-!
# The strict codec

`Codec.strict` is lawful (`Codec.strict_lawful`).  That it reads what it writes is the matter of
`read_objectLine` and `read_objectList`; here are the characters that it writes, and the texts that it refuses.
Each reader takes a front of the text at hand, and behind that front no string is open (`Takes`).
-/

namespace PictureReport

namespace Json

open Numeral (isAsciiDigit)

/-! ## What is read ends outside of strings -/

/-- A reader that leaves `rest` of `t` takes a front that opens no string without closing it. -/
def Takes (t rest : Text) : Prop := ∃ front, t = front ++ rest ∧ scan .outside front = .outside

section Reading

variable {dialect : Dialect} {t rest more found : Text} {c : Char}

theorem Takes.rfl : Takes t t := ⟨[], by simp, by rfl⟩

theorem Takes.trans (h : Takes t more) (hmore : Takes more rest) : Takes t rest := by
  obtain ⟨front, rfl, hfront⟩ := h
  obtain ⟨next, rfl, hnext⟩ := hmore
  exact ⟨front ++ next, (List.append_assoc _ _ _).symm, by rw [scan_append, hfront, hnext]⟩

/-- The text is one of ASCII without quotes. -/
def Unquoted (t : Text) : Prop := (t.all fun c => c != '"' && decide (c.toNat < 128)) = true

instance (t : Text) : Decidable (Unquoted t) := inferInstanceAs (Decidable (_ = true))

theorem unquoted_iff : Unquoted t ↔ ∀ c ∈ t, c ≠ '"' ∧ c.toNat < 128 := by simp [Unquoted]

theorem scan_unquoted (h : Unquoted t) : scan .outside t = .outside := by
  rw [unquoted_iff] at h
  induction t with
  | nil => rfl
  | cons c t ih =>
    obtain ⟨hc, ht⟩ := List.forall_mem_cons.mp h
    rw [scan_cons, step_outside hc.1 hc.2]
    exact ih ht

theorem takes_unquoted (h : Unquoted t) (rest : Text) : Takes (t ++ rest) rest := ⟨t, rfl, scan_unquoted h⟩

theorem takes_mark (hmark : Unquoted [c]) (h : Takes t rest) : Takes (c :: t) rest :=
  (takes_unquoted hmark t).trans h

theorem takes_skipSpace (t : Text) : Takes t (skipSpace t) := by
  have hspace : Unquoted (t.takeWhile isSpace) := by
    rw [unquoted_iff]
    intro c hc
    have hc := List.mem_takeWhile_imp hc
    simp only [isSpace, Bool.or_eq_true, decide_eq_true_eq] at hc
    rcases hc with ((rfl | rfl) | rfl) | rfl <;> decide
  have htakes := takes_unquoted hspace (skipSpace t)
  rwa [skipSpace, List.takeWhile_append_dropWhile] at htakes

/-! ### Strings -/

theorem step_hex {n : Nat} (h : hexValue? c = some n) : Phase.step .string c = .string := by
  have hquote : c ≠ '"' := by
    rintro rfl
    cases h
  have hescape : c ≠ '\\' := by
    rintro rfl
    cases h
  rw [Phase.step]
  · exact hquote
  · exact hescape

theorem step_escaped {d : Char} (h : escaped? c = some d) : Phase.step .escape c = .string := by
  have hascii : c.toNat < 128 := by
    unfold escaped? at h
    split at h
    all_goals first
      | decide
      | cases h
  exact if_pos hascii

/-- The four digits of an escape stay within the string. -/
theorem scan_hexUnit {a b c d : Char} {n : Nat} (h : hexUnit? a b c d = some n) :
    scan .string [a, b, c, d] = .string := by
  simp only [hexUnit?, bind, Option.bind_eq_some_iff] at h
  obtain ⟨_, ha, _, hb, _, hc, _, hd, -⟩ := h
  simp only [scan, List.foldl_cons, List.foldl_nil, step_hex ha, step_hex hb, step_hex hc, step_hex hd]

/-- Behind a front of the string that leaves it open, the string goes on to its closing quote. -/
theorem exists_closing (front : Text) (hfront : scan .string front = .string)
    (h : ∃ next, t = next ++ rest ∧ scan .string next = .outside) :
    ∃ whole, front ++ t = whole ++ rest ∧ scan .string whole = .outside := by
  obtain ⟨next, rfl, hnext⟩ := h
  exact ⟨front ++ next, (List.append_assoc _ _ _).symm, by rw [scan_append, hfront, hnext]⟩

theorem scan_units {codes : List Nat} (h : units t = some (codes, rest)) :
    ∃ front, t = front ++ rest ∧ scan .string front = .outside := by
  fun_induction units t generalizing codes with
  | case1 => cases h
  | case2 rest =>
    cases h
    exact ⟨['"'], rfl, rfl⟩
  | case3 a b c d others ih =>
    simp only [bind, Option.bind_eq_some_iff] at h
    obtain ⟨_, hunit, ⟨codes, left⟩, hothers, h⟩ := h
    cases h
    refine exists_closing ('\\' :: 'u' :: [a, b, c, d]) ?_ (ih hothers)
    exact scan_hexUnit hunit
  | case4 c others hu ih =>
    simp only [bind, Option.bind_eq_some_iff] at h
    obtain ⟨_, hunit, ⟨codes, left⟩, hothers, h⟩ := h
    cases h
    refine exists_closing ['\\', c] ?_ (ih hothers)
    exact step_escaped hunit
  | case5 c others hc => cases h
  | case6 c others hquote hu hescape hc ih =>
    simp only [bind, Option.bind_eq_some_iff] at h
    obtain ⟨⟨codes, left⟩, hothers, h⟩ := h
    cases h
    have hslash : c ≠ '\\' := by
      rintro rfl
      -- A backslash at the end of a text has nothing to escape.
      cases others with
      | nil => cases hothers
      | cons d others => exact hescape d others rfl rfl
    refine exists_closing [c] ?_ (ih hothers)
    rw [scan_cons, Phase.step]
    · rfl
    · exact hquote
    · exact hslash

/-- Behind its opening quote, a string closes. -/
theorem takes_string {chars : Text} (h : string dialect t = .ok (chars, rest)) : Takes ('"' :: t) rest := by
  unfold string at h
  split at h
  · cases h
  · rename_i codes left hunits
    split at h
    · cases h
    · cases h
      obtain ⟨front, rfl, hfront⟩ := scan_units hunits
      exact ⟨'"' :: front, rfl, hfront⟩

/-! ### Words and numbers -/

theorem unquoted_digits (h : ∀ c ∈ t, isAsciiDigit c = true) : Unquoted t := by
  rw [unquoted_iff]
  intro c hc
  have hrange := Numeral.lt_of_isAsciiDigit (h c hc)
  refine ⟨?_, by omega⟩
  rintro rfl
  exact absurd (h _ hc) (by decide)

theorem takes_digits (h : digits? t = some (found, rest)) : Takes t rest := by
  unfold digits? at h
  dsimp only at h
  split at h
  · cases h
  · cases h
    have hdigits : Unquoted (t.takeWhile isAsciiDigit) := unquoted_digits fun _ => List.mem_takeWhile_imp
    have htakes := takes_unquoted hdigits (t.dropWhile isAsciiDigit)
    rwa [List.takeWhile_append_dropWhile] at htakes

theorem takes_fraction {fraction : Option Text} (h : fraction? t = some (fraction, rest)) : Takes t rest := by
  unfold fraction? at h
  split at h
  · obtain ⟨⟨digits, left⟩, hdigits, hfound⟩ := Option.map_eq_some_iff.mp h
    cases hfound
    exact takes_mark (by decide) (takes_digits hdigits)
  · cases h
    exact .rfl

theorem takes_exponent {exponent : Option (Char × Text)} (h : exponentPart? t = some (exponent, rest)) :
    Takes t rest := by
  unfold exponentPart? at h
  split at h
  · cases h
    exact .rfl
  · rename_i mark more
    split at h
    · rename_i hmark
      have hunquoted : Unquoted [mark] := by
        simp only [Bool.or_eq_true, decide_eq_true_eq] at hmark
        rcases hmark with rfl | rfl <;> decide
      refine takes_mark hunquoted ?_
      split at h
      all_goals
        obtain ⟨⟨digits, left⟩, hdigits, hfound⟩ := Option.map_eq_some_iff.mp h
        cases hfound
      · exact takes_mark (by decide) (takes_digits hdigits)
      · exact takes_mark (by decide) (takes_digits hdigits)
      · exact takes_digits hdigits
    · cases h
      exact .rfl

theorem takes_unsigned (negative : Bool) {parts : NumberParts}
    (h : unsignedParts? negative t = some (parts, rest)) : Takes t rest := by
  simp only [unsignedParts?, bind, Option.bind_eq_some_iff] at h
  obtain ⟨⟨whole, behindWhole⟩, hwhole, h⟩ := h
  split at h
  · cases h
  · obtain ⟨⟨fraction, behindFraction⟩, hfraction, h⟩ := Option.bind_eq_some_iff.mp h
    obtain ⟨⟨exponent, behindExponent⟩, hexponent, hparts⟩ := Option.bind_eq_some_iff.mp h
    cases hparts
    exact ((takes_digits hwhole).trans (takes_fraction hfraction)).trans (takes_exponent hexponent)

theorem takes_number {parts : NumberParts} (h : numberParts? t = some (parts, rest)) : Takes t rest := by
  cases t with
  | nil => cases h
  | cons c t =>
    by_cases hminus : c = '-'
    · subst hminus
      exact takes_mark (by decide) (takes_unsigned true h)
    · rw [numberParts?_of_ne hminus] at h
      exact takes_unsigned false h

theorem takes_word {v : Value} (h : word? dialect t = some (v, rest)) : Takes t rest := by
  obtain ⟨⟨word, value⟩, hmem, hfound⟩ := List.exists_of_findSome?_eq_some h
  have hword : Unquoted word := by
    have hall : (words dialect).all (fun entry => decide (Unquoted entry.1)) = true := by
      cases dialect <;> decide
    exact of_decide_eq_true (List.all_eq_true.mp hall _ hmem)
  obtain ⟨hbegins, hrest⟩ := Option.ite_none_right_eq_some.mp hfound
  cases hrest
  obtain ⟨more, rfl⟩ := List.isPrefixOf_iff_prefix.mp hbegins
  rw [List.drop_left]
  exact takes_unquoted hword more

theorem takes_scalar {v : Value} (h : scalar dialect t = .ok (v, rest)) : Takes t rest := by
  unfold scalar at h
  split at h
  · rename_i hword
    cases h
    exact takes_word hword
  · split at h
    · cases h
    · rename_i parts left hparts
      cases hvalue : parts.value dialect with
      | error refusal =>
        rw [hvalue] at h
        cases h
      | ok value =>
        rw [hvalue] at h
        cases h
        exact takes_number hparts

/-! ### Lists and objects -/

/-- What is read of items at a depth takes a front of the text. -/
def ItemsTake (dialect : Dialect) (depth : Nat) : Prop :=
  ∀ {level t found rest}, items dialect level depth t = .ok (found, rest) → Takes t rest

def EntriesTake (dialect : Dialect) (depth : Nat) : Prop :=
  ∀ {level t found rest}, entries dialect level depth t = .ok (found, rest) → Takes t rest

def ValueTakes (dialect : Dialect) (depth : Nat) : Prop :=
  ∀ {level t v rest}, value dialect level depth t = .ok (v, rest) → Takes t rest

variable {depth : Nat}

theorem value_takes (hitems : ItemsTake dialect depth) (hentries : EntriesTake dialect depth) :
    ValueTakes dialect (depth + 1) := by
  intro level t v rest h
  unfold value at h
  dsimp only at h
  split at h
  · -- the first character tells a string, a list or an object; what else there is has no strings
    obtain ⟨⟨chars, left⟩, hstring, hrest⟩ := bind_eq_ok.mp h
    cases hrest
    exact takes_string hstring
  · obtain ⟨deeper, -, h⟩ := bind_eq_ok.mp h
    refine takes_mark (by decide) ((takes_skipSpace _).trans ?_)
    split at h
    · rename_i hclosed
      cases h
      rw [hclosed]
      exact takes_mark (by decide) .rfl
    · obtain ⟨⟨found, left⟩, hfound, hrest⟩ := bind_eq_ok.mp h
      cases hrest
      exact hitems hfound
  · obtain ⟨deeper, -, h⟩ := bind_eq_ok.mp h
    refine takes_mark (by decide) ((takes_skipSpace _).trans ?_)
    split at h
    · rename_i hclosed
      cases h
      rw [hclosed]
      exact takes_mark (by decide) .rfl
    · obtain ⟨⟨found, left⟩, hfound, hrest⟩ := bind_eq_ok.mp h
      cases hrest
      exact hentries hfound
  · exact takes_scalar h

theorem items_take (hvalue : ValueTakes dialect depth) (hitems : ItemsTake dialect depth) :
    ItemsTake dialect (depth + 1) := by
  intro level t found rest h
  rw [items] at h
  obtain ⟨⟨item, left⟩, hitem, h⟩ := bind_eq_ok.mp h
  dsimp only at h
  refine (takes_skipSpace t).trans ((hvalue hitem).trans ((takes_skipSpace left).trans ?_))
  split at h
  · rename_i hleft
    cases h
    rw [hleft]
    exact takes_mark (by decide) .rfl
  · rename_i hleft
    obtain ⟨⟨others, last⟩, hothers, hrest⟩ := bind_eq_ok.mp h
    cases hrest
    rw [hleft]
    exact takes_mark (by decide) (hitems hothers)
  · cases h

theorem entries_take (hvalue : ValueTakes dialect depth) (hentries : EntriesTake dialect depth) :
    EntriesTake dialect (depth + 1) := by
  intro level t found rest h
  rw [entries] at h
  refine (takes_skipSpace t).trans ?_
  split at h
  · rename_i hquote
    rw [hquote]
    obtain ⟨⟨key, left⟩, hkey, h⟩ := bind_eq_ok.mp h
    dsimp only at h
    refine (takes_string hkey).trans ((takes_skipSpace left).trans ?_)
    split at h
    · rename_i hcolon
      rw [hcolon]
      obtain ⟨⟨item, last⟩, hitem, h⟩ := bind_eq_ok.mp h
      dsimp only at h
      refine takes_mark (by decide) ((takes_skipSpace _).trans ((hvalue hitem).trans
        ((takes_skipSpace last).trans ?_)))
      split at h
      · rename_i hlast
        cases h
        rw [hlast]
        exact takes_mark (by decide) .rfl
      · rename_i hlast
        obtain ⟨⟨others, end'⟩, hothers, hrest⟩ := bind_eq_ok.mp h
        cases hrest
        rw [hlast]
        exact takes_mark (by decide) (hentries hothers)
      · cases h
    · cases h
  · cases h

/-- Each of the three readers takes a front of the text (`Takes`).  By induction on the depth, a step into a
value for each of them. -/
theorem takes_of_depth (dialect : Dialect) (depth : Nat) :
    ValueTakes dialect depth ∧ ItemsTake dialect depth ∧ EntriesTake dialect depth := by
  induction depth with
  | zero =>
    refine ⟨?_, ?_, ?_⟩ <;> intro level t found rest h
    · rw [value] at h
      cases h
    · rw [items] at h
      cases h
    · rw [entries] at h
      cases h
  | succ depth ih =>
    obtain ⟨hvalue, hitems, hentries⟩ := ih
    exact ⟨value_takes hitems hentries, items_take hvalue hitems, entries_take hvalue hentries⟩

/-- In a text that is read no string is left open. -/
theorem scan_of_read {v : Value} (h : read dialect t = .ok v) : scan .outside t = .outside := by
  obtain ⟨⟨found, rest⟩, hfound, h⟩ := bind_eq_ok.mp h
  dsimp only at h
  split at h
  · rename_i hrest
    have hvalue := (takes_of_depth dialect _).1 hfound
    obtain ⟨front, ht, hscan⟩ := ((takes_skipSpace t).trans hvalue).trans (takes_skipSpace rest)
    rw [List.isEmpty_iff.mp hrest, List.append_nil] at ht
    rw [ht]
    exact hscan
  · cases h

/-! ### Blank texts -/

theorem visible_of_digits (h : digits? t = some (found, rest)) : ∃ c ∈ t, isBlank c = false := by
  unfold digits? at h
  dsimp only at h
  split at h
  · cases h
  · rename_i hfound
    obtain ⟨c, hc⟩ := List.exists_mem_of_ne_nil _ (mt List.isEmpty_iff.mpr hfound)
    exact ⟨c, (List.takeWhile_sublist _).subset hc,
      Numeral.isBlank_of_isAsciiDigit (List.mem_takeWhile_imp hc)⟩

/-- A word or number has something that can be seen. -/
theorem visible_of_scalar {v : Value} (h : scalar dialect t = .ok (v, rest)) :
    ∃ c ∈ t, isBlank c = false := by
  unfold scalar at h
  split at h
  · rename_i hfound
    obtain ⟨⟨word, value⟩, hmem, hfound⟩ := List.exists_of_findSome?_eq_some hfound
    obtain ⟨c, hc, hvisible⟩ : ∃ c ∈ word, isBlank c = false := by
      have hall : (words dialect).all (fun entry => entry.1.any fun c => !isBlank c) = true := by
        cases dialect <;> decide
      simpa using List.all_eq_true.mp hall _ hmem
    obtain ⟨hbegins, -⟩ := Option.ite_none_right_eq_some.mp hfound
    exact ⟨c, (List.isPrefixOf_iff_prefix.mp hbegins).subset hc, hvisible⟩
  · split at h
    · cases h
    · rename_i parts left hparts
      cases t with
      | nil => cases hparts
      | cons c t =>
        by_cases hminus : c = '-'
        · subst hminus
          exact ⟨'-', List.mem_cons_self, by decide⟩
        · rw [numberParts?_of_ne hminus] at hparts
          obtain ⟨⟨whole, others⟩, hwhole, -⟩ := Option.bind_eq_some_iff.mp hparts
          exact visible_of_digits hwhole

theorem visible_of_value {level : Nat} {v : Value} (h : value dialect level depth t = .ok (v, rest)) :
    ∃ c ∈ t, isBlank c = false := by
  cases depth with
  | zero =>
    rw [value] at h
    cases h
  | succ depth =>
    unfold value at h
    dsimp only at h
    split at h
    · exact ⟨'"', List.mem_cons_self, by decide⟩
    · exact ⟨'[', List.mem_cons_self, by decide⟩
    · exact ⟨'\x7b', List.mem_cons_self, by decide⟩
    · exact visible_of_scalar h

theorem not_allBlank_of_read {v : Value} (h : read dialect t = .ok v) : ¬ t.AllBlank := by
  intro hblank
  obtain ⟨⟨found, rest⟩, hfound, -⟩ := bind_eq_ok.mp h
  obtain ⟨c, hc, hvisible⟩ := visible_of_value hfound
  rw [hblank c ((List.dropWhile_sublist _).subset hc)] at hvisible
  cases hvisible

end Reading

/-! ## The characters that are written -/

section Writing

open Records (Keeps textsOf)

variable {record : Record} {records : List Record} {gap : Text} {c : Char}

theorem mem_members {pre : Text} {parts : List Text} (hc : c ∈ members pre parts) :
    c ∈ ',' :: pre ∨ ∃ part ∈ parts, c ∈ part := by
  rcases List.mem_append.mp hc with hc | hc
  · exact .inl (List.mem_cons_of_mem _ hc)
  · exact Text.mem_joinWith hc

theorem mem_members_of_mem {pre part : Text} {parts : List Text} (hpart : part ∈ parts) (hc : c ∈ part) :
    c ∈ members pre parts := List.mem_append_right _ (Text.mem_joinWith_of_mem hpart hc _)

/-- An entry is written with printable characters and those of its texts. -/
theorem mem_entryText (hgap : ∀ c ∈ gap, IsPrintable c) {entry : String × Value} (h : Storable entry.2)
    (hc : c ∈ entryText gap entry) :
    IsPrintable c ∨ 32 ≤ c.toNat ∧ ∃ t ∈ entry.1.toList :: stringsOf entry.2, c ∈ t := by
  simp only [entryText, List.mem_append, List.mem_cons] at hc
  rcases hc with hc | rfl | hc | hc
  · rcases mem_quote hc with hprintable | ⟨hlow, hmem⟩
    · exact .inl hprintable
    · exact .inr ⟨hlow, _, List.mem_cons_self, hmem⟩
  · exact .inl (by decide)
  · exact .inl (hgap c hc)
  · rcases mem_scalarOf h hc with hprintable | ⟨hlow, t, ht, hmem⟩
    · exact .inl hprintable
    · exact .inr ⟨hlow, t, List.mem_cons_of_mem _ ht, hmem⟩

theorem mem_entryText_of_le {entry : String × Value} {t : Text} (ht : t ∈ entry.1.toList :: stringsOf entry.2)
    (hc : 127 ≤ c.toNat) (hmem : c ∈ t) : c ∈ entryText gap entry := by
  rcases List.mem_cons.mp ht with rfl | ht
  · exact List.mem_append_left _ (mem_quote_of_le hc hmem)
  · exact List.mem_append_right _ (List.mem_cons_of_mem _ (List.mem_append_right _
      (mem_scalarOf_of_le ht hc hmem)))

theorem mem_textsOf {t : Text} :
    t ∈ textsOf record ↔ ∃ entry ∈ record, t ∈ entry.1.toList :: stringsOf entry.2 := List.mem_flatMap

/-- The line of a record has printable characters and those of the record's texts. -/
theorem mem_objectLine (h : Keeps record) (hc : c ∈ objectLine record) :
    IsPrintable c ∨ 32 ≤ c.toNat ∧ ∃ t ∈ textsOf record, c ∈ t := by
  simp only [objectLine, List.mem_cons, List.mem_append, List.not_mem_nil, or_false] at hc
  rcases hc with rfl | hc | rfl
  · exact .inl (by decide)
  · rcases mem_members hc with hc | ⟨part, hpart, hc⟩
    · rw [List.mem_singleton.mp hc]
      exact .inl (by decide)
    · obtain ⟨entry, hentry, rfl⟩ := List.mem_map.mp hpart
      rcases mem_entryText (List.forall_mem_nil _) (h.values entry hentry) hc with
        hprintable | ⟨hlow, t, ht, hmem⟩
      · exact .inl hprintable
      · exact .inr ⟨hlow, t, mem_textsOf.mpr ⟨entry, hentry, ht⟩, hmem⟩
  · exact .inl (by decide)

theorem mem_objectLine_of_le {t : Text} (ht : t ∈ textsOf record) (hc : 127 ≤ c.toNat) (hmem : c ∈ t) :
    c ∈ objectLine record := by
  obtain ⟨entry, hentry, ht⟩ := mem_textsOf.mp ht
  exact List.mem_cons_of_mem _ (List.mem_append_left _
    (mem_members_of_mem (List.mem_map_of_mem hentry) (mem_entryText_of_le ht hc hmem)))

theorem mem_block {left right : Char} {level : Nat} {parts : List Text}
    (hc : c ∈ block left right level parts) :
    c ∈ [left, right, ',', '\n', ' '] ∨ ∃ part ∈ parts, c ∈ part := by
  have hindent : ∀ level, c ∈ indent level → c ∈ [left, right, ',', '\n', ' '] := by
    intro level hc
    rcases List.mem_cons.mp hc with rfl | hc
    · simp
    · rw [Text.eq_space_of_mem_spaces hc]
      simp
  by_cases hparts : parts = []
  · subst hparts
    refine .inl (List.mem_of_mem_take (i := 2) hc)
  · rw [block_eq hparts] at hc
    simp only [List.mem_cons, List.mem_append, List.not_mem_nil, or_false] at hc
    rcases hc with rfl | hc | hc | rfl
    · exact .inl List.mem_cons_self
    · rcases mem_members hc with hc | hpart
      · rcases List.mem_cons.mp hc with rfl | hc
        · exact .inl (by simp)
        · exact .inl (hindent _ hc)
      · exact .inr hpart
    · exact .inl (hindent _ hc)
    · exact .inl (by simp)

/-- Between the brackets and braces of the list, only line feeds are control characters. -/
theorem le_of_mem_objectList (h : ∀ record ∈ records, Keeps record) (hc : c ∈ objectList records) :
    32 ≤ c.toNat ∨ c = '\n' := by
  rcases mem_block hc with hc | ⟨item, hitem, hc⟩
  · simp only [List.mem_cons, List.not_mem_nil, or_false] at hc
    rcases hc with rfl | rfl | rfl | rfl | rfl <;> decide
  · obtain ⟨record, hrecord, rfl⟩ := List.mem_map.mp hitem
    rcases mem_block hc with hc | ⟨part, hpart, hc⟩
    · simp only [List.mem_cons, List.not_mem_nil, or_false] at hc
      rcases hc with rfl | rfl | rfl | rfl | rfl <;> decide
    · obtain ⟨entry, hentry, rfl⟩ := List.mem_map.mp hpart
      have hgap : ∀ c ∈ [' '], IsPrintable c := List.forall_mem_singleton.mpr (by decide)
      rcases mem_entryText hgap ((h record hrecord).values entry hentry) hc with hprintable | ⟨hlow, -⟩
      · exact .inl hprintable.1
      · exact .inl hlow

theorem strict_loads_eq_some {t : Text} {v : Value} :
    Codec.strict.loads t = some v ↔ read .strict t = .ok v := by
  show (read .strict t).toOption = some v ↔ _
  cases read .strict t with
  | error refusal => simp [Except.toOption]
  | ok found => simp [Except.toOption]

/-- `Codec.strict` does all that is relied on of the codec of files. -/
theorem Codec.strict_lawful : Codec.strict.Lawful where
  loads_dumps h := ⟨_, compact_object h, strict_loads_eq_some.mpr (read_objectLine h)⟩
  mem_dumps := by
    intro record t c h ht hc
    obtain rfl := Except.ok.inj ((compact_object h).symm.trans ht)
    constructor
    · intro hmem
      rcases mem_objectLine h hmem with hprintable | ⟨-, hfound⟩
      · exact absurd hprintable.2 (by omega)
      · exact hfound
    · rintro ⟨u, hu, hmem⟩
      exact mem_objectLine_of_le hu (by omega) hmem
  le_of_mem_dumps := by
    intro record t c h ht hc
    obtain rfl := Except.ok.inj ((compact_object h).symm.trans ht)
    rcases mem_objectLine h hc with hprintable | ⟨hlow, -⟩
    · exact hprintable.1
    · exact hlow
  loads_dumpsIndented h := ⟨_, indented_list h, strict_loads_eq_some.mpr (read_objectList h)⟩
  le_of_mem_dumpsIndented := by
    intro records t c h ht hc
    obtain rfl := Except.ok.inj ((indented_list h).symm.trans ht)
    exact le_of_mem_objectList h hc
  scan_of_loads := by
    intro t v h
    exact scan_of_read (strict_loads_eq_some.mp h)
  loads_of_allBlank := by
    intro t h
    rw [Option.eq_none_iff_forall_ne_some]
    intro v hv
    exact not_allBlank_of_read (strict_loads_eq_some.mp hv) h

end Writing

end Json

end PictureReport
