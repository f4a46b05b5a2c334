import PictureReport.Proofs.Picture.Columns

/-!
# Texts that are broken between words

A text field that keeps what it does not show breaks a text at the last space that fits.  If the text is a row
of words with single spaces between them, each of which fits in the columns, then no word is cut: some words
are shown, at least one, and the others are kept (`chomp_joinWith`).
-/

namespace PictureReport

namespace Text

variable {t u : Text} {words front back : List Text} {width : Nat}

/-- Characters without blanks, at least one. -/
structure IsWord (t : Text) : Prop where
  ne_nil : t ≠ []
  solid : ∀ c ∈ t, isBlank c = false

instance (t : Text) : Decidable (IsWord t) :=
  decidable_of_iff (t ≠ [] ∧ t.all (!isBlank ·) = true)
    ⟨fun ⟨h, h'⟩ => ⟨h, by simpa using h'⟩, fun ⟨h, h'⟩ => ⟨h, by simpa using h'⟩⟩

theorem IsWord.not_mem_space (h : IsWord t) : ' ' ∉ t := by
  intro hspace
  have hblank := h.solid ' ' hspace
  rw [isBlank_space] at hblank
  cases hblank

/-! ## Rows of words -/

theorem joinWith_append (mark : Text) (hfront : front ≠ []) (hback : back ≠ []) :
    joinWith mark (front ++ back) = joinWith mark front ++ mark ++ joinWith mark back := by
  induction front with
  | nil => exact absurd rfl hfront
  | cons word front ih =>
    cases front with
    | nil =>
      cases back with
      | nil => exact absurd rfl hback
      | cons next back => rfl
    | cons next front =>
      have hrest := ih (List.cons_ne_nil _ _)
      simp only [List.cons_append, joinWith, List.append_assoc] at hrest ⊢
      rw [hrest]

theorem joinWith_cons (mark word : Text) (words : List Text) :
    ∃ rest, joinWith mark (word :: words) = word ++ rest := by
  cases words with
  | nil => exact ⟨[], (List.append_nil _).symm⟩
  | cons next words => exact ⟨mark ++ joinWith mark (next :: words), List.append_assoc _ _ _⟩

theorem joinWith_ne_nil (hne : words ≠ []) (hwords : ∀ word ∈ words, IsWord word) :
    joinWith [' '] words ≠ [] := by
  cases words with
  | nil => exact absurd rfl hne
  | cons word words =>
    obtain ⟨rest, hrest⟩ := joinWith_cons [' '] word words
    rw [hrest]
    exact List.append_ne_nil_of_left_ne_nil (hwords word List.mem_cons_self).ne_nil _

/-- There are at least as many characters as words. -/
theorem length_le_length_joinWith (hwords : ∀ word ∈ words, IsWord word) :
    words.length ≤ (joinWith [' '] words).length := by
  induction words with
  | nil => exact Nat.zero_le _
  | cons word words ih =>
    rw [List.forall_mem_cons] at hwords
    have hword := List.length_pos_iff.mpr hwords.1.ne_nil
    cases words with
    | nil => exact hword
    | cons next words =>
      have hrest := ih hwords.2
      simp only [joinWith, List.length_append, List.length_cons, List.length_nil] at hrest ⊢
      omega

/-- Without the words at its front a row is another text. -/
theorem joinWith_append_ne (hfront : front ≠ []) (hwords : ∀ word ∈ front ++ back, IsWord word) :
    joinWith [' '] (front ++ back) ≠ joinWith [' '] back := by
  rw [List.forall_mem_append] at hwords
  by_cases hback : back = []
  · subst hback
    rw [List.append_nil]
    exact joinWith_ne_nil hfront hwords.1
  · intro he
    have hlength := congrArg List.length he
    rw [joinWith_append [' '] hfront hback, List.length_append, List.length_append] at hlength
    simp only [List.length_cons, List.length_nil] at hlength
    omega

theorem head_joinWith (hwords : ∀ word ∈ words, IsWord word) :
    ∀ c ∈ (joinWith [' '] words).head?, isBlank c = false := by
  intro c hc
  cases words with
  | nil => cases hc
  | cons word words =>
    have hword := hwords word List.mem_cons_self
    obtain ⟨rest, hrest⟩ := joinWith_cons [' '] word words
    rw [hrest, List.head?_append_of_ne_nil _ hword.ne_nil] at hc
    exact hword.solid c (List.mem_of_mem_head? hc)

theorem getLast_joinWith (hwords : ∀ word ∈ words, IsWord word) :
    ∀ c ∈ (joinWith [' '] words).getLast?, isBlank c = false := by
  induction words with
  | nil => exact fun c hc => absurd hc (by simp [joinWith])
  | cons word words ih =>
    rw [List.forall_mem_cons] at hwords
    cases words with
    | nil => exact fun c hc => hwords.1.solid c (List.mem_of_mem_getLast? hc)
    | cons next words =>
      intro c hc
      have hrest := joinWith_ne_nil (List.cons_ne_nil _ _) hwords.2
      rw [joinWith, List.getLast?_append_of_ne_nil _ hrest] at hc
      · exact ih hwords.2 c hc
      · exact List.cons_ne_nil _ _

/-- The blanks of a row of words are the spaces between them. -/
theorem eq_space_of_mem_joinWith (hwords : ∀ word ∈ words, IsWord word) {c : Char}
    (hc : c ∈ joinWith [' '] words) (hblank : isBlank c = true) : c = ' ' := by
  obtain hc | ⟨word, hword, hc⟩ := mem_joinWith hc
  · exact List.mem_singleton.mp hc
  · rw [(hwords word hword).solid c hc] at hblank
    cases hblank

theorem unbroken_joinWith (hwords : ∀ word ∈ words, IsWord word) :
    ∀ c ∈ joinWith [' '] words, isBreak c = false := by
  intro c hc
  cases hbreak : isBreak c with
  | false => rfl
  | true =>
    obtain rfl := eq_space_of_mem_joinWith hwords hc (isBlank_of_isBreak hbreak)
    exact absurd hbreak (by decide)

theorem not_spaces_infix_append (ht : ' ' ∉ t) (hu : ¬ [' ', ' '] <:+: u) : ¬ [' ', ' '] <:+: t ++ u := by
  induction t with
  | nil => exact hu
  | cons c t ih =>
    rw [List.mem_cons, not_or] at ht
    rw [List.cons_append, List.infix_cons_iff]
    rintro (hfirst | hlater)
    · exact ht.1 (List.cons_prefix_cons.mp hfirst).1
    · exact ih ht.2 hlater

theorem isSingleSpaced_joinWith (hwords : ∀ word ∈ words, IsWord word) :
    IsSingleSpaced (joinWith [' '] words) := by
  refine ⟨fun c hc => eq_space_of_mem_joinWith hwords hc, ?_⟩
  induction words with
  | nil => simp [joinWith]
  | cons word words ih =>
    rw [List.forall_mem_cons] at hwords
    have hspace := hwords.1.not_mem_space
    cases words with
    | nil =>
      have hword := not_spaces_infix_append (u := []) hspace (by simp)
      rwa [List.append_nil] at hword
    | cons next words =>
      rw [joinWith, List.append_assoc]
      · refine not_spaces_infix_append hspace ?_
        rw [List.singleton_append, List.infix_cons_iff]
        rintro (hfirst | hlater)
        · -- a second space would be the first character of the next word
          obtain ⟨rest, hrest⟩ := (List.cons_prefix_cons.mp hfirst).2
          have hhead := head_joinWith hwords.2 ' ' (by rw [← hrest]; rfl)
          rw [isBlank_space] at hhead
          cases hhead
        · exact ih hwords.2 hlater
      · exact List.cons_ne_nil _ _

/-! ## Breaking a row of words -/

theorem lastSpace?_eq_none (h : ' ' ∉ t) : lastSpace? t = none := by
  induction t with
  | nil => rfl
  | cons c t ih =>
    rw [List.mem_cons, not_or] at h
    rw [lastSpace?, ih h.2]
    exact if_neg (Ne.symm h.1)

theorem lastSpace?_append (hu : ' ' ∉ u) : lastSpace? (t ++ ' ' :: u) = some t.length := by
  induction t with
  | nil =>
    rw [List.nil_append, lastSpace?, lastSpace?_eq_none hu]
    rfl
  | cons c t ih => rw [List.cons_append, lastSpace?, ih, List.length_cons]

/-- Of words that do not fit in the columns together, some fit, and with the next word they do not. -/
theorem exists_longest_front (hfit : ∀ word ∈ words, word.length ≤ width)
    (hlong : width < (joinWith [' '] words).length) :
    ∃ front word rest, words = front ++ word :: rest ∧ front ≠ [] ∧
      (joinWith [' '] front).length ≤ width ∧ width < (joinWith [' '] (front ++ [word])).length := by
  induction words using List.reverseRecOn with
  | nil => exact absurd hlong (Nat.not_lt_zero _)
  | append_singleton words word ih =>
    by_cases hshort : (joinWith [' '] words).length ≤ width
    · refine ⟨words, word, [], rfl, ?_, hshort, hlong⟩
      rintro rfl
      exact absurd hlong (Nat.not_lt.mpr (hfit word List.mem_cons_self))
    · obtain ⟨front, next, rest, rfl, hfront, hfits, hnext⟩ :=
        ih (fun other ho => hfit other (List.mem_append_left _ ho)) (Nat.lt_of_not_le hshort)
      exact ⟨front, next, rest ++ [word], List.append_assoc _ _ _, hfront, hfits, hnext⟩

/-- The text is broken at the space behind a front of its words, if the next word does not fit any more: that
is its `shownLength`. -/
theorem shownLength_append {word rest : Text} (hword : IsWord word) (hfits : t.length ≤ width)
    (hnext : width < (t ++ ' ' :: word).length) :
    shownLength (t ++ ' ' :: (word ++ rest)) width = t.length := by
  rw [List.length_append, List.length_cons] at hnext
  have hlong : ¬ (t ++ ' ' :: (word ++ rest)).length ≤ width := by
    simp only [List.length_append, List.length_cons]
    omega
  obtain ⟨more, hmore⟩ := Nat.exists_eq_add_of_le hfits
  have htake : (t ++ ' ' :: (word ++ rest)).take (width + 1) = t ++ ' ' :: word.take more := by
    rw [hmore, Nat.add_assoc, List.take_length_add_append, List.take_succ_cons,
      List.take_append_of_le_length (by omega)]
  have hsolid : ' ' ∉ word.take more := fun h => hword.not_mem_space (List.mem_of_mem_take h)
  rw [shownLength, if_neg hlong, htake, lastSpace?_append hsolid, Option.getD_some]

theorem chomp_nil (width : Nat) : chomp [] width = ([], []) := by
  rw [chomp, List.take_nil, List.drop_nil]
  rfl

/-- No word is cut: a row of words that fit in the columns is broken between two of them, or it is shown as a
whole. -/
theorem chomp_joinWith (hne : words ≠ []) (hwords : ∀ word ∈ words, IsWord word)
    (hfit : ∀ word ∈ words, word.length ≤ width) :
    ∃ front back, words = front ++ back ∧ front ≠ [] ∧ (joinWith [' '] front).length ≤ width ∧
      chomp (joinWith [' '] words) width = (joinWith [' '] front, joinWith [' '] back) := by
  by_cases hshort : (joinWith [' '] words).length ≤ width
  · refine ⟨words, [], (List.append_nil _).symm, hne, hshort, ?_⟩
    rw [chomp, shownLength, if_pos hshort, List.take_length, List.drop_length]
    rfl
  · obtain ⟨front, word, rest, rfl, hfront, hfits, hnext⟩ :=
      exists_longest_front hfit (Nat.lt_of_not_le hshort)
    refine ⟨front, word :: rest, rfl, hfront, hfits, ?_⟩
    have hback : ∀ other ∈ word :: rest, IsWord other :=
      fun other ho => hwords other (List.mem_append_right _ ho)
    have hjoin : joinWith [' '] (front ++ word :: rest) =
        joinWith [' '] front ++ ' ' :: joinWith [' '] (word :: rest) := by
      rw [joinWith_append [' '] hfront (List.cons_ne_nil _ _), List.append_assoc, List.singleton_append]
    rw [joinWith_append [' '] hfront (List.cons_ne_nil _ _), List.append_assoc] at hnext
    obtain ⟨tail, htail⟩ := joinWith_cons [' '] word rest
    have hshown : shownLength (joinWith [' '] (front ++ word :: rest)) width =
        (joinWith [' '] front).length := by
      rw [hjoin, htail]
      exact shownLength_append (hback word List.mem_cons_self) hfits hnext
    have hrest : trimLeft (' ' :: joinWith [' '] (word :: rest)) = joinWith [' '] (word :: rest) :=
      dropWhile_blank_append (t := [' ']) (allBlank_spaces 1) (head_joinWith hback)
    rw [chomp, hshown, hjoin, List.take_left, List.drop_left, hrest]

/-- The chunks are the words in order.  None is empty, and each fits in the columns. -/
structure Wraps (width : Nat) (words : List Text) (chunks : List (List Text)) : Prop where
  flatten : chunks.flatten = words
  filled : ∀ chunk ∈ chunks, chunk ≠ [] ∧ (joinWith [' '] chunk).length ≤ width

theorem wraps_nil (width : Nat) : Wraps width [] [] := ⟨rfl, List.forall_mem_nil _⟩

theorem Wraps.cons {chunks : List (List Text)} (h : Wraps width back chunks) (hfront : front ≠ [])
    (hfits : (joinWith [' '] front).length ≤ width) : Wraps width (front ++ back) (front :: chunks) :=
  ⟨congrArg (front ++ ·) h.flatten, List.forall_mem_cons.mpr ⟨⟨hfront, hfits⟩, h.filled⟩⟩

end Text

namespace Field

variable {words : List Text} {align : Align} {width : Nat}

/-- A field that is wide enough for a row of words `Holds` it. -/
theorem holds_joinWith (chomp : Bool) (hwords : ∀ word ∈ words, Text.IsWord word)
    (hfits : (Text.joinWith [' '] words).length ≤ width) :
    Holds ⟨.text align width, chomp⟩ (.text (Text.joinWith [' '] words)) :=
  ⟨hfits, Text.unbroken_joinWith hwords, ⟨Text.head_joinWith hwords, Text.getLast_joinWith hwords⟩,
    fun _ => Text.isSingleSpaced_joinWith hwords⟩

/-- A text in the columns of a field that holds it is shown as such: `justify` gives what it `Shows`. -/
theorem Holds.shows_justify {chomp : Bool} {t : Text} (h : Holds ⟨.text align width, chomp⟩ (.text t)) :
    Shows ⟨.text align width, chomp⟩ (.text t) (Text.justify align t width) := by
  obtain ⟨left, right, hjustify, hwidth, hleft, hright⟩ := Text.justify_eq align h.1
  have hreadable : IsReadable ⟨.text align width, chomp⟩ := trivial
  rw [hjustify]
  refine h.shows hreadable hwidth ?_ ?_
  · intro _ he
    cases he
    exact hleft rfl
  · intro _ he
    cases he
    exact hright rfl

/-- Of a row of words that each fit the field shows a front, and the others are left. -/
theorem format_joinWith (hne : words ≠ []) (hwords : ∀ word ∈ words, Text.IsWord word)
    (hfit : ∀ word ∈ words, word.length ≤ width) (page : Int) :
    ∃ front back shown, words = front ++ back ∧ front ≠ [] ∧
      (Text.joinWith [' '] front).length ≤ width ∧
      format ⟨.text align width, true⟩ (.text (Text.joinWith [' '] words)) page true =
        .ok ⟨shown, some (Text.joinWith [' '] back), []⟩ ∧
      Shows ⟨.text align width, true⟩ (.text (Text.joinWith [' '] front)) shown := by
  obtain ⟨front, back, rfl, hfront, hfits, hchomp⟩ := Text.chomp_joinWith hne hwords hfit
  refine ⟨front, back, Text.justify align (Text.joinWith [' '] front) width, rfl, hfront, hfits, ?_, ?_⟩
  · rw [format_chomping, hchomp]
  · have hholds : Holds ⟨.text align width, true⟩ (.text (Text.joinWith [' '] front)) :=
      holds_joinWith true (fun word hw => hwords word (List.mem_append_left _ hw)) hfits
    exact hholds.shows_justify

end Field

end PictureReport
