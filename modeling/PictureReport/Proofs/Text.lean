import Mathlib.Data.List.DropRight
import PictureReport.Text.Lines

/-!
# Trimming, padding, words and pieces

A text without blanks around it comes back from its columns when the padding is dropped.  A centered
text comes back word by word, so between its words there must be single spaces.  Texts that are joined by
a mark which none of them has come back as the pieces between the marks.
-/

namespace PictureReport.Text

variable {t u : Text}

/-- No blank stands at either end: what `trim` leaves is such a text (`isTrimmed_trim`). -/
def IsTrimmed (t : Text) : Prop :=
  (∀ c ∈ t.head?, isBlank c = false) ∧ ∀ c ∈ t.getLast?, isBlank c = false

instance (t : Text) : Decidable (IsTrimmed t) :=
  decidable_of_iff ((t.head?.all (!isBlank ·) && t.getLast?.all (!isBlank ·)) = true)
    (by simp [IsTrimmed, Option.all_eq_true])

/-- The blanks of the text are single spaces, as `joinWith [' ']` puts them between words. -/
def IsSingleSpaced (t : Text) : Prop := (∀ c ∈ t, isBlank c = true → c = ' ') ∧ ¬ [' ', ' '] <:+: t

/-- Every character of the text is blank, so that `trim` leaves nothing (`trim_eq_nil`). -/
def AllBlank (t : Text) : Prop := ∀ c ∈ t, isBlank c = true

theorem isBlank_space : isBlank ' ' = true := by decide

theorem eq_space_of_mem_spaces {c : Char} {count : Nat} (h : c ∈ spaces count) : c = ' ' :=
  List.eq_of_mem_replicate h

theorem allBlank_spaces (count : Nat) : AllBlank (spaces count) := by
  intro c hc
  rw [eq_space_of_mem_spaces hc]
  exact isBlank_space

theorem AllBlank.append (ht : AllBlank t) (hu : AllBlank u) : AllBlank (t ++ u) := by
  intro c hc
  rcases List.mem_append.mp hc with hc | hc
  · exact ht c hc
  · exact hu c hc

/-! ## Trimming -/

theorem trimRight_eq_nil : t.trimRight = [] ↔ AllBlank t := List.rdropWhile_eq_nil_iff

theorem trim_eq_nil : t.trim = [] ↔ AllBlank t := by
  constructor
  · intro h c hc
    have hrest : AllBlank (t.dropWhile isBlank) := trimRight_eq_nil.mp h
    have hsplit : t.takeWhile isBlank ++ t.dropWhile isBlank = t := List.takeWhile_append_dropWhile
    rw [← hsplit] at hc
    rcases List.mem_append.mp hc with hc | hc
    · exact List.mem_takeWhile_imp hc
    · exact hrest c hc
  · intro h
    have hnil : t.trimLeft = [] := List.dropWhile_eq_nil_iff.mpr h
    rw [trim, hnil]
    rfl

theorem mem_of_mem_trimRight {c : Char} (hc : c ∈ t.trimRight) : c ∈ t :=
  (List.rdropWhile_prefix isBlank t).subset hc

theorem trimRight_of_last (h : ∀ c ∈ t.getLast?, isBlank c = false) : t.trimRight = t := by
  refine List.rdropWhile_eq_self_iff.mpr fun ht => ?_
  rw [h (t.getLast ht) (List.getLast?_eq_some_getLast ht)]
  exact Bool.false_ne_true

theorem trimRight_append_blank (hu : AllBlank u) : (t ++ u).trimRight = t.trimRight := by
  unfold trimRight
  rw [List.reverse_append, List.dropWhile_append_of_pos]
  intro c hc
  exact hu c (List.mem_reverse.mp hc)

theorem trimRight_append (hu : ¬ AllBlank u) : (t ++ u).trimRight = t ++ u.trimRight := by
  have hne : u.reverse.dropWhile isBlank ≠ [] := by
    intro h
    exact hu (trimRight_eq_nil.mp (by rw [trimRight, h, List.reverse_nil]))
  unfold trimRight
  rw [List.reverse_append, List.dropWhile_append, if_neg (by simpa using hne), List.reverse_append,
    List.reverse_reverse]

/-- Where `trimRight` stops behind `t`, it trims `u` alone. -/
theorem trimRight_append_of_le (h : t.length ≤ (t ++ u).trimRight.length) :
    (t ++ u).trimRight = t ++ u.trimRight := by
  by_cases hu : AllBlank u
  · rw [trimRight_append_blank hu] at h ⊢
    rw [trimRight_eq_nil.mpr hu, List.append_nil]
    exact (List.rdropWhile_prefix isBlank t).eq_of_length_le h
  · exact trimRight_append hu

theorem not_allBlank_of_last (ht : t ≠ []) (h : ∀ c ∈ t.getLast?, isBlank c = false) :
    ¬ AllBlank t := by
  intro hb
  have hlast := h (t.getLast ht) (List.getLast?_eq_some_getLast ht)
  rw [hb _ (List.getLast_mem ht)] at hlast
  cases hlast

theorem dropWhile_blank_append (ht : AllBlank t) (h : ∀ c ∈ u.head?, isBlank c = false) :
    trimLeft (t ++ u) = u := by
  unfold trimLeft
  rw [List.dropWhile_append_of_pos ht]
  cases u with
  | nil => rfl
  | cons c rest =>
    rw [List.dropWhile_cons_of_neg]
    rw [h c rfl]
    exact Bool.false_ne_true

/-- Whatever blanks stand around a text that `IsTrimmed`, `trim` leaves the text. -/
theorem trim_of_isTrimmed (h : IsTrimmed t) {before after : Text} (hb : AllBlank before)
    (ha : AllBlank after) : trim (before ++ t ++ after) = t := by
  unfold trim
  cases ht : t with
  | nil =>
    rw [List.append_nil]
    have hall := hb.append ha
    have hnil : trimLeft (before ++ after) = [] := List.dropWhile_eq_nil_iff.mpr hall
    rw [hnil]
    rfl
  | cons c rest =>
    rw [← ht, List.append_assoc, dropWhile_blank_append hb, trimRight_append_blank ha,
      trimRight_of_last h.2]
    rw [ht]
    exact fun d hd => h.1 d (by rw [ht]; exact hd)

theorem mem_of_mem_trim {c : Char} (hc : c ∈ t.trim) : c ∈ t :=
  (List.dropWhile_suffix isBlank).subset (mem_of_mem_trimRight hc)

theorem isTrimmed_trim (t : Text) : IsTrimmed t.trim := by
  refine ⟨fun c hc => ?_, fun c hc => ?_⟩
  · have hprefix : t.trim <+: t.trimLeft := List.rdropWhile_prefix isBlank t.trimLeft
    have hhead : c ∈ t.trimLeft.head? := by
      cases htrim : t.trim with
      | nil =>
        rw [htrim] at hc
        cases hc
      | cons d rest =>
        rw [htrim] at hc hprefix
        obtain rfl := Option.some.inj hc
        obtain ⟨more, hmore⟩ := hprefix
        rw [← hmore]
        rfl
    have hfirst := List.head?_dropWhile_not isBlank t
    unfold trimLeft at hhead
    rw [hhead] at hfirst
    simpa using hfirst
  · have hne : t.trim ≠ [] := by
      rintro hnil
      rw [hnil] at hc
      cases hc
    have hlast : isBlank (t.trim.getLast hne) ≠ true :=
      List.rdropWhile_last_not isBlank t.trimLeft hne
    rw [List.getLast?_eq_some_getLast hne] at hc
    obtain rfl := Option.some.inj hc
    simpa using hlast

/-! ## Padding -/

theorem dropEnd_append_spaces (h : ∀ c ∈ t.getLast?, isBlank c = false) (count : Nat) :
    dropEnd (· = ' ') (t ++ spaces count) = t := by
  unfold dropEnd
  rw [List.reverse_append, List.dropWhile_append_of_pos]
  · refine List.rdropWhile_eq_self_iff.mpr fun ht he => ?_
    have hlast := h (t.getLast ht) (List.getLast?_eq_some_getLast ht)
    rw [of_decide_eq_true he, isBlank_space] at hlast
    cases hlast
  · intro c hc
    rw [eq_space_of_mem_spaces (List.mem_reverse.mp hc)]
    decide

theorem dropWhile_spaces_append (h : ∀ c ∈ t.head?, isBlank c = false) (count : Nat) :
    (spaces count ++ t).dropWhile (· = ' ') = t := by
  rw [List.dropWhile_append_of_pos]
  · cases t with
    | nil => rfl
    | cons c rest =>
      rw [List.dropWhile_cons_of_neg]
      intro he
      have hfirst := h c rfl
      rw [of_decide_eq_true he, isBlank_space] at hfirst
      cases hfirst
  · intro c hc
    rw [eq_space_of_mem_spaces hc]
    decide

/-! ## Words -/

theorem words_cons_blank {c : Char} (hc : isBlank c = true) (t : Text) : words (c :: t) = words t := by
  rw [words.eq_def]
  exact if_pos hc

/-- A character before a blank, or at the end, is a word of `words`. -/
theorem words_cons_end {c : Char} (hc : isBlank c = false) (h : ∀ d ∈ t.head?, isBlank d = true) :
    words (c :: t) = [c] :: words t := by
  rw [words.eq_def]
  cases t with
  | nil => simp [hc, show words [] = [] from rfl]
  | cons d rest => simp [hc, h d rfl]

/-- A character before another one that is not blank belongs to the first of its `words`. -/
theorem words_cons_word {c d : Char} (hc : isBlank c = false) (hd : isBlank d = false) (t : Text) :
    ∃ word others, words (d :: t) = word :: others ∧
      words (c :: d :: t) = (c :: word) :: others := by
  have hwords : ∃ word others, words (d :: t) = word :: others := by
    cases t with
    | nil => exact ⟨[d], [], words_cons_end hd (by simp)⟩
    | cons e rest =>
      rw [words.eq_def]
      simp only [hd, Bool.false_eq_true, if_false]
      split
      · exact ⟨_, _, rfl⟩
      · split <;> exact ⟨_, _, rfl⟩
  obtain ⟨word, others, hw⟩ := hwords
  refine ⟨word, others, hw, ?_⟩
  rw [words.eq_def]
  simp [hc, hd, hw]

theorem words_of_allBlank (h : AllBlank t) : words t = [] := by
  induction t with
  | nil => rfl
  | cons c rest ih =>
    rw [words_cons_blank (h c List.mem_cons_self)]
    exact ih fun d hd => h d (List.mem_cons_of_mem _ hd)

/-- Blanks behind a text add nothing to its `words`. -/
theorem words_append_allBlank (hu : AllBlank u) : words (t ++ u) = words t := by
  induction t with
  | nil => exact words_of_allBlank hu
  | cons c rest ih =>
    rw [List.cons_append]
    cases hc : isBlank c with
    | true => rw [words_cons_blank hc, words_cons_blank hc, ih]
    | false =>
      cases rest with
      | nil =>
        have hend : ∀ d ∈ ([] ++ u : Text).head?, isBlank d = true :=
          fun d hd => hu d (List.mem_of_head? hd)
        rw [words_cons_end hc hend, words_cons_end hc (by simp), ih]
      | cons d rest =>
        cases hd : isBlank d with
        | true =>
          rw [words_cons_end hc (by simpa using hd), words_cons_end hc (by simpa using hd), ih]
        | false =>
          obtain ⟨word, others, hw, hwords⟩ := words_cons_word hc hd rest
          obtain ⟨word', others', hw', hwords'⟩ := words_cons_word hc hd (rest ++ u)
          rw [List.cons_append] at ih ⊢
          rw [hwords, hwords']
          rw [hw', hw] at ih
          obtain ⟨rfl, rfl⟩ := List.cons.inj ih
          rfl

theorem allBlank_append_words (ht : AllBlank t) : words (t ++ u) = words u := by
  induction t with
  | nil => rfl
  | cons c rest ih =>
    rw [List.cons_append, words_cons_blank (ht c List.mem_cons_self)]
    exact ih fun d hd => ht d (List.mem_cons_of_mem _ hd)

theorem joinWith_cons_cons (mark : Text) (c : Char) (word : Text) (others : List Text) :
    joinWith mark ((c :: word) :: others) = c :: joinWith mark (word :: others) := by
  cases others <;> rfl

/-- A text that `IsTrimmed` and `IsSingleSpaced` is its `words` with a space between each two. -/
theorem joinWith_words (ht : IsTrimmed t) (hs : IsSingleSpaced t) : joinWith [' '] (words t) = t := by
  induction hlen : t.length using Nat.strongRecOn generalizing t with
  | ind length ih =>
    subst hlen
    obtain ⟨hfirst, hlast⟩ := ht
    cases t with
    | nil => rfl
    | cons c rest =>
      have hc : isBlank c = false := hfirst c rfl
      cases rest with
      | nil =>
        rw [words_cons_end hc (by simp)]
        rfl
      | cons d rest =>
        have hlast' : ∀ e ∈ (d :: rest).getLast?, isBlank e = false := by
          intro e he
          exact hlast e (by rw [List.getLast?_cons_cons]; exact he)
        cases hd : isBlank d with
        | false =>
          obtain ⟨word, others, hw, hwords⟩ := words_cons_word hc hd rest
          have hrest : joinWith [' '] (words (d :: rest)) = d :: rest := by
            refine ih _ (by simp) ⟨by simpa using hd, hlast'⟩ ⟨?_, ?_⟩ rfl
            · exact fun e he => hs.1 e (List.mem_cons_of_mem _ he)
            · exact fun h => hs.2 (h.trans (List.suffix_cons c _).isInfix)
          rw [hwords, joinWith_cons_cons, ← hw, hrest]
        | true =>
          -- a space: the word before it ends, and the next one begins right after it
          obtain rfl := hs.1 d (by simp) hd
          rw [words_cons_end hc (by simpa using hd), words_cons_blank hd]
          cases rest with
          | nil =>
            have hspace : isBlank ' ' = false := hlast' ' ' rfl
            rw [hspace] at hd
            cases hd
          | cons e rest =>
            have he : isBlank e = false := by
              cases he : isBlank e with
              | false => rfl
              | true =>
                obtain rfl := hs.1 e (by simp) he
                exact absurd ⟨[c], rest, rfl⟩ hs.2
            have hrest : joinWith [' '] (words (e :: rest)) = e :: rest := by
              refine ih _ (by simp) ⟨by simpa using he, ?_⟩ ⟨?_, ?_⟩ rfl
              · intro x hx
                exact hlast' x (by rw [List.getLast?_cons_cons]; exact hx)
              · exact fun x hx => hs.1 x (by simp [hx])
              · intro h
                exact hs.2 ((h.trans (List.suffix_cons ' ' _).isInfix).trans
                  (List.suffix_cons c _).isInfix)
            cases hw : words (e :: rest) with
            | nil =>
              rw [hw] at hrest
              cases hrest
            | cons word others =>
              rw [hw] at hrest
              change [c] ++ [' '] ++ joinWith [' '] (word :: others) = _
              rw [hrest]
              rfl

/-! ## Pieces -/

theorem separate_of_not_mem {mark : Char} (h : mark ∉ t) : separate mark t = [t] := by
  induction t with
  | nil => rfl
  | cons c rest ih =>
    rw [List.mem_cons, not_or] at h
    have hrest := ih h.2
    unfold separate
    rw [if_neg (Ne.symm h.1), hrest]

/-- A character of a piece that `separate` makes is one of the text. -/
theorem mem_of_mem_separate {mark : Char} {piece : Text} (hpiece : piece ∈ separate mark t) {c : Char}
    (hc : c ∈ piece) : c ∈ t := by
  induction t generalizing piece with
  | nil =>
    obtain rfl := List.mem_singleton.mp hpiece
    exact hc
  | cons d rest ih =>
    unfold separate at hpiece
    by_cases hd : d = mark
    · rw [if_pos hd] at hpiece
      rcases List.mem_cons.mp hpiece with rfl | hpiece
      · cases hc
      · exact List.mem_cons_of_mem _ (ih hpiece hc)
    · rw [if_neg hd] at hpiece
      cases hrest : separate mark rest with
      | nil =>
        rw [hrest] at hpiece
        obtain rfl := List.mem_singleton.mp hpiece
        rw [List.mem_singleton.mp hc]
        exact List.mem_cons_self
      | cons first others =>
        rw [hrest] at hpiece ih
        rcases List.mem_cons.mp hpiece with rfl | hpiece
        · rcases List.mem_cons.mp hc with rfl | hc
          · exact List.mem_cons_self
          · exact List.mem_cons_of_mem _ (ih List.mem_cons_self hc)
        · exact List.mem_cons_of_mem _ (ih (List.mem_cons_of_mem _ hpiece) hc)

theorem not_mem_of_mem_separate {mark : Char} {piece : Text} (hpiece : piece ∈ separate mark t) :
    mark ∉ piece := by
  induction t generalizing piece with
  | nil =>
    obtain rfl := List.mem_singleton.mp hpiece
    exact List.not_mem_nil
  | cons c rest ih =>
    unfold separate at hpiece
    by_cases hc : c = mark
    · rw [if_pos hc] at hpiece
      rcases List.mem_cons.mp hpiece with rfl | hpiece
      · exact List.not_mem_nil
      · exact ih hpiece
    · rw [if_neg hc] at hpiece
      cases hrest : separate mark rest with
      | nil =>
        rw [hrest] at hpiece
        obtain rfl := List.mem_singleton.mp hpiece
        simpa using Ne.symm hc
      | cons first others =>
        rw [hrest] at hpiece ih
        rcases List.mem_cons.mp hpiece with rfl | hpiece
        · rw [List.mem_cons, not_or]
          exact ⟨Ne.symm hc, ih List.mem_cons_self⟩
        · exact ih (List.mem_cons_of_mem _ hpiece)

theorem separate_append {mark : Char} (h : mark ∉ t) (rest : Text) :
    separate mark (t ++ mark :: rest) = t :: separate mark rest := by
  induction t with
  | nil =>
    rw [List.nil_append, separate, if_pos rfl]
  | cons c t ih =>
    rw [List.mem_cons, not_or] at h
    rw [List.cons_append, separate, if_neg (Ne.symm h.1), ih h.2]

/-- Pieces that are joined by a mark and a space come back from `separate`, each behind a space. -/
theorem separate_joinWith {mark : Char} (hmark : mark ≠ ' ') {pieces : List Text} (hne : pieces ≠ [])
    (h : ∀ piece ∈ pieces, mark ∉ piece) :
    separate mark (' ' :: joinWith [mark, ' '] pieces) = pieces.map (' ' :: ·) := by
  induction pieces with
  | nil => exact absurd rfl hne
  | cons piece others ih =>
    rw [List.forall_mem_cons] at h
    have hpiece : mark ∉ ' ' :: piece := by
      rw [List.mem_cons, not_or]
      exact ⟨hmark, h.1⟩
    cases others with
    | nil => exact separate_of_not_mem hpiece
    | cons next others =>
      have hjoin : ' ' :: joinWith [mark, ' '] (piece :: next :: others) =
          (' ' :: piece) ++ mark :: (' ' :: joinWith [mark, ' '] (next :: others)) := by
        simp only [joinWith, List.append_assoc, List.cons_append, List.nil_append]
      rw [hjoin, separate_append hpiece, ih (List.cons_ne_nil _ _) h.2]
      rfl

theorem mem_joinWith {mark : Text} {pieces : List Text} {c : Char} (h : c ∈ joinWith mark pieces) :
    c ∈ mark ∨ ∃ piece ∈ pieces, c ∈ piece := by
  induction pieces with
  | nil => cases h
  | cons piece others ih =>
    cases others with
    | nil => exact .inr ⟨piece, List.mem_cons_self, h⟩
    | cons next others =>
      simp only [joinWith, List.mem_append] at h
      obtain (h | h) | h := h
      · exact .inr ⟨piece, List.mem_cons_self, h⟩
      · exact .inl h
      · obtain h | ⟨other, hother, hc⟩ := ih h
        · exact .inl h
        · exact .inr ⟨other, List.mem_cons_of_mem _ hother, hc⟩

theorem mem_joinWith_of_mem {piece : Text} {pieces : List Text} {c : Char} (hpiece : piece ∈ pieces)
    (hc : c ∈ piece) (mark : Text) : c ∈ joinWith mark pieces := by
  induction pieces with
  | nil => cases hpiece
  | cons first rest ih =>
    cases rest with
    | nil => rwa [joinWith, ← List.mem_singleton.mp hpiece]
    | cons next rest =>
      simp only [joinWith, List.mem_append]
      rcases List.mem_cons.mp hpiece with rfl | hpiece
      · exact .inl (.inl hc)
      · exact .inr (ih hpiece)

/-! ## Lines -/

/-- No line of `lines t` has a character in `isBreak`. -/
theorem isBreak_of_mem_lines {t l : Text} (hl : l ∈ lines t) {c : Char} (hc : c ∈ l) :
    isBreak c = false := by
  fun_induction lines t generalizing l c with
  | case1 => cases hl
  | case2 rest ih =>
    rcases List.mem_cons.mp hl with rfl | hl
    · cases hc
    · exact ih hl hc
  | case3 d rest _ hd ih =>
    rcases List.mem_cons.mp hl with rfl | hl
    · cases hc
    · exact ih hl hc
  | case4 d rest _ hd hrest ih =>
    obtain rfl : l = [d] := List.mem_singleton.mp hl
    obtain rfl : c = d := List.mem_singleton.mp hc
    simpa using hd
  | case5 d rest _ hd line others hrest ih =>
    rw [hrest] at ih
    rcases List.mem_cons.mp hl with rfl | hl
    · rcases List.mem_cons.mp hc with rfl | hc
      · simpa using hd
      · exact ih List.mem_cons_self hc
    · exact ih (List.mem_cons_of_mem _ hl) hc

/-- A character put before the first of some lines, as `lines` does with one that is no `isBreak`. -/
def beforeFirst (c : Char) : List Text → List Text
  | [] => [[c]]
  | line :: others => (c :: line) :: others

theorem lines_cons {c : Char} (hc : isBreak c = false) (t : Text) :
    lines (c :: t) = beforeFirst c (lines t) := by
  have hreturn : c ≠ '\r' := by
    rintro rfl
    exact absurd hc (by decide)
  rw [lines, if_neg (by rw [hc]; exact Bool.false_ne_true)]
  · rfl
  · exact fun _ hr _ => hreturn hr

theorem lines_cons_break {c : Char} (hc : isBreak c = true) (h : ∀ rest, c = '\r' → t ≠ '\n' :: rest) :
    lines (c :: t) = [] :: lines t := by
  rw [lines, if_pos hc]
  exact fun rest hr ht => h rest hr ht

theorem lines_ne_nil (hne : t ≠ []) : lines t ≠ [] := by
  fun_cases lines t <;> simp_all

/-- A text without characters in `isBreak` is the one line of `lines`, unless it is empty. -/
theorem lines_of_unbroken (hne : t ≠ []) (h : ∀ c ∈ t, isBreak c = false) : lines t = [t] := by
  induction t with
  | nil => exact absurd rfl hne
  | cons c rest ih =>
    rw [List.forall_mem_cons] at h
    rw [lines_cons h.1]
    cases rest with
    | nil => rfl
    | cons d rest =>
      rw [ih (List.cons_ne_nil _ _) h.2]
      rfl

theorem beforeFirst_append (c : Char) {ls : List Text} (hne : ls ≠ []) (others : List Text) :
    beforeFirst c (ls ++ others) = beforeFirst c ls ++ others := by
  cases ls with
  | nil => exact absurd rfl hne
  | cons line ls => rfl

/-- A form feed is in `isBreak`, so that it ends an empty line. -/
theorem lines_formFeed (t : Text) : lines ('\x0c' :: t) = [] :: lines t :=
  lines_cons_break (by decide) fun _ hc => absurd hc (by decide)

/-- Behind a line feed the `lines` are those of the text that follows it. -/
theorem lines_append_lineFeed (t u : Text) : lines (t ++ '\n' :: u) = lines (t ++ ['\n']) ++ lines u := by
  have hunbroken : ∀ {c rest}, isBreak c = false →
      lines (rest ++ '\n' :: u) = lines (rest ++ ['\n']) ++ lines u →
        lines (c :: rest ++ '\n' :: u) = lines (c :: rest ++ ['\n']) ++ lines u := by
    intro c rest hc ih
    rw [List.cons_append, List.cons_append, lines_cons hc, lines_cons hc, ih]
    exact beforeFirst_append c (lines_ne_nil (by simp)) _
  induction t using lines.induct with
  | case1 => rfl
  | case2 rest ih => exact congrArg ([] :: ·) ih
  | case3 c rest hreturn hc ih =>
    by_cases hpair : rest = [] ∧ c = '\r'
    · obtain ⟨rfl, rfl⟩ := hpair
      rfl
    · have hkeep : ∀ v, lines (c :: (rest ++ '\n' :: v)) = [] :: lines (rest ++ '\n' :: v) := by
        refine fun v => lines_cons_break hc fun others hr ht => ?_
        cases rest with
        | nil => exact hpair ⟨rfl, hr⟩
        | cons d rest => exact hreturn rest hr (by rw [(List.cons.inj ht).1])
      rw [List.cons_append, List.cons_append, hkeep u, hkeep [], ih]
      rfl
  | case4 c rest hreturn hc hrest ih => exact hunbroken (by simpa using hc) ih
  | case5 c rest hreturn hc line others hrest ih => exact hunbroken (by simpa using hc) ih

/-- The `lines` of texts joined by line feeds are those of the first, ended by a line feed, and of the others.
-/
theorem lines_joinWith (t : Text) {rest : List Text} (hne : rest ≠ []) :
    lines (joinWith ['\n'] (t :: rest)) = lines (t ++ ['\n']) ++ lines (joinWith ['\n'] rest) := by
  cases rest with
  | nil => exact absurd rfl hne
  | cons u others =>
    rw [joinWith, List.append_assoc]
    · exact lines_append_lineFeed t _
    · exact List.cons_ne_nil _ _

end PictureReport.Text
