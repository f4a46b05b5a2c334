import PictureReport.Proofs.Reading.Shielding

/-!
# What a line pattern matches

A picture line fits at a place of a text where its literals and texts for its fields stand one after the
other: each field but the last takes as many characters as it has columns, the last one any number of them
(`Segment.FitsAt`).  Matching finds the first of these places, and there the last field takes as much as it can
(`Segment.Takes`).
-/

namespace PictureReport

namespace Part

variable {parts : List Part} {t : Text} {texts : List Text}

theorem findDown?_greatest {α : Type} {f : Nat → Option α} {m : Nat} {a : α} (h : findDown? f m = some a) :
    ∃ n ≤ m, f n = some a ∧ ∀ k, n < k → k ≤ m → f k = none := by
  induction m with
  | zero => exact ⟨0, Nat.le_refl 0, h, fun k hk hk0 => by omega⟩
  | succ m ih =>
    rw [findDown?] at h
    obtain hlast | ⟨hnone, hrest⟩ := Option.or_eq_some_iff.mp h
    · exact ⟨m + 1, Nat.le_refl _, hlast, fun k hk hkm => by omega⟩
    · obtain ⟨n, hn, hfound, hlater⟩ := ih hrest
      refine ⟨n, by omega, hfound, fun k hk hkm => ?_⟩
      by_cases hkm' : k = m + 1
      · exact hkm' ▸ hnone
      · exact hlater k hk (by omega)

theorem search?_eq_some_iff : search? parts t = some texts ↔ ∃ p ≤ t.length,
    matchAt? parts (t.drop p) = some texts ∧ ∀ q < p, matchAt? parts (t.drop q) = none := by
  induction t with
  | nil =>
    constructor
    · intro h
      exact ⟨0, Nat.le_refl 0, h, fun q hq => absurd hq (Nat.not_lt_zero q)⟩
    · rintro ⟨p, -, hmatch, -⟩
      rwa [List.drop_nil] at hmatch
  | cons c t ih =>
    cases hfirst : matchAt? parts (c :: t) with
    | some first =>
      rw [search?_of_matchAt? hfirst]
      constructor
      · intro h
        exact ⟨0, Nat.zero_le _, hfirst.trans h, fun q hq => absurd hq (Nat.not_lt_zero q)⟩
      · rintro ⟨p, -, hmatch, hearlier⟩
        obtain rfl : p = 0 := by
          by_contra hp
          have hnone := hearlier 0 (by omega)
          rw [List.drop_zero, hfirst] at hnone
          cases hnone
        exact hfirst.symm.trans hmatch
    | none =>
      rw [search?_of_matchAt?_none hfirst, ih]
      constructor
      · rintro ⟨p, hp, hmatch, hearlier⟩
        refine ⟨p + 1, Nat.succ_le_succ hp, hmatch, fun q hq => ?_⟩
        cases q with
        | zero => exact hfirst
        | succ q => exact hearlier q (Nat.lt_of_succ_lt_succ hq)
      · rintro ⟨p, hp, hmatch, hearlier⟩
        cases p with
        | zero =>
          rw [List.drop_zero, hfirst] at hmatch
          cases hmatch
        | succ p => exact ⟨p, Nat.le_of_succ_le_succ hp, hmatch, fun q hq => hearlier (q + 1) (by omega)⟩

theorem search?_eq_none_iff :
    search? parts t = none ↔ ∀ p ≤ t.length, matchAt? parts (t.drop p) = none := by
  induction t with
  | nil =>
    constructor
    · intro h p _
      rwa [List.drop_nil]
    · intro h
      exact h 0 (Nat.le_refl 0)
  | cons c t ih =>
    rw [search?, Option.or_eq_none_iff, ih]
    constructor
    · rintro ⟨hfirst, hrest⟩ p hp
      cases p with
      | zero => exact hfirst
      | succ p => exact hrest p (Nat.le_of_succ_le_succ hp)
    · intro h
      exact ⟨h 0 (Nat.zero_le _), fun p hp => h (p + 1) (Nat.succ_le_succ hp)⟩

theorem exists_of_matchAt?_columns {width : Nat} (h : matchAt? (.columns width :: parts) t = some texts) :
    ∃ shown rest more, t = shown ++ rest ∧ shown.length = width ∧ matchAt? parts rest = some more ∧
      texts = shown :: more := by
  rw [matchAt?] at h
  split at h
  · rename_i htaken
    obtain ⟨more, hmatch, rfl⟩ := Option.map_eq_some_iff.mp h
    exact ⟨t.take width, t.drop width, more, (List.take_append_drop width t).symm, htaken.1, hmatch, rfl⟩
  · cases h

end Part

/-! ## Where a line fits -/

namespace Segment

/-- The segments as a printed line has them: text at the end has lost the blanks at its end. -/
def printed : List Segment → List Segment
  | [] => []
  | literal t :: rest => literal (if rest.isEmpty then t.trimRight else t) :: printed rest
  | field f :: rest => field f :: printed rest

/-- There is a text for each field, and each but the last is as wide as its field. -/
def Fill (segments : List Segment) (texts : List Text) : Prop :=
  texts.length = (segments.filterMap field?).length ∧
  List.Forall₂ (fun (f : Field) shown => shown.length = f.width) (segments.filterMap field?).dropLast
    texts.dropLast

/-- `t` starts with the segments, and their fields take `texts`. -/
def Fits (segments : List Segment) (texts : List Text) (t : Text) : Prop :=
  Fill segments texts ∧ lay (printed segments) texts <+: t

/-- The segments fit at the offset `p` of `t`, and their fields take `texts` there. -/
def FitsAt (segments : List Segment) (t : Text) (p : Nat) (texts : List Text) : Prop :=
  p ≤ t.length ∧ Fits segments texts (t.drop p)

/-- The segments fit nowhere before `p`, and there the last field cannot take more. -/
def Takes (segments : List Segment) (t : Text) (p : Nat) (texts : List Text) : Prop :=
  FitsAt segments t p texts ∧ ∀ q others, FitsAt segments t q others →
    p ≤ q ∧ (q = p → (others.getLastD []).length ≤ (texts.getLastD []).length)

variable {segments : List Segment} {f : Field} {t u : Text} {texts : List Text}

theorem fits_nil : Fits [] texts t ↔ texts = [] := by
  constructor
  · rintro ⟨⟨hlength, -⟩, -⟩
    exact List.length_eq_zero_iff.mp hlength
  · rintro rfl
    exact ⟨⟨rfl, .nil⟩, List.nil_prefix⟩

theorem fits_literal : Fits (.literal u :: segments) texts t ↔
    ∃ rest, t = (if segments.isEmpty then u.trimRight else u) ++ rest ∧ Fits segments texts rest := by
  constructor
  · rintro ⟨hfill, rest, ht⟩
    rw [printed, lay, List.append_assoc] at ht
    exact ⟨_, ht.symm, hfill, rest, rfl⟩
  · rintro ⟨_, rfl, hfill, rest, rfl⟩
    refine ⟨hfill, rest, ?_⟩
    rw [printed, lay, List.append_assoc]

theorem fits_inner (hmore : segments.filterMap field? ≠ []) : Fits (.field f :: segments) texts t ↔
    ∃ shown others rest, texts = shown :: others ∧ shown.length = f.width ∧ t = shown ++ rest ∧
      Fits segments others rest := by
  have hfields : ((Segment.field f :: segments).filterMap field?).dropLast =
      f :: (segments.filterMap field?).dropLast := by
    rw [List.filterMap_cons, field?]
    exact List.dropLast_cons_of_ne_nil hmore
  have hothers : ∀ {others : List Text}, others.length = (segments.filterMap field?).length →
      others ≠ [] := by
    rintro _ hlength rfl
    exact hmore (List.length_eq_zero_iff.mp hlength.symm)
  constructor
  · rintro ⟨⟨hlength, hwidths⟩, rest, ht⟩
    cases texts with
    | nil => cases hlength
    | cons shown others =>
      have hlength' : others.length = (segments.filterMap field?).length := Nat.succ.inj hlength
      rw [hfields, List.dropLast_cons_of_ne_nil (hothers hlength')] at hwidths
      obtain _ | ⟨hwidth, hwidths⟩ := hwidths
      rw [printed, lay, List.append_assoc] at ht
      exact ⟨shown, others, _, rfl, hwidth, ht.symm, ⟨hlength', hwidths⟩, rest, rfl⟩
  · rintro ⟨shown, others, _, rfl, hwidth, rfl, ⟨hlength, hwidths⟩, rest, rfl⟩
    refine ⟨⟨congrArg Nat.succ hlength, ?_⟩, rest, ?_⟩
    · rw [hfields, List.dropLast_cons_of_ne_nil (hothers hlength)]
      exact .cons hwidth hwidths
    · rw [printed, lay, List.append_assoc]

theorem fits_last (hlast : segments.filterMap field? = []) : Fits (.field f :: segments) texts t ↔
    ∃ shown rest, texts = [shown] ∧ t = shown ++ rest ∧ Fits segments [] rest := by
  have hfields : (Segment.field f :: segments).filterMap field? = [f] := by
    rw [List.filterMap_cons, field?, hlast]
  constructor
  · rintro ⟨⟨hlength, -⟩, rest, ht⟩
    rw [hfields] at hlength
    obtain ⟨shown, rfl⟩ := List.length_eq_one_iff.mp hlength
    rw [printed, lay, List.append_assoc] at ht
    exact ⟨shown, _, rfl, ht.symm, ⟨by rw [hlast]; rfl, by rw [hlast]; exact .nil⟩, rest, rfl⟩
  · rintro ⟨shown, _, rfl, rfl, -, rest, rfl⟩
    refine ⟨⟨by rw [hfields]; rfl, by rw [hfields]; exact .nil⟩, rest, ?_⟩
    rw [printed, lay, List.append_assoc]

theorem Fits.length (h : Fits segments texts t) : texts.length = (segments.filterMap field?).length := h.1.1

theorem Fits.eq_nil (h : Fits segments texts t) (hfields : segments.filterMap field? = []) : texts = [] := by
  have hlength := h.length
  rw [hfields] at hlength
  exact List.length_eq_zero_iff.mp hlength

/-- The last of the texts belongs to the last field. -/
theorem Fits.getLastD_cons (h : Fits segments texts t) (hmore : segments.filterMap field? ≠ [])
    (shown : Text) : (shown :: texts).getLastD [] = texts.getLastD [] := by
  cases texts with
  | nil => exact absurd (List.length_eq_zero_iff.mp h.length.symm) hmore
  | cons first others => rfl

/-! ## Matching at the front -/

/-- What the last field takes, with nothing but text behind it: as much as leaves that text. -/
theorem matchAt?_last_field {parts : List Part} (hfeed : '\n' ∉ t) :
    Part.matchAt? (.remainder :: parts) t =
      Part.findDown? (fun n => (Part.matchAt? parts (t.drop n)).map (t.take n :: ·)) t.length := by
  have hall : t.takeWhile (· ≠ '\n') = t := by
    refine List.takeWhile_eq_self_iff.mpr fun c hc => ?_
    have hne : c ≠ '\n' := by
      rintro rfl
      exact hfeed hc
    simpa using hne
  rw [Part.matchAt?, hall]

theorem matchAt?_isSome_of_fits (hfeed : '\n' ∉ t) (h : Fits segments texts t) :
    (Part.matchAt? (LinePattern.partsOf segments) t).isSome := by
  induction segments generalizing t texts with
  | nil => rfl
  | cons segment segments ih =>
    cases segment with
    | literal u =>
      obtain ⟨rest, rfl, hrest⟩ := fits_literal.mp h
      rw [LinePattern.partsOf, Part.matchAt?, Part.after?_eq_some.mpr rfl]
      exact ih (fun hc => hfeed (List.mem_append_right _ hc)) hrest
    | field f =>
      by_cases hlast : segments.filterMap field? = []
      · obtain ⟨shown, rest, rfl, rfl, hrest⟩ := (fits_last hlast).mp h
        rw [LinePattern.partsOf_last hlast, matchAt?_last_field hfeed]
        refine Part.findDown?_isSome (n := shown.length) (by simp) ?_
        rw [List.drop_left, Option.isSome_map]
        exact ih (fun hc => hfeed (List.mem_append_right _ hc)) hrest
      · obtain ⟨shown, others, rest, rfl, hwidth, rfl, hrest⟩ := (fits_inner hlast).mp h
        rw [LinePattern.partsOf_inner hlast, Part.matchAt?_columns hwidth
          (fun hc => hfeed (List.mem_append_left _ hc)), Option.isSome_map]
        exact ih (fun hc => hfeed (List.mem_append_right _ hc)) hrest

/-- A match `Fits`, and no other fit gives more to the last field. -/
theorem fits_of_matchAt? (hfeed : '\n' ∉ t)
    (h : Part.matchAt? (LinePattern.partsOf segments) t = some texts) :
    Fits segments texts t ∧
      ∀ others, Fits segments others t → (others.getLastD []).length ≤ (texts.getLastD []).length := by
  induction segments generalizing t texts with
  | nil =>
    cases h
    refine ⟨fits_nil.mpr rfl, fun others hothers => ?_⟩
    rw [fits_nil.mp hothers]
  | cons segment segments ih =>
    cases segment with
    | literal u =>
      rw [LinePattern.partsOf, Part.matchAt?] at h
      obtain ⟨rest, hafter, hmatch⟩ := Option.bind_eq_some_iff.mp h
      obtain rfl := Part.after?_eq_some.mp hafter
      obtain ⟨hfits, hlongest⟩ := ih (fun hc => hfeed (List.mem_append_right _ hc)) hmatch
      refine ⟨fits_literal.mpr ⟨rest, rfl, hfits⟩, fun others hothers => ?_⟩
      obtain ⟨rest', hrest, hothers⟩ := fits_literal.mp hothers
      obtain rfl := List.append_cancel_left hrest
      exact hlongest others hothers
    | field f =>
      by_cases hlast : segments.filterMap field? = []
      · rw [LinePattern.partsOf_last hlast, matchAt?_last_field hfeed] at h
        obtain ⟨n, hn, hfound, hlater⟩ := Part.findDown?_greatest h
        obtain ⟨more, hmatch, rfl⟩ := Option.map_eq_some_iff.mp hfound
        have hdrop : ∀ k, '\n' ∉ t.drop k := fun k hc => hfeed (List.mem_of_mem_drop hc)
        obtain ⟨hfits, -⟩ := ih (hdrop n) hmatch
        obtain rfl := hfits.eq_nil hlast
        refine ⟨(fits_last hlast).mpr ⟨_, _, rfl, (List.take_append_drop n t).symm, hfits⟩, ?_⟩
        intro others hothers
        obtain ⟨shown, rest, rfl, rfl, hrest⟩ := (fits_last hlast).mp hothers
        show shown.length ≤ ((shown ++ rest).take n).length
        rw [List.length_take, Nat.min_eq_left hn]
        -- a longer text for the last field would have been found before, as the count goes down
        by_contra hlonger
        have hnone := hlater shown.length (by omega) (by simp)
        rw [List.drop_left, Option.map_eq_none_iff] at hnone
        have hsome := matchAt?_isSome_of_fits (fun hc => hfeed (List.mem_append_right _ hc)) hrest
        rw [hnone] at hsome
        cases hsome
      · rw [LinePattern.partsOf_inner hlast] at h
        obtain ⟨shown, rest, more, rfl, hwidth, hmatch, rfl⟩ := Part.exists_of_matchAt?_columns h
        obtain ⟨hfits, hlongest⟩ := ih (fun hc => hfeed (List.mem_append_right _ hc)) hmatch
        refine ⟨(fits_inner hlast).mpr ⟨shown, more, rest, rfl, hwidth, rfl, hfits⟩, ?_⟩
        intro others hothers
        obtain ⟨shown', others, rest', rfl, hwidth', hrest, hothers⟩ := (fits_inner hlast).mp hothers
        obtain ⟨-, rfl⟩ := List.append_inj hrest (hwidth.trans hwidth'.symm)
        rw [hothers.getLastD_cons hlast, hfits.getLastD_cons hlast]
        exact hlongest others hothers

/-- Two fits at the same place differ in what the last field takes. -/
theorem Fits.eq {others : List Text} (h : Fits segments texts t) (hothers : Fits segments others t)
    (hlength : (others.getLastD []).length = (texts.getLastD []).length) : others = texts := by
  induction segments generalizing t texts others with
  | nil => rw [fits_nil.mp h, fits_nil.mp hothers]
  | cons segment segments ih =>
    cases segment with
    | literal u =>
      obtain ⟨rest, rfl, hrest⟩ := fits_literal.mp h
      obtain ⟨rest', hsame, hrest'⟩ := fits_literal.mp hothers
      obtain rfl := List.append_cancel_left hsame
      exact ih hrest hrest' hlength
    | field f =>
      by_cases hlast : segments.filterMap field? = []
      · obtain ⟨shown, rest, rfl, rfl, -⟩ := (fits_last hlast).mp h
        obtain ⟨shown', rest', rfl, hsame, -⟩ := (fits_last hlast).mp hothers
        rw [(List.append_inj hsame hlength.symm).1]
      · obtain ⟨shown, more, rest, rfl, hwidth, rfl, hrest⟩ := (fits_inner hlast).mp h
        obtain ⟨shown', more', rest', rfl, hwidth', hsame, hrest'⟩ := (fits_inner hlast).mp hothers
        obtain ⟨rfl, rfl⟩ := List.append_inj hsame (hwidth.trans hwidth'.symm)
        rw [hrest.getLastD_cons hlast, hrest'.getLastD_cons hlast] at hlength
        rw [ih hrest hrest' hlength]

/-! ## Matching anywhere -/

theorem search?_takes (hfeed : '\n' ∉ t) : Part.search? (LinePattern.partsOf segments) t = some texts ↔
    ∃ p, Takes segments t p texts := by
  have hdrop : ∀ p, '\n' ∉ t.drop p := fun p hc => hfeed (List.mem_of_mem_drop hc)
  rw [Part.search?_eq_some_iff]
  refine exists_congr fun p => ⟨?_, ?_⟩
  · rintro ⟨hp, hmatch, hearlier⟩
    obtain ⟨hfits, hlongest⟩ := fits_of_matchAt? (hdrop p) hmatch
    refine ⟨⟨hp, hfits⟩, fun q others hothers => ⟨?_, ?_⟩⟩
    · by_contra hq
      have hsome := matchAt?_isSome_of_fits (hdrop q) hothers.2
      rw [hearlier q (by omega)] at hsome
      cases hsome
    · rintro rfl
      exact hlongest others hothers.2
  · rintro ⟨⟨hp, hfits⟩, hfirst⟩
    obtain ⟨others, hmatch⟩ := Option.isSome_iff_exists.mp (matchAt?_isSome_of_fits (hdrop p) hfits)
    obtain ⟨hothers, hlongest⟩ := fits_of_matchAt? (hdrop p) hmatch
    have hlength := Nat.le_antisymm ((hfirst p others ⟨hp, hothers⟩).2 rfl) (hlongest texts hfits)
    obtain rfl := hfits.eq hothers hlength
    refine ⟨hp, hmatch, fun q hq => ?_⟩
    cases hearlier : Part.matchAt? (LinePattern.partsOf segments) (t.drop q) with
    | none => rfl
    | some found =>
      have hq' := (hfirst q found ⟨by omega, (fits_of_matchAt? (hdrop q) hearlier).1⟩).1
      omega

theorem search?_eq_none_iff (hfeed : '\n' ∉ t) : Part.search? (LinePattern.partsOf segments) t = none ↔
    ∀ p texts, ¬ FitsAt segments t p texts := by
  have hdrop : ∀ p, '\n' ∉ t.drop p := fun p hc => hfeed (List.mem_of_mem_drop hc)
  rw [Part.search?_eq_none_iff]
  constructor
  · rintro hnone p texts ⟨hp, hfits⟩
    have hsome := matchAt?_isSome_of_fits (hdrop p) hfits
    rw [hnone p hp] at hsome
    cases hsome
  · intro hnone p hp
    cases hmatch : Part.matchAt? (LinePattern.partsOf segments) (t.drop p) with
    | none => rfl
    | some texts => exact absurd ⟨hp, (fits_of_matchAt? (hdrop p) hmatch).1⟩ (hnone p texts)

/-- Only one choice of texts is taken (`Takes`), and only at one place. -/
theorem Takes.unique {others : List Text} {p q : Nat} (hfeed : '\n' ∉ t) (h : Takes segments t p texts)
    (hothers : Takes segments t q others) : others = texts := by
  have hfound := (search?_takes hfeed).mpr ⟨p, h⟩
  rw [(search?_takes hfeed).mpr ⟨q, hothers⟩] at hfound
  exact Option.some.inj hfound

theorem exists_takes (hfeed : '\n' ∉ t) (h : ∃ p texts, FitsAt segments t p texts) :
    ∃ p texts, Takes segments t p texts := by
  cases hsearch : Part.search? (LinePattern.partsOf segments) t with
  | none =>
    obtain ⟨p, texts, hfits⟩ := h
    exact absurd hfits ((search?_eq_none_iff hfeed).mp hsearch p texts)
  | some texts =>
    obtain ⟨p, htakes⟩ := (search?_takes hfeed).mp hsearch
    exact ⟨p, texts, htakes⟩

/-- Without fields the segments fit where their text is found. -/
theorem fitsAt_of_no_field (halternate : Alternate segments) (hfields : segments.filterMap field? = []) :
    (∃ p texts, FitsAt segments t p texts) ↔ (lay segments []).trimRight <:+: t := by
  have hlay : lay (printed segments) [] = (lay segments []).trimRight := by
    obtain rfl | ⟨u, rfl⟩ := halternate.eq_of_no_field hfields
    · rfl
    · show u.trimRight ++ [] = (u ++ []).trimRight
      rw [List.append_nil, List.append_nil]
  rw [← hlay]
  constructor
  · rintro ⟨p, texts, -, hfits⟩
    obtain rfl := hfits.eq_nil hfields
    exact hfits.2.isInfix.trans (List.drop_suffix p t).isInfix
  · rintro ⟨before, rest, rfl⟩
    refine ⟨before.length, [], by simp, ⟨by rw [hfields]; rfl, by rw [hfields]; exact .nil⟩, rest, ?_⟩
    rw [List.append_assoc, List.drop_left]

end Segment

/-! ## Matching a line -/

/-- What the fields of a line make of a record when they save `texts` in order, each under its variable. -/
def PictureLine.saving (line : PictureLine) (texts : List Text) (record : Record) : Except Fault Record :=
  ((line.fields.zip line.names).zip texts).foldlM
    (fun record entry => entry.1.1.save entry.1.2 entry.2 record) record

namespace LinePattern

theorem saveAll_eq (bindings : List (Field × String)) (texts : List Text) (record : Record) :
    (bindings.zip texts).foldlM (fun record entry => entry.1.1.save entry.1.2 entry.2 record) record =
      (saveAll bindings texts record).1.map fun _ => (saveAll bindings texts record).2 := by
  induction bindings generalizing texts record with
  | nil => rfl
  | cons binding bindings ih =>
    cases texts with
    | nil => rfl
    | cons t texts =>
      obtain ⟨f, name⟩ := binding
      rw [List.zip_cons_cons, List.foldlM_cons, saveAll]
      cases hsave : f.save name t record with
      | error fault => rfl
      | ok made => exact ih texts made

variable {line : PictureLine} {text : Text}

/-- Where the line fits first, `matchLine` has its fields save what they take. -/
theorem matchLine_of_takes (hfeed : '\n' ∉ text) (record : Record) {p : Nat} {texts : List Text}
    (h : Segment.Takes line.segments text p texts) :
    (∃ made, line.saving texts record = .ok made ∧ (of line).matchLine text record = (.ok true, made)) ∨
      ∃ fault left, line.saving texts record = .error fault ∧
        (of line).matchLine text record = (.error fault, left) := by
  have hsearch : Part.search? (of line).parts text = some texts := (Segment.search?_takes hfeed).mpr ⟨p, h⟩
  have hsaving : line.saving texts record = _ := saveAll_eq (of line).bindings texts record
  unfold matchLine
  rw [hsearch, hsaving]
  rcases hsaved : saveAll (of line).bindings texts record with ⟨fault | _, left⟩
  · simp only [hsaved]
    exact .inr ⟨fault, left, rfl, rfl⟩
  · simp only [hsaved]
    exact .inl ⟨left, rfl, rfl⟩

theorem matchLine_of_not_fits (hfeed : '\n' ∉ text) (record : Record)
    (h : ∀ p texts, ¬ Segment.FitsAt line.segments text p texts) :
    (of line).matchLine text record = (.ok false, record) := by
  have hsearch : Part.search? (of line).parts text = none := (Segment.search?_eq_none_iff hfeed).mpr h
  unfold matchLine
  rw [hsearch]

/-- For every line that compiles and every text without a line feed.  Unless saving fails, the line is matched
if and only if it fits somewhere.  It is matched with a record just if that is what saving makes of the texts
taken at the first place where it fits, the last of them as long as possible; where saving them fails, so does
matching.  Without fields, it is matched if its text is found without the blanks at the end. -/
theorem matchLine_exact {spec : Spec} {lines : List PictureLine} (hspec : spec.compile = .ok lines)
    (hline : line ∈ lines) (hfeed : '\n' ∉ text) :
    ∃ pattern, ofLine line = .ok pattern ∧ ∀ record,
      ((∀ fault, (pattern.matchLine text record).1 ≠ .error fault) →
        ((pattern.matchLine text record).1 = .ok true ↔
          ∃ p texts, Segment.FitsAt line.segments text p texts)) ∧
      (∀ made, pattern.matchLine text record = (.ok true, made) ↔
        ∃ p texts, Segment.Takes line.segments text p texts ∧ line.saving texts record = .ok made) ∧
      (∀ made, pattern.matchLine text record = (.ok false, made) ↔
        made = record ∧ ∀ p texts, ¬ Segment.FitsAt line.segments text p texts) ∧
      (∀ fault, (pattern.matchLine text record).1 = .error fault ↔
        ∃ p texts, Segment.Takes line.segments text p texts ∧ line.saving texts record = .error fault) ∧
      (line.fields = [] → ((pattern.matchLine text record).1 = .ok true ↔
        (Segment.lay line.segments []).trimRight <:+: text)) := by
  have hclean := PictureLine.compile_clean hspec line hline
  refine ⟨of line, ofLine_eq hclean.names, fun record => ?_⟩
  by_cases hfits : ∃ p texts, Segment.FitsAt line.segments text p texts
  · obtain ⟨p, texts, htakes⟩ := Segment.exists_takes hfeed hfits
    -- only one choice of texts is taken, so what holds of some choice holds of this one
    have htaken : ∀ outcome, (∃ p texts, Segment.Takes line.segments text p texts ∧
        line.saving texts record = outcome) ↔ line.saving texts record = outcome := by
      intro outcome
      constructor
      · rintro ⟨q, others, hothers, rfl⟩
        rw [htakes.unique hfeed hothers]
      · rintro rfl
        exact ⟨p, texts, htakes, rfl⟩
    have hsomewhere : ¬ ∀ p texts, ¬ Segment.FitsAt line.segments text p texts := by
      simpa using hfits
    simp only [htaken]
    obtain ⟨made, hsaving, hmatch⟩ | ⟨fault, left, hsaving, hmatch⟩ :=
      matchLine_of_takes hfeed record htakes
    · rw [hmatch, hsaving]
      refine ⟨by simp [hfits], by simp, by simp [hsomewhere], by simp, fun hfields => ?_⟩
      rw [← Segment.fitsAt_of_no_field hclean.alternate hfields]
      simp [hfits]
    · rw [hmatch, hsaving]
      refine ⟨fun hnot => absurd rfl (hnot fault), by simp, by simp [hsomewhere], by simp, ?_⟩
      intro hfields
      -- without fields nothing is saved, so nothing can go wrong
      have hnone : line.saving texts record = .ok record := by
        rw [PictureLine.saving, hfields]
        rfl
      rw [hsaving] at hnone
      cases hnone
  · have hnowhere : ∀ p texts, ¬ Segment.FitsAt line.segments text p texts := by simpa using hfits
    have hnot : ∀ p texts, ¬ Segment.Takes line.segments text p texts :=
      fun p texts h => hnowhere p texts h.1
    rw [matchLine_of_not_fits hfeed record hnowhere]
    refine ⟨by simp [hfits], by simp [hnot], by simp [hnowhere, eq_comm], by simp [hnot], fun hfields => ?_⟩
    rw [← Segment.fitsAt_of_no_field hclean.alternate hfields]
    simp [hnowhere]

section Dotted

/-- Two fields between texts with dots. -/
def dottedLine : PictureLine :=
  ⟨[.literal "a.".toList, .field ⟨.text .left 2, false⟩, .literal ".".toList,
    .field ⟨.text .left 2, false⟩, .literal "b  ".toList], false, false, ["x", "y"], "a.@<.@<b  ".toList⟩

/-- A line in which the first two characters of the picture are found twice, and the last one, too. -/
def dottedText : Text := "a.a.xx.yybab".toList

theorem matchLine_exact_dotted :
    (Spec.text "a.@<.@<b  \nx,y\n".toList).compile = .ok [dottedLine] ∧ '\n' ∉ dottedText ∧
    Segment.FitsAt dottedLine.segments dottedText 2 ["xx".toList, "yy".toList] ∧
    ∃ pattern, ofLine dottedLine = .ok pattern ∧
      pattern.matchLine dottedText [] =
        (.ok true, [("x", .text "xx".toList), ("y", .text "yyba".toList)]) ∧
      (∃ p texts, Segment.Takes dottedLine.segments dottedText p texts ∧ dottedLine.saving texts [] =
        .ok [("x", .text "xx".toList), ("y", .text "yyba".toList)]) := by
  have hspec : (Spec.text "a.@<.@<b  \nx,y\n".toList).compile = .ok [dottedLine] := by rfl
  have hfeed : '\n' ∉ dottedText := by decide
  have hfits : Segment.FitsAt dottedLine.segments dottedText 2 ["xx".toList, "yy".toList] :=
    ⟨by decide, ⟨by rfl, .cons (by rfl) .nil⟩, ⟨"ab".toList, by rfl⟩⟩
  obtain ⟨pattern, hpattern, hexact⟩ := matchLine_exact hspec (List.mem_singleton_self _) hfeed
  obtain ⟨-, hmatched, -, -, -⟩ := hexact []
  have hmatch : pattern.matchLine dottedText [] =
      (.ok true, [("x", .text "xx".toList), ("y", .text "yyba".toList)]) := by
    cases hpattern
    rfl
  exact ⟨hspec, hfeed, hfits, pattern, hpattern, hmatch, (hmatched _).mp hmatch⟩

/-- A number of two columns. -/
def countLine : PictureLine :=
  ⟨[.field ⟨.fixed ⟨2, 0, false⟩, false⟩], false, false, ["n"], "@#".toList⟩

/-- The text `inf` reads as an infinite number and fits, but it is neither saved nor reported. -/
theorem infinity_not_reported :
    (Spec.text "@#\nn\n".toList).compile = .ok [countLine] ∧ '\n' ∉ "inf".toList ∧
    Segment.FitsAt countLine.segments "inf".toList 0 ["inf".toList] ∧
    ∃ pattern, ofLine countLine = .ok pattern ∧
      pattern.matchLine "inf".toList [] = (.error (.number .infinite), []) := by
  have hfits : Segment.FitsAt countLine.segments "inf".toList 0 ["inf".toList] :=
    ⟨by decide, ⟨by rfl, .nil⟩, ⟨[], by rfl⟩⟩
  exact ⟨by rfl, by decide, hfits, of countLine, by rfl, by rfl⟩

end Dotted

end LinePattern

end PictureReport
