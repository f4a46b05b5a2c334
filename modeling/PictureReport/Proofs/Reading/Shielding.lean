import PictureReport.Proofs.Picture.Grammar
import PictureReport.Proofs.Reading.Placement
import PictureReport.Proofs.Reading.Separation

/-!
# Matching behind a form feed

A pattern is searched from the first character of a line on, so text at its front finds its place behind a
form feed.  A field at its front takes the form feed in, which shows unless the field is alone and drops
blanks (`PictureLine.Shielded`): where other fields follow it, a line that is a character too short is matched
behind a form feed, and a text that is flush left or right keeps the form feed.
-/

namespace PictureReport

/-- A line, and a form feed before it if there is one. -/
def Text.fed (feed : Bool) (t : Text) : Text := if feed then '\x0c' :: t else t

/-- A form feed is no line end, so `withoutEnd` keeps it. -/
theorem withoutEnd_formFeed (t : Text) : withoutEnd ('\x0c' :: t) = '\x0c' :: withoutEnd t := by
  unfold withoutEnd Text.dropEnd
  rw [List.reverse_cons, List.dropWhile_append]
  split
  · rename_i hempty
    rw [List.isEmpty_iff.mp hempty]
    rfl
  · rw [List.reverse_append]
    rfl

namespace Part

variable {parts : List Part} {t : Text} {c : Char}

theorem search?_of_matchAt?_none (h : matchAt? parts (c :: t) = none) :
    search? parts (c :: t) = search? parts t := by
  rw [search?, h, Option.none_or]

theorem findDown?_isSome {α : Type} {f : Nat → Option α} {n m : Nat} (hn : n ≤ m) (h : (f n).isSome) :
    (findDown? f m).isSome := by
  induction m with
  | zero =>
    obtain rfl : n = 0 := by omega
    exact h
  | succ m ih =>
    rw [findDown?, Option.isSome_or, Bool.or_eq_true]
    by_cases hm : n = m + 1
    · exact .inl (hm ▸ h)
    · exact .inr (ih (by omega))

theorem findDown?_succ {α : Type} (f : Nat → Option α) (n : Nat) :
    findDown? f (n + 1) = (findDown? (fun k => f (k + 1)) n).or (f 0) := by
  induction n with
  | zero => rfl
  | succ n ih =>
    rw [findDown?, ih, findDown?, Option.or_assoc]

theorem findDown?_map {α β : Type} (g : α → β) (f : Nat → Option α) (n : Nat) :
    findDown? (fun k => (f k).map g) n = (findDown? f n).map g := by
  induction n with
  | zero => rfl
  | succ n ih => rw [findDown?, findDown?, ih, Option.map_or]

/-- What a field that takes all that is left takes behind a character. -/
theorem matchAt?_remainder_cons (hc : c ≠ '\n')
    (h : matchAt? parts (c :: t) = none ∨ (matchAt? (.remainder :: parts) t).isSome) :
    matchAt? (.remainder :: parts) (c :: t) =
      (matchAt? (.remainder :: parts) t).map fun texts => (c :: texts.headD []) :: texts.tail := by
  have hlength : ((c :: t).takeWhile (· ≠ '\n')).length = (t.takeWhile (· ≠ '\n')).length + 1 := by
    rw [List.takeWhile_cons, if_pos (by simpa using hc), List.length_cons]
  have hmap := findDown?_map (fun texts : List Text => (c :: texts.headD []) :: texts.tail)
    (fun n => (matchAt? parts (t.drop n)).map (t.take n :: ·)) (t.takeWhile (· ≠ '\n')).length
  rw [matchAt?, hlength, findDown?_succ, List.drop_zero, List.take_zero]
  simp only [List.drop_succ_cons, List.take_succ_cons]
  simp only [Option.map_map, Function.comp_def, List.headD_cons, List.tail_cons] at hmap
  rw [hmap, ← matchAt?]
  obtain hnone | hsome := h
  · rw [hnone, Option.map_none, Option.or_none]
  · rw [Option.or_of_isSome]
    rw [Option.isSome_map]
    exact hsome

theorem matchAt?_remainder_isSome (h : (matchAt? parts t).isSome) :
    (matchAt? (.remainder :: parts) t).isSome := by
  rw [matchAt?]
  refine findDown?_isSome (Nat.zero_le _) ?_
  rw [List.drop_zero, Option.isSome_map]
  exact h

/-- A text at the front is not found at a character that it does not start with. -/
theorem matchAt?_literal_of_not_mem {l : Text} (hl : l ≠ []) (hc : c ∉ l) :
    matchAt? (.literal l :: parts) (c :: t) = none := by
  obtain ⟨d, l, rfl⟩ := List.exists_cons_of_ne_nil hl
  have hd : d ≠ c := by
    rintro rfl
    exact hc List.mem_cons_self
  rw [matchAt?, after?, if_neg hd]
  rfl

end Part

/-! ## Shielded pictures -/

/-- The value of the field is without all blanks at the front of its columns, not only without spaces. -/
def Field.DropsBlanks (f : Field) : Prop :=
  match f.shape with
  | .text .left _ | .text .right _ => False
  | _ => True

namespace Field

variable {f : Field}

theorem valueOf_formFeed (h : f.DropsBlanks) (t : Text) : f.valueOf ('\x0c' :: t) = f.valueOf t := by
  have htrim : Text.trim ('\x0c' :: t) = Text.trim t := rfl
  have hwords : Text.words ('\x0c' :: t) = Text.words t := Text.words_cons_blank (by decide) t
  unfold valueOf
  unfold DropsBlanks at h
  split at h
  · exact h.elim
  · exact h.elim
  · split <;> simp_all [Value.ofNumeral]

/-- A field that does not drop blanks keeps a form feed in its value. -/
theorem valueOf_fed (h : ¬ f.DropsBlanks) (feed : Bool) :
    f.valueOf (Text.fed feed []) = .ok (.text (Text.fed feed [])) := by
  unfold DropsBlanks at h
  unfold valueOf
  split at h
  · rename_i hshape
    rw [hshape]
    cases feed <;> rfl
  · rename_i hshape
    rw [hshape]
    cases feed <;> rfl
  · exact absurd trivial h

theorem save_of_valueOf_text {t : Text} (h : f.valueOf t = .ok (.text t)) (name : String) :
    f.save name t [] = .ok [(name, .text t)] := by
  unfold save
  rw [h]
  dsimp only
  split <;> rfl

end Field

namespace PictureLine

/-- A form feed before a line does not show: the picture starts with text, or it has no field, or its only
field drops blanks. -/
def Shielded (picture : PictureLine) : Prop :=
  match picture.segments with
  | .field f :: rest => rest.filterMap Segment.field? = [] ∧ f.DropsBlanks
  | _ => True

/-- A form feed before this line does not show in particular: no match starts there. -/
def Bears (picture : PictureLine) (line : Text) : Prop :=
  picture.Shielded ∨ Part.matchAt? (LinePattern.partsOf picture.segments) ('\x0c' :: line) = none

/-- What matching needs to know about compiled pictures. -/
structure IsClean (picture : PictureLine) : Prop where
  alternate : Segment.Alternate picture.segments
  names : picture.names.length = picture.fields.length
  literals : ∀ t, .literal t ∈ picture.segments → t ≠ [] ∧ ∀ c ∈ t, Text.isBreak c = false
  wide : ∀ f ∈ picture.fields, 0 < f.width

variable {picture : PictureLine} {line : Text}

theorem compile_clean {spec : Spec} {lines : List PictureLine} (hspec : spec.compile = .ok lines) :
    ∀ picture ∈ lines, picture.IsClean := by
  intro picture hp
  have hline := (Spec.compile_eq_ok.mp hspec).ofLine picture hp
  have hcompiled := (Spec.compile_compiled hspec picture hp).1
  refine ⟨hcompiled.drawn.alternate, hcompiled.names,
    fun t ht => ⟨?_, Spec.unbroken_of_literal hspec hp ht⟩, ?_⟩
  · rintro rfl
    exact Segment.ofLine_literal_ne_nil hline ht
  · intro f hf
    have hsized : f.width = f.source.length := (Segment.ofLine_faithful hline).1.sized _ (mem_fields.mp hf)
    rw [hsized, Field.source]
    exact Nat.succ_pos _

/-- Behind a field that is alone there is at most one text. -/
theorem IsClean.behind_lone (h : picture.IsClean) {f : Field} {segments : List Segment}
    (hsegments : picture.segments = .field f :: segments) (hlone : segments.filterMap Segment.field? = []) :
    segments = [] ∨ ∃ u, segments = [.literal u] := by
  have hall := h.alternate
  rw [hsegments] at hall
  have hbehind : Segment.Alternate segments := hall
  exact hbehind.eq_of_no_field hlone

/-- A field that is alone has a variable of its own. -/
theorem IsClean.bindings_lone (h : picture.IsClean) {f : Field} {segments : List Segment}
    (hsegments : picture.segments = .field f :: segments) (hlone : segments.filterMap Segment.field? = []) :
    ∃ name, (LinePattern.of picture).bindings = [(f, name)] := by
  have hfields : picture.fields = [f] := by
    simp only [PictureLine.fields, hsegments, List.filterMap_cons, Segment.field?, hlone]
  obtain ⟨name, hname⟩ : ∃ name, picture.names = [name] :=
    List.length_eq_one_iff.mp (by rw [h.names, hfields]; rfl)
  exact ⟨name, LinePattern.bindings_of_single hfields hname⟩

theorem IsClean.feedless (h : picture.IsClean) {t : Text} (ht : .literal t ∈ picture.segments) : '\x0c' ∉ t :=
  fun hc => absurd ((h.literals t ht).2 _ hc) (by decide)

end PictureLine

namespace LinePattern

section Pictures

variable {picture : PictureLine} {line : Text} {segments : List Segment}

theorem matchLine_of_search? {pattern : LinePattern} {other : Text}
    (h : Part.search? pattern.parts line = Part.search? pattern.parts other) (record : Record) :
    pattern.matchLine line record = pattern.matchLine other record := by
  unfold matchLine
  rw [h]

/-- Text at the front of a picture finds its place behind a form feed. -/
theorem search?_formFeed_literal (h : picture.IsClean) {t : Text}
    (hsegments : picture.segments = .literal t :: segments) :
    Part.search? (partsOf picture.segments) ('\x0c' :: line) =
      Part.search? (partsOf picture.segments) line := by
  have hmem : .literal t ∈ picture.segments := by simp [hsegments]
  rw [hsegments, partsOf]
  by_cases hempty : (if segments.isEmpty then t.trimRight else t) = []
  · obtain rfl : segments = [] := by
      by_contra hne
      rw [if_neg (by rwa [List.isEmpty_iff])] at hempty
      exact (h.literals t hmem).1 hempty
    rw [hempty]
    exact (Part.search?_of_matchAt? rfl).trans (Part.search?_of_matchAt? rfl).symm
  · refine Part.search?_of_matchAt?_none (Part.matchAt?_literal_of_not_mem hempty fun hc => ?_)
    refine h.feedless hmem ?_
    split at hc
    · exact Text.mem_of_mem_trimRight hc
    · exact hc

/-- A field that is alone takes in a form feed before the line. -/
theorem matchAt?_formFeed_lone (h : picture.IsClean) {f : Field}
    (hsegments : picture.segments = .field f :: segments)
    (hlone : segments.filterMap Segment.field? = []) (line : Text) :
    Part.matchAt? (partsOf picture.segments) ('\x0c' :: line) =
      (Part.matchAt? (partsOf picture.segments) line).map
        fun texts => ('\x0c' :: texts.headD []) :: texts.tail := by
  rw [hsegments, partsOf_last hlone]
  refine Part.matchAt?_remainder_cons (by decide) ?_
  obtain rfl | ⟨u, rfl⟩ := h.behind_lone hsegments hlone
  · exact .inr (Part.matchAt?_remainder_isSome rfl)
  · by_cases hempty : u.trimRight = []
    · refine .inr (Part.matchAt?_remainder_isSome ?_)
      simp only [partsOf, List.isEmpty_nil, if_true, hempty]
      rfl
    · refine .inl ?_
      simp only [partsOf, List.isEmpty_nil, if_true]
      refine Part.matchAt?_literal_of_not_mem hempty fun hc => ?_
      exact h.feedless (t := u) (by simp [hsegments]) (Text.mem_of_mem_trimRight hc)

theorem exists_of_matchAt?_remainder {parts : List Part} {texts : List Text}
    (h : Part.matchAt? (.remainder :: parts) line = some texts) : ∃ t more, texts = t :: more := by
  rw [Part.matchAt?] at h
  obtain ⟨n, hn⟩ := Part.exists_of_findDown? h
  obtain ⟨more, -, rfl⟩ := Option.map_eq_some_iff.mp hn
  exact ⟨_, more, rfl⟩

/-- A line that `Bears` a form feed is matched and saved behind one as without it. -/
theorem matchLine_formFeed (h : picture.IsClean) (hbears : picture.Bears line) (record : Record) :
    (of picture).matchLine ('\x0c' :: line) record = (of picture).matchLine line record := by
  obtain hshielded | hnone := hbears
  · cases hsegments : picture.segments with
    | nil =>
      refine matchLine_of_search? ?_ record
      simp only [of, hsegments]
      exact (Part.search?_of_matchAt? rfl).trans (Part.search?_of_matchAt? rfl).symm
    | cons segment segments =>
      cases segment with
      | literal t => exact matchLine_of_search? (search?_formFeed_literal h hsegments) record
      | field f =>
        rw [PictureLine.Shielded, hsegments] at hshielded
        obtain ⟨hlone, hdrops⟩ := hshielded
        -- the field takes the form feed in, and its value drops it again
        obtain ⟨name, hbindings⟩ := h.bindings_lone hsegments hlone
        have hmatch := matchAt?_formFeed_lone h hsegments hlone line
        cases hline : Part.matchAt? (partsOf picture.segments) line with
        | none =>
          rw [hline] at hmatch
          exact matchLine_of_search? (Part.search?_of_matchAt?_none hmatch) record
        | some texts =>
          rw [hline] at hmatch
          have hremainder := hline
          rw [hsegments, partsOf_last hlone] at hremainder
          obtain ⟨t, more, rfl⟩ := exists_of_matchAt?_remainder hremainder
          have hfeed : Part.search? (of picture).parts ('\x0c' :: line) = some (('\x0c' :: t) :: more) :=
            Part.search?_of_matchAt? hmatch
          have hplain : Part.search? (of picture).parts line = some (t :: more) :=
            Part.search?_of_matchAt? hline
          unfold matchLine
          rw [hfeed, hplain, hbindings]
          simp only [saveAll, Field.save, Field.valueOf_formFeed hdrops]
  · exact matchLine_of_search? (Part.search?_of_matchAt?_none hnone) record

end Pictures

end LinePattern

open LinePattern

/-! ## Pictures that are not shielded -/

namespace Part

/-- The shortest text that the parts match, with spaces in the columns. -/
def least : List Part → Text
  | [] => []
  | literal l :: parts => l ++ least parts
  | columns width :: parts => Text.spaces width ++ least parts
  | remainder :: parts => least parts

theorem length_least (parts : List Part) : (least parts).length = leastLength parts := by
  fun_induction least parts <;> simp_all [leastLength]

theorem matchAt?_columns {width : Nat} {parts : List Part} {t rest : Text} (ht : t.length = width)
    (hfeed : '\n' ∉ t) :
    matchAt? (.columns width :: parts) (t ++ rest) = (matchAt? parts rest).map (t :: ·) := by
  have htake : (t ++ rest).take width = t := by rw [← ht, List.take_left]
  have hdrop : (t ++ rest).drop width = rest := by rw [← ht, List.drop_left]
  simp [matchAt?, htake, hdrop, ht, hfeed]

theorem matchAt?_least (parts : List Part) : (matchAt? parts (least parts)).isSome := by
  induction parts with
  | nil => rfl
  | cons part parts ih =>
    cases part with
    | literal l =>
      have hafter : after? l (l ++ least parts) = some (least parts) := after?_eq_some.mpr rfl
      rw [least, matchAt?, hafter]
      exact ih
    | columns width =>
      have hspaces : '\n' ∉ Text.spaces width := fun h => absurd (Text.eq_space_of_mem_spaces h) (by decide)
      rw [least, matchAt?_columns (Text.length_spaces width) hspaces, Option.isSome_map]
      exact ih
    | remainder => exact matchAt?_remainder_isSome ih

end Part

section Exposed

variable {patterns : List LinePattern} {line : Text}

/-- A line that is recognized gives a record or a fault. -/
theorem readLines_of_recognize (h : Recognize patterns (withoutEnd line)) :
    readLines patterns [line] ≠ ([], none) := by
  intro hnone
  obtain ⟨blocks, left, hdivision, hrecords, hleft, -⟩ := readLines_divides patterns [line]
  rw [hnone] at hrecords hleft
  obtain rfl := hleft rfl
  generalize hlines : [line] = lines at hdivision
  cases hdivision with
  | stop => cases hlines
  | skip hno _ =>
    cases hlines
    exact hno h
  | take _ _ _ _ _ => cases hrecords

theorem readLines_of_not_recognize (h : ¬ Recognize patterns (withoutEnd line)) :
    readLines patterns [line] = ([], none) := by
  rw [readLines_skip h, readLines_nil]

theorem readLines_of_saveAll {pattern : LinePattern} {texts : List Text} {record : Record}
    (hsearch : Part.search? pattern.parts (withoutEnd line) = some texts)
    (hsave : saveAll pattern.bindings texts [] = (.ok (), record)) :
    readLines [pattern] [line] = ([record], none) := by
  refine readLines_of_absorb (List.cons_ne_nil _ _) ?_
  simp only [List.map_cons, List.map_nil, absorb, matchLine_of_saveAll hsearch hsave, ite_self]

variable {picture : PictureLine} {f : Field} {segments : List Segment}

theorem unbroken_least (hliterals : ∀ t, .literal t ∈ segments → ∀ c ∈ t, Text.isBreak c = false) :
    ∀ c ∈ Part.least (partsOf segments), Text.isBreak c = false := by
  induction segments with
  | nil => exact fun c hc => absurd hc List.not_mem_nil
  | cons segment segments ih =>
    have hlater := ih fun t ht => hliterals t (List.mem_cons_of_mem _ ht)
    cases segment with
    | literal t =>
      rw [partsOf, Part.least, List.forall_mem_append]
      refine ⟨fun c hc => hliterals t List.mem_cons_self c ?_, hlater⟩
      split at hc
      · exact Text.mem_of_mem_trimRight hc
      · exact hc
    | field g =>
      rw [partsOf]
      split
      · exact hlater
      · rw [Part.least, List.forall_mem_append]
        refine ⟨fun c hc => ?_, hlater⟩
        rw [Text.eq_space_of_mem_spaces hc]
        rfl

/-- Where other fields follow the first one, the `least` line without its first character is matched behind a
form feed, and only there. -/
theorem exposed_of_fields (h : picture.IsClean) (hsegments : picture.segments = .field f :: segments)
    (hmore : segments.filterMap Segment.field? ≠ []) :
    ∃ t, (∀ c ∈ t, Text.isBreak c = false) ∧ ¬ Recognize [of picture] t ∧
      Recognize [of picture] ('\x0c' :: t) := by
  have hparts : partsOf picture.segments = .columns f.width :: partsOf segments := by
    rw [hsegments, partsOf_inner hmore]
  obtain ⟨width, hwidth⟩ : ∃ width, f.width = width + 1 :=
    Nat.exists_eq_succ_of_ne_zero (Nat.ne_of_gt (h.wide f (PictureLine.mem_fields.mpr (by simp [hsegments]))))
  -- the form feed takes the column that the line lacks
  refine ⟨Text.spaces width ++ Part.least (partsOf segments), ?_, ?_, of picture, List.mem_singleton_self _, ?_⟩
  · rw [List.forall_mem_append]
    refine ⟨fun c hc => ?_, unbroken_least fun t ht => (h.literals t (by simp [hsegments, ht])).2⟩
    rw [Text.eq_space_of_mem_spaces hc]
    rfl
  · rintro ⟨pattern, hp, hmatch⟩
    obtain rfl := List.mem_singleton.mp hp
    have hshort : (Text.spaces width ++ Part.least (partsOf segments)).length <
        Part.leastLength (of picture).parts := by
      simp only [of, hparts, List.length_append, Text.length_spaces, Part.length_least, Part.leastLength,
        hwidth]
      omega
    rw [Matches, Part.search?_eq_none hshort] at hmatch
    cases hmatch
  · have hfeed : '\n' ∉ '\x0c' :: Text.spaces width := by
      intro hc
      rcases List.mem_cons.mp hc with hc | hc
      · exact absurd hc (by decide)
      · exact absurd (Text.eq_space_of_mem_spaces hc) (by decide)
    have hmatch : (Part.matchAt? (of picture).parts
        (('\x0c' :: Text.spaces width) ++ Part.least (partsOf segments))).isSome := by
      simp only [of, hparts]
      rw [Part.matchAt?_columns (by simp [hwidth]) hfeed, Option.isSome_map]
      exact Part.matchAt?_least _
    obtain ⟨texts, htexts⟩ := Option.isSome_iff_exists.mp hmatch
    rw [Matches, ← List.cons_append, Part.search?_of_matchAt? htexts]
    rfl

/-- A field of text that is alone and does not drop blanks takes a form feed before an empty value for one. -/
theorem exposed_of_lone (h : picture.IsClean) (hsegments : picture.segments = .field f :: segments)
    (hlone : segments.filterMap Segment.field? = []) (hkeeps : ¬ f.DropsBlanks) :
    ∃ t name, (∀ c ∈ t, Text.isBreak c = false) ∧ ∀ feed,
      readLines [of picture] [Text.fed feed t] = ([[(name, .text (Text.fed feed []))]], none) := by
  obtain ⟨name, hbindings⟩ := h.bindings_lone hsegments hlone
  obtain ⟨t, hunbroken, hmatch⟩ : ∃ t, (∀ c ∈ t, Text.isBreak c = false) ∧
      Part.matchAt? (partsOf picture.segments) t = some [[]] := by
    rw [hsegments, partsOf_last hlone]
    obtain rfl | ⟨u, rfl⟩ := h.behind_lone hsegments hlone
    · exact ⟨[], fun c hc => absurd hc List.not_mem_nil, rfl⟩
    · refine ⟨u.trimRight, fun c hc => ?_, ?_⟩
      · exact (h.literals u (by simp [hsegments])).2 c (Text.mem_of_mem_trimRight hc)
      · simp only [partsOf, List.isEmpty_nil, if_true]
        exact Part.matchAt?_remainder (t := []) List.not_mem_nil
  have hfeed := matchAt?_formFeed_lone h hsegments hlone t
  rw [hmatch] at hfeed
  refine ⟨t, name, hunbroken, fun feed => ?_⟩
  have hsearch : Part.search? (of picture).parts (withoutEnd (Text.fed feed t)) = some [Text.fed feed []] := by
    cases feed with
    | false =>
      have hend : withoutEnd (Text.fed false t) = t := withoutEnd_of_unbroken hunbroken
      rw [hend]
      exact Part.search?_of_matchAt? hmatch
    | true =>
      have hend : withoutEnd (Text.fed true t) = '\x0c' :: t := by
        rw [← withoutEnd_of_unbroken hunbroken, ← withoutEnd_formFeed, withoutEnd_of_unbroken hunbroken]
        rfl
      rw [hend]
      exact Part.search?_of_matchAt? hfeed
  refine readLines_of_saveAll hsearch ?_
  rw [hbindings]
  simp only [saveAll, Field.save_of_valueOf_text (Field.valueOf_fed hkeeps feed)]

/-- Before a picture that is not `Shielded` some line reads otherwise behind a form feed. -/
theorem exposed_of_not_shielded (h : picture.IsClean) (hexposed : ¬ picture.Shielded) :
    ∃ t, '\x0c' ∉ t ∧ (readLines [of picture] [t]).2 = none ∧
      readLines [of picture] ['\x0c' :: t] ≠ readLines [of picture] [t] := by
  have hfeedless : ∀ t : Text, (∀ c ∈ t, Text.isBreak c = false) → '\x0c' ∉ t :=
    fun t ht hc => absurd (ht _ hc) (by decide)
  cases hsegments : picture.segments with
  | nil => simp [PictureLine.Shielded, hsegments] at hexposed
  | cons segment segments =>
    cases segment with
    | literal t => simp [PictureLine.Shielded, hsegments] at hexposed
    | field f =>
      rw [PictureLine.Shielded, hsegments] at hexposed
      by_cases hlone : segments.filterMap Segment.field? = []
      · obtain ⟨t, name, hunbroken, hread⟩ := exposed_of_lone h hsegments hlone fun hf => hexposed ⟨hlone, hf⟩
        have hplain := hread false
        have hfed := hread true
        rw [Text.fed, if_neg Bool.false_ne_true] at hplain
        rw [Text.fed, if_pos rfl] at hfed
        refine ⟨t, hfeedless t hunbroken, by rw [hplain], ?_⟩
        rw [hplain, hfed]
        simp [Text.fed]
      · obtain ⟨t, hunbroken, hno, hyes⟩ := exposed_of_fields h hsegments hlone
        have hplain : withoutEnd t = t := withoutEnd_of_unbroken hunbroken
        have hread : readLines [of picture] [t] = ([], none) := readLines_of_not_recognize (hplain.symm ▸ hno)
        refine ⟨t, hfeedless t hunbroken, by rw [hread], ?_⟩
        rw [hread]
        refine readLines_of_recognize ?_
        rw [withoutEnd_formFeed, hplain]
        exact hyes

end Exposed

end PictureReport
