import PictureReport.Reading.Records
import PictureReport.Proofs.Ends

/-!
# What becomes of the lines that are read

A line that is read is taken for a record or skipped.  A pass over the patterns takes lines off the front,
each of them by a pattern that matches it; a pass that takes none has tried every pattern on the line at
the front, so only a line that no pattern matches is skipped.  The blocks into which the lines are divided
in this way are the lines in order, each once (`readLines_partition`).

Reading stops before the end only where the text that a field takes cannot be turned into a value.
-/

namespace PictureReport

namespace LinePattern

/-- The pattern matches a line as it is read. -/
def Matches (pattern : LinePattern) (line : Text) : Prop := (Part.search? pattern.parts line).isSome

/-- Saving what some field takes from the line fails. -/
def Raises (pattern : LinePattern) (line : Text) (fault : Fault) : Prop :=
  ∃ texts, Part.search? pattern.parts line = some texts ∧
    ∃ f name t record, ((f, name), t) ∈ pattern.bindings.zip texts ∧ f.save name t record = .error fault

/-- Some pattern `Matches` the line. -/
def Recognize (patterns : List LinePattern) (line : Text) : Prop :=
  ∃ pattern ∈ patterns, pattern.Matches line

instance (pattern : LinePattern) (line : Text) : Decidable (pattern.Matches line) :=
  inferInstanceAs (Decidable (_ = true))

instance (patterns : List LinePattern) (line : Text) : Decidable (Recognize patterns line) :=
  inferInstanceAs (Decidable (∃ pattern ∈ patterns, pattern.Matches line))

section Lines

variable {pattern : LinePattern} {line : Text} {record made : Record} {fault : Fault}
variable {lines rest : List Text}

/-! ## One line -/

theorem saveAll_error {bindings : List (Field × String)} {texts : List Text}
    (h : saveAll bindings texts record = (.error fault, made)) :
    ∃ f name t record, ((f, name), t) ∈ bindings.zip texts ∧ f.save name t record = .error fault := by
  induction bindings generalizing texts record with
  | nil => cases h
  | cons binding bindings ih =>
    cases texts with
    | nil => cases h
    | cons t texts =>
      obtain ⟨f, name⟩ := binding
      simp only [saveAll] at h
      split at h
      · obtain ⟨g, other, u, after, hmem, hsave⟩ := ih h
        exact ⟨g, other, u, after, List.mem_cons_of_mem _ hmem, hsave⟩
      · rename_i hsave
        cases h
        exact ⟨f, name, t, _, List.mem_cons_self, hsave⟩

theorem matchLine_of_saveAll {texts : List Text} (hsearch : Part.search? pattern.parts line = some texts)
    (hsave : saveAll pattern.bindings texts record = (.ok (), made)) :
    pattern.matchLine line record = (.ok true, made) := by
  unfold matchLine
  rw [hsearch]
  simp only [hsave]
  rfl

theorem not_matches_of_matchLine (h : pattern.matchLine line record = (.ok false, made)) :
    ¬ pattern.Matches line := by
  unfold matchLine at h
  unfold Matches
  split at h
  · rename_i hsearch
    cases h
    simp [hsearch]
  · rename_i texts _
    rcases hsaved : saveAll pattern.bindings texts record with ⟨_ | _, after⟩ <;>
      rw [hsaved] at h <;> cases h

theorem matches_of_matchLine (h : pattern.matchLine line record = (.ok true, made)) :
    pattern.Matches line := by
  unfold matchLine at h
  unfold Matches
  split at h
  · cases h
  · rename_i hsearch
    simp [hsearch]

theorem raises_of_matchLine (h : pattern.matchLine line record = (.error fault, made)) :
    pattern.Raises line fault := by
  unfold matchLine at h
  split at h
  · cases h
  · rename_i texts hsearch
    rcases hsaved : saveAll pattern.bindings texts record with ⟨other | _, after⟩
    · rw [hsaved] at h
      cases h
      exact ⟨texts, hsearch, saveAll_error hsaved⟩
    · rw [hsaved] at h
      cases h

/-! ## The lines of a pattern -/

/-- `absorb` takes lines that the pattern matches off the front, none only if it does not match the first one.
Of the lines behind them it makes no use. -/
theorem absorb_ok (h : pattern.absorb record lines = .ok (made, rest)) :
    ∃ block, lines = block ++ rest ∧ (∀ line ∈ block, pattern.Matches line) ∧
      (block = [] → ∀ line ∈ rest.head?, ¬ pattern.Matches line) ∧
      ∀ others, others <+: rest → pattern.absorb record (block ++ others) = .ok (made, others) := by
  -- on the lines: a pattern that is not repeated takes one, and a repeated one goes on with the others
  induction lines generalizing record with
  | nil =>
    cases h
    refine ⟨[], rfl, by simp, by simp, fun others hothers => ?_⟩
    obtain rfl := List.prefix_nil.mp hothers
    rfl
  | cons line lines ih =>
    simp only [absorb] at h
    split at h
    · cases h
    · rename_i hmatch
      cases h
      have hno := not_matches_of_matchLine hmatch
      refine ⟨[], rfl, by simp, fun _ first hfirst => ?_, fun others hothers => ?_⟩
      · obtain rfl := Option.some.inj hfirst
        exact hno
      · cases others with
        | nil => rfl
        | cons other others =>
          obtain ⟨rfl, -⟩ := List.cons_prefix_cons.mp hothers
          simp only [List.nil_append, absorb, hmatch]
    · rename_i after hmatch
      have hyes := matches_of_matchLine hmatch
      split at h
      · rename_i hrepeated
        obtain ⟨block, rfl, hblock, -, hothers⟩ := ih h
        refine ⟨line :: block, rfl, List.forall_mem_cons.mpr ⟨hyes, hblock⟩, by simp, ?_⟩
        intro others hprefix
        simp only [List.cons_append, absorb, hmatch, hrepeated, if_true]
        exact hothers others hprefix
      · rename_i hrepeated
        cases h
        refine ⟨[line], rfl, by simpa using hyes, by simp, fun others _ => ?_⟩
        simp only [List.cons_append, List.nil_append, absorb, hmatch, hrepeated]
        rfl

theorem absorb_error (h : pattern.absorb record lines = .error fault) :
    ∃ line ∈ lines, pattern.Raises line fault := by
  induction lines generalizing record with
  | nil => cases h
  | cons line lines ih =>
    simp only [absorb] at h
    split at h
    · rename_i hmatch
      cases h
      exact ⟨line, List.mem_cons_self, raises_of_matchLine hmatch⟩
    · cases h
    · split at h
      · obtain ⟨other, hother, hraises⟩ := ih h
        exact ⟨other, List.mem_cons_of_mem _ hother, hraises⟩
      · cases h

/-! ## The lines of a pass -/

variable {patterns : List LinePattern}

/-- `pass` takes lines that are recognized off the front, none only if no pattern matches the first one.  Of
the lines behind them it makes no use. -/
theorem pass_ok (h : pass record lines patterns = .ok (made, rest)) :
    ∃ block, lines = block ++ rest ∧ (∀ line ∈ block, Recognize patterns line) ∧
      (block = [] → ∀ line ∈ rest.head?, ¬ Recognize patterns line) ∧
      ∀ others, others <+: rest → pass record (block ++ others) patterns = .ok (made, others) := by
  induction patterns generalizing record lines with
  | nil =>
    cases h
    exact ⟨[], rfl, by simp, fun _ line _ ⟨_, hp, _⟩ => absurd hp List.not_mem_nil, fun _ _ => rfl⟩
  | cons pattern patterns ih =>
    obtain ⟨⟨between, left⟩, hfirst, hrest⟩ := bind_eq_ok.mp h
    obtain ⟨first, rfl, hmatches, hnone, hfirsts⟩ := absorb_ok hfirst
    obtain ⟨block, rfl, hrecognized, hnones, hothers⟩ := ih hrest
    refine ⟨first ++ block, (List.append_assoc ..).symm, fun line hl => ?_, fun hempty => ?_, ?_⟩
    · obtain hl | hl := List.mem_append.mp hl
      · exact ⟨pattern, List.mem_cons_self, hmatches line hl⟩
      · obtain ⟨other, hother, hmatch⟩ := hrecognized line hl
        exact ⟨other, List.mem_cons_of_mem _ hother, hmatch⟩
    · obtain ⟨rfl, rfl⟩ := List.append_eq_nil_iff.mp hempty
      rintro line hline ⟨other, hother, hmatch⟩
      obtain rfl | hother := List.mem_cons.mp hother
      · exact hnone rfl line hline hmatch
      · exact hnones rfl line hline ⟨other, hother, hmatch⟩
    · intro others hprefix
      refine bind_eq_ok.mpr ⟨(between, block ++ others), ?_, hothers others hprefix⟩
      rw [List.append_assoc]
      exact hfirsts _ ((List.prefix_append_right_inj block).mpr hprefix)

theorem pass_error (h : pass record lines patterns = .error fault) :
    ∃ pattern ∈ patterns, ∃ line ∈ lines, pattern.Raises line fault := by
  induction patterns generalizing record lines with
  | nil => cases h
  | cons pattern patterns ih =>
    cases hfirst : pattern.absorb record lines with
    | error other =>
      simp only [pass, hfirst, bind, Except.bind] at h
      cases h
      obtain ⟨line, hl, hraises⟩ := absorb_error hfirst
      exact ⟨pattern, List.mem_cons_self, line, hl, hraises⟩
    | ok taken =>
      obtain ⟨between, left⟩ := taken
      simp only [pass, hfirst, bind, Except.bind] at h
      obtain ⟨block, rfl, -⟩ := absorb_ok hfirst
      obtain ⟨other, hother, line, hl, hraises⟩ := ih h
      exact ⟨other, List.mem_cons_of_mem _ hother, line, List.mem_append_right _ hl, hraises⟩

end Lines

end LinePattern

open LinePattern

/-! ## Blocks -/

/-- What becomes of lines at the front: one is skipped, or a record takes them. -/
inductive Block where
  | skipped (line : Text)
  | taken (lines : List Text) (record : Record)
deriving Repr

namespace Block

def lines : Block → List Text
  | skipped line => [line]
  | taken lines _ => lines

def record? : Block → Option Record
  | skipped _ => none
  | taken _ record => some record

def skippedLines : Block → List Text
  | skipped line => [line]
  | taken _ _ => []

end Block

/-- Reading divides lines into blocks, in order, up to lines that are left.  A line is skipped that no pattern
matches; a record takes all lines that a `pass` over the patterns takes, at least one, and each of them is
matched by some pattern. -/
inductive Division (patterns : List LinePattern) : List Text → List Block → List Text → Prop where
  | stop (lines : List Text) : Division patterns lines [] lines
  | skip {line : Text} {lines left : List Text} {blocks : List Block} :
    ¬ Recognize patterns (withoutEnd line) → Division patterns lines blocks left →
      Division patterns (line :: lines) (.skipped line :: blocks) left
  | take {taken lines left : List Text} {blocks : List Block} {record : Record} :
    taken ≠ [] → (∀ line ∈ taken, Recognize patterns (withoutEnd line)) →
      pass [] (taken.map withoutEnd) patterns = .ok (record, []) →
      pass [] ((taken ++ lines).map withoutEnd) patterns = .ok (record, lines.map withoutEnd) →
      Division patterns lines blocks left →
      Division patterns (taken ++ lines) (.taken taken record :: blocks) left

namespace Division

variable {patterns : List LinePattern} {lines left : List Text} {blocks : List Block}

/-- No line is lost, read twice or moved: the lines of the blocks and those that are left are the lines. -/
theorem lines_eq (h : Division patterns lines blocks left) :
    blocks.flatMap Block.lines ++ left = lines := by
  induction h with
  | stop => rfl
  | skip _ _ ih => exact congrArg (_ :: ·) ih
  | take _ _ _ _ _ ih =>
    rw [List.flatMap_cons, List.append_assoc, ih]
    rfl

theorem lines_ne_nil (h : Division patterns lines blocks left) : ∀ block ∈ blocks, block.lines ≠ [] := by
  induction h with
  | stop => simp
  | skip _ _ ih => exact List.forall_mem_cons.mpr ⟨List.cons_ne_nil _ _, ih⟩
  | take hne _ _ _ _ ih => exact List.forall_mem_cons.mpr ⟨hne, ih⟩

/-- The skipped lines are those that no pattern matches. -/
theorem skipped_eq (h : Division patterns lines blocks left) :
    blocks.flatMap Block.skippedLines =
      (blocks.flatMap Block.lines).filter fun line => ¬ Recognize patterns (withoutEnd line) := by
  induction h with
  | stop => rfl
  | @skip line _ _ _ hno _ ih =>
    rw [List.flatMap_cons, List.flatMap_cons, ih, List.filter_append]
    congr 1
    exact (List.filter_eq_self.mpr (by simpa [Block.skippedLines] using hno)).symm
  | @take taken _ _ _ _ _ hyes _ _ _ ih =>
    rw [List.flatMap_cons, List.flatMap_cons, ih, List.filter_append]
    have hnone : taken.filter (fun line => ¬ Recognize patterns (withoutEnd line)) = [] :=
      List.filter_eq_nil_iff.mpr (by simpa using hyes)
    exact congrArg (· ++ _) hnone.symm

end Division

/-! ## Reading -/

section Reading

variable {patterns : List LinePattern} {line : Text} {lines rest : List Text} {record : Record}

theorem readLines_nil : readLines patterns [] = ([], none) := by
  rw [readLines, List.map_nil, readRecords]

theorem readLines_of_error {fault : Fault}
    (h : pass [] ((line :: lines).map withoutEnd) patterns = .error fault) :
    readLines patterns (line :: lines) = ([], some fault) := by
  rw [List.map_cons] at h
  rw [readLines, List.map_cons, readRecords, h]

/-- A pass that takes no line skips one. -/
theorem readLines_of_skip
    (h : pass [] ((line :: lines).map withoutEnd) patterns =
      .ok (record, (line :: lines).map withoutEnd)) :
    readLines patterns (line :: lines) = readLines patterns lines := by
  rw [List.map_cons] at h
  rw [readLines, List.map_cons, readRecords, h]
  simp only [Nat.lt_irrefl, if_false]
  rfl

theorem readLines_of_take
    (h : pass [] ((line :: lines).map withoutEnd) patterns = .ok (record, rest.map withoutEnd))
    (hshorter : rest.length < (line :: lines).length) :
    readLines patterns (line :: lines) =
      (record :: (readLines patterns rest).1, (readLines patterns rest).2) := by
  have hread : (rest.map withoutEnd).length < (withoutEnd line :: lines.map withoutEnd).length := by
    simpa using hshorter
  rw [List.map_cons] at h
  rw [readLines, List.map_cons, readRecords, h]
  simp only [hread, if_true]
  rfl

/-- Lines that `absorb` takes all at once are one record. -/
theorem readLines_of_absorb {pattern : LinePattern} (hne : lines ≠ [])
    (h : pattern.absorb [] (lines.map withoutEnd) = .ok (record, [])) :
    readLines [pattern] lines = ([record], none) := by
  cases lines with
  | nil => exact absurd rfl hne
  | cons line lines =>
    have hpass : pass [] ((line :: lines).map withoutEnd) [pattern] = .ok (record, [].map withoutEnd) := by
      rw [LinePattern.pass, h]
      rfl
    rw [readLines_of_take hpass (Nat.succ_pos _), readLines_nil]

end Reading

/-- The lines that a pass takes are recognized, and the record is made of its own lines. -/
theorem LinePattern.pass_divides {patterns : List LinePattern} {lines : List Text} {record : Record}
    {rest : List Text} (h : pass [] (lines.map withoutEnd) patterns = .ok (record, rest)) :
    ∃ taken others, lines = taken ++ others ∧ rest = others.map withoutEnd ∧
      (∀ line ∈ taken, Recognize patterns (withoutEnd line)) ∧
      (taken = [] → ∀ line ∈ others.head?, ¬ Recognize patterns (withoutEnd line)) ∧
      pass [] (taken.map withoutEnd) patterns = .ok (record, []) := by
  obtain ⟨block, hlines, hyes, hno, hown⟩ := pass_ok h
  obtain ⟨taken, others, rfl, rfl, rfl⟩ := List.map_eq_append_iff.mp hlines
  refine ⟨taken, others, rfl, rfl, fun line hl => ?_, fun hempty line hl => ?_, ?_⟩
  · exact hyes _ (List.mem_map_of_mem hl)
  · refine hno (by rw [hempty]; rfl) _ ?_
    rw [List.head?_map, hl]
    rfl
  · simpa using hown [] List.nil_prefix

/-- Reading gives the records of the blocks into which it divides the lines; what is left is not empty only if
a value cannot be saved. -/
theorem readLines_divides (patterns : List LinePattern) (lines : List Text) :
    ∃ blocks left, Division patterns lines blocks left ∧
      (readLines patterns lines).1 = blocks.filterMap Block.record? ∧
      ((readLines patterns lines).2 = none → left = []) ∧
      ∀ fault, (readLines patterns lines).2 = some fault →
        ∃ pattern ∈ patterns, ∃ line ∈ left, pattern.Raises (withoutEnd line) fault := by
  generalize hn : lines.length = n
  induction n using Nat.strongRecOn generalizing lines with
  | ind n ih =>
    subst hn
    cases lines with
    | nil =>
      rw [readLines_nil]
      exact ⟨[], [], .stop [], rfl, fun _ => rfl, fun _ h => by cases h⟩
    | cons line lines =>
      cases hpass : pass [] ((line :: lines).map withoutEnd) patterns with
      | error fault =>
        rw [readLines_of_error hpass]
        refine ⟨[], line :: lines, .stop _, rfl, fun h => absurd h (Option.some_ne_none fault), ?_⟩
        intro other hother
        obtain rfl := Option.some.inj hother
        obtain ⟨pattern, hp, read, hr, hraises⟩ := pass_error hpass
        obtain ⟨source, hs, rfl⟩ := List.mem_map.mp hr
        exact ⟨pattern, hp, source, hs, hraises⟩
      | ok made =>
        obtain ⟨record, rest⟩ := made
        obtain ⟨taken, others, hlines, rfl, hyes, hno, hown⟩ := pass_divides hpass
        cases taken with
        | nil =>
          -- No pattern took anything, and each has tried the first line.
          obtain rfl : line :: lines = others := hlines
          obtain ⟨blocks, left, hdivision, hreads⟩ := ih lines.length (Nat.lt_succ_self _) lines rfl
          rw [readLines_of_skip hpass]
          exact ⟨.skipped line :: blocks, left, .skip (hno rfl line rfl) hdivision, hreads⟩
        | cons first taken =>
          have hshorter : others.length < (line :: lines).length := by
            rw [hlines, List.length_append, List.length_cons]
            omega
          obtain ⟨blocks, left, hdivision, hrecords, hreads⟩ := ih others.length hshorter others rfl
          rw [readLines_of_take hpass hshorter]
          refine ⟨.taken (first :: taken) record :: blocks, left, ?_, ?_, hreads⟩
          · rw [hlines] at hpass ⊢
            exact .take (List.cons_ne_nil _ _) hyes hown hpass hdivision
          · rw [hrecords]
            rfl

/-- Reading partitions its input.  The lines of the blocks, taken or skipped, are in order the lines that
are read, each once; every record takes at least one line; and the skipped lines are just those that no
pattern matches.  Only where a value cannot be saved lines are left. -/
theorem readLines_partition (patterns : List LinePattern) (lines : List Text) :
    ∃ blocks left, Division patterns lines blocks left ∧
      (readLines patterns lines).1 = blocks.filterMap Block.record? ∧
      blocks.flatMap Block.lines ++ left = lines ∧
      (∀ block ∈ blocks, block.lines ≠ []) ∧
      blocks.flatMap Block.skippedLines =
        (blocks.flatMap Block.lines).filter (fun line => ¬ Recognize patterns (withoutEnd line)) ∧
      ((readLines patterns lines).2 = none → left = []) ∧
      ∀ fault, (readLines patterns lines).2 = some fault →
        ∃ pattern ∈ patterns, ∃ line ∈ left, pattern.Raises (withoutEnd line) fault := by
  obtain ⟨blocks, left, hdivision, hrecords, hend, hfault⟩ := readLines_divides patterns lines
  exact ⟨blocks, left, hdivision, hrecords, hdivision.lines_eq, hdivision.lines_ne_nil,
    hdivision.skipped_eq, hend, hfault⟩

end PictureReport
