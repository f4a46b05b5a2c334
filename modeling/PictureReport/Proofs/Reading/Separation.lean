import Mathlib.Data.List.Forall2
import PictureReport.Proofs.Reading.Partition

/-!
# Lines that end every pass

A line that no pattern matches ends the pass that reaches it and begins none.  Put where reading divides the
lines into blocks, it changes nothing; elsewhere it cuts a block.  Lines that all patterns match alike can be
read for each other.
-/

namespace PictureReport

namespace LinePattern

section Lines

variable {pattern : LinePattern} {patterns : List LinePattern} {record made : Record}
variable {lines rest : List Text}

/-! ## Passes over more lines -/

theorem matchLine_of_not_matches {line : Text} (h : ¬ pattern.Matches line) :
    pattern.matchLine line record = (.ok false, record) := by
  unfold Matches at h
  unfold matchLine
  rw [Option.not_isSome_iff_eq_none.mp h]

/-- With more lines behind them `absorb` takes the same lines, if it leaves one or does not match the next. -/
theorem absorb_append (h : pattern.absorb record lines = .ok (made, rest)) {more : List Text}
    (hnext : rest = [] → ∀ line ∈ more.head?, ¬ pattern.Matches line) :
    pattern.absorb record (lines ++ more) = .ok (made, rest ++ more) := by
  induction lines generalizing record with
  | nil =>
    cases h
    cases more with
    | nil => rfl
    | cons line more =>
      simp only [List.nil_append, absorb, matchLine_of_not_matches (hnext rfl line rfl)]
  | cons line lines ih =>
    simp only [List.cons_append, absorb] at h ⊢
    split at h
    · cases h
    · cases h
      rfl
    · split at h
      · rename_i hrepeated
        rw [if_pos hrepeated]
        exact ih h
      · rename_i hrepeated
        cases h
        rw [if_neg hrepeated]

theorem pass_suffix (h : pass record lines patterns = .ok (made, rest)) : rest <:+ lines := by
  obtain ⟨block, rfl, -⟩ := pass_ok h
  exact List.suffix_append block rest

/-- With more lines behind them a `pass` takes the same lines, if it leaves one or no pattern matches the
next. -/
theorem pass_append (h : pass record lines patterns = .ok (made, rest)) {more : List Text}
    (hnext : rest = [] → ∀ line ∈ more.head?, ¬ Recognize patterns line) :
    pass record (lines ++ more) patterns = .ok (made, rest ++ more) := by
  induction patterns generalizing record lines with
  | nil =>
    cases h
    rfl
  | cons pattern patterns ih =>
    obtain ⟨⟨between, left⟩, hfirst, hrest⟩ := bind_eq_ok.mp h
    refine bind_eq_ok.mpr ⟨(between, left ++ more), absorb_append hfirst fun hleft line hl hmatch => ?_,
      ih hrest fun hempty line hl ⟨other, ho, hmatch⟩ => ?_⟩
    · have hempty : rest = [] := List.suffix_nil.mp (hleft ▸ pass_suffix hrest)
      exact hnext hempty line hl ⟨pattern, List.mem_cons_self, hmatch⟩
    · exact hnext hempty line hl ⟨other, List.mem_cons_of_mem _ ho, hmatch⟩

theorem pass_nil (patterns : List LinePattern) : pass record [] patterns = .ok (record, []) := by
  induction patterns with
  | nil => rfl
  | cons pattern patterns ih => exact ih

/-- A line that no pattern matches is left, and all lines behind it. -/
theorem pass_of_not_recognize {line : Text} (hno : ¬ Recognize patterns line) :
    pass record (line :: lines) patterns = .ok (record, line :: lines) := by
  refine pass_append (pass_nil patterns) fun _ other hother => ?_
  obtain rfl := Option.some.inj hother
  exact hno

/-! ## Lines that are matched alike -/

/-- Each pattern matches the two lines alike and saves the same values. -/
def MatchAlike (patterns : List LinePattern) (line other : Text) : Prop :=
  ∀ pattern ∈ patterns, ∀ record, pattern.matchLine line record = pattern.matchLine other record

/-- Two passes fail with the same fault, or they make the same record and leave lines that are matched alike.
-/
def EndAlike (patterns : List LinePattern) (x y : Except Fault (Record × List Text)) : Prop :=
  match x, y with
  | .error fault, .error other => fault = other
  | .ok (record, left), .ok (made, others) => record = made ∧ List.Forall₂ (MatchAlike patterns) left others
  | _, _ => False

theorem absorb_alike (record : Record) (hpattern : pattern ∈ patterns) {others : List Text}
    (h : List.Forall₂ (MatchAlike patterns) lines others) :
    EndAlike patterns (pattern.absorb record lines) (pattern.absorb record others) := by
  induction h generalizing record with
  | nil => exact ⟨rfl, .nil⟩
  | @cons line other lines others hline hlines ih =>
    simp only [absorb, hline pattern hpattern record]
    split
    · exact rfl
    · exact ⟨rfl, .cons hline hlines⟩
    · split
      · exact ih _
      · exact ⟨rfl, hlines⟩

theorem pass_alike (record : Record) {part : List LinePattern} (hpart : part ⊆ patterns) {others : List Text}
    (h : List.Forall₂ (MatchAlike patterns) lines others) :
    EndAlike patterns (pass record lines part) (pass record others part) := by
  induction part generalizing record lines others with
  | nil => exact ⟨rfl, h⟩
  | cons pattern later ih =>
    rw [List.cons_subset] at hpart
    have hfirst := absorb_alike record hpart.1 h
    simp only [pass]
    revert hfirst
    rcases pattern.absorb record lines with fault | ⟨between, left⟩ <;>
      rcases pattern.absorb record others with other | ⟨made, rest⟩ <;> intro hfirst
    · obtain rfl : fault = other := hfirst
      exact rfl
    · exact hfirst.elim
    · exact hfirst.elim
    · obtain ⟨rfl, hleft⟩ := hfirst
      exact ih _ hpart.2 hleft

end Lines

end LinePattern

open LinePattern

theorem readRecords_alike {patterns : List LinePattern} {lines others : List Text}
    (h : List.Forall₂ (MatchAlike patterns) lines others) :
    readRecords patterns lines = readRecords patterns others := by
  generalize hn : lines.length = n
  induction n using Nat.strongRecOn generalizing lines others with
  | ind n ih =>
    subst hn
    cases h with
    | nil => rfl
    | @cons line other lines others hline hlines =>
      have hpass := pass_alike [] (List.Subset.refl patterns) (.cons hline hlines)
      rw [readRecords, readRecords]
      revert hpass
      rcases pass [] (line :: lines) patterns with fault | ⟨record, left⟩ <;>
        rcases pass [] (other :: others) patterns with fault' | ⟨made, rest⟩ <;> intro hpass
      · obtain rfl : fault = fault' := hpass
        rfl
      · exact hpass.elim
      · exact hpass.elim
      · obtain ⟨rfl, hleft⟩ := hpass
        have hlength : others.length = lines.length := hlines.length_eq.symm
        simp only [← hleft.length_eq, List.length_cons, hlength]
        split
        · rename_i hshorter
          rw [ih left.length hshorter hleft rfl]
        · exact ih lines.length (Nat.lt_succ_self _) hlines rfl

theorem readLines_skip {patterns : List LinePattern} {line : Text} {lines : List Text}
    (hno : ¬ Recognize patterns (withoutEnd line)) :
    readLines patterns (line :: lines) = readLines patterns lines :=
  readLines_of_skip (pass_of_not_recognize hno)

/-! ## Divided lines -/

namespace Division

variable {patterns : List LinePattern} {lines left more : List Text} {blocks : List Block}

/-- Behind the blocks reading goes on with the lines that are left. -/
theorem reads (h : Division patterns lines blocks left) : readLines patterns lines =
    (blocks.filterMap Block.record? ++ (readLines patterns left).1, (readLines patterns left).2) := by
  induction h with
  | stop => rfl
  | skip hno _ ih =>
    rw [readLines_skip hno, ih]
    rfl
  | @take taken lines left blocks record hne _ _ hpass _ ih =>
    obtain ⟨line, taken, rfl⟩ := List.exists_cons_of_ne_nil hne
    have hshorter : lines.length < (line :: (taken ++ lines)).length := by
      rw [List.length_cons, List.length_append]
      omega
    have hread := readLines_of_take hpass hshorter
    rw [ih] at hread
    exact hread

/-- Between the blocks and the lines that are left a line that no pattern matches can be put. -/
theorem insert (h : Division patterns lines blocks left) {line : Text}
    (hno : ¬ Recognize patterns (withoutEnd line)) (more : List Text) :
    ∃ front, lines = front ++ left ∧ Division patterns (front ++ line :: more) blocks (line :: more) := by
  induction h with
  | stop => exact ⟨[], rfl, .stop _⟩
  | @skip first _ _ _ hskip _ ih =>
    obtain ⟨front, rfl, hdivision⟩ := ih
    exact ⟨first :: front, rfl, .skip hskip hdivision⟩
  | @take taken _ left _ record hne hyes hown hpass _ ih =>
    obtain ⟨front, rfl, hdivision⟩ := ih
    refine ⟨taken ++ front, (List.append_assoc ..).symm, ?_⟩
    rw [List.append_assoc]
    refine .take hne hyes hown ?_ hdivision
    cases front with
    | nil =>
      rw [List.map_append]
      refine pass_append hown fun _ other hother => ?_
      obtain rfl := Option.some.inj hother
      exact hno
    | cons next front =>
      -- A pass makes no use of what stands behind the first line that it leaves.
      obtain ⟨block, hblock, -, -, hothers⟩ := pass_ok hpass
      rw [List.map_append] at hblock
      obtain rfl := List.append_cancel_right hblock
      have hnext : pass [] (taken.map withoutEnd ++ [withoutEnd next]) patterns =
          .ok (record, [withoutEnd next]) := by
        refine hothers _ ?_
        rw [List.cons_append, List.map_cons]
        exact List.prefix_append [_] _
      have hmore : pass [] (taken.map withoutEnd ++ [withoutEnd next] ++ (front ++ line :: more).map withoutEnd)
          patterns = .ok (record, [withoutEnd next] ++ (front ++ line :: more).map withoutEnd) :=
        pass_append hnext fun h => by cases h
      rw [List.append_assoc] at hmore
      rw [List.map_append]
      exact hmore

/-- Reading has one division: what is left later is left by a division of what is left before. -/
theorem cut {later : List Text} {longer : List Block} (h : Division patterns lines blocks left)
    (hlonger : Division patterns lines longer later) (hlength : later.length ≤ left.length) :
    ∃ others, Division patterns left others later := by
  have hleft : ∀ {lines blocks left}, Division patterns lines blocks left → left.length ≤ lines.length := by
    intro lines blocks left h
    rw [← h.lines_eq, List.length_append]
    exact Nat.le_add_left _ _
  -- on the shorter division: its first block is the first of the longer one as well, or all is left
  induction h generalizing longer with
  | stop => exact ⟨longer, hlonger⟩
  | @skip line lines left blocks hno h ih =>
    have hshorter := hleft h
    generalize hsame : line :: lines = same at hlonger
    cases hlonger with
    | stop =>
      rw [← hsame, List.length_cons] at hlength
      omega
    | skip _ hrest =>
      cases hsame
      exact ih hrest hlength
    | @take taken _ _ _ _ hne hyes =>
      obtain ⟨first, taken, rfl⟩ := List.exists_cons_of_ne_nil hne
      cases hsame
      exact absurd (hyes line List.mem_cons_self) hno
  | @take taken lines left blocks record hne hyes _ hpass h ih =>
    have hshorter := hleft h
    have hpositive := List.length_pos_iff.mpr hne
    generalize hsame : taken ++ lines = same at hlonger
    cases hlonger with
    | stop =>
      rw [← hsame, List.length_append] at hlength
      omega
    | skip hno _ =>
      obtain ⟨first, taken, rfl⟩ := List.exists_cons_of_ne_nil hne
      cases hsame
      exact absurd (hyes _ List.mem_cons_self) hno
    | @take taken' lines' _ _ record' _ _ _ hpass' hrest =>
      rw [hsame] at hpass
      have hlines : lines.map withoutEnd = lines'.map withoutEnd :=
        (Prod.mk.inj (Except.ok.inj (hpass.symm.trans hpass'))).2
      have hequal : lines.length = lines'.length := by simpa using congrArg List.length hlines
      obtain ⟨-, rfl⟩ := List.append_inj' hsame hequal
      exact ih hrest hlength

end Division

end PictureReport
