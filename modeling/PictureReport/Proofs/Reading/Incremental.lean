import PictureReport.Proofs.Reading.Separation

/-!
# Reading line by line

The lines need not be there all at once.  A reader that is given one line after the other keeps no more than
the record in the making and the patterns that are still to be tried for it (`Cursor`).  A line that none of
these patterns matches ends the record, which is given out, and begins the next pass; so a record is given out
when the one line behind its block has been read, whatever follows, and reading all lines gives the same
records (`readLines_incremental`).
-/

namespace PictureReport

namespace LinePattern

/-- Between two lines of a record: what it holds so far, and the patterns that its pass has still to try. -/
structure Cursor where
  record : Record
  ahead : List LinePattern
deriving Repr

/-- A line is offered to patterns in order.  The first one that matches takes it, and is tried again on the
next line if it is repeated. -/
def offer (line : Text) (record : Record) : List LinePattern → Except Fault (Option Cursor)
  | [] => .ok none
  | pattern :: patterns =>
    match pattern.matchLine line record with
    | (.error fault, _) => .error fault
    | (.ok false, _) => offer line record patterns
    | (.ok true, made) => .ok (some ⟨made, if pattern.repeated then pattern :: patterns else patterns⟩)

/-- One line more.  A record that does not take it is given out before a new pass is begun with it; without a
record in the making the line begins one, or it is skipped. -/
def feed (patterns : List LinePattern) (line : Text) :
    Option Cursor → Option Record × Except Fault (Option Cursor)
  | none => (none, offer line [] patterns)
  | some cursor =>
    match offer line cursor.record cursor.ahead with
    | .error fault => (none, .error fault)
    | .ok (some later) => (none, .ok (some later))
    | .ok none => (some cursor.record, offer line [] patterns)

/-- The records that are given out while lines are read one by one (`feed`), and what is in the making after
them. -/
def feedAll (patterns : List LinePattern) :
    List Text → Option Cursor → List Record × Except Fault (Option Cursor)
  | [], state => ([], .ok state)
  | line :: lines, state =>
    match feed patterns line state with
    | (given, .error fault) => (given.toList, .error fault)
    | (given, .ok later) =>
      (given.toList ++ (feedAll patterns lines later).1, (feedAll patterns lines later).2)

/-- What reading all lines gives where a record may be in the making: `readRecords` behind a `Cursor`. -/
def readFrom (patterns : List LinePattern) (lines : List Text) : Option Cursor → List Record × Option Fault
  | none => readRecords patterns lines
  | some cursor =>
    match pass cursor.record lines cursor.ahead with
    | .error fault => ([], some fault)
    | .ok (record, rest) =>
      (record :: (readRecords patterns rest).1, (readRecords patterns rest).2)

section Steps

variable {patterns ahead : List LinePattern} {line next : Text} {lines rest : List Text}
variable {record made : Record} {cursor : Cursor} {fault : Fault} {state later : Option Cursor}

/-! ## A pass, line by line -/

theorem pass_length_le (h : pass record lines patterns = .ok (made, rest)) : rest.length ≤ lines.length :=
  (pass_suffix h).length_le

/-- A pass that offers its first line goes on with what the offer comes to. -/
theorem pass_cons (record : Record) (line : Text) (lines : List Text) (ahead : List LinePattern) :
    pass record (line :: lines) ahead =
      match offer line record ahead with
      | .error fault => .error fault
      | .ok none => .ok (record, line :: lines)
      | .ok (some cursor) => pass cursor.record lines cursor.ahead := by
  induction ahead with
  | nil => rfl
  | cons pattern ahead ih =>
    rw [pass, absorb, offer]
    rcases hmatch : pattern.matchLine line record with ⟨fault | matched, made⟩
    · rfl
    · cases matched with
      | false => exact ih
      | true =>
        by_cases hrepeated : pattern.repeated = true
        · simp only [hrepeated, if_true]
          rfl
        · simp only [hrepeated, Bool.false_eq_true, if_false]
          rfl

theorem readRecords_cons (patterns : List LinePattern) (line : Text) (lines : List Text) :
    readRecords patterns (line :: lines) =
      match offer line [] patterns with
      | .error fault => ([], some fault)
      | .ok later => readFrom patterns lines later := by
  rw [readRecords, pass_cons]
  rcases hoffer : offer line [] patterns with fault | _ | cursor
  · rfl
  · simp only [Nat.lt_irrefl, if_false]
    rfl
  · simp only [readFrom]
    cases hpass : pass cursor.record lines cursor.ahead with
    | error fault => rfl
    | ok taken =>
      obtain ⟨made, rest⟩ := taken
      have hle := pass_length_le hpass
      have hshorter : rest.length < (line :: lines).length := by
        rw [List.length_cons]
        omega
      simp only [hshorter, if_true]

theorem readFrom_nil (patterns : List LinePattern) (state : Option Cursor) :
    readFrom patterns [] state = (state.toList.map Cursor.record, none) := by
  cases state with
  | none =>
    show readRecords patterns [] = _
    rw [readRecords]
    rfl
  | some cursor =>
    rw [readFrom, pass_nil]
    show (cursor.record :: (readRecords patterns []).1, (readRecords patterns []).2) = _
    rw [readRecords]
    rfl

/-- The step lemma: reading on gives what the first line brings out, and then what the other lines give. -/
theorem readFrom_cons (patterns : List LinePattern) (line : Text) (lines : List Text) (state : Option Cursor) :
    readFrom patterns (line :: lines) state =
      match feed patterns line state with
      | (given, .error fault) => (given.toList, some fault)
      | (given, .ok later) =>
        (given.toList ++ (readFrom patterns lines later).1, (readFrom patterns lines later).2) := by
  cases state with
  | none =>
    show readRecords patterns (line :: lines) = _
    rw [readRecords_cons]
    simp only [feed]
    cases offer line [] patterns with
    | error fault => rfl
    | ok later => rfl
  | some cursor =>
    rw [readFrom, pass_cons]
    simp only [feed]
    rcases hoffer : offer line cursor.record cursor.ahead with fault | _ | later
    · rfl
    · simp only [readRecords_cons]
      cases offer line [] patterns with
      | error fault => rfl
      | ok later => rfl
    · simp only [readFrom]
      cases pass later.record lines later.ahead with
      | error fault => rfl
      | ok taken => rfl

/-- The run lemma: what has been given out stands first in what is read, and the rest is read from where the
reader has come. -/
theorem readFrom_append (patterns : List LinePattern) (lines rest : List Text) (state : Option Cursor) :
    readFrom patterns (lines ++ rest) state =
      match feedAll patterns lines state with
      | (given, .error fault) => (given, some fault)
      | (given, .ok later) =>
        (given ++ (readFrom patterns rest later).1, (readFrom patterns rest later).2) := by
  induction lines generalizing state with
  | nil => rfl
  | cons line lines ih =>
    rw [List.cons_append, readFrom_cons, feedAll]
    rcases feed patterns line state with ⟨given, fault | later⟩
    · rfl
    · simp only [ih later]
      rcases feedAll patterns lines later with ⟨others, fault | last⟩
      · rfl
      · simp only [List.append_assoc]

theorem feedAll_append (patterns : List LinePattern) (lines rest : List Text) (state : Option Cursor) :
    feedAll patterns (lines ++ rest) state =
      match feedAll patterns lines state with
      | (given, .error fault) => (given, .error fault)
      | (given, .ok later) =>
        (given ++ (feedAll patterns rest later).1, (feedAll patterns rest later).2) := by
  induction lines generalizing state with
  | nil => rfl
  | cons line lines ih =>
    rw [List.cons_append, feedAll, feedAll]
    rcases feed patterns line state with ⟨given, fault | later⟩
    · rfl
    · simp only [ih later]
      rcases feedAll patterns lines later with ⟨others, fault | last⟩
      · rfl
      · simp only [List.append_assoc]

/-! ## The lines of a record -/

/-- Either a `pass` takes its first line and goes on behind it, or it is over. -/
theorem offer_of_pass (h : pass record (line :: lines) ahead = .ok (made, rest)) :
    (offer line record ahead = .ok none ∧ made = record ∧ rest = line :: lines) ∨
      ∃ cursor, offer line record ahead = .ok (some cursor) ∧
        pass cursor.record lines cursor.ahead = .ok (made, rest) := by
  rw [pass_cons] at h
  rcases hoffer : offer line record ahead with fault | _ | cursor
  · rw [hoffer] at h
    cases h
  · rw [hoffer] at h
    cases h
    exact .inl ⟨rfl, rfl, rfl⟩
  · rw [hoffer] at h
    exact .inr ⟨cursor, rfl, h⟩

/-- Where a `pass` takes a first line, so does the reader that `offer`s it. -/
theorem offer_of_taken {block : List Text}
    (h : pass record (line :: (block ++ rest)) ahead = .ok (made, rest)) :
    ∃ cursor, offer line record ahead = .ok (some cursor) ∧
      pass cursor.record (block ++ rest) cursor.ahead = .ok (made, rest) := by
  obtain ⟨-, -, hrest⟩ | htaken := offer_of_pass h
  · have hlength := congrArg List.length hrest
    rw [List.length_cons, List.length_append] at hlength
    omega
  · exact htaken

theorem offer_of_left (h : pass record (line :: lines) ahead = .ok (made, line :: lines)) :
    offer line record ahead = .ok none ∧ made = record := by
  obtain ⟨hoffer, hmade, -⟩ | ⟨cursor, -, hpass⟩ := offer_of_pass h
  · exact ⟨hoffer, hmade⟩
  · have hle := pass_length_le hpass
    rw [List.length_cons] at hle
    omega

/-- The lines that a pass takes give nothing out, and then the next line is not taken. -/
theorem feedAll_of_pass (patterns : List LinePattern) {block : List Text}
    (h : pass record (block ++ next :: rest) ahead = .ok (made, next :: rest)) :
    ∃ cursor : Cursor, feedAll patterns block (some ⟨record, ahead⟩) = ([], .ok (some cursor)) ∧
      cursor.record = made ∧ offer next cursor.record cursor.ahead = .ok none := by
  induction block generalizing record ahead with
  | nil =>
    obtain ⟨hoffer, rfl⟩ := offer_of_left h
    exact ⟨⟨made, ahead⟩, rfl, rfl, hoffer⟩
  | cons line block ih =>
    obtain ⟨cursor, hoffer, hpass⟩ := offer_of_taken h
    obtain ⟨last, hfed, hlast⟩ := ih hpass
    refine ⟨last, ?_, hlast⟩
    simp only [feedAll, feed, hoffer, hfed, Option.toList_none, List.nil_append]

/-- A line that ends a record begins the next pass as if there had been no record. -/
theorem feedAll_ended (hoffer : offer next cursor.record cursor.ahead = .ok none) (others : List Text) :
    feedAll patterns (next :: others) (some cursor) =
      (cursor.record :: (feedAll patterns (next :: others) none).1,
        (feedAll patterns (next :: others) none).2) := by
  simp only [feedAll, feed, hoffer]
  cases offer next [] patterns with
  | error fault => rfl
  | ok later => rfl

/-- The lines of a record give nothing out; with the next line they give out the record. -/
theorem feedAll_taken {taken : List Text} (hne : taken ≠ [])
    (h : pass [] (taken ++ next :: rest) patterns = .ok (record, next :: rest)) :
    (feedAll patterns taken none).1 = [] ∧
      ∀ others, (feedAll patterns (taken ++ next :: others) none).1 =
        record :: (feedAll patterns (next :: others) none).1 := by
  cases taken with
  | nil => exact absurd rfl hne
  | cons line block =>
    obtain ⟨cursor, hoffer, hpass⟩ := offer_of_taken h
    obtain ⟨last, hfed, rfl, hlast⟩ := feedAll_of_pass patterns hpass
    have htaken : feedAll patterns (line :: block) none = ([], .ok (some last)) := by
      simp only [feedAll, feed, hoffer, hfed, Option.toList_none, List.nil_append]
    refine ⟨by rw [htaken], fun others => ?_⟩
    simp only [feedAll_append, htaken, feedAll_ended hlast, List.nil_append]

theorem feedAll_skipped (hno : ¬ Recognize patterns line) (lines : List Text) :
    feedAll patterns (line :: lines) none = feedAll patterns lines none := by
  have hleft : pass [] (line :: lines) patterns = .ok ([], line :: lines) := pass_of_not_recognize hno
  obtain ⟨hoffer, -⟩ := offer_of_left hleft
  simp only [feedAll, feed, hoffer, Option.toList_none, List.nil_append]

end Steps

end LinePattern

open LinePattern

/-! ## Records as they are given out -/

/-- The records that are given out when the lines have been read and more of them may follow. -/
def givenOut (patterns : List LinePattern) (lines : List Text) : List Record :=
  (feedAll patterns (lines.map withoutEnd) none).1

/-- The record of each block is given out when the line behind the block is read, and not before. -/
def OneLineLate (patterns : List LinePattern) (lines : List Text) (blocks : List Block) : Prop :=
  ∀ before taken record after next rest, blocks = before ++ .taken taken record :: after →
    lines = before.flatMap Block.lines ++ taken ++ next :: rest →
    givenOut patterns (before.flatMap Block.lines ++ taken) = before.filterMap Block.record? ∧
    givenOut patterns (before.flatMap Block.lines ++ taken ++ [next]) =
      before.filterMap Block.record? ++ [record]

section Lines

variable {patterns : List LinePattern} {lines left : List Text} {blocks : List Block}

theorem givenOut_prefix_append (patterns : List LinePattern) (lines rest : List Text) :
    givenOut patterns lines <+: (readLines patterns (lines ++ rest)).1 := by
  have happend := readFrom_append patterns (lines.map withoutEnd) (rest.map withoutEnd) none
  have hread : readLines patterns (lines ++ rest) =
      readFrom patterns (lines.map withoutEnd ++ rest.map withoutEnd) none := by
    rw [← List.map_append]
    rfl
  rw [hread, happend]
  unfold givenOut
  rcases feedAll patterns (lines.map withoutEnd) none with ⟨given, fault | later⟩
  · exact List.prefix_rfl
  · exact List.prefix_append given _

/-- All records that are read but the last have been given out (`givenOut`). -/
theorem dropLast_prefix_givenOut (patterns : List LinePattern) (lines : List Text) :
    (readLines patterns lines).1.dropLast <+: givenOut patterns lines := by
  have hread : readLines patterns lines = readFrom patterns (lines.map withoutEnd ++ []) none := by
    rw [List.append_nil]
    rfl
  rw [hread, readFrom_append]
  unfold givenOut
  rcases feedAll patterns (lines.map withoutEnd) none with ⟨given, fault | _ | cursor⟩
  · exact List.dropLast_prefix given
  · simp only [readFrom_nil, Option.toList_none, List.map_nil, List.append_nil]
    exact List.dropLast_prefix given
  · simp only [readFrom_nil, Option.toList_some, List.map_cons, List.map_nil, List.dropLast_concat]
    exact List.prefix_rfl

/-- The first line of all gives nothing out. -/
theorem givenOut_single (patterns : List LinePattern) (line : Text) : givenOut patterns [line] = [] := by
  show (feedAll patterns [withoutEnd line] none).1 = []
  simp only [feedAll, feed]
  cases offer (withoutEnd line) [] patterns with
  | error fault => rfl
  | ok later => rfl

theorem givenOut_skipped {line : Text} (hno : ¬ Recognize patterns (withoutEnd line)) (lines : List Text) :
    givenOut patterns (line :: lines) = givenOut patterns lines :=
  congrArg Prod.fst (feedAll_skipped hno (lines.map withoutEnd))

theorem givenOut_taken {taken rest : List Text} {next : Text} {record : Record} (hne : taken ≠ [])
    (h : pass [] ((taken ++ next :: rest).map withoutEnd) patterns =
      .ok (record, (next :: rest).map withoutEnd)) :
    givenOut patterns taken = [] ∧
      ∀ others, givenOut patterns (taken ++ next :: others) = record :: givenOut patterns (next :: others) := by
  rw [List.map_append, List.map_cons] at h
  obtain ⟨hown, hnext⟩ := feedAll_taken (mt List.map_eq_nil_iff.mp hne) h
  refine ⟨hown, fun others => ?_⟩
  unfold givenOut
  rw [List.map_append, List.map_cons]
  exact hnext (others.map withoutEnd)

/-- Blocks are given out `OneLineLate`.  By induction on the division: a block in front brings out its own
record with the first line behind it. -/
theorem Division.oneLineLate (h : Division patterns lines blocks left) : OneLineLate patterns lines blocks := by
  induction h with
  | stop lines =>
    intro before taken record after next rest hblocks
    cases before <;> cases hblocks
  | @skip line lines left blocks hno hrest ih =>
    intro before taken record after next rest hblocks hlines
    cases before with
    | nil => cases hblocks
    | cons block before =>
      obtain ⟨rfl, hbefore⟩ := List.cons.inj hblocks
      obtain ⟨-, hlater⟩ := List.cons.inj hlines
      obtain ⟨hown, hnext⟩ := ih before taken record after next rest hbefore hlater
      exact ⟨(givenOut_skipped hno _).trans hown, (givenOut_skipped hno _).trans hnext⟩
  | @take first lines left blocks made hne _ _ hpass hrest ih =>
    intro before taken record after next rest hblocks hlines
    cases before with
    | nil =>
      cases hblocks
      obtain rfl := List.append_cancel_left hlines
      obtain ⟨hown, hnext⟩ := givenOut_taken hne hpass
      refine ⟨hown, (hnext []).trans ?_⟩
      rw [givenOut_single]
      rfl
    | cons block before =>
      obtain ⟨rfl, hbefore⟩ := List.cons.inj hblocks
      have hlater : lines = before.flatMap Block.lines ++ taken ++ next :: rest := by
        rw [List.flatMap_cons, List.append_assoc, List.append_assoc] at hlines
        rw [List.append_assoc]
        exact List.append_cancel_left hlines
      obtain ⟨hown, hnext⟩ := ih before taken record after next rest hbefore hlater
      -- The block of the record is not empty, so another line stands between the two.
      have htaken : taken ≠ [] := hrest.lines_ne_nil (.taken taken record) (by rw [hbefore]; simp)
      obtain ⟨line, between, hbetween⟩ := List.exists_cons_of_ne_nil
        (List.append_ne_nil_of_right_ne_nil (before.flatMap Block.lines) htaken)
      rw [hbetween] at hlater hown hnext
      rw [hlater] at hpass
      obtain ⟨-, hfirst⟩ := givenOut_taken hne hpass
      rw [List.flatMap_cons, List.append_assoc, hbetween, List.filterMap_cons]
      refine ⟨(hfirst between).trans (congrArg (made :: ·) hown), ?_⟩
      rw [List.append_assoc]
      exact (hfirst (between ++ [next])).trans (congrArg (made :: ·) hnext)

end Lines

/-- Reading is incremental.  Of the records of some lines all but perhaps the last have been given out when
these lines are read, and what has been given out stands first in what is read, whatever lines follow; so all
records but the last stay where they are.  Each is given out when the one line behind its block is read, and
this holds for the lines of an endless input as well. -/
theorem readLines_incremental (patterns : List LinePattern) (xs ys : List Text) :
    (readLines patterns xs).1.dropLast <+: (readLines patterns (xs ++ ys)).1 ∧
      (readLines patterns xs).1.dropLast <+: givenOut patterns xs ∧
      givenOut patterns xs <+: (readLines patterns (xs ++ ys)).1 ∧
      (∀ blocks left, Division patterns xs blocks left → OneLineLate patterns xs blocks) ∧
      ∀ (input : Nat → Text) (n m k : Nat) (record : Record), n ≤ m →
        (givenOut patterns ((List.range n).map input))[k]? = some record →
        (readLines patterns ((List.range m).map input)).1[k]? = some record := by
  have hgiven := givenOut_prefix_append patterns xs ys
  have hlast := dropLast_prefix_givenOut patterns xs
  refine ⟨hlast.trans hgiven, hlast, hgiven, fun blocks left h => h.oneLineLate, ?_⟩
  intro input n m k record hnm hrecord
  obtain ⟨more, rfl⟩ := Nat.exists_eq_add_of_le hnm
  rw [List.range_add, List.map_append]
  obtain ⟨hk, rfl⟩ := List.getElem?_eq_some_iff.mp hrecord
  exact List.prefix_iff_getElem?.mp (givenOut_prefix_append patterns _ _) k hk

/-- The second total gives out the first one and waits for a third line. -/
example : givenOut [⟨[.literal "Total: ".toList, .remainder], [(⟨.fixed ⟨4, 0, false⟩, false⟩, "total")], false⟩]
    ["Total: 0".toList, "Total: 1".toList] = [[("total", .int 0)]] := by rfl

end PictureReport
