import PictureReport.Proofs.Press.Feeds
import PictureReport.Proofs.Reading.Shielding

/-!
# Form feeds before lines that are read

In a list of lines form feeds change nothing before lines that each picture bears.  In a text a form feed ends
a line, so that an empty line stands before the one that it precedes: where no picture takes empty lines, it
ends every pass, and it changes nothing where a pass ends anyway.
-/

namespace PictureReport

open LinePattern

/-- Lines, each with the form feed before it if there is one (`Text.fed`). -/
def withFeeds (marked : List (Bool × Text)) : List Text := marked.map fun line => line.2.fed line.1

/-- The lines of `withFeeds` without the form feeds. -/
def withoutFeeds (marked : List (Bool × Text)) : List Text := marked.map (·.2)

/-! ## Lists of lines -/

/-- Form feeds before lines that all pictures bear (`PictureLine.Bears`) change nothing. -/
theorem readLines_of_bears {pictures : List PictureLine} (hclean : ∀ picture ∈ pictures, picture.IsClean)
    {marked : List (Bool × Text)}
    (hbears : ∀ line ∈ marked, line.1 = true → ∀ picture ∈ pictures, picture.Bears (withoutEnd line.2)) :
    readLines (pictures.map of) (withFeeds marked) = readLines (pictures.map of) (withoutFeeds marked) := by
  refine readRecords_alike ?_
  unfold withFeeds withoutFeeds
  rw [List.map_map, List.map_map, List.forall₂_map_left_iff, List.forall₂_map_right_iff, List.forall₂_same]
  rintro ⟨feed, line⟩ hl pattern hp record
  obtain ⟨picture, hpicture, rfl⟩ := List.mem_map.mp hp
  cases feed with
  | false => rfl
  | true =>
    have hmatch := matchLine_formFeed (hclean picture hpicture) (hbears _ hl rfl picture hpicture) record
    rw [← withoutEnd_formFeed] at hmatch
    exact hmatch

/-! ## Texts -/

/-- The lines of each of the texts that are put together, and whether a form feed stands before them. -/
def portions : List (Bool × Text) → List (Bool × List Text)
  | [] => []
  | [line] => [(line.1, line.2.lines)]
  | line :: rest => (line.1, Text.lines (line.2 ++ ['\n'])) :: portions rest

/-- The lines of a portion, and an empty one before them where a form feed stands. -/
def fedLines (portion : Bool × List Text) : List Text := if portion.1 then [] :: portion.2 else portion.2

theorem lines_fed (feed : Bool) (t : Text) : Text.lines (t.fed feed) = fedLines (feed, t.lines) := by
  cases feed with
  | false => rfl
  | true => exact Text.lines_formFeed t

theorem fed_append (feed : Bool) (t u : Text) : t.fed feed ++ u = (t ++ u).fed feed := by
  cases feed <;> rfl

theorem lines_withFeeds (marked : List (Bool × Text)) :
    Text.lines (Text.joinWith ['\n'] (withFeeds marked)) = (portions marked).flatMap fedLines := by
  unfold withFeeds
  fun_induction portions marked with
  | case1 => rfl
  | case2 line => simp [Text.joinWith, lines_fed]
  | case3 line rest hne ih =>
    have hrest : rest.map (fun line : Bool × Text => line.2.fed line.1) ≠ [] := by simpa using hne
    rw [List.map_cons, Text.lines_joinWith _ hrest, ih, fed_append, lines_fed, List.flatMap_cons]

theorem lines_withoutFeeds (marked : List (Bool × Text)) :
    Text.lines (Text.joinWith ['\n'] (withoutFeeds marked)) = (portions marked).flatMap (·.2) := by
  unfold withoutFeeds
  fun_induction portions marked with
  | case1 => rfl
  | case2 line => simp [Text.joinWith]
  | case3 line rest hne ih =>
    have hrest : rest.map (fun line : Bool × Text => line.2) ≠ [] := by simpa using hne
    rw [List.map_cons, Text.lines_joinWith _ hrest, ih, List.flatMap_cons]

/-- The portion before which a form feed stands is the first one of its line and those behind it. -/
theorem portions_eq_append {marked : List (Bool × Text)} {before after : List (Bool × List Text)}
    {ls : List Text} (h : portions marked = before ++ (true, ls) :: after) :
    ∃ front t back, marked = front ++ (true, t) :: back ∧
      portions ((true, t) :: back) = (true, ls) :: after := by
  fun_induction portions marked generalizing before with
  | case1 => simp at h
  | case2 line =>
    obtain ⟨feed, t⟩ := line
    cases before with
    | nil =>
      cases h
      exact ⟨[], t, [], rfl, rfl⟩
    | cons portion before => simp at h
  | case3 line rest hne ih =>
    obtain ⟨feed, t⟩ := line
    cases before with
    | nil =>
      obtain ⟨hfirst, rfl⟩ := List.cons.inj h
      obtain ⟨rfl, rfl⟩ := Prod.mk.inj hfirst
      exact ⟨[], t, rest, rfl, portions.eq_3 _ _ hne⟩
    | cons portion before =>
      obtain ⟨front, u, back, rfl, hportions⟩ := ih (List.cons.inj h).2
      exact ⟨(feed, t) :: front, u, back, rfl, hportions⟩

/-- Empty lines that are put where blocks begin change nothing if no pattern matches them.  The induction is
over the portions, with the lines before them in `front`. -/
theorem readLines_fedLines {patterns : List LinePattern} (hempty : ¬ Recognize patterns [])
    {parts : List (Bool × List Text)} (front : List Text)
    (h : ∀ before ls after, parts = before ++ (true, ls) :: after →
      ∃ blocks, Division patterns (front ++ parts.flatMap (·.2)) blocks (ls ++ after.flatMap (·.2))) :
    readLines patterns (front ++ parts.flatMap fedLines) =
      readLines patterns (front ++ parts.flatMap (·.2)) := by
  induction parts generalizing front with
  | nil => rfl
  | cons part rest ih =>
    obtain ⟨feed, ls⟩ := part
    cases feed with
    | false =>
      simp only [List.flatMap_cons, fedLines, ← List.append_assoc]
      refine ih _ fun before u after hrest => ?_
      have hlater := h ((false, ls) :: before) u after (by rw [hrest]; rfl)
      rwa [List.flatMap_cons, ← List.append_assoc] at hlater
    | true =>
      obtain ⟨blocks, hdivision⟩ := h [] ls rest rfl
      have hblank : ¬ Recognize patterns (withoutEnd []) := hempty
      obtain ⟨left, hleft, hinserted⟩ := hdivision.insert hblank (ls ++ rest.flatMap fedLines)
      obtain rfl : front = left := List.append_cancel_right hleft
      -- behind the empty line the blocks are those of the lines that are left, since reading divides lines in
      -- one way
      have hrest : readLines patterns (ls ++ rest.flatMap fedLines) =
          readLines patterns (ls ++ rest.flatMap (·.2)) := by
        refine ih _ fun before u after hrest => ?_
        obtain ⟨longer, hlonger⟩ := h ((true, ls) :: before) u after (by rw [hrest]; rfl)
        refine hdivision.cut hlonger ?_
        rw [hrest]
        simp only [List.length_append, List.flatMap_append, List.flatMap_cons]
        omega
      simp only [List.flatMap_cons, fedLines, if_true, List.cons_append] at hdivision ⊢
      rw [hinserted.reads, hdivision.reads, readLines_skip hblank, hrest]

/-- Each line before which a form feed stands is the first one of a block, or behind all blocks. -/
def BeginBlocks (patterns : List LinePattern) (marked : List (Bool × Text)) : Prop :=
  ∀ before t after, marked = before ++ (true, t) :: after →
    ∃ blocks, Division patterns (Text.lines (Text.joinWith ['\n'] (withoutFeeds marked))) blocks
      (Text.lines (Text.joinWith ['\n'] (withoutFeeds ((true, t) :: after))))

/-- Form feeds before lines at which blocks begin change nothing in a text. -/
theorem readReport_of_beginBlocks {patterns : List LinePattern} (hempty : ¬ Recognize patterns [])
    {marked : List (Bool × Text)} (h : BeginBlocks patterns marked) :
    readReport patterns (Text.joinWith ['\n'] (withFeeds marked)) =
      readReport patterns (Text.joinWith ['\n'] (withoutFeeds marked)) := by
  unfold readReport
  rw [lines_withFeeds, lines_withoutFeeds]
  refine readLines_fedLines hempty [] fun before ls after hparts => ?_
  obtain ⟨front, t, back, rfl, hportions⟩ := portions_eq_append hparts
  obtain ⟨blocks, hdivision⟩ := h front t back rfl
  rw [lines_withoutFeeds, lines_withoutFeeds, hportions, List.flatMap_cons] at hdivision
  exact ⟨blocks, hdivision⟩

/-! ## Reports -/

section Reports

variable {pictures : List PictureLine}

/-- The lines of a press are its texts with the form feeds that were due. -/
theorem Press.lines_eq_withFeeds (p : Press) :
    p.lines = withFeeds (p.printed.map fun line => (line.feed, line.line.text)) := by
  unfold Press.lines withFeeds
  rw [List.map_map]
  rfl

/-- Presses of which one covers the other print lines that are read alike with shielded pictures. -/
theorem Press.Covers.readLines_eq {p q : Press} (h : p.Covers q)
    (hclean : ∀ picture ∈ pictures, picture.IsClean)
    (hshielded : ∀ picture ∈ pictures, picture.Shielded) :
    readLines (pictures.map of) p.lines = readLines (pictures.map of) q.lines := by
  have htexts : q.printed.map (·.line.text) = p.printed.map (·.line.text) := by
    rw [← List.forall₂_eq_eq_eq, List.forall₂_map_left_iff, List.forall₂_map_right_iff]
    refine h.printed.flip.imp ?_
    rintro other line ⟨hother, -⟩
    rw [hother]
  have hread : ∀ r : Press, readLines (pictures.map of) r.lines =
      readLines (pictures.map of) (r.printed.map (·.line.text)) := by
    intro r
    rw [r.lines_eq_withFeeds, readLines_of_bears hclean fun _ _ _ picture hp => .inl (hshielded picture hp)]
    unfold withoutFeeds
    rw [List.map_map]
    rfl
  rw [hread, hread, htexts]

/-- Form feeds before lines do not change what is read from a list where each picture is shielded or has no
match that starts there, and from a text where no picture takes empty lines and the form feeds stand where
blocks begin.  So what a report gives does not depend on whether form feeds are set, if the pictures are
shielded.  Where they are not, form feeds do show: before a picture alone some line reads otherwise behind
one unless the picture is shielded, and an empty line behind one is read if a picture takes it. -/
theorem read_withFeeds {spec : Spec} (hspec : spec.compile = .ok pictures) :
    let patterns := pictures.map of
    ofLines pictures = .ok patterns ∧
    (∀ marked : List (Bool × Text),
      (∀ line ∈ marked, line.1 = true → ∀ picture ∈ pictures, picture.Bears (withoutEnd line.2)) →
      readLines patterns (withFeeds marked) = readLines patterns (withoutFeeds marked)) ∧
    (∀ marked : List (Bool × Text), ¬ Recognize patterns [] → BeginBlocks patterns marked →
      readReport patterns (Text.joinWith ['\n'] (withFeeds marked)) =
        readReport patterns (Text.joinWith ['\n'] (withoutFeeds marked))) ∧
    (∀ (session : Session) (length : Int) (jobs : List Session.Job),
      let run formFeed := Session.work jobs { session with press := Press.start (Page.first length) formFeed }
      (∀ picture ∈ pictures, picture.Shielded) →
      readLines patterns (run true).2.press.lines = readLines patterns (run false).2.press.lines) ∧
    (∀ picture, pictures = [picture] →
      ((∀ marked : List (Bool × Text), (∀ line ∈ marked, '\x0c' ∉ line.2) →
        (readLines patterns (withoutFeeds marked)).2 = none →
        readLines patterns (withFeeds marked) = readLines patterns (withoutFeeds marked)) ↔ picture.Shielded)) ∧
    (Recognize patterns [] → readReport patterns (Text.joinWith ['\n'] (withFeeds [(true, [])])) ≠
      readReport patterns (Text.joinWith ['\n'] (withoutFeeds [(true, [])]))) := by
  intro patterns
  have hclean := PictureLine.compile_clean hspec
  refine ⟨ofLines_eq fun picture hp => (hclean picture hp).names, fun marked => readLines_of_bears hclean,
    fun marked hempty => readReport_of_beginBlocks hempty, ?_, ?_, fun hempty => ?_⟩
  · intro session length jobs run hshielded
    have hstart := Session.alike_start session length
    obtain ⟨-, ⟨_, _, _, _, hend⟩, -⟩ := Session.work_paired jobs (fun _ => rfl) hstart
    exact hend.press.covers.readLines_eq hclean hshielded
  · rintro picture rfl
    rw [List.forall_mem_singleton] at hclean
    constructor
    · intro hall
      -- a line that reads otherwise shows that the picture is shielded if none does
      by_contra hexposed
      obtain ⟨t, hfeedless, hnone, hne⟩ := exposed_of_not_shielded hclean hexposed
      exact hne (hall [(true, t)] (List.forall_mem_singleton.mpr hfeedless) hnone)
    · intro hshielded marked _ _
      exact readLines_of_bears (List.forall_mem_singleton.mpr hclean) fun _ _ _ =>
        List.forall_mem_singleton.mpr (.inl hshielded)
  · have hplain : readReport patterns (Text.joinWith ['\n'] (withoutFeeds [(true, [])])) = ([], none) :=
      readLines_nil
    rw [hplain, readReport, lines_withFeeds]
    exact readLines_of_recognize hempty

/-- A number behind text and one before text: both pictures are shielded. -/
def delivery : List PictureLine :=
  [⟨[.literal "Nr ".toList, .field ⟨.fixed ⟨3, 0, false⟩, false⟩], false, false, ["nr"], "Nr @##".toList⟩,
    ⟨[.field ⟨.fixed ⟨3, 0, false⟩, false⟩, .literal " pcs".toList], false, false, ["count"], "@## pcs".toList⟩]

/-- Two records, the second of which lacks a line. -/
def deliveryLines : List (Bool × Text) :=
  [(true, "Nr   7".toList), (false, " 12 pcs".toList), (true, "Nr   8".toList)]

/-- Form feeds before both records of `deliveryLines` change nothing, in a list or in a text. -/
theorem read_withFeeds_delivery :
    (Spec.text "Nr @##\nnr\n@## pcs\ncount\n".toList).compile = .ok delivery ∧
      readLines (delivery.map of) (withFeeds deliveryLines) =
        readLines (delivery.map of) (withoutFeeds deliveryLines) ∧
      readReport (delivery.map of) (Text.joinWith ['\n'] (withFeeds deliveryLines)) =
        readReport (delivery.map of) (Text.joinWith ['\n'] (withoutFeeds deliveryLines)) ∧
      readLines (delivery.map of) (withoutFeeds deliveryLines) =
        ([[("nr", .int 7), ("count", .int 12)], [("nr", .int 8)]], none) := by
  have hspec : (Spec.text "Nr @##\nnr\n@## pcs\ncount\n".toList).compile = .ok delivery := by rfl
  have hshielded : ∀ picture ∈ delivery, picture.Shielded := by
    rw [delivery, List.forall_mem_cons, List.forall_mem_singleton]
    exact ⟨trivial, rfl, trivial⟩
  have hblocks : BeginBlocks (delivery.map of) deliveryLines := by
    intro before t after h
    rcases before with _ | ⟨first, _ | ⟨second, _ | ⟨third, before⟩⟩⟩
    · cases h
      exact ⟨[], .stop _⟩
    · cases h
    · cases h
      refine ⟨[.taken ["Nr   7".toList, " 12 pcs".toList] [("nr", .int 7), ("count", .int 12)]], ?_⟩
      show Division (delivery.map of) (["Nr   7".toList, " 12 pcs".toList] ++ ["Nr   8".toList]) _
        ["Nr   8".toList]
      refine .take (List.cons_ne_nil _ _) (by decide) ?_ ?_ (.stop _) <;> with_unfolding_all rfl
    · simp [deliveryLines] at h
  obtain ⟨-, hlist, htext, -⟩ := read_withFeeds hspec
  exact ⟨hspec, hlist deliveryLines fun _ _ _ picture hp => .inl (hshielded picture hp),
    htext deliveryLines (by decide) hblocks, by with_unfolding_all rfl⟩

/-- The picture `@<<` of a name alone, which is not shielded. -/
def nameAlone : PictureLine := ⟨[.field ⟨.text .left 3, false⟩], false, false, ["n"], "@<<".toList⟩

/-- Two pictures that start with letters. -/
def lettered : List PictureLine :=
  [⟨[.literal ['a'], .field ⟨.text .left 2, false⟩], false, false, ["x"], "a@<".toList⟩,
    ⟨[.literal ['b'], .field ⟨.text .left 2, false⟩], false, false, ["y"], "b@<".toList⟩]

/-- A field at the front of a picture takes a form feed for a part of its value, and in a text a form feed
cuts a record. -/
theorem formFeeds_shown :
    (Spec.text "@<<\nn\n".toList).compile = .ok [nameAlone] ∧
      readLines [of nameAlone] ["abc".toList] = ([[("n", .text "abc".toList)]], none) ∧
      readLines [of nameAlone] ["\x0cabc".toList] = ([[("n", .text "\x0cabc".toList)]], none) ∧
      (Spec.text "a@<\nx\nb@<\ny\n".toList).compile = .ok lettered ∧
      readReport (lettered.map of) "a1\nb2".toList = ([[("x", .text ['1']), ("y", .text ['2'])]], none) ∧
      readReport (lettered.map of) "a1\n\x0cb2".toList =
        ([[("x", .text ['1'])], [("y", .text ['2'])]], none) := by
  refine ⟨by rfl, ?_, ?_, by rfl, ?_, ?_⟩ <;> with_unfolding_all rfl

end Reports

end PictureReport
