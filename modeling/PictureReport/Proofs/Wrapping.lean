import PictureReport.Proofs.Picture.Chomping
import PictureReport.Proofs.Reading.Recognition
import PictureReport.Proofs.RoundTrip

/-!
# Texts over several lines

A repeated line with one text field, which keeps what it does not show, prints a row of words line by line:
each line shows some of them, at least one, and the last one shows the end.  The reader takes all of these
lines for one record and joins what it reads by spaces, so the words come back.  Each of the lines is what the
picture line prints for its own words, so both sides speak of the same rows.
-/

namespace PictureReport

variable {line : PictureLine} {align : Align} {width : Nat} {name : String} {words : List Text}

/-- A repeated line with one field, for texts, which keeps for its variable what it does not show. -/
structure PictureLine.IsWrapping (line : PictureLine) (align : Align) (width : Nat) (name : String) :
    Prop where
  fields : line.fields = [⟨.text align width, true⟩]
  names : line.names = [name]
  suppressed : line.suppressed = true
  repeated : line.repeated = true
  alternate : Segment.Alternate line.segments
  literals : ∀ t, .literal t ∈ line.segments → ∀ c ∈ t, Text.isBreak c = false

/-- The record in which a variable shows a row of words; without any word it is not set yet. -/
def Record.ofWords (name : String) : List Text → Record
  | [] => []
  | word :: words => [(name, .text (Text.joinWith [' '] (word :: words)))]

theorem Record.ofWords_eq (name : String) (hne : words ≠ []) :
    ofWords name words = [(name, .text (Text.joinWith [' '] words))] := by
  cases words with
  | nil => exact absurd rfl hne
  | cons word words => rfl

theorem Record.resolve_ofWords (name : String) (words : List Text) :
    resolve (ofWords name words) name = .text (Text.joinWith [' '] words) := by
  cases words with
  | nil => rfl
  | cons word words => simp [ofWords, resolve, Entries.get?_cons]

/-- The line prints the words: each of `ts` shows some of them, in order. -/
def PictureLine.PrintsWords (line : PictureLine) (width : Nat) (name : String) (words ts : List Text) : Prop :=
  ∃ chunks, Text.Wraps width words chunks ∧
    List.Forall₂ (fun chunk t => line.Prints (.ofWords name chunk) t) chunks ts

theorem PictureLine.printsWords_nil : line.PrintsWords width name [] [] :=
  ⟨[], Text.wraps_nil width, .nil⟩

theorem PictureLine.PrintsWords.cons {front back ts : List Text} {t : Text}
    (h : line.PrintsWords width name back ts) (hfront : front ≠ [])
    (hfits : (Text.joinWith [' '] front).length ≤ width) (ht : line.Prints (.ofWords name front) t) :
    line.PrintsWords width name (front ++ back) (t :: ts) := by
  obtain ⟨chunks, hchunks, hts⟩ := h
  exact ⟨front :: chunks, hchunks.cons hfront hfits, .cons ht hts⟩

/-! ## Composing -/

section Composing

variable {f : Field} {desk : Desk} {t shown rest : Text} {page : Int}

/-- Texts that fill their fields make a `Row` when they are laid between the literals. -/
theorem row_lay {segments : List Segment} {made : List (Value × Text)}
    (h : List.Forall₂ (fun (f : Field) (each : Value × Text) => f.Shows each.1 each.2)
      (segments.filterMap Segment.field?) made) :
    Row segments (made.map (·.1)) (Segment.lay segments (made.map (·.2))) := by
  induction segments generalizing made with
  | nil =>
    cases h
    exact .nil
  | cons segment segments ih =>
    cases segment with
    | literal t => exact .literal t (ih h)
    | field f =>
      obtain _ | ⟨hshows, hrest⟩ := h
      exact .field hshows (ih hrest)

theorem Desk.read_text (h : desk.journal.get name = .ok (.text t)) :
    Ends (Desk.read name) desk (fun value after => value = .text t ∧ after = desk) fun _ _ => False := by
  have htext : (Value.text t).obstacle = none := Value.hasText_text t
  simp only [Desk.read, ends_bind, ends_get, h, htext]
  exact ⟨rfl, rfl⟩

namespace PictureLine

theorem composeField_rest (hget : desk.journal.get name = .ok (.text t))
    (hformat : f.format (.text t) page true = .ok ⟨shown, some rest, []⟩) :
    Ends (composeField page f name) desk
      (fun made after => made = (shown, t.isEmpty) ∧ after.journal.get name = .ok (.text rest))
      fun _ _ => False := by
  simp only [composeField, ends_bind]
  refine (Desk.read_text hget).mono ?_ fun _ _ he => he
  rintro _ _ ⟨rfl, rfl⟩
  simp only [hformat, Desk.warn, Desk.write, ends_bind, ends_modify, ends_pure]
  exact ⟨rfl, Journal.get_set_self hget (by simp)⟩

/-- A line with one field shows the field between its literals, or nothing if the variable is spent. -/
theorem compose_rest (hfields : line.fields = [f]) (hnames : line.names = [name])
    (hget : desk.journal.get name = .ok (.text t))
    (hformat : f.format (.text t) page true = .ok ⟨shown, some rest, []⟩) :
    Ends (line.compose page) desk
      (fun made after => made = (if line.suppressed && t.isEmpty then none
          else some (Segment.lay line.segments [shown]).trimRight) ∧
        after.journal.get name = .ok (.text rest))
      fun _ _ => False := by
  have hlength : line.names.length = line.fields.length := by rw [hfields, hnames]; rfl
  have hbindings : line.bindings = .ok (line.fields.zip line.names) := if_pos hlength.symm
  have hzip : (line.segments.filterMap Segment.field?).zip line.names = [(f, name)] := by
    rw [hnames]
    exact congrArg (·.zip [name]) hfields
  simp only [compose, hbindings, composeSegments_eq page hlength, hzip, map_eq_pure_bind, ends_bind,
    composeFields, ends_pure]
  refine (composeField_rest hget hformat).mono ?_ fun _ _ he => he
  rintro made after ⟨rfl, hafter⟩
  refine ⟨?_, hafter⟩
  simp only [List.map_cons, List.map_nil, List.all_cons, List.all_nil, Bool.and_true]

/-- Some words in the columns of the field make the line that they print. -/
theorem IsWrapping.prints (h : line.IsWrapping align width name)
    (hshows : Field.Shows ⟨.text align width, true⟩ (.text (Text.joinWith [' '] words)) shown) :
    line.Prints (.ofWords name words) (Segment.lay line.segments [shown]).trimRight := by
  have hmade : List.Forall₂ (fun (f : Field) (each : Value × Text) => f.Shows each.1 each.2)
      (line.segments.filterMap Segment.field?) [(.text (Text.joinWith [' '] words), shown)] := by
    rw [show line.segments.filterMap Segment.field? = _ from h.fields]
    exact .cons hshows .nil
  refine ⟨_, ?_, rfl⟩
  rw [h.names, List.map_singleton, Record.resolve_ofWords]
  exact row_lay hmade

/-- A line is composed with some of the words; the others are left. -/
theorem IsWrapping.compose (h : line.IsWrapping align width name) (hne : words ≠ [])
    (hwords : ∀ word ∈ words, Text.IsWord word) (hfit : ∀ word ∈ words, word.length ≤ width)
    (hget : desk.journal.get name = .ok (.text (Text.joinWith [' '] words))) (page : Int) :
    Ends (line.compose page) desk
      (fun made after => ∃ front back t, words = front ++ back ∧ front ≠ [] ∧
        (Text.joinWith [' '] front).length ≤ width ∧ made = some t ∧ line.Prints (.ofWords name front) t ∧
        after.journal.get name = .ok (.text (Text.joinWith [' '] back)))
      fun _ _ => False := by
  obtain ⟨front, back, shown, hsplit, hfront, hfits, hformat, hshows⟩ :=
    Field.format_joinWith hne hwords hfit page
  refine (compose_rest h.fields h.names hget hformat).mono ?_ fun _ _ he => he
  rintro made after ⟨rfl, hafter⟩
  have hseen : (Text.joinWith [' '] words).isEmpty = false :=
    List.isEmpty_eq_false_iff.mpr (Text.joinWith_ne_nil hne hwords)
  refine ⟨front, back, _, hsplit, hfront, hfits, ?_, h.prints hshows, hafter⟩
  rw [hseen, Bool.and_false]
  rfl

/-- When no word is left the line is suppressed. -/
theorem IsWrapping.compose_spent (h : line.IsWrapping align width name)
    (hget : desk.journal.get name = .ok (.text [])) (page : Int) :
    Ends (line.compose page) desk (fun made _ => made = none) fun _ _ => False := by
  have hformat : Field.format ⟨.text align width, true⟩ (.text []) page true =
      .ok ⟨Text.justify align [] width, some [], []⟩ := by
    rw [Field.format_chomping, Text.chomp_nil]
  refine (compose_rest h.fields h.names hget hformat).mono ?_ fun _ _ he => he
  rintro made after ⟨rfl, -⟩
  rw [h.suppressed]
  rfl

end PictureLine

end Composing

/-! ## Printing -/

namespace Press

variable {p u : Press}

theorem texts_single (hnames : line.names = [name]) {t : Text} {desk : Desk}
    (hget : desk.journal.get name = .ok (.text t)) :
    Ends (Desk.texts line.names) desk (fun held after => held = [t] ∧ after = desk) fun _ _ => False := by
  rw [hnames]
  simp only [Desk.texts, ends_bind, ends_pure]
  refine (Desk.read_text hget).mono ?_ fun _ _ he => he
  rintro _ _ ⟨rfl, rfl⟩
  exact ⟨rfl, rfl⟩

/-- Each turn takes a word at least, so with more turns than words all of them are printed. -/
theorem composeTurns_wraps (h : line.IsWrapping align width name) (turns : Nat) :
    ∀ {words : List Text} {u : Press}, words.length < turns → (∀ word ∈ words, Text.IsWord word) →
      (∀ word ∈ words, word.length ≤ width) →
      u.desk.journal.get name = .ok (.text (Text.joinWith [' '] words)) →
      Ends (composeTurns (pure ()) hold line turns) u
        (fun _ q => ∃ ts, line.PrintsWords width name words ts ∧
          q.pending.map (·.text) = u.pending.map (·.text) ++ ts)
        fun _ _ => False := by
  induction turns with
  | zero => exact fun hturns => absurd hturns (Nat.not_lt_zero _)
  | succ turns ih =>
    intro words u hturns hwords hfit hget
    simp only [composeTurns, ends_bind, ends_pure, ends_onDesk]
    refine (texts_single h.names hget).mono ?_ fun _ _ he => he
    rintro _ _ ⟨rfl, rfl⟩
    simp only [ends_get]
    by_cases hne : words = []
    · subst hne
      refine (h.compose_spent hget _).mono ?_ fun _ _ he => he
      rintro _ desk rfl
      exact ⟨[], PictureLine.printsWords_nil, (List.append_nil _).symm⟩
    · refine (h.compose hne hwords hfit hget _).mono ?_ fun _ _ he => he
      rintro _ desk ⟨front, back, t, rfl, hfront, hfits, rfl, ht, hleft⟩
      simp only [hold, h.repeated, ends_bind, ends_modify, if_true, ends_onDesk]
      refine (texts_single h.names hleft).mono ?_ fun _ _ he => he
      rintro _ _ ⟨rfl, rfl⟩
      -- the line is not left yet: its variable shows another text than before the turn
      have hprogress : [Text.joinWith [' '] back] ≠ [Text.joinWith [' '] (front ++ back)] := by
        intro he
        exact Text.joinWith_append_ne hfront hwords (List.cons.inj he).1.symm
      rw [if_neg hprogress]
      simp only [ends_bind, ends_pure]
      have hfewer : back.length < turns := by
        have hsome := List.length_pos_iff.mpr hfront
        rw [List.length_append] at hturns
        omega
      have hback : ∀ word ∈ back, Text.IsWord word :=
        fun word hw => hwords word (List.mem_append_right _ hw)
      have hfitBack : ∀ word ∈ back, word.length ≤ width :=
        fun word hw => hfit word (List.mem_append_right _ hw)
      refine (ih hfewer hback hfitBack hleft).mono ?_ fun _ _ he => he
      rintro further q ⟨ts, hts, hpending⟩
      refine ⟨t :: ts, hts.cons hfront hfits ht, ?_⟩
      rw [hpending, List.map_append, List.append_assoc]
      rfl

/-- The body of a form that is a wrapping line is composed to the lines of the words. -/
theorem collect_wraps (h : line.IsWrapping align width name) (hwords : ∀ word ∈ words, Text.IsWord word)
    (hfit : ∀ word ∈ words, word.length ≤ width)
    (hget : u.desk.journal.get name = .ok (.text (Text.joinWith [' '] words))) :
    Ends (collect [line]) u
      (fun _ q => ∃ ts, line.PrintsWords width name words ts ∧
        q.pending.map (·.text) = u.pending.map (·.text) ++ ts)
      fun _ _ => False := by
  have hsize : u.desk.textSize line.names = (Text.joinWith [' '] words).length := by
    rw [h.names]
    simp only [Desk.textSize, List.foldr_cons, List.foldr_nil, Nat.add_zero, Journal.resolve_of_get hget]
    rfl
  have hturns : words.length < u.desk.textSize line.names + 1 := by
    rw [hsize]
    exact Nat.lt_succ_of_le (Text.length_le_length_joinWith hwords)
  simp only [collect, composeAll, ends_bind, ends_get, ends_pure]
  exact composeTurns_wraps h _ hturns hwords hfit hget

theorem printRecord_wraps (h : line.IsWrapping align width name) (hwords : ∀ word ∈ words, Text.IsWord word)
    (hfit : ∀ word ∈ words, word.length ≤ width)
    (hget : p.desk.journal.get name = .ok (.text (Text.joinWith [' '] words)))
    (hsaved : p.desk.journal.saved = []) (hbare : Bare p) :
    Ends (printRecord ⟨[line], []⟩) p
      (fun _ q => Bare q ∧ ∃ ts, line.PrintsWords width name words ts ∧
        bodyTexts q.events = bodyTexts p.events ++ ts)
      fun _ _ => False := by
  have hpageless : ∀ other ∈ [line], other.IsPageless := by
    rw [List.forall_mem_singleton]
    intro f hf
    rw [h.fields] at hf
    obtain rfl := List.mem_singleton.mp hf
    rfl
  refine printRecord_collects (Form.band?_of_bands rfl) hpageless hsaved hbare ?_
  refine (collect_wraps (u := p.holding []) h hwords hfit hget).mono ?_ fun _ _ he => he
  rintro count q ⟨ts, hts, hpending⟩
  rw [hpending]
  exact hts

end Press

/-! ## Reading -/

namespace LinePattern

/-- What can be seen of the last field is all of it. -/
theorem endVisible_ofWords (h : line.IsWrapping align width name) (hne : words ≠ [])
    (hwords : ∀ word ∈ words, Text.IsWord word) : line.EndVisible (.ofWords name words) := by
  rintro before f after - -
  left
  intro value hvalue
  rw [h.names, List.map_singleton, Record.resolve_ofWords] at hvalue
  obtain rfl := Option.some.inj hvalue
  exact Text.joinWith_ne_nil hne hwords

/-- Saving words behind others puts them behind those, with a space between. -/
theorem save_ofWords {done chunk : List Text} {t : Text}
    (hdone : ∀ word ∈ done, Text.IsWord word) (hchunk : ∀ word ∈ chunk, Text.IsWord word) (hne : chunk ≠ [])
    (hvalue : Field.valueOf ⟨.text align width, true⟩ t = .ok (.text (Text.joinWith [' '] chunk))) :
    Field.save ⟨.text align width, true⟩ name t (.ofWords name done) =
      .ok (.ofWords name (done ++ chunk)) := by
  have hseen : (Text.joinWith [' '] chunk).isEmpty = false :=
    List.isEmpty_eq_false_iff.mpr (Text.joinWith_ne_nil hne hchunk)
  unfold Field.save
  rw [hvalue]
  by_cases hfirst : done = []
  · subst hfirst
    rw [List.nil_append, Record.ofWords_eq name hne]
    rfl
  · have hbefore : (Text.joinWith [' '] done).isEmpty = false :=
      List.isEmpty_eq_false_iff.mpr (Text.joinWith_ne_nil hfirst hdone)
    have hfollowed : Value.followedBy (.text (Text.joinWith [' '] done)) (.text (Text.joinWith [' '] chunk)) =
        .ok (.text (Text.joinWith [' '] (done ++ chunk))) := by
      rw [Text.joinWith_append [' '] hfirst hne]
      simp only [Value.followedBy, Value.holds, hseen, hbefore, Bool.not_false, Bool.and_self, if_true]
      rfl
    rw [Record.ofWords_eq name hfirst,
      Record.ofWords_eq name (List.append_ne_nil_of_left_ne_nil hfirst chunk)]
    simp only [Shape.isNumeric, Bool.not_false, Bool.and_self, if_true, Entries.get?_cons, Option.getD_some,
      hfollowed]
    simp [bind, Except.bind, pure, Except.pure, Entries.set]

/-- A line that some words printed is recognised, and they are added to those that are read already. -/
theorem matchLine_ofWords (h : line.IsWrapping align width name) {done chunk : List Text} {t : Text}
    (hdone : ∀ word ∈ done, Text.IsWord word) (hchunk : ∀ word ∈ chunk, Text.IsWord word) (hne : chunk ≠ [])
    (hprints : line.Prints (.ofWords name chunk) t) :
    (of line).matchLine t (.ofWords name done) = (.ok true, .ofWords name (done ++ chunk)) := by
  obtain ⟨row, hrow, rfl⟩ := hprints
  obtain ⟨texts, hmatch, hvalues⟩ := matchAt?_row hrow h.alternate (endVisible_ofWords h hne hchunk)
  rw [show line.segments.filterMap Segment.field? = _ from h.fields, h.names, List.map_singleton,
    Record.resolve_ofWords] at hvalues
  cases texts with
  | nil => cases hvalues
  | cons taken texts =>
    have hvalue := (List.cons.inj hvalues).1
    refine matchLine_of_saveAll (Part.search?_of_matchAt? hmatch) ?_
    rw [bindings_of_single h.fields h.names]
    simp only [saveAll, save_ofWords hdone hchunk hne hvalue]

/-- `absorb` takes all the lines of a row of words, by the one repeated pattern. -/
theorem absorb_ofWords (h : line.IsWrapping align width name) {chunks : List (List Text)} {ts : List Text}
    (hts : List.Forall₂ (fun chunk t => line.Prints (.ofWords name chunk) t) chunks ts) :
    ∀ {done : List Text}, (∀ word ∈ done, Text.IsWord word) →
      (∀ chunk ∈ chunks, chunk ≠ [] ∧ ∀ word ∈ chunk, Text.IsWord word) →
      (of line).absorb (.ofWords name done) (ts.map withoutEnd) =
        .ok (.ofWords name (done ++ chunks.flatten), []) := by
  induction hts with
  | nil =>
    intro done _ _
    rw [List.flatten_nil, List.append_nil]
    rfl
  | @cons chunk t chunks ts ht _ ih =>
    intro done hdone hchunks
    rw [List.forall_mem_cons] at hchunks
    have hmatch := matchLine_ofWords h hdone hchunks.1.2 hchunks.1.1 ht
    have hrepeated : (of line).repeated = true := h.repeated
    rw [List.map_cons, withoutEnd_of_prints h.literals ht]
    unfold absorb
    simp only [hmatch, hrepeated, if_true]
    rw [ih (List.forall_mem_append.mpr ⟨hdone, hchunks.1.2⟩) hchunks.2, List.flatten_cons, List.append_assoc]

/-- The lines of a row of words are read as one record that has the words. -/
theorem readLines_ofWords (h : line.IsWrapping align width name) (hne : words ≠ [])
    (hwords : ∀ word ∈ words, Text.IsWord word) {ts : List Text}
    (hts : line.PrintsWords width name words ts) :
    readLines [of line] ts = ([[(name, .text (Text.joinWith [' '] words))]], none) := by
  obtain ⟨chunks, hwraps, hts⟩ := hts
  have hchunks : ∀ chunk ∈ chunks, chunk ≠ [] ∧ ∀ word ∈ chunk, Text.IsWord word := by
    refine fun chunk hc => ⟨(hwraps.filled chunk hc).1, fun word hw => hwords word ?_⟩
    rw [← hwraps.flatten]
    exact List.mem_flatten.mpr ⟨chunk, hc, hw⟩
  have habsorb : (of line).absorb [] (ts.map withoutEnd) = .ok (.ofWords name ([] ++ chunks.flatten), []) :=
    absorb_ofWords h hts (List.forall_mem_nil _) hchunks
  rw [List.nil_append, hwraps.flatten, Record.ofWords_eq name hne] at habsorb
  refine readLines_of_absorb ?_ habsorb
  rintro rfl
  obtain rfl : chunks = [] := List.length_eq_zero_iff.mp hts.length_eq
  exact hne hwraps.flatten.symm

end LinePattern

/-! ## There and back -/

namespace Session

/-- Compile a picture and print the record of one source with it; the page is not finished. -/
def printSource (spec : Spec) (source : Source) : Reporting FormId := do
  let form ← compileSpec spec
  let id ← addSource source
  let _ ← perform form id .record
  pure form

theorem compile_wrapping {spec : Spec} (hspec : spec.compile = .ok [line]) (hrepeated : line.repeated = true)
    (hfields : line.fields = [⟨.text align width, true⟩]) (hnames : line.names = [name]) :
    line.IsWrapping align width name := by
  have hmem : line ∈ [line] := List.mem_singleton_self line
  obtain ⟨hcompiled, -⟩ := Spec.compile_compiled hspec line hmem
  exact ⟨hfields, hnames, hcompiled.suppressed_of_repeated hrepeated, hrepeated, hcompiled.drawn.alternate,
    fun t ht => Spec.unbroken_of_literal hspec hmem ht⟩

theorem printSource_wraps (h : line.IsWrapping align width name) {spec : Spec} {source : Source}
    (hspec : spec.compile = .ok [line]) (hwords : ∀ word ∈ words, Text.IsWord word)
    (hfit : ∀ word ∈ words, word.length ≤ width)
    (hvalue : source.get name = .ok (.text (Text.joinWith [' '] words))) (length : Int) :
    Ends (printSource spec source) (start (Page.first length) false)
      (fun form t => Ready [line] form t ∧
        line.PrintsWords width name words (Press.bodyTexts t.press.events))
      fun _ _ => False := by
  simp only [printSource, ends_bind, ends_pure]
  refine (compileSpec_ready hspec length).mono ?_ fun _ _ he => he
  rintro form t ⟨ht, hevents⟩
  have hready : Ready [line] form { t with sources := t.sources ++ [source] } :=
    ⟨ht.pictures, ht.bound, ht.bare⟩
  change Ends (perform form t.sources.length .record) { t with sources := t.sources ++ [source] } _ _
  refine perform_ends hready.bound ?_
  rw [hready.pictures]
  have hsource : (t.sources ++ [source])[t.sources.length]? = some source := by simp
  rw [hsource]
  have hbare : Press.Bare (t.press.withValues source) := ht.bare.congr rfl rfl rfl
  have hget : (t.press.withValues source).desk.journal.get name = .ok (.text (Text.joinWith [' '] words)) :=
    hvalue
  refine (Press.printRecord_wraps h hwords hfit hget rfl hbare).mono ?_ fun _ _ he => he
  rintro _ q ⟨hq, ts, hts, htexts⟩
  refine ⟨⟨ht.pictures, ht.bound, hq⟩, ?_⟩
  have hnone : Press.bodyTexts (t.press.withValues source).events = [] := congrArg Press.bodyTexts hevents
  rw [hnone, List.nil_append] at htexts
  change line.PrintsWords width name words (Press.bodyTexts q.events)
  rw [htexts]
  exact hts

/-- Whatever the page length, the literals around the field and the way the text is justified: a text whose
words fit in the columns is printed over as many lines as it takes, and they are read back as one record with
the text. -/
theorem readLines_printSource (length : Int) {spec : Spec} {source : Source}
    (hspec : spec.compile = .ok [line]) (hrepeated : line.repeated = true)
    (hfields : line.fields = [⟨.text align width, true⟩]) (hnames : line.names = [name]) (hne : words ≠ [])
    (hwords : ∀ word ∈ words, Text.IsWord word) (hfit : ∀ word ∈ words, word.length ≤ width)
    (hvalue : source.get name = .ok (.text (Text.joinWith [' '] words))) :
    let run := printSource spec source (start (Page.first length) false)
    ∃ form patterns, run.1 = .ok form ∧
      LinePattern.ofLines (run.2.assembly.linesOf form) = .ok patterns ∧
      readLines patterns run.2.press.lines = ([[(name, .text (Text.joinWith [' '] words))]], none) := by
  have h := compile_wrapping hspec hrepeated hfields hnames
  obtain ⟨form, hform, hready, hts⟩ :=
    (printSource_wraps h hspec hwords hfit hvalue length).exists_ok
  refine ⟨form, [LinePattern.of line], hform, ?_, ?_⟩
  · have hbody : _ = [line] := congrArg Form.body hready.pictures
    refine (congrArg LinePattern.ofLines hbody).trans (LinePattern.ofLines_eq ?_)
    rw [List.forall_mem_singleton, hfields, hnames]
    rfl
  · rw [hready.bare.lines]
    exact LinePattern.readLines_ofWords h hne hwords hts

/-- A notice between two stars. -/
def notice : Spec := .text "* ^||||||| *~~\nnotice".toList

def noticeLine : PictureLine :=
  ⟨[.literal ['*', ' '], .field ⟨.text .center 8, true⟩, .literal [' ', '*', ' ', ' ']], true, true,
    ["notice"], "* ^||||||| *~~".toList⟩

def noticeWords : List Text := ["ring", "twice", "if", "no", "one", "is", "in"].map String.toList

def noticeSource : Source := ⟨.mapping, [("notice", .text "ring twice if no one is in".toList)]⟩

/-- The notice takes four lines, on pages of two, and is read back. -/
theorem readLines_printSource_notice :
    let run := printSource notice noticeSource (start (Page.first 2) false)
    notice.compile = .ok [noticeLine] ∧
    run.2.press.lines =
      ["*   ring   *".toList, "* twice if *".toList, "*  no one  *".toList, "*  is in   *".toList] ∧
    ∃ form patterns, run.1 = .ok form ∧
      LinePattern.ofLines (run.2.assembly.linesOf form) = .ok patterns ∧
      readLines patterns run.2.press.lines =
        ([[("notice", .text (Text.joinWith [' '] noticeWords))]], none) := by
  have hspec : notice.compile = .ok [noticeLine] := by decide +kernel
  have hfields : noticeLine.fields = [⟨.text .center 8, true⟩] := rfl
  have hnames : noticeLine.names = ["notice"] := rfl
  have hwords : ∀ word ∈ noticeWords, Text.IsWord word := by decide +kernel
  have hfit : ∀ word ∈ noticeWords, word.length ≤ 8 := by decide +kernel
  have hvalue : noticeSource.get "notice" = .ok (.text (Text.joinWith [' '] noticeWords)) := by
    with_unfolding_all rfl
  have hlines : (printSource notice noticeSource (start (Page.first 2) false)).2.press.lines =
      ["*   ring   *".toList, "* twice if *".toList, "*  no one  *".toList, "*  is in   *".toList] := by
    decide +kernel
  exact ⟨hspec, hlines,
    readLines_printSource 2 hspec rfl hfields hnames (List.cons_ne_nil _ _) hwords hfit hvalue⟩

end Session

end PictureReport
