import PictureReport.Proofs.Picture.Chomping
import PictureReport.Proofs.Picture.Widths
import PictureReport.Proofs.Press.Dwindling
import PictureReport.Proofs.Press.Transparency
import PictureReport.Proofs.Reading.Shielding

/-!
# Texts are shown to their end

A repeated line all of whose fields keep what they do not show goes on until nothing is left.  Each turn
breaks the texts of its variables, field by field (`chompAll`); two fields may share a variable, and then the
second one breaks what the first one has left.  No turn loses a character that is not blank, and a turn that
finds a text leaves less of it, be it blanks that are dropped.  So the turns end with all variables empty, and
the pieces that they show are the texts.
-/

namespace PictureReport

namespace Text

variable {t : Text} {width : Nat}

/-- The characters of a text that are not blank. -/
def withoutBlanks (t : Text) : Text := t.filter (!isBlank ·)

theorem withoutBlanks_append (t u : Text) : withoutBlanks (t ++ u) = withoutBlanks t ++ withoutBlanks u :=
  List.filter_append t u

theorem withoutBlanks_trimLeft (t : Text) : withoutBlanks (trimLeft t) = withoutBlanks t := by
  induction t with
  | nil => rfl
  | cons c t ih =>
    unfold trimLeft at ih ⊢
    by_cases hc : isBlank c = true
    · rw [List.dropWhile_cons_of_pos hc, ih]
      exact (List.filter_cons_of_neg (by simp [hc])).symm
    · rw [List.dropWhile_cons_of_neg hc]

/-! ## Breaking a text -/

/-- What `chomp` shows of a text and what it leaves have all of its characters but blanks. -/
theorem withoutBlanks_chomp (t : Text) (width : Nat) :
    withoutBlanks (t.chomp width).1 ++ withoutBlanks (t.chomp width).2 = withoutBlanks t := by
  rw [chomp, withoutBlanks_trimLeft, ← withoutBlanks_append, List.take_append_drop]

theorem length_chomp_le (t : Text) (width : Nat) : (t.chomp width).1.length ≤ width :=
  (List.length_take_le _ _).trans (shownLength_le t width)

theorem eq_cons_of_lastSpace?_eq_zero (h : lastSpace? t = some 0) : ∃ rest, t = ' ' :: rest := by
  cases t with
  | nil => cases h
  | cons c rest =>
    unfold lastSpace? at h
    cases hlast : lastSpace? rest with
    | some i =>
      simp only [hlast] at h
      cases h
    | none =>
      simp only [hlast] at h
      split at h
      · rename_i hc
        exact ⟨rest, by rw [hc]⟩
      · cases h

/-- Nothing of a text is shown only where it starts with a space. -/
theorem eq_cons_of_shownLength_eq_zero (hwidth : 0 < width) (hne : t ≠ []) (h : t.shownLength width = 0) :
    ∃ rest, t = ' ' :: rest := by
  unfold shownLength at h
  split at h
  · exact absurd (List.length_eq_zero_iff.mp h) hne
  · cases hlast : lastSpace? (t.take (width + 1)) with
    | none =>
      rw [hlast, Option.getD_none] at h
      omega
    | some i =>
      rw [hlast, Option.getD_some] at h
      subst h
      obtain ⟨rest, hrest⟩ := eq_cons_of_lastSpace?_eq_zero hlast
      cases t with
      | nil => exact absurd rfl hne
      | cons c t =>
        rw [List.take_succ_cons] at hrest
        exact ⟨t, by rw [(List.cons.inj hrest).1]⟩

/-- `chomp` leaves less of a text than there was: some of it is shown, or a space at its front is dropped. -/
theorem length_chomp_lt (hwidth : 0 < width) (hne : t ≠ []) : (t.chomp width).2.length < t.length := by
  by_cases hshown : t.shownLength width = 0
  · obtain ⟨rest, rfl⟩ := eq_cons_of_shownLength_eq_zero hwidth hne hshown
    have hrest : (chomp (' ' :: rest) width).2 = trimLeft rest := by
      simp only [chomp, hshown, List.drop_zero]
      exact List.dropWhile_cons_of_pos isBlank_space
    rw [hrest]
    exact Nat.lt_succ_of_le (List.dropWhile_suffix _).length_le
  · have hleft : (t.chomp width).2.length ≤ (t.drop (t.shownLength width)).length :=
      (List.dropWhile_suffix _).length_le
    have hlength := List.length_pos_iff.mpr hne
    rw [List.length_drop] at hleft
    omega

end Text

/-! ## Breaking the texts of a line -/

/-- What fields that chomp show of the texts of their variables, one after the other, and what they leave of
them. -/
def chompAll : List (Field × String) → (String → Text) → List Text × (String → Text)
  | [], texts => ([], texts)
  | (f, name) :: bindings, texts =>
    let broken := (texts name).chomp f.width
    let others := chompAll bindings (Function.update texts name broken.2)
    (broken.1 :: others.1, others.2)

/-- The pieces that the variable `name` has among those of a line, in order. -/
def piecesOf (name : String) (names : List String) (pieces : List Text) : Text :=
  ((names.zip pieces).filter (·.1 = name)).flatMap (·.2)

section ChompAll

variable {bindings : List (Field × String)} {name : String}

theorem piecesOf_cons (name other : String) (names : List String) (piece : Text) (pieces : List Text) :
    piecesOf name (other :: names) (piece :: pieces) =
      (if other = name then piece else []) ++ piecesOf name names pieces := by
  unfold piecesOf
  rw [List.zip_cons_cons]
  by_cases hname : other = name
  · rw [List.filter_cons_of_pos (by simpa using hname), List.flatMap_cons, if_pos hname]
  · rw [List.filter_cons_of_neg (by simpa using hname), if_neg hname, List.nil_append]

theorem chompAll_fits (bindings : List (Field × String)) (texts : String → Text) :
    List.Forall₂ (fun (f : Field) piece => piece.length ≤ f.width) (bindings.map (·.1))
      (chompAll bindings texts).1 := by
  induction bindings generalizing texts with
  | nil => exact .nil
  | cons binding bindings ih => exact .cons (Text.length_chomp_le _ _) (ih _)

theorem chompAll_suffix (bindings : List (Field × String)) (texts : String → Text) (name : String) :
    (chompAll bindings texts).2 name <:+ texts name := by
  induction bindings generalizing texts with
  | nil => exact List.suffix_rfl
  | cons binding bindings ih =>
    refine (ih _).trans ?_
    by_cases hname : name = binding.2
    · subst hname
      rw [Function.update_self]
      exact Text.chomp_suffix _ _
    · simp only [Function.update_of_ne hname, List.suffix_rfl]

/-- Of a text that is shown in a field `chompAll` leaves less. -/
theorem chompAll_lt (hwide : ∀ binding ∈ bindings, 0 < binding.1.width) (hname : name ∈ bindings.map (·.2)) :
    ∀ {texts : String → Text}, texts name ≠ [] →
      ((chompAll bindings texts).2 name).length < (texts name).length := by
  induction bindings with
  | nil => cases hname
  | cons binding bindings ih =>
    intro texts hne
    rw [List.forall_mem_cons] at hwide
    by_cases hfirst : name = binding.2
    · subst hfirst
      have hrest := (chompAll_suffix bindings
        (Function.update texts binding.2 ((texts binding.2).chomp binding.1.width).2) binding.2).length_le
      rw [Function.update_self] at hrest
      exact Nat.lt_of_le_of_lt hrest (Text.length_chomp_lt hwide.1 hne)
    · have hlater : name ∈ bindings.map (·.2) := (List.mem_cons.mp hname).resolve_left hfirst
      have hsame := Function.update_of_ne hfirst ((texts binding.2).chomp binding.1.width).2 texts
      rw [← hsame] at hne ⊢
      exact ih hwide.2 hlater hne

/-- The pieces that `chompAll` shows of a text, together with what is left of it, have all of its characters
but blanks. -/
theorem chompAll_whole (bindings : List (Field × String)) (texts : String → Text) (name : String) :
    (piecesOf name (bindings.map (·.2)) (chompAll bindings texts).1).withoutBlanks ++
      ((chompAll bindings texts).2 name).withoutBlanks = (texts name).withoutBlanks := by
  induction bindings generalizing texts with
  | nil => rfl
  | cons binding bindings ih =>
    have hrest := ih (Function.update texts binding.2 ((texts binding.2).chomp binding.1.width).2)
    rw [List.map_cons, chompAll, piecesOf_cons, Text.withoutBlanks_append, List.append_assoc, hrest]
    by_cases hname : binding.2 = name
    · subst hname
      rw [if_pos rfl, Function.update_self]
      exact Text.withoutBlanks_chomp _ _
    · rw [if_neg hname, Function.update_of_ne (Ne.symm hname)]
      rfl

end ChompAll

/-! ## Composing -/

namespace Desk

variable {desk : Desk} {name : String} {names : List String}

/-- What a variable shows. -/
def shown (desk : Desk) (name : String) : Text := (Record.resolve desk.journal.source.entries name).shown

/-- What keeps the value of a variable from being shown. -/
def obstacle (desk : Desk) (name : String) : Option ShowFault :=
  (Record.resolve desk.journal.source.entries name).obstacle

/-- A mapping in which each of `names` has a text. -/
structure Readable (names : List String) (desk : Desk) : Prop where
  mapping : desk.journal.source.kind = .mapping
  hasText : ∀ name ∈ names, desk.obstacle name = none

theorem get_of_mapping (hmapping : desk.journal.source.kind = .mapping) (name : String) :
    desk.journal.get name = .ok (Record.resolve desk.journal.source.entries name) := by
  unfold Journal.get Source.get
  rw [hmapping]

theorem read_mapping (hmapping : desk.journal.source.kind = .mapping) (name : String) :
    Ends (read name) desk
      (fun value after => value = Record.resolve desk.journal.source.entries name ∧ after = desk ∧
        desk.obstacle name = none)
      fun fault after => ∃ missing, desk.obstacle name = some missing ∧ fault = .noText missing ∧
        after = desk := by
  simp only [read, ends_bind, ends_get, get_of_mapping hmapping]
  cases hobstacle : (Record.resolve desk.journal.source.entries name).obstacle with
  | none => exact ⟨rfl, rfl, hobstacle⟩
  | some missing => exact ⟨missing, hobstacle, rfl, rfl⟩

/-- Reading variables fails for the first one whose value has no text. -/
theorem texts_mapping (hmapping : desk.journal.source.kind = .mapping) (names : List String) :
    Ends (texts names) desk
      (fun held after => held = names.map desk.shown ∧ after = desk ∧
        ∀ name ∈ names, desk.obstacle name = none)
      fun fault after => ∃ missing, names.findSome? desk.obstacle = some missing ∧
        fault = .noText missing ∧ after = desk := by
  induction names with
  | nil => exact ⟨rfl, rfl, List.forall_mem_nil _⟩
  | cons name names ih =>
    simp only [texts, ends_bind, ends_pure]
    refine (read_mapping hmapping name).mono ?_ ?_
    · rintro _ _ ⟨rfl, rfl, hfirst⟩
      refine ih.mono ?_ ?_
      · rintro _ _ ⟨rfl, rfl, hothers⟩
        exact ⟨rfl, rfl, List.forall_mem_cons.mpr ⟨hfirst, hothers⟩⟩
      · rintro _ _ ⟨missing, hmissing, rfl, rfl⟩
        exact ⟨missing, (List.findSome?_cons_of_isNone (by rw [hfirst]; rfl)).trans hmissing, rfl, rfl⟩
    · rintro _ _ ⟨missing, hmissing, rfl, rfl⟩
      exact ⟨missing, by rw [List.findSome?_cons, hmissing], rfl, rfl⟩

theorem Readable.read (h : Readable names desk) (hname : name ∈ names) :
    Ends (Desk.read name) desk
      (fun value after => value = Record.resolve desk.journal.source.entries name ∧ after = desk)
      fun _ _ => False := by
  refine (read_mapping h.mapping name).mono (fun _ _ hr => ⟨hr.1, hr.2.1⟩) ?_
  rintro _ _ ⟨missing, hmissing, -, -⟩
  rw [h.hasText name hname] at hmissing
  cases hmissing

theorem Readable.texts (h : Readable names desk) :
    Ends (Desk.texts names) desk (fun held after => held = names.map desk.shown ∧ after = desk)
      fun _ _ => False := by
  refine (texts_mapping h.mapping names).mono (fun _ _ hr => ⟨hr.1, hr.2.1⟩) ?_
  rintro _ _ ⟨missing, hmissing, -, -⟩
  obtain ⟨name, hname, hobstacle⟩ := List.exists_of_findSome?_eq_some hmissing
  rw [h.hasText name hname] at hobstacle
  cases hobstacle

/-- A text that is set can be shown, so the desk stays `Readable`. -/
theorem Readable.write (h : Readable names desk) (name : String) (rest : Text) :
    Ends (Desk.write name (.text rest)) desk
      (fun _ after => Readable names after ∧ after.shown = Function.update desk.shown name rest ∧
        after.warnings = desk.warnings)
      fun _ _ => False := by
  rw [Desk.write, ends_modify]
  -- the text is found under its own name, and every other name shows what it did
  have hresolve : ∀ other,
      Record.resolve (Entries.set name (.text rest) desk.journal.source.entries) other =
        if name = other then .text rest else Record.resolve desk.journal.source.entries other := by
    intro other
    by_cases hname : name = other
    · subst hname
      rw [if_pos rfl, Record.resolve_set_self (by simp)]
    · rw [if_neg hname, Record.resolve_set_of_ne hname]
  refine ⟨⟨h.mapping, fun other hother => ?_⟩, ?_, rfl⟩
  · change (Record.resolve (Entries.set name (.text rest) desk.journal.source.entries) other).obstacle = none
    rw [hresolve]
    split
    · exact Value.hasText_text rest
    · exact h.hasText other hother
  · funext other
    change (Record.resolve (Entries.set name (.text rest) desk.journal.source.entries) other).shown = _
    rw [hresolve, Function.update_apply]
    by_cases hname : name = other
    · rw [if_pos hname, if_pos hname.symm]
      rfl
    · rw [if_neg hname, if_neg (Ne.symm hname)]
      rfl

end Desk

/-- A piece of a text in the columns of its field. -/
def Field.justified (f : Field) (piece : Text) : Text :=
  match f.shape with
  | .text align width => Text.justify align piece width
  | _ => piece

theorem Field.format_chomps {f : Field} (h : f.chomps = true) {value : Value} (hvalue : value.HasText)
    (page : Int) :
    f.format value page true =
      .ok ⟨f.justified (value.shown.chomp f.width).1, some (value.shown.chomp f.width).2, []⟩ := by
  obtain ⟨shape, chomp⟩ := f
  cases shape with
  | text align width =>
    obtain rfl : chomp = true := h
    exact Field.format_eq_ok.mpr ⟨hvalue, rfl⟩
  | _ => cases h

namespace PictureLine

variable {line : PictureLine} {desk : Desk} {names : List String} {page : Int}

/-- A repeated line all of whose fields leave to their variables what they do not show. -/
structure IsDraining (line : PictureLine) : Prop where
  names : line.names.length = line.fields.length
  wide : ∀ f ∈ line.fields, 0 < f.width
  chomps : ∀ f ∈ line.fields, f.chomps = true
  suppressed : line.suppressed = true
  repeated : line.repeated = true

theorem IsDraining.map_fields (h : line.IsDraining) : (line.fields.zip line.names).map (·.1) = line.fields :=
  List.map_fst_zip h.names.ge

theorem IsDraining.map_names (h : line.IsDraining) : (line.fields.zip line.names).map (·.2) = line.names :=
  List.map_snd_zip h.names.le

theorem compile_draining {spec : Spec} {lines : List PictureLine} (hspec : spec.compile = .ok lines)
    (hline : line ∈ lines) (hrepeated : line.repeated = true)
    (hchomps : ∀ f ∈ line.fields, f.chomps = true) : line.IsDraining := by
  have hclean := compile_clean hspec line hline
  have hcompiled := (Spec.compile_compiled hspec line hline).1
  exact ⟨hclean.names, hclean.wide, hchomps, hcompiled.suppressed_of_repeated hrepeated, hrepeated⟩

/-- The line that shows `pieces` of texts in its fields. -/
def showing (line : PictureLine) (pieces : List Text) : Text :=
  (Segment.lay line.segments (List.zipWith Field.justified line.fields pieces)).trimRight

theorem composeField_chomp {f : Field} {name : String} (hf : f.chomps = true) (h : desk.Readable names)
    (hname : name ∈ names) :
    Ends (composeField page f name) desk
      (fun made after =>
        made = (f.justified ((desk.shown name).chomp f.width).1, (desk.shown name).isEmpty) ∧
        after.Readable names ∧
        after.shown = Function.update desk.shown name ((desk.shown name).chomp f.width).2 ∧
        after.warnings = desk.warnings)
      fun _ _ => False := by
  simp only [composeField, ends_bind]
  refine (h.read hname).mono ?_ fun _ _ he => he
  rintro _ _ ⟨rfl, rfl⟩
  simp only [Field.format_chomps hf (h.hasText name hname), Desk.warn, List.append_nil, ends_bind, ends_modify,
    ends_pure]
  exact (h.write name _).mono (fun _ _ hafter => ⟨rfl, hafter⟩) fun _ _ he => he

theorem composeFields_chompAll {bindings : List (Field × String)}
    (hchomps : ∀ binding ∈ bindings, binding.1.chomps = true)
    (hnames : ∀ binding ∈ bindings, binding.2 ∈ names) (h : desk.Readable names) :
    Ends (composeFields page bindings) desk
      (fun made after =>
        made.map (·.1) =
          List.zipWith Field.justified (bindings.map (·.1)) (chompAll bindings desk.shown).1 ∧
        (made.all (·.2) = true ↔ ∀ binding ∈ bindings, desk.shown binding.2 = []) ∧
        after.Readable names ∧ after.shown = (chompAll bindings desk.shown).2 ∧
        after.warnings = desk.warnings)
      fun _ _ => False := by
  induction bindings generalizing desk with
  | nil => exact ⟨rfl, by simp, h, rfl, rfl⟩
  | cons binding bindings ih =>
    rw [List.forall_mem_cons] at hchomps hnames
    simp only [composeFields, ends_bind, ends_pure]
    refine (composeField_chomp hchomps.1 h hnames.1).mono ?_ fun _ _ he => he
    rintro _ middle ⟨rfl, hmiddle, hshown, hwarnings⟩
    refine (ih hchomps.2 hnames.2 hmiddle).mono ?_ fun _ _ he => he
    rintro others after ⟨hothers, hblank, hafter, hleft, hwarned⟩
    rw [hshown] at hothers hblank hleft
    refine ⟨congrArg (_ :: ·) hothers, ?_, hafter, hleft, hwarned.trans hwarnings⟩
    simp only [List.all_cons, Bool.and_eq_true, List.isEmpty_iff, hblank, List.forall_mem_cons]
    -- an empty text is left empty
    refine and_congr_right fun hempty => ?_
    rw [hempty, Text.chomp_nil, ← hempty, Function.update_eq_self]

/-- Between `desk` and `after` a turn of the line takes the pieces off its variables, as `chompAll` gives
them. -/
structure Takes (line : PictureLine) (pieces : List Text) (desk after : Desk) : Prop where
  fits : List.Forall₂ (fun (f : Field) piece => piece.length ≤ f.width) line.fields pieces
  whole : ∀ name, (piecesOf name line.names pieces).withoutBlanks ++ (after.shown name).withoutBlanks =
    (desk.shown name).withoutBlanks
  dwindles : Journal.Dwindles desk.journal after.journal
  less : ∀ name ∈ line.names, desk.shown name ≠ [] →
    (after.shown name).length < (desk.shown name).length
  readable : after.Readable line.names
  warnings : after.warnings = desk.warnings

theorem IsDraining.takes (h : line.IsDraining) {after : Desk} (hreadable : after.Readable line.names)
    (hshown : after.shown = (chompAll (line.fields.zip line.names) desk.shown).2)
    (hwarnings : after.warnings = desk.warnings) :
    line.Takes (chompAll (line.fields.zip line.names) desk.shown).1 desk after := by
  refine ⟨?_, fun name => ?_, fun name => ?_, fun name hname hne => ?_, hreadable, hwarnings⟩
  · have hfits := chompAll_fits (line.fields.zip line.names) desk.shown
    rwa [h.map_fields] at hfits
  · have hwhole := chompAll_whole (line.fields.zip line.names) desk.shown name
    rwa [h.map_names, ← hshown] at hwhole
  · have hsuffix := chompAll_suffix (line.fields.zip line.names) desk.shown name
    rwa [← hshown] at hsuffix
  · rw [hshown]
    refine chompAll_lt (fun binding hb => h.wide _ (List.of_mem_zip hb).1) ?_ hne
    rwa [h.map_names]

/-- A turn of the line shows the pieces that it `Takes`, unless there is nothing to take. -/
theorem IsDraining.compose (h : line.IsDraining) (hdesk : desk.Readable line.names) (page : Int) :
    Ends (line.compose page) desk
      (fun made after => ∃ pieces, line.Takes pieces desk after ∧
        ((∀ name ∈ line.names, desk.shown name = []) → made = none) ∧
        ((∃ name ∈ line.names, desk.shown name ≠ []) → made = some (line.showing pieces)))
      fun _ _ => False := by
  have hbindings : line.bindings = .ok (line.fields.zip line.names) := if_pos h.names.symm
  simp only [PictureLine.compose, hbindings, composeSegments_eq page h.names, map_eq_pure_bind, ends_bind,
    ends_pure]
  have hchomps : ∀ binding ∈ line.fields.zip line.names, binding.1.chomps = true :=
    fun binding hb => h.chomps _ (List.of_mem_zip hb).1
  have hnames : ∀ binding ∈ line.fields.zip line.names, binding.2 ∈ line.names :=
    fun binding hb => (List.of_mem_zip hb).2
  refine (composeFields_chompAll hchomps hnames hdesk).mono ?_ fun _ _ he => he
  rintro made after ⟨hmade, hblank, hreadable, hshown, hwarnings⟩
  have hempty : made.all (·.2) = true ↔ ∀ name ∈ line.names, desk.shown name = [] := by
    rw [hblank, ← h.map_names, List.forall_mem_map, h.map_names]
  refine ⟨_, h.takes hreadable hshown hwarnings, fun hall => ?_, fun ⟨name, hname, hne⟩ => ?_⟩
  · rw [h.suppressed, hempty.mpr hall]
    rfl
  · have hseen : made.all (·.2) ≠ true := fun hall => hne (hempty.mp hall name hname)
    rw [if_neg (by simpa using fun _ => hseen), hmade, h.map_fields]
    rfl

end PictureLine

/-! ## Turns -/

namespace Press

variable {line : PictureLine} {p q r : Press} {pieces : List Text} {turns : List (List Text)}

/-- Between `p` and `q` the line shows the pieces of `turns`: each of them fits in its field, those of a
variable have all characters of its text but blanks, and the line is left when every variable is empty. -/
structure Drained (line : PictureLine) (turns : List (List Text)) (p q : Press) : Prop where
  pending : q.pending = p.pending ++ turns.map fun pieces => ⟨line.showing pieces, p.page.number⟩
  fits : ∀ pieces ∈ turns,
    List.Forall₂ (fun (f : Field) piece => piece.length ≤ f.width) line.fields pieces
  whole : ∀ name ∈ line.names,
    Text.withoutBlanks (turns.flatMap (piecesOf name line.names)) = (p.desk.shown name).withoutBlanks
  spent : ∀ name ∈ line.names, (q.desk.journal.get name).map Value.shown = .ok []
  warnings : q.desk.warnings = p.desk.warnings

/-- The turn that takes nothing is the last one: the line is `Drained` in no further turns. -/
theorem Drained.last {desk : Desk} (hempty : ∀ name ∈ line.names, p.desk.shown name = [])
    (h : line.Takes pieces p.desk desk) : Drained line [] p { p with desk } := by
  refine ⟨(List.append_nil _).symm, List.forall_mem_nil _, fun name hname => ?_, fun name hname => ?_,
    h.warnings⟩
  · rw [hempty name hname]
    rfl
  · have hleft : desk.shown name <:+ p.desk.shown name := h.dwindles name
    rw [hempty name hname, List.suffix_nil] at hleft
    have hget : (desk.journal.get name).map Value.shown = .ok (desk.shown name) := by
      rw [Desk.get_of_mapping h.readable.mapping]
      rfl
    rw [hleft] at hget
    exact hget

/-- A turn that takes pieces comes before those in which what it leaves is `Drained`. -/
theorem Drained.cons (h : Drained line turns q r) (htakes : line.Takes pieces p.desk q.desk)
    (hpending : q.pending = p.pending ++ [⟨line.showing pieces, p.page.number⟩]) (hpage : q.page = p.page) :
    Drained line (pieces :: turns) p r := by
  refine ⟨?_, List.forall_mem_cons.mpr ⟨htakes.fits, h.fits⟩, fun name hname => ?_, h.spent,
    h.warnings.trans htakes.warnings⟩
  · rw [h.pending, hpending, hpage, List.append_assoc]
    rfl
  · rw [List.flatMap_cons, Text.withoutBlanks_append, h.whole name hname]
    exact htakes.whole name

/-- Each turn that finds a text takes a character of it at least, so with more turns than characters the line
is `Drained`. -/
theorem composeTurns_drained (h : line.IsDraining) (count : Nat) :
    ∀ {p : Press}, p.desk.Readable line.names → p.desk.textSize line.names < count →
      Ends (composeTurns (pure ()) hold line count) p
        (fun made q => ∃ turns, made = turns.length ∧ Drained line turns p q) fun _ _ => False := by
  induction count with
  | zero => exact fun _ hsize => absurd hsize (Nat.not_lt_zero _)
  | succ count ih =>
    intro p hp hsize
    simp only [composeTurns, ends_bind, ends_pure, ends_onDesk]
    refine hp.texts.mono ?_ fun _ _ he => he
    rintro _ _ ⟨rfl, rfl⟩
    simp only [ends_get]
    refine (h.compose hp _).mono ?_ fun _ _ he => he
    rintro made desk ⟨pieces, htakes, hnone, hsome⟩
    by_cases hempty : ∀ name ∈ line.names, p.desk.shown name = []
    · obtain rfl := hnone hempty
      exact ⟨[], rfl, .last hempty htakes⟩
    · push Not at hempty
      obtain rfl := hsome hempty
      simp only [hold, h.repeated, ends_bind, ends_modify, if_true, ends_onDesk]
      refine htakes.readable.texts.mono ?_ fun _ _ he => he
      rintro _ desk ⟨rfl, rfl⟩
      obtain ⟨name, hname, hne⟩ := hempty
      -- read again after the turn, the variable shows less, so the loop goes on
      have hchanged : desk.shown name ≠ p.desk.shown name := fun he =>
        Nat.ne_of_lt (htakes.less name hname hne) (congrArg List.length he)
      have hprogress : line.names.map desk.shown ≠ line.names.map p.desk.shown := by
        rw [Ne, List.map_inj_left]
        exact fun hall => hchanged (hall name hname)
      rw [if_neg hprogress]
      simp only [ends_bind, ends_pure]
      have hfewer : desk.textSize line.names < count :=
        Nat.lt_of_lt_of_le (Desk.textSize_lt htakes.dwindles hname hchanged) (Nat.le_of_lt_succ hsize)
      refine (ih htakes.readable hfewer).mono ?_ fun _ _ he => he
      rintro further q ⟨turns, rfl, hq⟩
      exact ⟨pieces :: turns, rfl, hq.cons htakes rfl rfl⟩

/-- A value that has no text is found before the line shows anything. -/
theorem collect_missing (hmapping : p.desk.journal.source.kind = .mapping) {missing : ShowFault}
    (hmissing : line.names.findSome? p.desk.obstacle = some missing) :
    collect [line] p = (.error (.noText missing), p) := by
  have hends : Ends (collect [line]) p (fun _ _ => False)
      fun fault q => fault = .noText missing ∧ q = p := by
    simp only [collect, composeAll, composeTurns, ends_bind, ends_get, ends_pure, ends_onDesk]
    refine (Desk.texts_mapping hmapping line.names).mono ?_ ?_
    · rintro _ _ ⟨-, -, hnone⟩
      rw [List.findSome?_eq_none_iff.mpr hnone] at hmissing
      cases hmissing
    · rintro _ _ ⟨found, hfound, rfl, rfl⟩
      rw [hfound] at hmissing
      cases hmissing
      exact ⟨rfl, rfl⟩
  rcases hrun : collect [line] p with ⟨outcome, q⟩
  cases outcome with
  | ok count => exact (hends.of_ok hrun).elim
  | error fault =>
    obtain ⟨rfl, rfl⟩ := hends.of_error hrun
    rfl

/-- The loop over a line of a compiled picture, all of whose fields chomp, is left when its variables are
empty, and no warning is given; the pieces that it has shown are the texts that they had (`Drained`).  Only a
variable whose value has no text stops the loop, and then it has not begun: `Desk.obstacle` of the first such
variable is its fault. -/
theorem collect_drains {spec : Spec} {lines : List PictureLine} (hspec : spec.compile = .ok lines)
    (hline : line ∈ lines) (hrepeated : line.repeated = true) (hchomps : ∀ f ∈ line.fields, f.chomps = true)
    (hmapping : p.desk.journal.source.kind = .mapping) :
    let run := collect [line] p
    ((∀ name ∈ line.names, p.desk.obstacle name = none) →
      ∃ turns, run.1 = .ok turns.length ∧ Drained line turns p run.2) ∧
    ∀ missing, line.names.findSome? p.desk.obstacle = some missing →
      run = (.error (.noText missing), p) := by
  refine ⟨fun hnone => ?_, fun missing => collect_missing hmapping⟩
  have h := PictureLine.compile_draining hspec hline hrepeated hchomps
  have hends : Ends (collect [line]) p
      (fun count q => ∃ turns, count = turns.length ∧ Drained line turns p q) fun _ _ => False := by
    simp only [collect, composeAll, ends_bind, ends_get, ends_pure]
    exact composeTurns_drained h _ ⟨hmapping, hnone⟩ (Nat.lt_succ_self _)
  obtain ⟨_, hok, turns, rfl, hdrained⟩ := hends.exists_ok
  exact ⟨turns, hok, hdrained⟩

/-- One text in two fields of different widths. -/
def memo : Spec := .text "^<<<: ^<<<<<~~\nnote, note".toList

def memoLine : PictureLine :=
  ⟨[.field ⟨.text .left 4, true⟩, .literal [':', ' '], .field ⟨.text .left 6, true⟩, .literal [' ', ' ']],
    true, true, ["note", "note"], "^<<<: ^<<<<<~~".toList⟩

def memoPress : Press :=
  { start (Page.first 9) false with
    desk := ⟨.start ⟨.mapping, [("note", .text " upstairs\tif no one is in".toList)]⟩, []⟩ }

/-- The line of `memo`, where the variable holds an integer that has no text. -/
def longPress : Press :=
  { memoPress with
    desk := ⟨.start ⟨.mapping, [("note", .int (Int.ofNat (Nat.pow 10 4300)))]⟩, []⟩ }

/-- The blank at the front leaves the first piece empty.  The integer stops the loop. -/
theorem collect_drains_memo :
    let run := collect [memoLine] memoPress
    memo.compile = .ok [memoLine] ∧
    run.2.pending.map (·.text) = ["    : upstai".toList, "rs\ti: f no".toList, "one : is in".toList] ∧
    (∃ turns, run.1 = .ok turns.length ∧ Drained memoLine turns memoPress run.2) ∧
    collect [memoLine] longPress = (.error (.noText .tooLong), longPress) := by
  have hspec : memo.compile = .ok [memoLine] := by decide +kernel
  have hchomps : ∀ f ∈ memoLine.fields, f.chomps = true := by decide +kernel
  have hnone : ∀ name ∈ memoLine.names, memoPress.desk.obstacle name = none := by decide +kernel
  have hsome : memoLine.names.findSome? longPress.desk.obstacle = some .tooLong := by decide +kernel
  have hlines : (collect [memoLine] memoPress).2.pending.map (·.text) =
      ["    : upstai".toList, "rs\ti: f no".toList, "one : is in".toList] := by decide +kernel
  have hmember := List.mem_singleton_self memoLine
  refine ⟨hspec, hlines, ?_, ?_⟩
  · exact (collect_drains hspec hmember rfl hchomps rfl).1 hnone
  · exact (collect_drains hspec hmember rfl hchomps rfl).2 _ hsome

end Press

end PictureReport
