import PictureReport.Proofs.Json.Scalars

/-!
# Records read back

`compact` writes a record as an object on one line, `objectLine`, and `indented` writes records as a list of
objects that is spread over lines, `objectList`.  From both `read .strict` reads what was written
(`read_objectLine`, `read_objectList`).
-/

namespace PictureReport

theorem Entries.set_of_not_mem {κ ν : Type} [DecidableEq κ] {key : κ} {entries : Entries κ ν}
    (h : key ∉ entries.map Prod.fst) (value : ν) :
    Entries.set key value entries = entries ++ [(key, value)] := by
  induction entries with
  | nil => rfl
  | cons entry rest ih =>
    rw [List.map_cons, List.mem_cons, not_or] at h
    rw [Entries.set, if_neg (Ne.symm h.1), ih h.2, List.cons_append]

/-- Pairs with different keys are the entries that result from setting them. -/
theorem Entries.ofPairs_of_nodup {κ ν : Type} [DecidableEq κ] {pairs : List (κ × ν)}
    (h : (pairs.map Prod.fst).Nodup) : Entries.ofPairs pairs = pairs := by
  have hfold : ∀ set : Entries κ ν, ((set ++ pairs).map Prod.fst).Nodup →
      pairs.foldl (fun entries pair => Entries.set pair.1 pair.2 entries) set = set ++ pairs := by
    clear h
    induction pairs with
    | nil => exact fun set _ => (List.append_nil set).symm
    | cons pair rest ih =>
      intro set hnodup
      have hnew : pair.1 ∉ set.map Prod.fst := by
        rw [List.map_append, List.map_cons, List.nodup_append] at hnodup
        exact fun hmem => hnodup.2.2 _ hmem _ List.mem_cons_self rfl
      rw [List.foldl_cons, Entries.set_of_not_mem hnew, ih _ (by simpa using hnodup), List.append_assoc]
      rfl
  exact hfold [] h

namespace Json

variable {v : Value} {level : Nat} {pre post gap : Text}

/-! ## What is read at the front of a text -/

/-- The text consists of spaces between the parts of a value. -/
def AllSpace (t : Text) : Prop := ∀ c ∈ t, isSpace c = true

theorem AllSpace.skipSpace_append (h : AllSpace pre) (t : Text) : skipSpace (pre ++ t) = skipSpace t :=
  List.dropWhile_append_of_pos h

/-- Behind spaces, a mark that does not continue a number closes it. -/
theorem AllSpace.closes (h : AllSpace post) {mark : Char} (hmark : mark ∈ [',', ']', '\x7d']) (rest : Text) :
    Closes (post ++ mark :: rest) := by
  intro c hc
  cases post with
  | nil =>
    cases hc
    simp only [List.mem_cons, List.not_mem_nil, or_false] at hmark
    rcases hmark with rfl | rfl | rfl <;> decide
  | cons d post =>
    cases hc
    have hd := h _ List.mem_cons_self
    simp only [isSpace, Bool.or_eq_true, decide_eq_true_eq] at hd
    rcases hd with ((rfl | rfl) | rfl) | rfl <;> decide

theorem allSpace_nil : AllSpace [] := fun _ hc => absurd hc List.not_mem_nil

theorem closes_comma (rest : Text) : Closes (',' :: rest) := allSpace_nil.closes (by decide) rest

theorem skipSpace_comma (rest : Text) : skipSpace (',' :: rest) = ',' :: rest := rfl

theorem skipSpace_colon (rest : Text) : skipSpace (':' :: rest) = ':' :: rest := rfl

/-- The text writes the value, whatever follows it that does not continue a number. -/
def Reads (level : Nat) (t : Text) (v : Value) : Prop :=
  ∀ depth rest, t.length < depth → Closes rest →
    value .strict level depth (skipSpace (t ++ rest)) = .ok (v, rest)

theorem reads_scalarOf (h : Storable v) : Reads level (scalarOf v) v := by
  intro depth rest hdepth hrest
  obtain ⟨depth, rfl⟩ : ∃ n, depth = n + 1 := ⟨depth - 1, by omega⟩
  rw [skipSpace_scalarOf h, value_scalarOf h hrest]

/-! ## Objects -/

/-- The entry as it is written, with a gap behind the colon. -/
def entryText (gap : Text) (entry : String × Value) : Text :=
  quote entry.1.toList ++ ':' :: (gap ++ scalarOf entry.2)

/-- `entries` reads one entry, and then what stands behind it. -/
theorem entries_entry (hpre : AllSpace pre) (hgap : AllSpace gap) {entry : String × Value}
    (h : Storable entry.2) {depth : Nat} (hdepth : (entryText gap entry).length < depth) {more : Text}
    (hmore : Closes more) :
    entries .strict level (depth + 1) (pre ++ (entryText gap entry ++ more)) =
      match skipSpace more with
      | '\x7d' :: rest => .ok ([entry], rest)
      | ',' :: rest => do
        let (others, rest) ← entries .strict level depth rest
        pure (entry :: others, rest)
      | _ => .error .malformed := by
  have hkey : skipSpace (pre ++ (entryText gap entry ++ more)) =
      '"' :: (entry.1.toList.flatMap escape ++ '"' :: ':' :: (gap ++ (scalarOf entry.2 ++ more))) := by
    rw [hpre.skipSpace_append]
    simp only [entryText, quote, List.cons_append, List.append_assoc, List.nil_append]
    rfl
  have hlength : (scalarOf entry.2).length < depth := by
    simp only [entryText, List.length_append, List.length_cons] at hdepth
    omega
  have hitem : value .strict level depth (skipSpace (scalarOf entry.2 ++ more)) = .ok (entry.2, more) :=
    reads_scalarOf h depth more hlength hmore
  have hstring : Text.str entry.1.toList = entry.1 := String.ofList_toList
  rw [entries, hkey]
  simp only [string_flatMap, skipSpace_colon, hgap.skipSpace_append, hitem, hstring, bind, Except.bind]
  rfl

/-- The parts with commas between them, before each part the spaces `pre`. -/
def members (pre : Text) (parts : List Text) : Text := pre ++ Text.joinWith (',' :: pre) parts

theorem members_cons (pre part next : Text) (others : List Text) :
    members pre (part :: next :: others) = pre ++ (part ++ ',' :: members pre (next :: others)) := by
  simp [members, Text.joinWith]

theorem entries_members (hpre : AllSpace pre) (hpost : AllSpace post) (hgap : AllSpace gap)
    {record : Record} (hne : record ≠ []) (h : ∀ entry ∈ record, Storable entry.2) {depth : Nat}
    (hdepth : (members pre (record.map (entryText gap))).length + 1 < depth) (rest : Text) :
    entries .strict level depth (members pre (record.map (entryText gap)) ++ (post ++ '\x7d' :: rest)) =
      .ok (record, rest) := by
  induction record generalizing depth with
  | nil => exact absurd rfl hne
  | cons entry others ih =>
    rw [List.forall_mem_cons] at h
    obtain ⟨depth, rfl⟩ : ∃ n, depth = n + 1 := ⟨depth - 1, by omega⟩
    cases others with
    | nil =>
      have hbrace : skipSpace (post ++ '\x7d' :: rest) = '\x7d' :: rest := hpost.skipSpace_append _
      simp only [members, List.map_cons, List.map_nil, Text.joinWith, List.length_append] at hdepth ⊢
      rw [List.append_assoc, entries_entry hpre hgap h.1 (by omega) (hpost.closes (by decide) rest), hbrace]
      rfl
    | cons next others =>
      rw [List.map_cons, List.map_cons, members_cons, ← List.map_cons] at hdepth ⊢
      simp only [List.length_append, List.length_cons] at hdepth
      have hothers : entries .strict level depth
          (members pre ((next :: others).map (entryText gap)) ++ (post ++ '\x7d' :: rest)) =
            .ok (next :: others, rest) := ih (List.cons_ne_nil _ _) h.2 (by omega)
      rw [List.append_assoc, List.append_assoc, List.cons_append,
        entries_entry hpre hgap h.1 (by omega) (closes_comma _), skipSpace_comma]
      simp only [hothers]
      rfl

theorem skipSpace_skipSpace (t : Text) : skipSpace (skipSpace t) = skipSpace t :=
  List.dropWhile_idempotent _ t

theorem value_brace (hlevel : level < 1024) {t : Text} {c : Char} {more : Text}
    (ht : skipSpace t = c :: more) (hc : c ≠ '\x7d') (depth : Nat) :
    value .strict level (depth + 1) ('\x7b' :: t) = (entries .strict (level + 1) depth t).map
      fun found => (.object (Entries.ofPairs found.1), found.2) := by
  have hdeeper : deeper .strict level false = .ok (level + 1) := if_pos hlevel
  have hskip : entries .strict (level + 1) depth (c :: more) = entries .strict (level + 1) depth t := by
    rw [← ht]
    cases depth with
    | zero => rw [entries, entries]
    | succ depth => rw [entries, entries, skipSpace_skipSpace]
  rw [value, hdeeper, ht, ← hskip]
  simp only [bind, Except.bind]
  split
  · rename_i heq
    exact absurd (List.cons.inj heq).1 hc
  · cases entries .strict (level + 1) depth (c :: more) <;> rfl

theorem value_bracket (hlevel : level < 1024) {t : Text} {c : Char} {more : Text}
    (ht : skipSpace t = c :: more) (hc : c ≠ ']') (depth : Nat) :
    value .strict level (depth + 1) ('[' :: t) = (items .strict (level + 1) depth t).map
      fun found => (.list found.1, found.2) := by
  have hdeeper : deeper .strict level true = .ok (level + 1) := if_pos hlevel
  have hskip : items .strict (level + 1) depth (c :: more) = items .strict (level + 1) depth t := by
    rw [← ht]
    cases depth with
    | zero => rw [items, items]
    | succ depth => rw [items, items, skipSpace_skipSpace]
  rw [value, hdeeper, ht, ← hskip]
  simp only [bind, Except.bind]
  split
  · rename_i heq
    exact absurd (List.cons.inj heq).1 hc
  · cases items .strict (level + 1) depth (c :: more) <;> rfl

/-- What stands between braces is an object. -/
theorem reads_object (hpre : AllSpace pre) (hpost : AllSpace post) (hgap : AllSpace gap)
    (hlevel : level < 1024) {record : Record} (hne : record ≠ []) (hkeys : (record.map Prod.fst).Nodup)
    (h : ∀ entry ∈ record, Storable entry.2) :
    Reads level ('\x7b' :: (members pre (record.map (entryText gap)) ++ (post ++ ['\x7d'])))
      (.object record) := by
  intro depth rest hdepth _
  obtain ⟨depth, rfl⟩ : ∃ n, depth = n + 1 := ⟨depth - 1, by omega⟩
  simp only [List.length_cons, List.length_append, List.length_nil] at hdepth
  have hentries : entries .strict (level + 1) depth
      (members pre (record.map (entryText gap)) ++ (post ++ '\x7d' :: rest)) = .ok (record, rest) :=
    entries_members hpre hpost hgap hne h (by omega) rest
  have hquote : ∃ more, skipSpace (members pre (record.map (entryText gap)) ++ (post ++ '\x7d' :: rest)) =
      '"' :: more := by
    cases record with
    | nil => exact absurd rfl hne
    | cons entry others =>
      rw [members, List.append_assoc, hpre.skipSpace_append, List.map_cons]
      cases others.map (entryText gap) <;> exact ⟨_, rfl⟩
  obtain ⟨more, hmore⟩ := hquote
  have hbrace : ∀ t, skipSpace ('\x7b' :: t) = '\x7b' :: t := fun _ => rfl
  rw [List.cons_append, hbrace, List.append_assoc, List.append_assoc, List.singleton_append,
    value_brace hlevel hmore (by decide), hentries, Except.map, Entries.ofPairs_of_nodup hkeys]

theorem reads_emptyObject (hlevel : level < 1024) : Reads level ['\x7b', '\x7d'] (.object []) := by
  intro depth rest hdepth _
  obtain ⟨depth, rfl⟩ : ∃ n, depth = n + 1 := ⟨depth - 1, by omega⟩
  have hdeeper : deeper .strict level false = .ok (level + 1) := if_pos hlevel
  have hskip : skipSpace (['\x7b', '\x7d'] ++ rest) = '\x7b' :: '\x7d' :: rest := rfl
  have hbrace : skipSpace ('\x7d' :: rest) = '\x7d' :: rest := rfl
  rw [hskip, value, hdeeper, hbrace]
  rfl

/-! ## Lists -/

section Lists

variable {α : Type} {text : α → Text} {found : α → Value}

/-- `items` reads the `members` of a list one after the other. -/
theorem items_members (hpre : AllSpace pre) (hpost : AllSpace post) {list : List α} (hne : list ≠ [])
    (h : ∀ a ∈ list, Reads level (text a) (found a)) {depth : Nat}
    (hdepth : (members pre (list.map text)).length + 1 < depth) (rest : Text) :
    items .strict level depth (members pre (list.map text) ++ (post ++ ']' :: rest)) =
      .ok (list.map found, rest) := by
  -- on the items; the depth goes down with each of them, and the text is longer than that
  induction list generalizing depth with
  | nil => exact absurd rfl hne
  | cons a others ih =>
    rw [List.forall_mem_cons] at h
    obtain ⟨depth, rfl⟩ : ∃ n, depth = n + 1 := ⟨depth - 1, by omega⟩
    cases others with
    | nil =>
      simp only [members, List.map_cons, List.map_nil, Text.joinWith, List.length_append] at hdepth
      have hitem := h.1 depth (post ++ ']' :: rest) (by omega) (hpost.closes (by decide) rest)
      have hbracket : skipSpace (post ++ ']' :: rest) = ']' :: rest := hpost.skipSpace_append _
      simp only [members, List.map_cons, List.map_nil, Text.joinWith]
      rw [List.append_assoc, items, hpre.skipSpace_append, hitem]
      simp only [bind, Except.bind, hbracket]
      rfl
    | cons next others =>
      rw [List.map_cons, List.map_cons, members_cons, ← List.map_cons] at hdepth
      simp only [List.length_append, List.length_cons] at hdepth
      have hothers : items .strict level depth
          (members pre ((next :: others).map text) ++ (post ++ ']' :: rest)) =
            .ok ((next :: others).map found, rest) := ih (List.cons_ne_nil _ _) h.2 (by omega)
      have hitem := h.1 depth (',' :: (members pre ((next :: others).map text) ++ (post ++ ']' :: rest)))
        (by omega) (closes_comma _)
      rw [List.map_cons, List.map_cons, members_cons, ← List.map_cons, List.append_assoc, List.append_assoc,
        List.cons_append, items, hpre.skipSpace_append, hitem]
      simp only [bind, Except.bind, skipSpace_comma, hothers]
      rfl

/-- What stands between brackets is a list; its items are objects. -/
theorem reads_list (hpre : AllSpace pre) (hpost : AllSpace post) (hlevel : level < 1024) {list : List α}
    (hne : list ≠ []) (hbrace : ∀ a, ∃ more, text a = '\x7b' :: more)
    (h : ∀ a ∈ list, Reads (level + 1) (text a) (found a)) :
    Reads level ('[' :: (members pre (list.map text) ++ (post ++ [']']))) (.list (list.map found)) := by
  intro depth rest hdepth _
  obtain ⟨depth, rfl⟩ : ∃ n, depth = n + 1 := ⟨depth - 1, by omega⟩
  simp only [List.length_cons, List.length_append, List.length_nil] at hdepth
  have hitems : items .strict (level + 1) depth (members pre (list.map text) ++ (post ++ ']' :: rest)) =
      .ok (list.map found, rest) := items_members hpre hpost hne h (by omega) rest
  have hfirst : ∃ more, skipSpace (members pre (list.map text) ++ (post ++ ']' :: rest)) =
      '\x7b' :: more := by
    cases list with
    | nil => exact absurd rfl hne
    | cons a others =>
      obtain ⟨more, hmore⟩ := hbrace a
      rw [members, List.append_assoc, hpre.skipSpace_append, List.map_cons, hmore]
      cases others.map text <;> exact ⟨_, rfl⟩
  obtain ⟨more, hmore⟩ := hfirst
  have hbracket : ∀ t, skipSpace ('[' :: t) = '[' :: t := fun _ => rfl
  rw [List.cons_append, hbracket, List.append_assoc, List.append_assoc, List.singleton_append,
    value_bracket hlevel hmore (by decide), hitems, Except.map]

end Lists

/-- A text that `Reads` as a value at level 0 is read as the value. -/
theorem read_of_reads {t : Text} (h : Reads 0 t v) : read .strict t = .ok v := by
  have hvalue := h (t.length + 1) [] (by omega) (fun c hc => absurd hc (Option.not_mem_none c))
  rw [List.append_nil] at hvalue
  rw [read, hvalue]
  rfl

/-! ## Records as lines and as a list -/

section Records

open Records (Keeps)

variable {record : Record} {records : List Record}

/-- The record on one line, as `compact` writes it. -/
def objectLine (record : Record) : Text :=
  '\x7b' :: (members [] (record.map (entryText [])) ++ ['\x7d'])

/-- Behind a line feed, the spaces of a level. -/
def indent (level : Nat) : Text := '\n' :: Text.spaces (2 * level)

/-- The record on lines of its own, within a list. -/
def objectBlock (record : Record) : Text := block '\x7b' '\x7d' 1 (record.map (entryText [' ']))

/-- The records in a list, as `indented` writes it. -/
def objectList (records : List Record) : Text := block '[' ']' 0 (records.map objectBlock)

theorem allSpace_indent (level : Nat) : AllSpace (indent level) := by
  intro c hc
  rcases List.mem_cons.mp hc with rfl | hc
  · decide
  · rw [Text.eq_space_of_mem_spaces hc]
    decide

theorem block_eq {parts : List Text} (hne : parts ≠ []) (left right : Char) (level : Nat) :
    block left right level parts =
      left :: (members (indent (level + 1)) parts ++ (indent level ++ [right])) := by
  rw [block, if_neg (by simpa using hne)]
  simp [members, indent, Nat.mul_add]

theorem compact_of_storable (h : Storable v) : compact v = .ok (scalarOf v) := by
  rw [← scalarText_eq h]
  cases h <;> rfl

theorem indented_of_storable (h : Storable v) (level : Nat) : indented level v = .ok (scalarOf v) := by
  rw [← scalarText_eq h]
  cases h <;> rfl

theorem compactEntries_eq (h : ∀ entry ∈ record, Storable entry.2) :
    compactEntries record = .ok (record.map (entryText [])) := by
  induction record with
  | nil => rfl
  | cons entry rest ih =>
    rw [List.forall_mem_cons] at h
    rw [compactEntries, compact_of_storable h.1, ih h.2]
    simp [bind, Except.bind, pure, Except.pure, entryText]

theorem indentedEntries_eq (h : ∀ entry ∈ record, Storable entry.2) (level : Nat) :
    indentedEntries level record = .ok (record.map (entryText [' '])) := by
  induction record with
  | nil => rfl
  | cons entry rest ih =>
    rw [List.forall_mem_cons] at h
    rw [indentedEntries, indented_of_storable h.1, ih h.2]
    simp [bind, Except.bind, pure, Except.pure, entryText]

theorem compact_object (h : Keeps record) : compact (.object record) = .ok (objectLine record) := by
  rw [compact, compactEntries_eq h.values]
  rfl

theorem indented_list (h : ∀ record ∈ records, Keeps record) :
    indented 0 (.list (records.map .object)) = .ok (objectList records) := by
  have hitems : indentedItems 1 (records.map Value.object) = .ok (records.map objectBlock) := by
    induction records with
    | nil => rfl
    | cons record rest ih =>
      rw [List.forall_mem_cons] at h
      rw [List.map_cons, indentedItems, indented, indentedEntries_eq h.1.values, ih h.2]
      rfl
  rw [indented, hitems]
  rfl

theorem reads_objectLine (h : Keeps record) (hlevel : level < 1024) :
    Reads level (objectLine record) (.object record) := by
  cases record with
  | nil => exact reads_emptyObject hlevel
  | cons entry rest =>
    exact reads_object allSpace_nil allSpace_nil allSpace_nil hlevel (List.cons_ne_nil _ _) h.keys h.values

theorem reads_objectBlock (h : Keeps record) (hlevel : level < 1024) :
    Reads level (objectBlock record) (.object record) := by
  have hgap : AllSpace [' '] := fun c hc => by
    rw [List.mem_singleton.mp hc]
    decide
  cases record with
  | nil => exact reads_emptyObject hlevel
  | cons entry rest =>
    rw [objectBlock, block_eq (by simp)]
    exact reads_object (allSpace_indent _) (allSpace_indent _) hgap hlevel (List.cons_ne_nil _ _) h.keys
      h.values

theorem objectBlock_head (record : Record) : ∃ more, objectBlock record = '\x7b' :: more := by
  unfold objectBlock block
  split <;> exact ⟨_, rfl⟩

/-- `read` reads the line of a record as the record. -/
theorem read_objectLine (h : Keeps record) : read .strict (objectLine record) = .ok (.object record) :=
  read_of_reads (reads_objectLine h (by decide))

/-- `read` reads the list in which records are written as the list of the records. -/
theorem read_objectList (h : ∀ record ∈ records, Keeps record) :
    read .strict (objectList records) = .ok (.list (records.map .object)) := by
  cases hrecords : records with
  | nil => rfl
  | cons record rest =>
    rw [objectList, block_eq (by simp), ← hrecords]
    exact read_of_reads (reads_list (allSpace_indent _) (allSpace_indent _) (by decide)
      (by rw [hrecords]; exact List.cons_ne_nil _ _) objectBlock_head
      (fun record hmem => reads_objectBlock (h record hmem) (by decide)))

end Records

end Json

end PictureReport
