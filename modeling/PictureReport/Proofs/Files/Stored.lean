import PictureReport.Proofs.Json.Lines
import PictureReport.Proofs.Json.Strict

/-!
# Records in files

Records that a lawful codec writes to a file are loaded from it (`Records.loadRecords_of_keep`).  What is
written into a file of a tree is read from it, as the folders that led to its place still do
(`FileTree.read_of_write`), and `Text.unifyEnds` changes nothing in a text without carriage returns.  What is
left of the way back are the texts themselves: the list, which the codec reads as a whole, or the lines of
`Records.ofJsonLines_ofLines`.
-/

namespace PictureReport

/-! ## Files of a tree -/

theorem Entries.exists_mem_set {κ ν : Type} [DecidableEq κ] {entry : κ × ν} {entries : Entries κ ν}
    (h : entry ∈ entries) (key : κ) (value : ν) :
    ∃ kept ∈ Entries.set key value entries, kept.1 = entry.1 := by
  induction entries with
  | nil => exact absurd h List.not_mem_nil
  | cons first rest ih =>
    rw [Entries.set]
    by_cases hkey : first.1 = key
    · rw [if_pos hkey]
      rcases List.mem_cons.mp h with rfl | h
      · exact ⟨_, List.mem_cons_self, hkey.symm⟩
      · exact ⟨entry, List.mem_cons_of_mem _ h, rfl⟩
    · rw [if_neg hkey]
      rcases List.mem_cons.mp h with rfl | h
      · exact ⟨_, List.mem_cons_self, rfl⟩
      · obtain ⟨kept, hkept, heq⟩ := ih h
        exact ⟨kept, List.mem_cons_of_mem _ hkept, heq⟩

namespace FileTree

variable {tree written : FileTree} {path : Path} {t : Text}

/-- `isFolder` stays true of a folder when a file is put anywhere. -/
theorem isFolder_set {place : Place} (h : tree.isFolder place = true) (at' : Place) (content : FileContent) :
    isFolder { tree with files := Entries.set at' content tree.files } place = true := by
  simp only [isFolder, Bool.or_eq_true, List.any_eq_true] at h ⊢
  rcases h with h | ⟨entry, hentry, hprefix⟩
  · exact .inl h
  · obtain ⟨kept, hkept, heq⟩ := Entries.exists_mem_set hentry at' content
    exact .inr ⟨kept, hkept, by rw [heq]; exact hprefix⟩

/-- Names lead where they led in a tree with fewer folders. -/
theorem follow_of_folders (hfolders : ∀ place, tree.isFolder place = true → written.isFolder place = true)
    {names : List Text} {start place : Place} (h : tree.follow start names = .ok place) :
    written.follow start names = .ok place := by
  induction names generalizing start with
  | nil => exact h
  | cons name rest ih =>
    rw [follow] at h ⊢
    cases hfolder : tree.isFolder start with
    | false => simp [hfolder] at h
    | true =>
      rw [hfolder] at h
      rw [hfolders start hfolder]
      simp only [Bool.not_true, Bool.false_eq_true, if_false] at h ⊢
      by_cases hup : name = upward
      · rw [if_pos hup] at h ⊢
        exact ih h
      · rw [if_neg hup] at h ⊢
        by_cases hlong : maxName < name.byteSize
        · rw [if_pos hlong] at h
          cases h
        · rw [if_neg hlong] at h ⊢
          exact ih h

theorem locate_of_place {place : Place} (h : tree.place path = .ok place) :
    path.hasNull = false ∧ tree.locate path = .ok place := by
  unfold FileTree.place at h
  split at h
  · cases h
  · rename_i hnull
    refine ⟨by simpa using hnull, ?_⟩
    cases hlocate : tree.locate path with
    | ok found =>
      rw [hlocate] at h
      cases h
      rfl
    | error obstacle =>
      rw [hlocate] at h
      cases h

theorem locate_of_folders (hfolders : ∀ place, tree.isFolder place = true → written.isFolder place = true)
    {place : Place} (h : tree.locate path = .ok place) : written.locate path = .ok place := by
  unfold locate at h ⊢
  split at h
  · cases h
  · rename_i hshort
    rw [if_neg hshort]
    exact follow_of_folders hfolders h

/-- What `write` puts into a file is read from it. -/
theorem read_of_write (h : tree.write path (.text t) = .ok written) :
    written.isFile path = .ok true ∧ written.read path = .ok t := by
  obtain ⟨place, hplace, hput⟩ := bind_eq_ok.mp (show tree.put path (.text t) = .ok written from h)
  split at hput
  · cases hput
  · cases hput
    obtain ⟨hnull, hlocate⟩ := locate_of_place hplace
    have hkept := locate_of_folders (fun _ hfolder => isFolder_set hfolder place (.text t)) hlocate
    have hfile : file? { tree with files := Entries.set place (.text t) tree.files } place = some (.text t) :=
      Entries.get?_set_self _ _ _
    constructor
    · simp only [isFile, leadsTo, hnull, Bool.false_eq_true, if_false, hkept, hfile, Option.isSome_some]
    · have hfound : FileTree.place { tree with files := Entries.set place (.text t) tree.files } path =
          .ok place := by
        simp only [FileTree.place, hnull, Bool.false_eq_true, if_false, hkept]
        rfl
      simp only [read, hfound, bind, Except.bind, hfile]
      rfl

end FileTree

namespace Command

variable {tree written : FileTree} {path : Path} {t : Text} {output : CommandOutput}

/-- Put a text into a file, with the folders above it, as commands do. -/
def keep {m : Type → Type} [Monad m] (disk : Disk m) (path : Path) (t : Text) : Running m Unit := do
  prepare disk path
  write disk path (.text t)

theorem bind_eq {α β : Type} (x : Running (StateM FileTree) α) (f : α → Running (StateM FileTree) β)
    (output : CommandOutput) (tree : FileTree) :
    (x >>= f) output tree =
      match x output tree with
      | ((.ok a, output), tree) => f a output tree
      | ((.error fault, output), tree) => ((.error fault, output), tree) := by
  simp only [bind, ExceptT.bind, ExceptT.mk, ExceptT.bindCont, StateT.bind]
  rcases x output tree with ⟨⟨result, output⟩, tree⟩
  cases result <;> rfl

theorem lifted_eq {α : Type} (x : StateM FileTree α) (output : CommandOutput) (tree : FileTree) :
    (lifted x : Running (StateM FileTree) α) output tree = ((.ok (x tree).1, output), (x tree).2) := rfl

/-- What a computation on files gives, with the tree that it leaves. -/
theorem onDisk_eq {α : Type} (x : StateM FileTree (Except FileFault α)) (output : CommandOutput)
    (tree : FileTree) :
    (onDisk x : Running (StateM FileTree) α) output tree =
      (((x tree).1.mapError fun fault => .other (.file fault), output), (x tree).2) := by
  rw [onDisk, bind_eq, lifted_eq]
  cases (x tree).1 <;> rfl

theorem disk_isFile (path : Path) (tree : FileTree) :
    FileTree.disk.isFile path tree = (tree.isFile path, tree) := rfl

theorem disk_read (path : Path) (tree : FileTree) :
    FileTree.disk.read path tree = (tree.read path, tree) := rfl

theorem readText_of_file (hfile : tree.isFile path = .ok true) (hread : tree.read path = .ok t)
    (output : CommandOutput) :
    readText FileTree.disk path output tree = ((.ok t.unifyEnds, output), tree) := by
  have hdisk : (onDisk (FileTree.disk.isFile path) : Running (StateM FileTree) Bool) output tree =
      ((.ok true, output), tree) := by
    rw [onDisk_eq, disk_isFile, hfile]
    rfl
  have hlift : (liftM (FileTree.disk.read path) : ExceptT Fault (StateM FileTree) _).run tree =
      (.ok (.ok t), tree) := by
    have hresult := congrArg (fun found => ((Except.ok found.1 : Except Fault _), found.2))
      (disk_read path tree)
    rwa [hread] at hresult
  have hfound : (Layout.readText FileTree.disk path).run tree = (.ok t.unifyEnds, tree) := by
    unfold Layout.readText
    simp only [ExceptT.run_bind]
    simp only [bind, StateT.bind, hlift]
    rfl
  rw [readText, bind_eq, hdisk]
  simp only [if_true]
  rw [bind_eq, lifted_eq, hfound]
  rfl

theorem change_eq (f : FileTree → Except FileFault FileTree) (tree : FileTree) :
    FileTree.change f tree =
      match f tree with
      | .ok changed => (.ok (), changed)
      | .error fault => (.error fault, tree) := by
  have hget : FileTree.change f tree =
      (match f tree with
        | .ok changed => (set changed *> pure (.ok ()) : StateM FileTree (Except FileFault Unit))
        | .error fault => (pure (.error fault) : StateM FileTree (Except FileFault Unit))) tree := rfl
  rw [hget]
  cases f tree <;> rfl

/-- A file in the folder at hand is kept once `put` succeeds: no folder has to be made. -/
theorem keep_of_put (hparent : path.parent = ⟨.here, []⟩) (hput : tree.put path (.text t) = .ok written)
    (output : CommandOutput) :
    keep FileTree.disk path t output tree = ((.ok (), output), written) := by
  have hone : tree.makeOne ⟨.here, []⟩ = .error (.alreadyThere ⟨.here, []⟩) := rfl
  have hmade : tree.makeFolder ⟨.here, []⟩ = .ok tree := by
    rw [FileTree.makeFolder, hone]
    rfl
  have hfolder : FileTree.disk.makeFolder path.parent tree = (.ok (), tree) := by
    rw [hparent]
    show FileTree.change (·.makeFolder ⟨.here, []⟩) tree = _
    rw [change_eq, hmade]
  have hwrite : FileTree.disk.write path (.text t) tree = (.ok (), written) := by
    show FileTree.change (·.write path (.text t)) tree = _
    rw [change_eq, FileTree.write, hput]
  rw [keep, bind_eq, prepare, onDisk_eq, hfolder]
  simp only [Except.mapError, write, onDisk_eq, hwrite]

/-- A text that `keep` leaves has been written, and the folders above it were there by then. -/
theorem write_of_keep (h : keep FileTree.disk path t output tree = ((.ok (), output), written)) :
    ∃ made : FileTree, made.write path (.text t) = .ok written := by
  rw [keep, bind_eq, prepare, onDisk_eq] at h
  have hmake : FileTree.disk.makeFolder path.parent tree =
    FileTree.change (·.makeFolder path.parent) tree := rfl
  rw [hmake, change_eq] at h
  cases hmade : tree.makeFolder path.parent with
  | error fault =>
    rw [hmade] at h
    cases h
  | ok made =>
    rw [hmade] at h
    have hwrite : FileTree.disk.write path (.text t) made =
      FileTree.change (·.write path (.text t)) made := rfl
    simp only [Except.mapError, write, onDisk_eq] at h
    rw [hwrite, change_eq] at h
    cases hwritten : made.write path (.text t) with
    | error fault =>
      rw [hwritten] at h
      cases h
    | ok left =>
      rw [hwritten] at h
      cases h
      exact ⟨made, hwritten⟩

/-- A text that is kept is read from its file, with unified ends of lines. -/
theorem readText_of_keep (h : keep FileTree.disk path t output tree = ((.ok (), output), written)) :
    readText FileTree.disk path output written = ((.ok t.unifyEnds, output), written) := by
  obtain ⟨made, hmade⟩ := write_of_keep h
  obtain ⟨hfile, hread⟩ := FileTree.read_of_write hmade
  exact readText_of_file hfile hread output

end Command

/-! ## Texts without carriage returns -/

theorem Text.unifyEnds_of_not_mem {t : Text} (h : '\r' ∉ t) : Text.unifyEnds t = t := by
  induction t with
  | nil => rfl
  | cons c rest ih =>
    rw [List.mem_cons, not_or] at h
    rw [Text.unifyEnds, ih h.2]
    · exact fun _ hc _ => h.1 hc.symm
    · exact fun hc => h.1 hc.symm

namespace Records

open Json (Codec)

variable {json : Codec} {record : Record} {records : List Record}

theorem return_not_mem_lines (hjson : json.Lawful) (h : ∀ record ∈ records, Keeps record) :
    '\r' ∉ Text.ofLines (records.map (lineOf json)) := by
  intro hc
  obtain ⟨line, hline, hc⟩ := List.mem_flatMap.mp hc
  obtain ⟨record, hrecord, rfl⟩ := List.mem_map.mp hline
  rcases List.mem_append.mp hc with hc | hc
  · have hkeeps := h record hrecord
    exact absurd (hjson.le_of_mem_dumps hkeeps (dumps_eq hjson hkeeps) hc) (by decide)
  · exact absurd hc (by decide)

theorem return_not_mem_list (hjson : json.Lawful) (h : ∀ record ∈ records, Keeps record) {list : Text}
    (hlist : toJson json records = .ok list) : '\r' ∉ list := by
  intro hc
  rcases hjson.le_of_mem_dumpsIndented h hlist hc with hlow | hfeed
  · exact absurd hlow (by decide)
  · exact absurd hfeed (by decide)

/-! ## Records that are kept -/

section Loading

variable {list : Text} {tree written : FileTree} {path : Path} {output : CommandOutput}

/-- Records on the lines of a file are loaded just if none of them holds a separator. -/
theorem loadRecords_lines (hjson : json.Lawful) (h : ∀ record ∈ records, Keeps record)
    (hsuffix : path.suffix = ".jsonl".toList)
    (hkeep : Command.keep FileTree.disk path (Text.ofLines (records.map (lineOf json))) output tree =
      ((.ok (), output), written)) :
    Command.loadRecords json FileTree.disk path output written =
      ((if ∀ record ∈ records, Unbroken record then .ok (records.map .object) else .error (.badJson path),
        output), written) := by
  have hread := Command.readText_of_keep hkeep
  rw [Text.unifyEnds_of_not_mem (return_not_mem_lines hjson h)] at hread
  rw [Command.loadRecords, Command.bind_eq, hread]
  simp only [if_pos hsuffix, ofJsonLines_ofLines hjson h]
  split <;> rfl

/-- Records in a list in a file are loaded. -/
theorem loadRecords_list (hjson : json.Lawful) (h : ∀ record ∈ records, Keeps record)
    (hlist : toJson json records = .ok list) (hsuffix : path.suffix ≠ ".jsonl".toList)
    (hkeep : Command.keep FileTree.disk path list output tree = ((.ok (), output), written)) :
    Command.loadRecords json FileTree.disk path output written =
      ((.ok (records.map .object), output), written) := by
  have hread := Command.readText_of_keep hkeep
  rw [Text.unifyEnds_of_not_mem (return_not_mem_list hjson h hlist)] at hread
  obtain ⟨t, ht, hloads⟩ := hjson.loads_dumpsIndented h
  obtain rfl := Except.ok.inj (ht.symm.trans hlist)
  rw [Command.loadRecords, Command.bind_eq, hread]
  simp only [if_neg hsuffix, hloads, ofValue?]
  rfl

end Loading

/-- Records are written to a file as lines and as a list by any lawful codec.  From the list they are loaded as
they are, and from the lines just if no text of a record holds one of the separators that end a line and are not
escaped; else the file is refused. -/
theorem loadRecords_of_keep {json : Codec} (hjson : json.Lawful) (records : List Record)
    (h : ∀ record ∈ records, Keeps record) :
    ∃ lines list, toJsonLines json records = (lines, none) ∧ toJson json records = .ok list ∧
      ∀ (path : Path) (output : CommandOutput) (tree written : FileTree),
        (path.suffix = ".jsonl".toList →
          Command.keep FileTree.disk path lines output tree = ((.ok (), output), written) →
            Command.loadRecords json FileTree.disk path output written =
              ((if ∀ record ∈ records, Unbroken record then .ok (records.map .object)
                else .error (.badJson path), output), written)) ∧
        (path.suffix ≠ ".jsonl".toList →
          Command.keep FileTree.disk path list output tree = ((.ok (), output), written) →
            Command.loadRecords json FileTree.disk path output written =
              ((.ok (records.map .object), output), written)) := by
  obtain ⟨list, hlist, -⟩ := hjson.loads_dumpsIndented h
  refine ⟨_, list, toJsonLines_eq hjson h, hlist, fun path output tree written => ⟨?_, ?_⟩⟩
  · exact loadRecords_lines hjson h
  · exact loadRecords_list hjson h hlist

/-! ## Records that are loaded, and one that is not -/

def linesPath : Path := ⟨.here, ["r.jsonl".toList]⟩

def listPath : Path := ⟨.here, ["r.json".toList]⟩

/-- A tree without files, and nothing shown so far. -/
def noFiles : FileTree := ⟨[], []⟩

def nothingShown : CommandOutput := ⟨[], [], []⟩

theorem keep_linesPath (t : Text) :
    Command.keep FileTree.disk linesPath t nothingShown noFiles =
      ((.ok (), nothingShown), ⟨[(["r.jsonl".toList], .text t)], []⟩) := Command.keep_of_put rfl rfl _

theorem keep_listPath (t : Text) :
    Command.keep FileTree.disk listPath t nothingShown noFiles =
      ((.ok (), nothingShown), ⟨[(["r.json".toList], .text t)], []⟩) := Command.keep_of_put rfl rfl _

/-- A record with a value of each kind; its text has an escaped line feed and a letter beyond ASCII. -/
def receipt : Record :=
  [("number", .int 7), ("paid", .null), ("total", .float (.finite false 5629499534213120 (-51))),
    ("name", .text "Zoë\n\"A\"".toList)]

theorem keeps_receipt : ∀ record ∈ [receipt], Keeps record := by
  intro record hrecord
  rw [List.mem_singleton.mp hrecord]
  refine ⟨by decide, ?_⟩
  simp only [receipt, List.forall_mem_cons]
  exact ⟨.int (by decide), .null, .float ⟨by decide, by decide, by decide, by decide⟩, .text _,
    fun _ hentry => absurd hentry List.not_mem_nil⟩

theorem loadRecords_of_keep_receipt :
    Codec.strict.Lawful ∧ (∀ record ∈ [receipt], Keeps record) ∧
      ∃ lines list inLines inList,
        toJsonLines .strict [receipt] = (lines, none) ∧ toJson .strict [receipt] = .ok list ∧
        Command.keep FileTree.disk linesPath lines nothingShown noFiles = ((.ok (), nothingShown), inLines) ∧
        Command.loadRecords .strict FileTree.disk linesPath nothingShown inLines =
          ((.ok [.object receipt], nothingShown), inLines) ∧
        Command.keep FileTree.disk listPath list nothingShown noFiles = ((.ok (), nothingShown), inList) ∧
        Command.loadRecords .strict FileTree.disk listPath nothingShown inList =
          ((.ok [.object receipt], nothingShown), inList) := by
  obtain ⟨lines, list, hlines, hlist, hload⟩ :=
    loadRecords_of_keep Codec.strict_lawful [receipt] keeps_receipt
  have hunbroken : ∀ record ∈ [receipt], Unbroken record := by decide
  have hfromLines := (hload linesPath _ _ _).1 (by decide) (keep_linesPath lines)
  have hfromList := (hload listPath _ _ _).2 (by decide) (keep_listPath list)
  rw [if_pos hunbroken] at hfromLines
  exact ⟨Codec.strict_lawful, keeps_receipt, lines, list, _, _, hlines, hlist, keep_linesPath lines, hfromLines,
    keep_listPath list, hfromList⟩

/-- A record whose text holds the line separator U+2028. -/
def separated : Record := [("x", .text "a\u2028b".toList)]

/-- The record `separated` is loaded from the list in which it is written, but the file with its line is
refused. -/
theorem separated_refused :
    (∀ record ∈ [separated], Keeps record) ∧
      ∃ lines list inLines inList,
        toJsonLines .strict [separated] = (lines, none) ∧ toJson .strict [separated] = .ok list ∧
        Command.keep FileTree.disk linesPath lines nothingShown noFiles = ((.ok (), nothingShown), inLines) ∧
        Command.loadRecords .strict FileTree.disk linesPath nothingShown inLines =
          ((.error (.badJson linesPath), nothingShown), inLines) ∧
        Command.keep FileTree.disk listPath list nothingShown noFiles = ((.ok (), nothingShown), inList) ∧
        Command.loadRecords .strict FileTree.disk listPath nothingShown inList =
          ((.ok [.object separated], nothingShown), inList) := by
  have hkeeps : ∀ record ∈ [separated], Keeps record := by
    intro record hrecord
    rw [List.mem_singleton.mp hrecord]
    refine ⟨by decide, ?_⟩
    simp only [separated, List.forall_mem_cons]
    exact ⟨.text _, fun _ hentry => absurd hentry List.not_mem_nil⟩
  have hbroken : ¬ ∀ record ∈ [separated], Unbroken record := by decide
  have hstrict := Codec.strict_lawful
  obtain ⟨list, hlist, -⟩ := hstrict.loads_dumpsIndented hkeeps
  have hfromLines := loadRecords_lines hstrict hkeeps (by decide) (keep_linesPath _)
  have hfromList := loadRecords_list hstrict hkeeps hlist (by decide) (keep_listPath list)
  rw [if_neg hbroken] at hfromLines
  exact ⟨hkeeps, _, list, _, _, toJsonLines_eq hstrict hkeeps, hlist, keep_linesPath _, hfromLines,
    keep_listPath list, hfromList⟩

end Records

end PictureReport
