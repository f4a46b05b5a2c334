import PictureReport.Journal

/-!
# What journals show

Two journals are alike when every variable shows the same in both.  A journal that is rolled back is
like the one it was at the last commit, as it remembers what each variable showed that was set since
(`Recalls`).
-/

namespace PictureReport

namespace Entries

variable {κ ν : Type} [DecidableEq κ]

theorem mem_set {key : κ} {value : ν} {entries : Entries κ ν} {entry : κ × ν}
    (h : entry ∈ set key value entries) : entry = (key, value) ∨ entry ∈ entries := by
  induction entries with
  | nil =>
    left
    simpa [set] using h
  | cons first rest ih =>
    unfold set at h
    split at h
    · rcases List.mem_cons.mp h with rfl | h
      · exact .inl rfl
      · exact .inr (List.mem_cons_of_mem _ h)
    · rcases List.mem_cons.mp h with rfl | h
      · exact .inr List.mem_cons_self
      · exact (ih h).imp_right (List.mem_cons_of_mem _)

theorem mem_keys {key : κ} {value : ν} {entries : Entries κ ν} (h : get? key entries = some value) :
    key ∈ entries.map (·.1) := by
  induction entries with
  | nil => cases h
  | cons entry rest ih =>
    rw [get?_cons] at h
    by_cases hkey : entry.1 = key
    · exact List.mem_cons.mpr (.inl hkey.symm)
    · rw [if_neg hkey] at h
      exact List.mem_cons_of_mem _ (ih h)

end Entries

namespace Record

variable {name other : String} {record record' : Record}

theorem resolve_ne_null (record : Record) (name : String) : resolve record name ≠ .null := by
  unfold resolve
  split
  · simp
  · simp
  · rename_i value hnull he
    exact hnull

theorem resolve_congr (h : Entries.get? name record = Entries.get? name record') :
    resolve record name = resolve record' name := by
  unfold resolve
  rw [h]

theorem resolve_set_of_ne (h : name ≠ other) (value : Value) :
    resolve (Entries.set name value record) other = resolve record other :=
  resolve_congr (Entries.get?_set_of_ne h value record)

theorem resolve_set_self {value : Value} (h : value ≠ .null) :
    resolve (Entries.set name value record) name = value := by
  unfold resolve
  rw [Entries.get?_set_self]
  split
  · rename_i he
    cases he
  · rename_i he
    cases he
    exact absurd rfl h
  · rename_i he
    cases he
    rfl

/-- Records that show the same (`Record.resolve`) do so after one more `Entries.set` in both. -/
theorem resolve_set_congr (name : String) (value : Value)
    (h : ∀ other, resolve record other = resolve record' other) (other : String) :
    resolve (Entries.set name value record) other = resolve (Entries.set name value record') other := by
  by_cases hn : name = other
  · subst hn
    exact resolve_congr (by rw [Entries.get?_set_self, Entries.get?_set_self])
  · rw [resolve_set_of_ne hn, resolve_set_of_ne hn]
    exact h other

end Record

namespace Journal

variable {j k : Journal}

/-- Every variable shows the same in both journals: `get` has the same outcome in `j` and `k`, and their
sources are of one kind. -/
structure Alike (j k : Journal) : Prop where
  kind : j.source.kind = k.source.kind
  values : ∀ name, Record.resolve j.source.entries name = Record.resolve k.source.entries name

theorem Alike.refl (j : Journal) : Alike j j := ⟨rfl, fun _ => rfl⟩

theorem Alike.trans {l : Journal} (h : Alike j k) (h' : Alike k l) : Alike j l :=
  ⟨h.kind.trans h'.kind, fun name => (h.values name).trans (h'.values name)⟩

theorem Alike.get (h : Alike j k) (name : String) : j.get name = k.get name := by
  unfold Journal.get Source.get
  rw [h.kind, h.values name]

theorem Alike.set (h : Alike j k) (name : String) (value : Value) :
    Alike (j.set name value) (k.set name value) :=
  ⟨h.kind, Record.resolve_set_congr name value h.values⟩

theorem resolve_of_get {name : String} {value : Value} (h : j.get name = .ok value) :
    Record.resolve j.source.entries name = value := by
  unfold Journal.get Source.get at h
  split at h
  · cases h
  · exact Except.ok.inj h

/-- A variable that a journal can set shows what it is set to, as long as that is not `null`. -/
theorem get_set_self {value : Value} {name : String} {before : Value} (h : j.get name = .ok before)
    (hnull : value ≠ .null) : (j.set name value).get name = .ok value := by
  have hkind : (j.set name value).source.kind = j.source.kind := rfl
  have hresolve : Record.resolve (j.set name value).source.entries name = value :=
    Record.resolve_set_self hnull
  unfold Journal.get Source.get at h ⊢
  rw [hkind, hresolve]
  cases hj : j.source.kind with
  | other kindName =>
    rw [hj] at h
    cases h
  | mapping => rfl
  | attributes => rfl

theorem alike_commit (j : Journal) : Alike j.commit j := ⟨rfl, fun _ => rfl⟩

/-- The journal `j` remembers in `saved` what each variable that is set since the last commit showed in `k`;
the others show it still. -/
structure Recalls (j k : Journal) : Prop where
  kind : j.source.kind = k.source.kind
  saved : ∀ entry ∈ j.saved, entry.2 = Record.resolve k.source.entries entry.1
  others : ∀ name, Entries.get? name j.saved = none →
    Record.resolve j.source.entries name = Record.resolve k.source.entries name

theorem recalls_refl (h : j.saved = []) : Recalls j j := ⟨rfl, by simp [h], fun _ _ => rfl⟩

theorem Recalls.set (h : Recalls j k) (name : String) (value : Value) :
    Recalls (j.set name value) k := by
  -- a variable that was set before is remembered already; another one is remembered now
  cases hs : Entries.get? name j.saved with
  | some held =>
    have hsaved : (j.set name value).saved = j.saved := by simp [Journal.set, hs]
    refine ⟨h.kind, by rw [hsaved]; exact h.saved, fun other ho => ?_⟩
    rw [hsaved] at ho
    have hne : name ≠ other := by
      rintro rfl
      rw [hs] at ho
      cases ho
    exact (Record.resolve_set_of_ne hne value).trans (h.others other ho)
  | none =>
    have hsaved : (j.set name value).saved =
        Entries.set name (Record.resolve j.source.entries name) j.saved := by
      simp [Journal.set, hs]
    refine ⟨h.kind, fun entry he => ?_, fun other ho => ?_⟩
    · rw [hsaved] at he
      rcases Entries.mem_set he with rfl | he
      · exact h.others name hs
      · exact h.saved entry he
    · rw [hsaved] at ho
      have hne : name ≠ other := by
        rintro rfl
        rw [Entries.get?_set_self] at ho
        cases ho
      rw [Entries.get?_set_of_ne hne] at ho
      exact (Record.resolve_set_of_ne hne value).trans (h.others other ho)

/-- Setting back all that is `saved`, each of its variables shows what it is set to, and the others show what
they did.  By induction on `saved`, from any source. -/
theorem resolve_foldl_set {shows : String → Value} (hnull : ∀ name, shows name ≠ .null) (saved : Record)
    (hsaved : ∀ entry ∈ saved, entry.2 = shows entry.1) :
    ∀ (source : Source) (name : String), (Entries.get? name saved = none →
        Record.resolve source.entries name = shows name) →
      Record.resolve (saved.foldl (fun source entry => source.set entry.1 entry.2) source).entries
        name = shows name := by
  induction saved with
  | nil => exact fun source name h => h rfl
  | cons entry rest ih =>
    intro source name h
    rw [List.forall_mem_cons] at hsaved
    refine ih hsaved.2 _ name fun hrest => ?_
    by_cases hn : entry.1 = name
    · subst hn
      refine (Record.resolve_set_self ?_).trans hsaved.1
      rw [hsaved.1]
      exact hnull _
    · refine (Record.resolve_set_of_ne hn entry.2).trans (h ?_)
      rw [Entries.get?_cons, if_neg hn]
      exact hrest

theorem kind_foldl_set (saved : Record) (source : Source) :
    (saved.foldl (fun source entry => source.set entry.1 entry.2) source).kind = source.kind := by
  induction saved generalizing source with
  | nil => rfl
  | cons entry rest ih => exact ih _

/-- Rolled back, the journal `j` is `Alike` with `k`: every variable shows what it did at the last commit. -/
theorem Recalls.rollback (h : Recalls j k) : Alike j.rollback k := by
  refine ⟨(kind_foldl_set _ _).trans h.kind, fun name => ?_⟩
  exact resolve_foldl_set (fun name => Record.resolve_ne_null _ name) j.saved h.saved j.source name
    (h.others name)

end Journal

end PictureReport
