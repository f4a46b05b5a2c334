import PictureReport.Proofs.Journal

/-!
# What a rollback brings back

A journal is used in steps: variables are looked up and set, and what was set is kept or set back.  The
journal at hand recalls the one at the last commit or rollback (`Journal.Recalls`), and so a rollback makes
every variable show what it showed there.  A setting that is committed shows through every later rollback,
until another setting of the variable is committed (`Commits`).
-/

namespace PictureReport

/-- What a variable shows that is set to the value: `null` shows the empty text. -/
def Value.orEmpty : Value → Value
  | .null => .text []
  | value => value

namespace Journal

/-- One use of a journal: `Journal.get`, `Journal.set`, `Journal.commit` or `Journal.rollback`. -/
inductive Step where
  | get (name : String)
  | set (name : String) (value : Value)
  | commit
  | rollback

namespace Step

/-- Does the step decide about all that was set before it, as `commit` and `rollback` do? -/
def settles : Step → Bool
  | commit | rollback => true
  | _ => false

/-- What the step makes of a journal.  The step `get` changes nothing. -/
def apply : Step → Journal → Journal
  | get _, j => j
  | set name value, j => j.set name value
  | commit, j => j.commit
  | rollback, j => j.rollback

end Step

/-- The journal after `steps`, done one after the other from `j`. -/
def after (steps : List Step) (j : Journal) : Journal := steps.foldl (fun j step => step.apply j) j

/-- Nothing is set that is not decided about: no step is done, or the last one `settles` all before it. -/
def IsMark (steps : List Step) : Prop := ∀ step ∈ steps.getLast?, step.settles = true

/-- Some setting of the variable is committed, and no `rollback` stands between the setting and the `commit`.
-/
def Commits (name : String) (steps : List Step) : Prop :=
  ∃ before value between rest,
    steps = before ++ .set name value :: (between ++ .commit :: rest) ∧ .rollback ∉ between

variable {steps more : List Step} {step : Step} {name other : String} {value : Value} {j k : Journal}

@[simp] theorem after_append : after (steps ++ more) j = after more (after steps j) := by
  simp [after]

@[simp] theorem after_cons : after (step :: steps) j = after steps (step.apply j) := rfl

theorem Commits.cons (h : Commits name steps) : Commits name (step :: steps) := by
  obtain ⟨before, value, between, rest, rfl, hbetween⟩ := h
  exact ⟨step :: before, value, between, rest, rfl, hbetween⟩

/-- A setting at the front of `Commits` is open as long as no step settles it, so that one more step before
the commit changes nothing. -/
theorem Commits.later (hstep : step ≠ .rollback) (h : Commits name (.set name value :: steps)) :
    Commits name (.set name value :: step :: steps) := by
  obtain ⟨before, other, between, rest, hsteps, hbetween⟩ := h
  cases before with
  | nil =>
    obtain ⟨hset, rfl⟩ := List.cons.inj hsteps
    obtain ⟨-, rfl⟩ := Step.set.inj hset
    refine ⟨[], value, step :: between, rest, rfl, ?_⟩
    rw [List.mem_cons]
    rintro (heq | hmem)
    · exact hstep heq.symm
    · exact hbetween hmem
  | cons first before =>
    obtain ⟨rfl, rfl⟩ := List.cons.inj hsteps
    exact ⟨.set name value :: step :: before, other, between, rest, rfl, hbetween⟩

/-! ## Steps -/

@[simp] theorem kind_apply (step : Step) (j : Journal) : (step.apply j).source.kind = j.source.kind := by
  cases step with
  | rollback => exact kind_foldl_set j.saved j.source
  | _ => rfl

theorem kind_after (steps : List Step) (j : Journal) : (after steps j).source.kind = j.source.kind := by
  induction steps generalizing j with
  | nil => rfl
  | cons step steps ih => rw [after_cons, ih, kind_apply]

theorem saved_of_settles (h : step.settles = true) (j : Journal) : (step.apply j).saved = [] := by
  cases step with
  | commit => rfl
  | rollback => rfl
  | get name => cases h
  | set name value => cases h

/-- Behind steps with `IsMark` the journal remembers nothing: `saved` is empty. -/
theorem IsMark.saved (h : IsMark steps) (source : Source) : (after steps (start source)).saved = [] := by
  rcases List.eq_nil_or_concat steps with rfl | ⟨earlier, last, rfl⟩
  · rfl
  · rw [List.concat_eq_append] at h ⊢
    have hlast : last.settles = true := h last (by simp)
    rw [after_append]
    exact saved_of_settles hlast _

/-- Steps of which none `settles` anything leave what the journal `Recalls` as it is. -/
theorem Recalls.after (h : Recalls j k) (hsteps : ∀ step ∈ steps, step.settles = false) :
    Recalls (after steps j) k := by
  induction steps generalizing j with
  | nil => exact h
  | cons step steps ih =>
    rw [List.forall_mem_cons] at hsteps
    refine ih ?_ hsteps.2
    cases step with
    | get name => exact h
    | set name value => exact h.set name value
    | commit => cases hsteps.1
    | rollback => cases hsteps.1

theorem resolve_set_orEmpty (name : String) (value : Value) (record : Record) :
    Record.resolve (Entries.set name value record) name = value.orEmpty := by
  unfold Record.resolve
  rw [Entries.get?_set_self]
  cases value <;> rfl

/-- What a variable shows stays, as long as no step sets it and none is a `rollback`. -/
theorem resolve_after_of_not_set (hset : ∀ value, .set name value ∉ steps) (hback : .rollback ∉ steps) :
    Record.resolve (after steps j).source.entries name = Record.resolve j.source.entries name := by
  induction steps generalizing j with
  | nil => rfl
  | cons step steps ih =>
    rw [List.mem_cons, not_or] at hback
    have hrest : ∀ value, .set name value ∉ steps := fun value hmem =>
      hset value (List.mem_cons_of_mem _ hmem)
    rw [after_cons, ih hrest hback.2]
    cases step with
    | get other => rfl
    | set other value =>
      have hne : other ≠ name := by
        rintro rfl
        exact hset value List.mem_cons_self
      exact Record.resolve_set_of_ne hne value
    | commit => rfl
    | rollback => exact absurd rfl hback.1

/-- Rolled back at the end, a variable shows what it does in the journal `k` that is recalled: if it shows
that now and no setting of it is committed on the way (`Commits`), or if the setting that is open is not. -/
theorem resolve_after_rollback (hrecalls : Recalls j k) (steps : List Step)
    (hshows : Record.resolve k.source.entries name = value)
    (hsteps : Record.resolve j.source.entries name = value ∧ ¬ Commits name steps ∨
      ∃ held, ¬ Commits name (.set name held :: steps)) :
    Record.resolve (after (steps ++ [.rollback]) j).source.entries name = value := by
  -- on the steps, for any journal that is recalled: after a commit or a rollback the one at hand takes its
  -- place
  induction steps generalizing j k with
  | nil => exact (hrecalls.rollback.values name).trans hshows
  | cons step steps ih =>
    rw [List.cons_append, after_cons]
    have hopen : ∀ held, ¬ Commits name (.set name held :: step :: steps) → step ≠ .rollback →
        ¬ Commits name (.set name held :: steps) := fun held hnot hstep h => hnot (h.later hstep)
    have hrest : ¬ Commits name (step :: steps) → ¬ Commits name steps := fun hnot h => hnot h.cons
    cases step with
    | get other =>
      refine ih hrecalls hshows ?_
      rcases hsteps with ⟨hnow, hnot⟩ | ⟨held, hnot⟩
      · exact .inl ⟨hnow, hrest hnot⟩
      · exact .inr ⟨held, hopen held hnot (by simp)⟩
    | set other given =>
      refine ih (hrecalls.set other given) hshows ?_
      rcases hsteps with ⟨hnow, hnot⟩ | ⟨held, hnot⟩
      · by_cases hname : other = name
        · subst hname
          exact .inr ⟨given, hnot⟩
        · exact .inl ⟨(Record.resolve_set_of_ne hname given).trans hnow, hrest hnot⟩
      · exact .inr ⟨held, hopen held hnot (by simp)⟩
    | commit =>
      rcases hsteps with ⟨hnow, hnot⟩ | ⟨held, hnot⟩
      · exact ih (recalls_refl rfl) hnow (.inl ⟨hnow, hrest hnot⟩)
      · exact absurd ⟨[], held, [], steps, rfl, List.not_mem_nil⟩ hnot
    | rollback =>
      have hback : Record.resolve j.rollback.source.entries name = value :=
        (hrecalls.rollback.values name).trans hshows
      refine ih (recalls_refl rfl) hback (.inl ⟨hback, ?_⟩)
      rcases hsteps with ⟨-, hnot⟩ | ⟨held, hnot⟩
      · exact hrest hnot
      · exact hrest fun h => hnot h.cons

/-! ## Variables that are never set -/

theorem get?_foldl_set_of_ne (saved : Record) (hsaved : ∀ entry ∈ saved, entry.1 ≠ name) (source : Source) :
    Entries.get? name (saved.foldl (fun source entry => source.set entry.1 entry.2) source).entries =
      Entries.get? name source.entries := by
  induction saved generalizing source with
  | nil => rfl
  | cons entry rest ih =>
    rw [List.forall_mem_cons] at hsaved
    exact (ih hsaved.2 _).trans (Entries.get?_set_of_ne hsaved.1 entry.2 source.entries)

/-- `Journal.set` remembers in `saved` no variable but the one that it sets. -/
theorem mem_saved_set {entry : String × Value} (h : entry ∈ (j.set name value).saved) :
    entry.1 = name ∨ entry ∈ j.saved := by
  unfold Journal.set at h
  dsimp only at h
  split at h
  · exact .inr h
  · exact (Entries.mem_set h).imp_left fun heq => congrArg Prod.fst heq

theorem get?_after_of_not_set (hset : ∀ value, .set name value ∉ steps)
    (hsaved : ∀ entry ∈ j.saved, entry.1 ≠ name) :
    Entries.get? name (after steps j).source.entries = Entries.get? name j.source.entries := by
  induction steps generalizing j with
  | nil => rfl
  | cons step steps ih =>
    have hrest : ∀ value, .set name value ∉ steps := fun value hmem =>
      hset value (List.mem_cons_of_mem _ hmem)
    rw [after_cons]
    cases step with
    | get other => exact ih hrest hsaved
    | set other value =>
      have hne : other ≠ name := by
        rintro rfl
        exact hset value List.mem_cons_self
      refine (ih hrest fun entry he => ?_).trans (Entries.get?_set_of_ne hne value j.source.entries)
      rcases mem_saved_set he with heq | he
      · rw [heq]
        exact hne
      · exact hsaved entry he
    | commit => exact ih hrest fun entry he => absurd he List.not_mem_nil
    | rollback =>
      refine (ih hrest fun entry he => absurd he List.not_mem_nil).trans ?_
      exact get?_foldl_set_of_ne j.saved hsaved j.source

/-! ## Rollbacks -/

theorem get_of_resolve (hkind : j.source.kind = .mapping ∨ j.source.kind = .attributes) (name : String) :
    j.source.get name = .ok (Record.resolve j.source.entries name) := by
  unfold Source.get
  rcases hkind with h | h <;> rw [h]

/-- A journal in front of a mapping or of an object, used in any way.  A rollback makes every variable show
what it showed at the last commit or rollback, or at the start.  What a variable is set to and is committed
shows after every later rollback, as long as no later setting of it is committed.  And a variable that is
never set keeps the entry that it has, or has none. -/
theorem rollback_restores (source : Source) (hkind : source.kind = .mapping ∨ source.kind = .attributes) :
    let run := fun steps => (after steps (start source)).source
    (∀ earlier between, IsMark earlier → (∀ step ∈ between, step.settles = false) → ∀ name,
      (run (earlier ++ between ++ [.rollback])).get name = (run earlier).get name) ∧
    (∀ earlier name value between later, (∀ other, .set name other ∉ between) → .rollback ∉ between →
      ¬ Commits name later →
      (run (earlier ++ .set name value :: between ++ .commit :: later ++ [.rollback])).get name =
        .ok value.orEmpty) ∧
    ∀ steps name, (∀ value, .set name value ∉ steps) →
      Entries.get? name (run steps).entries = Entries.get? name source.entries := by
  refine ⟨fun earlier between hmark hbetween name => ?_, ?_, fun steps name hset => ?_⟩
  · have hrecalls := Recalls.after (recalls_refl (hmark.saved source)) hbetween
    show (after (earlier ++ between ++ [.rollback]) (start source)).get name = _
    rw [after_append, after_append]
    exact hrecalls.rollback.get name
  · intro earlier name value between later hset hback hlater
    have hset' : Record.resolve (after (earlier ++ .set name value :: between) (start source)).source.entries
        name = value.orEmpty := by
      rw [after_append, after_cons, resolve_after_of_not_set hset hback]
      exact resolve_set_orEmpty name value _
    have hshows : Record.resolve
        (after (earlier ++ .set name value :: between ++ .commit :: later ++ [.rollback])
          (start source)).source.entries name = value.orEmpty := by
      rw [List.append_assoc, after_append, List.cons_append, after_cons]
      exact resolve_after_rollback (recalls_refl rfl) later hset' (.inl ⟨hset', hlater⟩)
    have hsame := kind_after (earlier ++ .set name value :: between ++ .commit :: later ++ [.rollback])
      (start source)
    rw [get_of_resolve (by rw [hsame]; exact hkind), hshows]
  · exact get?_after_of_not_set hset fun entry he => absurd he List.not_mem_nil

/-- A draft whose title is null and which has no author. -/
def draft : Source := ⟨.attributes, [("title", .null), ("text", .text "old".toList)]⟩

/-- Steps that set the text of the `draft` and keep it. -/
def keptSteps : List Step := [.set "text" (.text "new".toList), .get "text", .commit]

/-- Steps that set everything in the `draft` and keep nothing. -/
def droppedSteps : List Step :=
  [.set "text" .null, .set "title" (.int 1), .set "author" (.int 2), .set "title" (.int 3)]

theorem rollback_restores_draft :
    (draft.kind = .mapping ∨ draft.kind = .attributes) ∧ IsMark keptSteps ∧
    (∀ step ∈ droppedSteps, step.settles = false) ∧ ¬ Commits "text" droppedSteps ∧
    let run := fun steps => (after steps (start draft)).source
    (run (keptSteps ++ droppedSteps)).get "title" = .ok (.int 3) ∧
    (run (keptSteps ++ droppedSteps ++ [.rollback])).get "title" = (run keptSteps).get "title" ∧
    (run (keptSteps ++ droppedSteps ++ [.rollback])).get "text" = .ok (.text "new".toList) ∧
    Entries.get? "note" (run (keptSteps ++ droppedSteps ++ [.rollback])).entries = none := by
  have hkind : draft.kind = .mapping ∨ draft.kind = .attributes := .inr rfl
  have hmark : IsMark keptSteps := by simp [IsMark, keptSteps, Step.settles]
  have hdropped : ∀ step ∈ droppedSteps, step.settles = false := by simp [droppedSteps, Step.settles]
  have hnone : ¬ Commits "text" droppedSteps := by
    rintro ⟨before, value, between, rest, hsplit, -⟩
    have hcommit : Step.commit ∈ droppedSteps := by rw [hsplit]; simp
    simp [droppedSteps] at hcommit
  obtain ⟨hrestores, hkeeps, huntouched⟩ := rollback_restores draft hkind
  refine ⟨hkind, hmark, hdropped, hnone, by rfl, hrestores _ _ hmark hdropped "title", ?_, ?_⟩
  · exact hkeeps [] "text" (.text "new".toList) [.get "text"] droppedSteps (by simp) (by simp) hnone
  · exact huntouched _ "note" (by simp [keptSteps, droppedSteps])

end Journal

end PictureReport
