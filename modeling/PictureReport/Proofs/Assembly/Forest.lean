import Mathlib.Data.List.Perm.Subperm
import Mathlib.Logic.Relation
import PictureReport.Assembly
import PictureReport.Proofs.Journal

/-!
# Forms above and below each other

A form stands above its bands, above their bands, and so on (`Above`).  In a `Forest` no form stands above
itself, so a chain of forms is no longer than their number, and a walk of that depth meets every form below
the one that it starts from.
-/

namespace PictureReport

namespace Entries

variable {κ ν : Type} [DecidableEq κ] {key : κ} {value : ν} {entries : Entries κ ν}

theorem nodup_keys_set (h : (entries.map (·.1)).Nodup) : ((set key value entries).map (·.1)).Nodup := by
  induction entries with
  | nil => simp [set]
  | cons entry rest ih =>
    rw [List.map_cons, List.nodup_cons] at h
    unfold set
    by_cases hkey : entry.1 = key
    · rw [if_pos hkey, List.map_cons, List.nodup_cons, ← hkey]
      exact h
    · rw [if_neg hkey, List.map_cons, List.nodup_cons]
      refine ⟨fun hmem => ?_, ih h.2⟩
      obtain ⟨other, hother, heq⟩ := List.mem_map.mp hmem
      rcases mem_set hother with rfl | hother
      · exact hkey heq.symm
      · exact h.1 (List.mem_map.mpr ⟨other, hother, heq⟩)

theorem get?_of_mem (h : (entries.map (·.1)).Nodup) (hmem : (key, value) ∈ entries) :
    get? key entries = some value := by
  induction entries with
  | nil => cases hmem
  | cons entry rest ih =>
    rw [List.map_cons, List.nodup_cons] at h
    rw [get?_cons]
    rcases List.mem_cons.mp hmem with rfl | hmem
    · exact if_pos rfl
    · rw [if_neg (fun hkey => h.1 (List.mem_map.mpr ⟨_, hmem, hkey.symm⟩))]
      exact ih h.2 hmem

theorem mem_of_get? (h : get? key entries = some value) : (key, value) ∈ entries := by
  induction entries with
  | nil => cases h
  | cons entry rest ih =>
    rw [get?_cons] at h
    by_cases hkey : entry.1 = key
    · rw [if_pos hkey] at h
      obtain rfl := Option.some.inj h
      rw [← hkey]
      exact List.mem_cons_self
    · rw [if_neg hkey] at h
      exact List.mem_cons_of_mem _ (ih h)

/-- `Entries.set` drops the entry that the key had. -/
theorem mem_set_iff (h : (entries.map (·.1)).Nodup) {entry : κ × ν} :
    entry ∈ set key value entries ↔ entry = (key, value) ∨ entry ∈ entries ∧ entry.1 ≠ key := by
  obtain ⟨other, held⟩ := entry
  have hset : ((set key value entries).map (·.1)).Nodup := nodup_keys_set h
  by_cases hkey : other = key
  · subst hkey
    constructor
    · intro hmem
      have hheld := (get?_set_self other value entries).symm.trans (get?_of_mem hset hmem)
      exact .inl (by rw [Option.some.inj hheld])
    · rintro (heq | ⟨-, hne⟩)
      · rw [heq]
        exact mem_of_get? (get?_set_self other value entries)
      · exact absurd rfl hne
  · have hget : get? other (set key value entries) = get? other entries :=
      get?_set_of_ne (fun h => hkey h.symm) value entries
    constructor
    · intro hmem
      exact .inr ⟨mem_of_get? (hget.symm.trans (get?_of_mem hset hmem)), hkey⟩
    · rintro (heq | ⟨hmem, -⟩)
      · exact absurd (congrArg Prod.fst heq) hkey
      · exact mem_of_get? (hget.trans (get?_of_mem h hmem))

end Entries

namespace Assembly

variable {a b : Assembly} {f g p owner form : FormId} {n : Nat}

/-- The forms that are bands of `p`. -/
def parts (a : Assembly) (p : FormId) : List FormId := (a.bandsOf p).map (·.2)

theorem mem_parts : f ∈ a.parts p ↔ ∃ band, (band, f) ∈ a.bandsOf p := by
  simp [parts]

/-- The second form is a band of the first, or a band of such a band, and so on: the transitive closure of
`parts`. -/
def Above (a : Assembly) : FormId → FormId → Prop := Relation.TransGen fun p f => f ∈ a.parts p

/-- Each band of a form is one form that exists, and no form stands `Above` itself. -/
structure Forest (a : Assembly) : Prop where
  keys : ∀ p, ((a.bandsOf p).map (·.1)).Nodup
  exist : ∀ p, ∀ f ∈ a.parts p, f < a.forms.length
  acyclic : ∀ f, ¬ a.Above f f

/-- Only a form that exists has `parts`. -/
theorem exists_of_mem_parts (h : f ∈ a.parts p) : p < a.forms.length := by
  by_contra hp
  have hnone : a.forms[p]? = none := List.getElem?_eq_none (Nat.le_of_not_lt hp)
  simp [parts, bandsOf, hnone] at h

theorem exists_of_above (h : a.Above f g) : f < a.forms.length := by
  obtain ⟨part, hpart, -⟩ := Relation.TransGen.head'_iff.mp h
  exact exists_of_mem_parts hpart

theorem Forest.exists_of_above (h : a.Forest) (hfg : a.Above f g) : g < a.forms.length := by
  obtain ⟨last, -, hg⟩ := Relation.TransGen.tail'_iff.mp hfg
  exact h.exist last g hg

/-! ## Walking -/

theorem mem_walk_succ : g ∈ a.walk (n + 1) f ↔ ∃ part ∈ a.parts f, g = part ∨ g ∈ a.walk n part := by
  simp only [walk, parts, List.mem_flatMap, List.mem_map, exists_exists_and_eq_and, List.mem_cons]

theorem above_of_mem_walk (h : g ∈ a.walk n f) : a.Above f g := by
  induction n generalizing f with
  | zero => cases h
  | succ n ih =>
    obtain ⟨part, hpart, rfl | hg⟩ := mem_walk_succ.mp h
    · exact .single hpart
    · exact .head hpart (ih hg)

/-- The forms `seen` on the way to `f` are all different, so there is depth left for those below it: `walk n`
meets them. -/
theorem Forest.mem_walk (h : a.Forest) {seen : List FormId} (hseen : (f :: seen).Nodup)
    (habove : ∀ x ∈ seen, a.Above x f) (hdepth : a.forms.length ≤ seen.length + n)
    (hfg : a.Above f g) : g ∈ a.walk n f := by
  induction n generalizing f seen with
  | zero =>
    have hexist : f :: seen ⊆ List.range a.forms.length := by
      intro x hx
      rw [List.mem_range]
      rcases List.mem_cons.mp hx with rfl | hx
      · exact Assembly.exists_of_above hfg
      · exact Assembly.exists_of_above (habove x hx)
    -- with no depth left there would be more forms on the way than there are
    have hfew := (List.subperm_of_subset hseen hexist).length_le
    rw [List.length_cons, List.length_range] at hfew
    omega
  | succ n ih =>
    obtain ⟨part, hpart, hbelow⟩ := Relation.TransGen.head'_iff.mp hfg
    refine mem_walk_succ.mpr ⟨part, hpart, ?_⟩
    rcases Relation.reflTransGen_iff_eq_or_transGen.mp hbelow with rfl | hbelow
    · exact .inl rfl
    · have hpartAbove : ∀ x ∈ f :: seen, a.Above x part := by
        intro x hx
        rcases List.mem_cons.mp hx with rfl | hx
        · exact .single hpart
        · exact (habove x hx).tail hpart
      -- the part was not seen before: it would stand above itself
      refine .inr (ih (List.nodup_cons.mpr ⟨fun hx => ?_, hseen⟩) hpartAbove ?_ hbelow)
      · exact h.acyclic part (hpartAbove part hx)
      · rw [List.length_cons]
        omega

/-- `below` lists the forms that a form stands `Above`. -/
theorem Forest.mem_below (h : a.Forest) : g ∈ a.below f ↔ a.Above f g := by
  have hsingle : [f].Nodup := by simp
  exact ⟨above_of_mem_walk, h.mem_walk hsingle (by simp) (by simp)⟩

/-! ## One more band -/

/-- Where `form` may have become a band of `owner`, what is above something else was above it before, or it is
above it by way of the two. -/
theorem Above.before (hparts : ∀ p, ∀ g ∈ b.parts p, g ∈ a.parts p ∨ p = owner ∧ g = form)
    (h : b.Above f g) :
    a.Above f g ∨ (f = owner ∨ a.Above f owner) ∧ (g = form ∨ a.Above form g) := by
  induction h with
  | single hstep =>
    rcases hparts _ _ hstep with hstep | ⟨rfl, rfl⟩
    · exact .inl (.single hstep)
    · exact .inr ⟨.inl rfl, .inl rfl⟩
  | tail _ hstep ih =>
    rcases hparts _ _ hstep with hstep | ⟨rfl, rfl⟩
    · rcases ih with h | ⟨hf, rfl | hg⟩
      · exact .inl (h.tail hstep)
      · exact .inr ⟨hf, .inr (.single hstep)⟩
      · exact .inr ⟨hf, .inr (hg.tail hstep)⟩
    · rcases ih with h | ⟨hf, -⟩
      · exact .inr ⟨.inr h, .inl rfl⟩
      · exact .inr ⟨hf, .inl rfl⟩

/-- A form that is not `Above` its new owner closes no circle. -/
theorem Forest.acyclic_of_parts (h : a.Forest) (hne : form ≠ owner) (habove : ¬ a.Above form owner)
    (hparts : ∀ p, ∀ g ∈ b.parts p, g ∈ a.parts p ∨ p = owner ∧ g = form) : ∀ f, ¬ b.Above f f := by
  intro f hf
  rcases hf.before hparts with hf | ⟨rfl | howner, hform | hform⟩
  · exact h.acyclic f hf
  · exact hne hform.symm
  · exact habove hform
  · rw [hform] at howner
    exact habove howner
  · exact habove (hform.trans howner)

end Assembly

end PictureReport
