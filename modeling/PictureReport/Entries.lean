/-!
# Ordered entries

Entries pair keys with values in the order in which the keys were first set. Setting a key again
keeps its place.
-/

namespace PictureReport

/-- Keys with their values in the order of their first setting. -/
abbrev Entries (κ : Type) (ν : Type) := List (κ × ν)

namespace Entries

variable {κ ν : Type} [DecidableEq κ]

def get? (key : κ) : Entries κ ν → Option ν
  | [] => none
  | entry :: rest => if entry.1 = key then some entry.2 else get? key rest

def set (key : κ) (value : ν) : Entries κ ν → Entries κ ν
  | [] => [(key, value)]
  | entry :: rest => if entry.1 = key then (key, value) :: rest else entry :: set key value rest

/-- The entries that result from setting the pairs in order. -/
def ofPairs (pairs : List (κ × ν)) : Entries κ ν :=
  pairs.foldl (fun entries pair => set pair.1 pair.2 entries) []

/-- Without the entry of a key. -/
def erase (key : κ) (entries : Entries κ ν) : Entries κ ν := entries.filter (·.1 ≠ key)

@[simp] theorem get?_nil (key : κ) : get? key ([] : Entries κ ν) = none := rfl

theorem get?_cons (key : κ) (entry : κ × ν) (rest : Entries κ ν) :
    get? key (entry :: rest) = if entry.1 = key then some entry.2 else get? key rest := rfl

theorem get?_set_self (key : κ) (value : ν) (entries : Entries κ ν) :
    get? key (set key value entries) = some value := by
  induction entries with
  | nil => simp [set, get?_cons]
  | cons entry rest ih => by_cases h : entry.1 = key <;> simp [set, get?_cons, h, ih]

theorem get?_set_of_ne {key other : κ} (h : key ≠ other) (value : ν) (entries : Entries κ ν) :
    get? other (set key value entries) = get? other entries := by
  induction entries with
  | nil => simp [set, get?_cons, h]
  | cons entry rest ih =>
    by_cases hk : entry.1 = key
    · simp [set, get?_cons, hk, h]
    · simp [set, get?_cons, hk, ih]

end Entries

end PictureReport
