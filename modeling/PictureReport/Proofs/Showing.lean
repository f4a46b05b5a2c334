import PictureReport.Picture.Formatting
import PictureReport.Proofs.Ends

/-!
# Values that have a text

`Value.stringify` gives the text of a value, or what keeps it from having one.  A value has a text just if its
lists and objects stand no deeper within each other than `Value.maxNesting` and none of its integers is too
long (`Value.hasText_iff`).  `Field.format` fails for want of a text only where the text that it is to show is
missing (`Field.format_eq_error`); else it is `Field.fit` of the text `Field.textFor`.
-/

namespace PictureReport

namespace Value

variable {value : Value} {t u : Text}

theorem orObstacle_eq_ok : value.orObstacle t = .ok u ↔ value.HasText ∧ u = t := by
  unfold orObstacle HasText
  cases value.obstacle with
  | none => simp [eq_comm]
  | some other => simp

/-- Of a value that has a text, `stringify` gives what `shown` says. -/
theorem HasText.stringify (h : value.HasText) : value.stringify = .ok value.shown :=
  orObstacle_eq_ok.mpr ⟨h, rfl⟩

theorem hasText_text (t : Text) : (text t).HasText := rfl

theorem obstacle_int (i : Int) : (int i).obstacle = if isTooLong i then some .tooLong else none := rfl

theorem isTooLong_eq_false {i : Int} :
    isTooLong i = false ↔ (decimalDigits i.natAbs).length ≤ Numeral.maxDigits := by
  rw [isTooLong, decide_eq_false_iff_not, Nat.not_lt]

theorem hasText_int {i : Int} :
    (int i).HasText ↔ (decimalDigits i.natAbs).length ≤ Numeral.maxDigits := by
  rw [HasText, obstacle_int, ← isTooLong_eq_false]
  cases isTooLong i <;> simp

/-! ## What a text needs -/

mutual

/-- How many lists and objects stand within each other in a value: `obstacleWithin` bounds this number. -/
def nesting : Value → Nat
  | list items => nestingOfItems items + 1
  | object entries => nestingOfEntries entries + 1
  | _ => 0

def nestingOfItems : List Value → Nat
  | [] => 0
  | item :: rest => max (nesting item) (nestingOfItems rest)

def nestingOfEntries : List (String × Value) → Nat
  | [] => 0
  | (_, item) :: rest => max (nesting item) (nestingOfEntries rest)

end

mutual

/-- The integers that a value holds, itself among them, from the first to the last. -/
def integers : Value → List Int
  | int i => [i]
  | list items => integersOfItems items
  | object entries => integersOfEntries entries
  | _ => []

def integersOfItems : List Value → List Int
  | [] => []
  | item :: rest => integers item ++ integersOfItems rest

def integersOfEntries : List (String × Value) → List Int
  | [] => []
  | (_, item) :: rest => integers item ++ integersOfEntries rest

end

/-- None of the integers `isTooLong`. -/
def AllShort (integers : List Int) : Prop := ∀ i ∈ integers, isTooLong i = false

theorem allShort_append {first second : List Int} :
    AllShort (first ++ second) ↔ AllShort first ∧ AllShort second := List.forall_mem_append

/-- Neither the first value nor the others have an obstacle just if all of them are within the depth and all
of their integers are short: `obstacleWithin` looks at a list item by item. -/
theorem or_eq_none_iff {first others : Option ShowFault} {deep deeper depth : Nat} {here there : List Int}
    (hfirst : first = none ↔ deep ≤ depth ∧ AllShort here)
    (hothers : others = none ↔ deeper ≤ depth ∧ AllShort there) :
    first.or others = none ↔ max deep deeper ≤ depth ∧ AllShort (here ++ there) := by
  rw [Option.or_eq_none_iff, hfirst, hothers, allShort_append, Nat.max_le]
  exact and_and_and_comm

mutual

theorem obstacleWithin_eq_none (depth : Nat) (value : Value) :
    obstacleWithin depth value = none ↔ nesting value ≤ depth ∧ AllShort (integers value) := by
  cases value with
  | int i =>
    have hone : AllShort (integers (int i)) ↔ isTooLong i = false := List.forall_mem_singleton
    rw [obstacleWithin, hone]
    cases isTooLong i <;> simp [nesting]
  | list items =>
    cases depth with
    | zero => simp [obstacleWithin, nesting]
    | succ depth =>
      rw [obstacleWithin, nesting, integers, Nat.add_le_add_iff_right]
      exact obstacleOfItems_eq_none depth items
  | object entries =>
    cases depth with
    | zero => simp [obstacleWithin, nesting]
    | succ depth =>
      rw [obstacleWithin, nesting, integers, Nat.add_le_add_iff_right]
      exact obstacleOfEntries_eq_none depth entries
  | null | bool | float | text => simp [obstacleWithin, nesting, integers, AllShort]

theorem obstacleOfItems_eq_none (depth : Nat) (items : List Value) :
    obstacleOfItems depth items = none ↔ nestingOfItems items ≤ depth ∧ AllShort (integersOfItems items) := by
  cases items with
  | nil => simp [obstacleOfItems, nestingOfItems, integersOfItems, AllShort]
  | cons item rest =>
    exact or_eq_none_iff (obstacleWithin_eq_none depth item) (obstacleOfItems_eq_none depth rest)

theorem obstacleOfEntries_eq_none (depth : Nat) (entries : List (String × Value)) :
    obstacleOfEntries depth entries = none ↔
      nestingOfEntries entries ≤ depth ∧ AllShort (integersOfEntries entries) := by
  match entries with
  | [] => simp [obstacleOfEntries, nestingOfEntries, integersOfEntries, AllShort]
  | (_, item) :: rest =>
    exact or_eq_none_iff (obstacleWithin_eq_none depth item) (obstacleOfEntries_eq_none depth rest)

end

/-- A value has a text just if its `nesting` is at most `maxNesting` and none of its `integers` has more
digits than `Numeral.maxDigits`. -/
theorem hasText_iff : value.HasText ↔ value.nesting ≤ maxNesting ∧
    ∀ i ∈ value.integers, (decimalDigits i.natAbs).length ≤ Numeral.maxDigits := by
  simp only [← isTooLong_eq_false]
  exact obstacleWithin_eq_none maxNesting value

end Value

namespace Field

variable {f : Field} {value : Value} {page : Int} {writable : Bool} {made : Formatted}

/-- What keeps the field from showing the value on the page: the obstacle of the page number where the field
shows it, and else the obstacle of the value. -/
def obstacle (f : Field) (value : Value) (page : Int) : Option ShowFault :=
  match f.shape with
  | .page _ => (Value.int page).obstacle
  | _ => value.obstacle

/-- The text that the field shows of a value without `obstacle`: `Field.given` gives this one (`given_eq`). -/
def textFor (f : Field) (value : Value) (page : Int) : Text :=
  match f.shape with
  | .page _ => integerText page
  | .fixed _ => value.shownPlain
  | _ => value.shown

theorem obstacle_eq (hpage : ∀ width, f.shape ≠ .page width) (value : Value) (page : Int) :
    f.obstacle value page = value.obstacle := by
  unfold obstacle
  split
  · rename_i width hs
    exact absurd hs (hpage width)
  · rfl

theorem obstacle_page {width : Nat} (hs : f.shape = .page width) (value : Value) (page : Int) :
    f.obstacle value page = if Value.isTooLong page then some .tooLong else none := by
  rw [obstacle, hs]
  exact Value.obstacle_int page

theorem given_eq (f : Field) (value : Value) (page : Int) :
    f.given value page =
      match f.obstacle value page with
      | some fault => .error fault
      | none => .ok (f.textFor value page) := by
  unfold given obstacle textFor
  cases f.shape <;> rfl

theorem format_eq_ok : f.format value page writable = .ok made ↔
    f.obstacle value page = none ∧ f.fit (f.textFor value page) writable = .ok made := by
  rw [format, given_eq]
  cases f.obstacle value page with
  | some fault => simp
  | none => simp [mapError_eq_ok]

/-- `Field.format` fails because there is an `obstacle` to the text that it is to show, or because `Field.fit`
cannot put the text `textFor` into the columns. -/
theorem format_eq_error {fault : Fault} : f.format value page writable = .error fault ↔
    (∃ missing, f.obstacle value page = some missing ∧ fault = .noText missing) ∨
    f.obstacle value page = none ∧
      ∃ unfit, f.fit (f.textFor value page) writable = .error unfit ∧ fault = .number unfit := by
  rw [format, given_eq]
  cases f.obstacle value page with
  | some missing => simp [eq_comm]
  | none => simp [mapError_eq_error]

/-- A text has no obstacle, so that `Field.fit` decides alone what `Field.format` does with it. -/
theorem format_text (hpage : ∀ width, f.shape ≠ .page width) (t : Text) :
    f.format (.text t) page writable = (f.fit t writable).mapError .number := by
  rw [format, given]
  cases hs : f.shape with
  | page width => exact absurd hs (hpage width)
  | _ => rfl

/-- A page field shows the number of the page in full, whatever its width, unless the number `isTooLong`. -/
theorem format_number {width : Nat} (hs : f.shape = .page width) (value : Value) :
    f.format value page writable =
      if Value.isTooLong page then .error (.noText .tooLong)
      else .ok ⟨(integerText page).padBoth width, none, []⟩ := by
  simp only [format, given_eq, obstacle_page hs, fit, textFor, hs]
  cases Value.isTooLong page <;> rfl

/-- A chomping field shows the front of a text that `Text.chomp` cuts off, and leaves the rest to the
variable. -/
theorem format_chomping (align : Align) (width : Nat) (t : Text) (page : Int) :
    format ⟨.text align width, true⟩ (.text t) page true =
      .ok ⟨Text.justify align (t.chomp width).1 width, some (t.chomp width).2, []⟩ := rfl

end Field

end PictureReport
