import PictureReport.Fault
import PictureReport.Record

/-!
# Tables of columns

Records are laid out in columns, one for each variable in the order of first use. A column has one
type; values of several kinds are stored as texts.
-/

namespace PictureReport

inductive ColumnType where
  | null
  | string
  | int64
  | double
deriving DecidableEq, Repr

def ColumnType.name : ColumnType → String
  | null => "null"
  | string => "string"
  | int64 => "int64"
  | double => "double"

structure Column where
  name : String
  type : ColumnType
  values : List Value
deriving Repr

namespace Column

/-- The type of a column that holds the value; a null fits any. -/
def typeOf? : Value → Option ColumnType
  | .null => none
  | .int _ => some .int64
  | .float _ => some .double
  | _ => some .string

/-- Does an integer fit into 64 bits? -/
def fits : Value → Bool
  | .int i => -signedBound ≤ i && i < signedBound
  | _ => true

/-- The column of values: their type if they have one in common, else their texts. -/
def ofValues (name : String) (values : List Value) : Except Fault Column :=
  match (values.filterMap typeOf?).eraseDups with
  | [] => .ok ⟨name, .null, values⟩
  | [type] => if values.all fits then .ok ⟨name, type, values⟩ else .error .wideColumn
  | _ => do
    let texts ← values.mapM fun value =>
      match value with
      | .null => .ok .null
      | value => (value.toText.map .text).mapError .noText
    pure ⟨name, .string, texts⟩

end Column

structure Table where
  columns : List Column
  rows : Nat
deriving Repr

namespace Table

/-- The names of all variables in the order of first use. -/
def names (records : List Record) : List String :=
  (records.flatMap fun record => record.map (·.1)).eraseDups

/-- The table of records; a variable that a record lacks is null.  A table without columns has no rows. -/
def ofRecords (records : List Record) : Except Fault Table := do
  let columns ← (names records).mapM fun name =>
    Column.ofValues name (records.map fun record => (Entries.get? name record).getD .null)
  pure ⟨columns, if columns.isEmpty then 0 else records.length⟩

end Table

end PictureReport
