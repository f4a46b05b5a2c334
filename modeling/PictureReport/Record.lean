import PictureReport.Entries
import PictureReport.Value

/-!
# Records

A record holds the values of named variables. A variable that is missing or null shows the empty
text.
-/

namespace PictureReport

/-- The values of named variables in the order in which they were first set. -/
abbrev Record := Entries String Value

namespace Record

/-- What a variable shows. -/
def resolve (record : Record) (name : String) : Value :=
  match Entries.get? name record with
  | none => .text []
  | some .null => .text []
  | some value => value

end Record

end PictureReport
