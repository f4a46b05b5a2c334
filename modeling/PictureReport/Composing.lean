import PictureReport.Journal
import PictureReport.Picture.Formatting

/-!
# Composing lines

A picture line is composed from the values of its variables. The values may change on the way, as
chomping fields leave the rest of their texts, and they stay changed when composing fails.
-/

namespace PictureReport

/-- What composing works on: the values at hand and the warnings given so far. -/
structure Desk where
  journal : Journal
  warnings : List Warning
deriving Repr

/-- A computation on the desk that may fail; the desk it leaves is kept in either case. -/
abbrev Composing := ExceptT Fault (StateM Desk)

namespace Desk

/-- The value of a variable, which must have a text. -/
def read (name : String) : Composing Value := do
  match (← get).journal.get name with
  | .ok value =>
    match value.obstacle with
    | none => pure value
    | some fault => throw (.noText fault)
  | .error fault => throw fault

def write (name : String) (value : Value) : Composing Unit :=
  modify fun desk => { desk with journal := desk.journal.set name value }

def warn (warnings : List Warning) : Composing Unit :=
  modify fun desk => { desk with warnings := desk.warnings ++ warnings }

/-- The texts of variables, in order. -/
def texts : List String → Composing (List Text)
  | [] => pure []
  | name :: rest => do
    let value ← read name
    let others ← texts rest
    pure (value.shown :: others)

/-- The number of characters that the variables of a line hold together. -/
def textSize (desk : Desk) (names : List String) : Nat :=
  names.foldr
    (fun name size => (Record.resolve desk.journal.source.entries name).shown.length + size) 0

end Desk

namespace PictureLine

/-- The text of one field on page `page`, and whether its value is empty. -/
def composeField (page : Int) (f : Field) (name : String) : Composing (Text × Bool) := do
  let value ← Desk.read name
  match f.format value page true with
  | .error fault => throw fault
  | .ok formatted =>
    Desk.warn formatted.warnings
    if let some rest := formatted.rest then Desk.write name (.text rest)
    pure (formatted.text, value.shown.isEmpty)

/-- The text of segments whose fields show the variables `names` in order, and whether the values
of all of them are empty. -/
def composeSegments (page : Int) : List Segment → List String → Composing (Text × Bool)
  | .literal t :: segments, names => do
    let (following, blank) ← composeSegments page segments names
    pure (t ++ following, blank)
  | .field f :: segments, name :: names => do
    let (shown, empty) ← composeField page f name
    let (following, blank) ← composeSegments page segments names
    pure (shown ++ following, empty && blank)
  | _, _ => pure ([], true)

/-- The text of a line on page `page` without blanks at its end; none when the line is suppressed,
that is when it is marked so and the values of all its fields are empty. -/
def compose (line : PictureLine) (page : Int) : Composing (Option Text) := do
  match line.bindings with
  | .error fault => throw fault
  | .ok _ =>
    let (shown, blank) ← composeSegments page line.segments line.names
    pure (if line.suppressed && blank then none else some shown.trimRight)

end PictureLine

end PictureReport
