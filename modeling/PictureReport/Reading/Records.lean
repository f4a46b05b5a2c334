import PictureReport.Reading.Pattern
import PictureReport.Record
import PictureReport.Text.Lines

/-!
# Reading records back

Printed lines are matched against the line patterns of a form in order, and each field gives its
variable a value. A pass over all patterns makes one record; a repeated line takes as many lines as
match it. A line that matches none of the patterns is skipped.
-/

namespace PictureReport

namespace Value

/-- The number that a text writes: an integer, or a double-precision number if `float` asks for it.
A text that is no integer is read as a number and cut to one; a text that is no number at all is
kept without the blanks around it, and a blank one is null. -/
def ofNumeral (t : Text) (float : Bool) : Except NumberFault Value :=
  let plain := t.trim
  if plain.isEmpty then .ok .null
  else if float then
    .ok (((Numeral.number? plain).map Value.float).getD (.text plain))
  else match Numeral.integer plain with
    | .ok i => .ok (.int i)
    | .error _ =>
      match Numeral.number? plain with
      | some x => x.toInteger.map .int
      | none => .ok (.text plain)

/-- The value that follows another one in a chomping field: texts are joined by a space, and an
empty one adds nothing. -/
def followedBy (current fragment : Value) : Except Fault Value :=
  if current.holds && fragment.holds then
    match current.stringify, fragment.stringify with
    | .ok t, .ok u => .ok (.text (t ++ [' '] ++ u))
    | .error fault, _ | .ok _, .error fault => .error (.noText fault)
  else
    match (if current.holds then current else .text []), fragment with
    | .text t, .text u => .ok (.text (t ++ u))
    | .text _, other => .error (.cannotFollow "str" other.kindName)
    | .list _, other => .error (.cannotFollow "list" other.kindName)
    | .int i, .int j => .ok (.int (i + j))
    | .bool b, .int j => .ok (.int ((if b then 1 else 0) + j))
    | .float x, .int _ => .ok (.float x)
    | left, right => .error (.cannotAdd left.kindName right.kindName)

end Value

namespace Field

/-- The value that the columns of a field show, without the padding of the field. -/
def valueOf (f : Field) (t : Text) : Except NumberFault Value :=
  match f.shape with
  | .fixed _ | .scientific _ => Value.ofNumeral t f.shape.hasRadix
  | .page _ => Value.ofNumeral t false
  | .text .left _ => .ok (.text (Text.dropEnd (· = ' ') t))
  | .text .right _ => .ok (.text (t.dropWhile (· = ' ')))
  | .text .center _ => .ok (.text (Text.joinWith [' '] t.words))

/-- Put the value of a field into a record.  Chomping fields that show no number add to the value that the
variable has. -/
def save (f : Field) (name : String) (t : Text) (record : Record) : Except Fault Record :=
  match f.valueOf t with
  | .error fault => .error (.number fault)
  | .ok value =>
    if f.chomp && !f.shape.isNumeric then do
      let joined ← Value.followedBy ((Entries.get? name record).getD .null) value
      pure (Entries.set name joined record)
    else .ok (Entries.set name value record)

end Field

namespace LinePattern

/-- Save the texts that fields take in order.  The record that a fault leaves is kept. -/
def saveAll : List (Field × String) → List Text → Record → Except Fault Unit × Record
  | (f, name) :: bindings, t :: texts, record =>
    match f.save name t record with
    | .ok record => saveAll bindings texts record
    | .error fault => (.error fault, record)
  | _, _, record => (.ok (), record)

/-- Match a line and save what its fields take; the flag tells whether it matches. -/
def matchLine (pattern : LinePattern) (line : Text) (record : Record) :
    Except Fault Bool × Record :=
  match Part.search? pattern.parts line with
  | none => (.ok false, record)
  | some texts =>
    let (outcome, record) := saveAll pattern.bindings texts record
    (outcome.map fun _ => true, record)

/-- Match a pattern against the lines at the front: at most one, or as many as match if the pattern is
repeated.  The result is the record and the lines that are left. -/
def absorb (pattern : LinePattern) (record : Record) :
    List Text → Except Fault (Record × List Text)
  | [] => .ok (record, [])
  | line :: rest =>
    match pattern.matchLine line record with
    | (.error fault, _) => .error fault
    | (.ok false, _) => .ok (record, line :: rest)
    | (.ok true, record) => if pattern.repeated then absorb pattern record rest else .ok (record, rest)

/-- One pass over the patterns: the record they make and the lines that are left. -/
def pass (record : Record) (lines : List Text) : List LinePattern → Except Fault (Record × List Text)
  | [] => .ok (record, lines)
  | pattern :: patterns => do
    let (record, rest) ← pattern.absorb record lines
    pass record rest patterns

end LinePattern

/-- The records that lines give, and the fault that ends the reading, if there is one. -/
def readRecords (patterns : List LinePattern) : List Text → List Record × Option Fault
  | [] => ([], none)
  | line :: lines =>
    match LinePattern.pass [] (line :: lines) patterns with
    | .error fault => ([], some fault)
    | .ok (record, rest) =>
      if rest.length < (line :: lines).length then
        let (records, fault) := readRecords patterns rest
        (record :: records, fault)
      else readRecords patterns lines
termination_by lines => lines.length
decreasing_by
  · assumption
  · exact Nat.lt_succ_self lines.length

/-- A line as it is read: without the line ends at its end. -/
def withoutEnd (line : Text) : Text := Text.dropEnd (fun c => c = '\r' || c = '\n') line

/-- The records of given lines. -/
def readLines (patterns : List LinePattern) (lines : List Text) : List Record × Option Fault :=
  readRecords patterns (lines.map withoutEnd)

/-- The records of the lines of a report. -/
def readReport (patterns : List LinePattern) (t : Text) : List Record × Option Fault :=
  readLines patterns t.lines

end PictureReport
