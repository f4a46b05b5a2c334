import PictureReport.Fault
import PictureReport.Picture.Field

/-!
# Picture lines

A picture line is a row of literal texts and fields. A field reaches at most to the next introducer,
so fields that touch do not swallow each other. A tilde anywhere stands for a space and suppresses
the line while all of its fields are empty; two tildes together also repeat the line until then.
-/

namespace PictureReport

inductive Segment where
  | literal (t : Text)
  | field (f : Field)
deriving DecidableEq, Repr

namespace Segment

def width : Segment → Nat
  | literal t => t.length
  | field f => f.width

def field? : Segment → Option Field
  | literal _ => none
  | field f => some f

/-- The segment as it is drawn in a picture. -/
def source : Segment → Text
  | literal t => t
  | field f => f.source

/-- The segments of a literal text: none for the empty text. -/
def ofLiteral (t : Text) : List Segment :=
  if t.isEmpty then [] else [literal (t.map fun c => if c = '~' then ' ' else c)]

/-- The text before the first introducer, and each introducer with the text up to the next one. -/
def pieces : Text → Text × List (Char × Text)
  | [] => ([], [])
  | c :: rest =>
    let (leading, others) := pieces rest
    if isIntroducer c then ([], (c, leading) :: others) else (c :: leading, others)

/-- The field that an introducer starts and the text after its marks.  The caret alone starts a chomping
field. -/
def readField (line : Option Text) (start tail : Text) : Except Fault (Field × Text) :=
  match Shape.read? tail with
  | some (shape, rest) => .ok (⟨shape, start = ['^']⟩, rest)
  | none => .error (.malformedField (start ++ tail) line)

/-- The segments that introducers and the texts after them give.  Where several are malformed the last one is
reported. -/
def ofPieces (line : Text) : List (Char × Text) → Except Fault (List Segment)
  | [] => .ok []
  | (start, tail) :: others => do
    let following ← ofPieces line others
    let (f, rest) ← readField (some line) [start] tail
    pure (field f :: ofLiteral rest ++ following)

/-- The segments of a picture line. -/
def ofLine (line : Text) : Except Fault (List Segment) := do
  let (leading, others) := pieces line
  let segments ← ofPieces line others
  pure (ofLiteral leading ++ segments)

end Segment

structure PictureLine where
  segments : List Segment
  suppressed : Bool
  repeated : Bool
  names : List String
  source : Text
deriving DecidableEq, Repr

namespace PictureLine

/-- Do two tildes stand together? -/
def hasRepeatMark : Text → Bool
  | '~' :: '~' :: _ => true
  | [] => false
  | _ :: rest => hasRepeatMark rest

/-- The columns at which fields start. -/
def introducerColumns (line : Text) : List Nat :=
  (line.zipIdx.filter fun (c, _) => isIntroducer c).map (·.2)

def fields (line : PictureLine) : List Field := line.segments.filterMap Segment.field?

def width (line : PictureLine) : Nat :=
  line.segments.foldr (fun segment width => segment.width + width) 0

/-- A picture line whose variables are still to be named. -/
def ofSource (source : Text) : Except Fault PictureLine := do
  let segments ← Segment.ofLine source
  pure ⟨segments, source.contains '~', hasRepeatMark source, [], source⟩

/-- Each field with the variable that it shows; there must be one for each. -/
def bindings (line : PictureLine) : Except Fault (List (Field × String)) :=
  if line.fields.length = line.names.length then .ok (line.fields.zip line.names)
  else .error (.arity line.fields.length line.names.length (.pictureLine line.source))

end PictureLine

end PictureReport
