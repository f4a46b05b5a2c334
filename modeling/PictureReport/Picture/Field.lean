import PictureReport.Text.Basic

/-!
# Fields

A field is a run of columns of a picture: an introducer, which also says whether the field breaks
its text over several lines, and the marks after it, which give its kind and its width. Seven rules
read the marks; the first that applies wins.
-/

namespace PictureReport

inductive Align where
  | left
  | center
  | right
deriving DecidableEq, Repr

/-- A number with a fixed number of digits after the point.  The whole part counts the column of the
introducer. -/
structure FixedPoint where
  whole : Nat
  fraction : Nat
  radix : Bool
deriving DecidableEq, Repr

/-- The letter of a number with an exponent: always with an exponent or only when one is needed, in
lower or upper case. -/
structure ExponentLetter where
  general : Bool
  upper : Bool
deriving DecidableEq, Repr

/-- A number with an exponent.  The whole part does not count the column of the introducer. -/
structure Scientific where
  whole : Nat
  fraction : Nat
  radix : Bool
  letter : ExponentLetter
  exponent : Nat
deriving DecidableEq, Repr

/-- What a field shows. -/
inductive Shape where
  | text (align : Align) (width : Nat)
  | fixed (number : FixedPoint)
  | scientific (number : Scientific)
  | page (width : Nat)
deriving DecidableEq, Repr

/-- A field; a chomping one shows as much of a text as fits and leaves the rest to its variable. -/
structure Field where
  shape : Shape
  chomp : Bool
deriving DecidableEq, Repr

namespace ExponentLetter

def ofChar? : Char → Option ExponentLetter
  | 'e' => some ⟨false, false⟩
  | 'E' => some ⟨false, true⟩
  | 'g' => some ⟨true, false⟩
  | 'G' => some ⟨true, true⟩
  | _ => none

def char : ExponentLetter → Char
  | ⟨false, false⟩ => 'e'
  | ⟨false, true⟩ => 'E'
  | ⟨true, false⟩ => 'g'
  | ⟨true, true⟩ => 'G'

end ExponentLetter

/-- The column of the point, if there is one. -/
def radixWidth (radix : Bool) : Nat := if radix then 1 else 0

def radixMark (radix : Bool) : Text := if radix then ['.'] else []

namespace FixedPoint

def width (f : FixedPoint) : Nat := f.whole + radixWidth f.radix + f.fraction

def marks (f : FixedPoint) : Text :=
  List.replicate (f.whole - 1) '#' ++ radixMark f.radix ++ List.replicate f.fraction '#'

end FixedPoint

namespace Scientific

def width (f : Scientific) : Nat :=
  1 + f.whole + radixWidth f.radix + f.fraction + 1 + f.exponent

/-- The digits asked for: those after the point, or all significant ones when the exponent is shown
only if needed. -/
def precision (f : Scientific) : Nat :=
  if f.letter.general then 1 + f.whole + f.fraction else f.fraction

def marks (f : Scientific) : Text :=
  List.replicate f.whole '#' ++ radixMark f.radix ++ List.replicate f.fraction '#' ++
    [f.letter.char] ++ List.replicate f.exponent '#'

end Scientific

namespace Align

def mark : Align → Char
  | left => '<'
  | center => '|'
  | right => '>'

end Align

namespace Shape

/-- The number of columns. -/
def width : Shape → Nat
  | text _ width => width
  | fixed f => f.width
  | scientific f => f.width
  | page width => width

/-- The marks after the introducer. -/
def marks : Shape → Text
  | text align width => List.replicate (width - 1) align.mark
  | fixed f => f.marks
  | scientific f => f.marks
  | page width => List.replicate (width - 1) '&'

/-- Is a number shown, be it fixed-point or with an exponent? -/
def isNumeric : Shape → Bool
  | fixed _ | scientific _ => true
  | _ => false

/-- Does the field have a point? -/
def hasRadix : Shape → Bool
  | fixed f => f.radix
  | scientific f => f.radix
  | _ => false

end Shape

/-- The characters that start a field: the second one starts a chomping field. -/
def isIntroducer (c : Char) : Bool := c = '@' || c = '^'

def introducer (chomp : Bool) : Char := if chomp then '^' else '@'

namespace Field

def width (f : Field) : Nat := f.shape.width

/-- The field as it is drawn in a picture. -/
def source (f : Field) : Text := introducer f.chomp :: f.shape.marks

end Field

/-! ## Reading the marks of a field -/

namespace Shape

/-- The length of the run of `mark` at the front, and what follows it. -/
def run (mark : Char) (t : Text) : Nat × Text :=
  ((t.takeWhile (· = mark)).length, t.dropWhile (· = mark))

/-- A point at the front, if there is one, and what follows it. -/
def point : Text → Bool × Text
  | '.' :: rest => (true, rest)
  | rest => (false, rest)

/-- One or more of one mark; the shape is `build` of the width, which counts the introducer. -/
def marksRule (mark : Char) (build : Nat → Shape) (t : Text) : Option (Shape × Text) :=
  match run mark t with
  | (0, _) => none
  | (count, rest) => some (build (count + 1), rest)

/-- Digits, perhaps a point, digits, a letter and one digit or more. -/
def scientificRule (t : Text) : Option (Shape × Text) :=
  let (whole, t) := run '#' t
  let (radix, t) := point t
  let (fraction, t) := run '#' t
  match t with
  | [] => none
  | c :: t =>
    match ExponentLetter.ofChar? c, run '#' t with
    | none, _ => none
    | some _, (0, _) => none
    | some letter, (exponent, rest) =>
      some (scientific ⟨whole, fraction, radix, letter, exponent⟩, rest)

/-- One digit or more, and perhaps a point and digits. -/
def wholeRule (t : Text) : Option (Shape × Text) :=
  match run '#' t with
  | (0, _) => none
  | (whole, t) =>
    let (radix, t) := point t
    let (fraction, rest) := run '#' t
    some (fixed ⟨whole + 1, fraction, radix⟩, rest)

/-- Perhaps digits, a point and one digit or more. -/
def fractionRule (t : Text) : Option (Shape × Text) :=
  let (whole, t) := run '#' t
  match point t with
  | (false, _) => none
  | (true, t) =>
    match run '#' t with
    | (0, _) => none
    | (fraction, rest) => some (fixed ⟨whole + 1, fraction, true⟩, rest)

/-- The rules in the order in which they are tried.  Each gives the shape and the text after its marks. -/
def rules : List (Text → Option (Shape × Text)) :=
  [marksRule '>' (text .right), marksRule '|' (text .center), scientificRule, wholeRule,
    fractionRule, marksRule '<' (text .left), marksRule '&' page]

/-- The shape that the marks at the front of a text give, and what follows them. -/
def read? (t : Text) : Option (Shape × Text) := rules.findSome? (· t)

end Shape

end PictureReport
