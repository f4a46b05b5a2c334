import PictureReport.Fault
import PictureReport.Number.Significant
import PictureReport.Picture.Line

/-!
# Formatting a value

The text of a value is put into the columns of a field (`Field.format`). Texts are cut or, in a
chomping field, broken at a space; numbers are rounded to the places of the picture; a page field shows
the page number.
-/

namespace PictureReport

/-- What goes wrong without stopping a report. -/
inductive Warning where
  /-- A text in a field for numbers with exponent is no number. -/
  | notNumeric (t : Text) (f : Field)
  /-- A repeated line left its variables as they were. -/
  | noProgress (picture : Text)
deriving DecidableEq, Repr

def Warning.message : Warning → String
  | notNumeric t f =>
    "cannot format " ++ Text.str t.quoted ++ " as " ++ f.source.str ++ ", leaving it blank"
  | noProgress picture =>
    "repeat line " ++ Text.str picture.quoted ++ " made no progress, stopping"

namespace Text

/-- The text in `width` columns. -/
def justify (align : Align) (t : Text) (width : Nat) : Text :=
  match align with
  | .left => t.padRight width
  | .center => t.padBoth width
  | .right => t.padLeft width

/-- The index of the last space, if there is one. -/
def lastSpace? : Text → Option Nat
  | [] => none
  | c :: rest =>
    match lastSpace? rest with
    | some i => some (i + 1)
    | none => if c = ' ' then some 0 else none

/-- How many characters of a text are shown in `width` columns: all of them if they fit, else those
before the last space among the first `width + 1`, and without a space as many as there are
columns. -/
def shownLength (t : Text) (width : Nat) : Nat :=
  if t.length ≤ width then t.length else (lastSpace? (t.take (width + 1))).getD width

/-- The part of a text that is shown in `width` columns, and the rest without leading blanks. -/
def chomp (t : Text) (width : Nat) : Text × Text :=
  (t.take (t.shownLength width), trimLeft (t.drop (t.shownLength width)))

/-- As `chomp`, but a negative width is counted from the end of the text. -/
def chompAt (t : Text) : Int → Text × Text
  | .ofNat width => t.chomp width
  | .negSucc off =>
    let length := (lastSpace? (if off = 0 then [] else t.take (t.length - off))).getD
      (t.length - (off + 1))
    (t.take length, trimLeft (t.drop length))

end Text

namespace FixedPoint

/-- Add one to the last digit of the reversed digits; nines carry.  A carry stops before a character that is
no digit and is lost in front of the first one.  A digit that has no decimal value cannot be raised. -/
def carry : Text → Except NumberFault Text
  | [] => .ok []
  | c :: rest =>
    if !Digit.isDigit c then .ok (c :: rest)
    else if c = '9' then do
      let raised ← carry rest
      pure ('0' :: raised)
    else match Digit.value? c with
      | some value => .ok ((decimalDigits (value + 1)).reverse ++ rest)
      | none => .error (.notInteger [c])

/-- Is the first of the dropped characters a digit from five up? -/
def roundsUp : Text → Except NumberFault Bool
  | [] => .ok false
  | c :: _ =>
    if !Digit.isDigit c then .ok false
    else match Digit.value? c with
      | some value => .ok (5 ≤ value)
      | none => .error (.notInteger [c])

/-- The first `keep` characters of a fraction that is extended by `pad` zeros, rounded half up on the digit
after them.  A carry out of the fraction is dropped. -/
def roundFraction (fraction : Text) (pad keep : Nat) : Except NumberFault Text := do
  let digits := fraction ++ List.replicate pad '0'
  let kept := digits.take keep
  if ← roundsUp (digits.drop keep) then
    let raised ← carry kept.reverse
    pure raised.reverse
  else pure kept

/-- As `roundFraction`, but a negative count leaves so many characters off at the end, and then
nothing is rounded. -/
def roundFractionAt (fraction : Text) (pad : Nat) : Int → Except NumberFault Text
  | .ofNat keep => roundFraction fraction pad keep
  | .negSucc off => do
    let digits := fraction ++ List.replicate pad '0'
    let kept := digits.take (digits.length - (off + 1))
    let _ ← roundsUp (if off = 0 || digits.length ≤ off then [] else digits.drop kept.length)
    pure kept

/-- A number in the columns of a fixed-point field.  The whole part is never cut: where it is wider than the
picture the fraction gives up columns.  A single character is not rounded and stays at the left. -/
def format (f : FixedPoint) (t : Text) : Except NumberFault Text :=
  if t.length = 1 then .ok (t.padRight f.width)
  else do
    let parts := Text.separate '.' t
    let whole := parts.headD []
    let fraction := (parts[1]?).getD []
    let space :=
      if f.whole < whole.length then f.width - whole.length else f.fraction + radixWidth f.radix
    let tail ←
      if space = 0 then pure []
      else if space = 1 then pure ['.']
      else do
        let rounded ← roundFraction fraction f.fraction (space - 1)
        pure ('.' :: rounded)
    pure ((whole ++ tail).padLeft f.width)

end FixedPoint

namespace Scientific

/-- The number in the notation of the field, without padding. -/
def digits (f : Scientific) (x : Binary64) : Text :=
  let shown :=
    if f.letter.general then x.inNotation (Binary64.general f.precision)
    else x.inNotation (Binary64.exponential f.precision)
  if f.letter.upper then shown.map Char.toUpper else shown

/-- A number in the columns of the field; a longer one sticks out.  What is no number leaves the field blank,
and the flag tells whether there was anything to read. -/
def format (f : Scientific) (t : Text) : Text × Bool :=
  if (Text.trim t).isEmpty then (Text.spaces f.width, true)
  else match Numeral.number? t with
    | some x => ((f.digits x).padLeft f.width, true)
    | none => (Text.spaces f.width, false)

end Scientific

/-- What a field makes of a value. -/
structure Formatted where
  text : Text
  /-- What is left for the variable of a chomping text field. -/
  rest : Option Text
  warnings : List Warning
deriving DecidableEq, Repr

namespace Field

/-- The text that is put into the columns of the field, or why there is none: a page field shows the
number of the page, any other field the value. -/
def given (f : Field) (value : Value) (page : Int) : Except ShowFault Text :=
  match f.shape with
  | .page _ => (Value.int page).stringify
  | .fixed _ => value.stringifyPlain
  | .scientific _ | .text _ _ => value.stringify

/-- A text in the columns of the field.  The rest of it is kept only where `writable` says that there is a
variable to hold it; elsewhere the text is cut. -/
def fit (f : Field) (t : Text) (writable : Bool) : Except NumberFault Formatted :=
  match f.shape with
  | .page width => .ok ⟨t.padBoth width, none, []⟩
  | .fixed number => do
    let rounded ← number.format t
    pure ⟨rounded, none, []⟩
  | .scientific number =>
    let (shown, known) := number.format t
    .ok ⟨shown, none, if known then [] else [.notNumeric t f]⟩
  | .text align width =>
    if f.chomp && writable then
      let (shown, rest) := t.chomp width
      .ok ⟨Text.justify align shown width, some rest, []⟩
    else .ok ⟨Text.justify align (t.take width) width, none, []⟩

/-- The value in the columns of the field on page `page`. -/
def format (f : Field) (value : Value) (page : Int) (writable : Bool) : Except Fault Formatted :=
  match f.given value page with
  | .error fault => .error (.noText fault)
  | .ok t => (f.fit t writable).mapError .number

end Field

end PictureReport
