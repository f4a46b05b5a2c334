import PictureReport.Number.Binary64
import PictureReport.Text.Digit
import PictureReport.Text.Quoted

/-!
# Reading numerals

Integers and double-precision numbers are read from texts that may have blanks around them, a sign,
digits of any script and single underscores between digits. A number that is not whole may have a
point and an exponent, or be written `inf`, `infinity` or `nan` in any case.
-/

namespace PictureReport

/-- Why a text or a number is no integer. -/
inductive NumberFault where
  | notInteger (source : Text)
  | tooManyDigits (digits : Nat)
  | infinite
  | notNumber
deriving DecidableEq, Repr

namespace Numeral

/-- The most digits an integer may have. -/
def maxDigits : Nat := 4300

/-- One character of a numeral in ASCII: blanks of other scripts become spaces and digits their
ASCII digits; any other character becomes one that no numeral has. -/
def plainChar (c : Char) : Char :=
  if c.toNat < 127 then c
  else if isBlank c then ' '
  else match Digit.value? c with
    | some value => Digit.ofValue value
    | none => '?'

/-- The blanks of ASCII, which may stand around a numeral. -/
def isMargin (c : Char) : Bool := (9 ≤ c.toNat && c.toNat ≤ 13) || c = ' '

/-- The text in ASCII without the blanks around it. -/
def plain (t : Text) : Text := Text.dropEnd isMargin ((t.map plainChar).dropWhile isMargin)

def isAsciiDigit (c : Char) : Bool := 48 ≤ c.toNat && c.toNat ≤ 57

/-- The number written with ASCII digits. -/
def natural (digits : Text) : Nat := digits.foldl (fun n c => 10 * n + (c.toNat - 48)) 0

/-- The sign in front, `true` for minus, and the rest. -/
def signed : Text → Bool × Text
  | '-' :: rest => (true, rest)
  | '+' :: rest => (false, rest)
  | rest => (false, rest)

/-- The text without its underscores, provided that each stands between two digits; `last` is the
character before the text. -/
def ungroup (last : Char) : Text → Option Text
  | [] => if last = '_' then none else some []
  | c :: rest =>
    if c = '_' then if isAsciiDigit last then ungroup c rest else none
    else if last = '_' && !isAsciiDigit c then none
    else (ungroup c rest).map (c :: ·)

def negateIf (negative : Bool) (n : Nat) : Int := if negative then -(n : Int) else n

/-- The integer that a text writes.  The count of digits is checked as soon as the digits are well grouped,
whatever follows them. -/
def integer (t : Text) : Except NumberFault Int :=
  let (negative, rest) := signed (plain t)
  let run := rest.takeWhile fun c => isAsciiDigit c || c = '_'
  match ungroup ' ' run with
  | none => .error (.notInteger t)
  | some digits =>
    if maxDigits < digits.length then .error (.tooManyDigits digits.length)
    else if digits.isEmpty || run.length < rest.length then .error (.notInteger t)
    else .ok (negateIf negative (natural digits))

/-- The exponent after the digits of a numeral; no exponent is an exponent of zero. -/
def exponent? : Text → Option Int
  | [] => some 0
  | mark :: rest =>
    if mark = 'e' || mark = 'E' then
      let (negative, digits) := signed rest
      if digits.isEmpty || !digits.all isAsciiDigit then none
      else some (negateIf negative (natural digits))
    else none

/-- The decimal written by digits with at most one point among them and perhaps an exponent. -/
def decimal? (negative : Bool) (t : Text) : Option Decimal :=
  let whole := t.takeWhile isAsciiDigit
  let rest := t.dropWhile isAsciiDigit
  let (fraction, rest) := match rest with
    | '.' :: more => (more.takeWhile isAsciiDigit, more.dropWhile isAsciiDigit)
    | _ => ([], rest)
  if whole.isEmpty && fraction.isEmpty then none
  else (exponent? rest).map fun e => ⟨negative, natural (whole ++ fraction), e - fraction.length⟩

/-- The double-precision number that a text writes. -/
def number? (t : Text) : Option Binary64 :=
  let (negative, rest) := signed (plain t)
  let word := rest.map Char.toLower
  if word = "inf".toList ∨ word = "infinity".toList then some (.infinite negative)
  else if word = "nan".toList then some .nan
  else do
    let digits ← ungroup ' ' rest
    let d ← decimal? negative digits
    pure (Binary64.ofDecimal d)

end Numeral

/-- The integer part of a double-precision number, which only a finite one has. -/
def Binary64.toInteger : Binary64 → Except NumberFault Int
  | finite negative mantissa exponent => .ok (truncate negative mantissa exponent)
  | infinite _ => .error .infinite
  | nan => .error .notNumber

/-- What is said about a text or a number that is no integer.  The quoted text is cut after two hundred
characters. -/
def NumberFault.message : NumberFault → String
  | notInteger source =>
    "invalid literal for int() with base 10: " ++ Text.str (source.quoted.take 200)
  | tooManyDigits digits =>
    "Exceeds the limit (4300 digits) for integer string conversion: value has " ++
      Text.str (decimalDigits digits) ++ " digits; use sys.set_int_max_str_digits() to increase the limit"
  | infinite => "cannot convert float infinity to integer"
  | notNumber => "cannot convert float NaN to integer"

end PictureReport
