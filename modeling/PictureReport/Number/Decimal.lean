import PictureReport.Text.Basic

/-!
# Decimal numerals

A decimal is a sign, a coefficient and a power of ten. It can be written out with a radix point and
no exponent (`positional`) or with one digit before the point and an exponent (`scientific`). Which
of the two a text uses is the decision of a `Decimal.Style`.
-/

namespace PictureReport

/-- The number `± coefficient · 10 ^ exponent`. -/
structure Decimal where
  negative : Bool
  coefficient : Nat
  exponent : Int
deriving DecidableEq, Repr

/-- The decimal digits of a natural number, the most significant first. -/
def decimalDigits (n : Nat) : Text := (Nat.toDigits 10 n)

/-- The text of an integer: its decimal digits after a minus sign if it is negative. -/
def integerText (i : Int) : Text :=
  if i < 0 then '-' :: decimalDigits i.natAbs else decimalDigits i.natAbs

/-- Signed integers of 64 bits are below this number and at least its negative. -/
def signedBound : Int := 9223372036854775808

/-- Unsigned integers of 64 bits are below this number. -/
def unsignedBound : Int := 18446744073709551616

namespace Decimal

def sign (d : Decimal) : Text := if d.negative then ['-'] else []

/-- The power of ten of the first digit. -/
def leading (d : Decimal) : Int := (decimalDigits d.coefficient).length - 1 + d.exponent

/-- Without the trailing zeros of the coefficient; the value stays.  At most `steps` zeros go. -/
def stripZeros (d : Decimal) : Nat → Decimal
  | 0 => d
  | steps + 1 =>
    if d.coefficient ≠ 0 ∧ d.coefficient % 10 = 0 then
      stripZeros { d with coefficient := d.coefficient / 10, exponent := d.exponent + 1 } steps
    else d

/-- Whole part and fraction of the digits `digits` with `places` of them behind the point: the whole
part has at least one digit. -/
def splitDigits (digits : Text) (places : Nat) : Text × Text :=
  let digits := List.replicate (places + 1 - digits.length) '0' ++ digits
  (digits.take (digits.length - places), digits.drop (digits.length - places))

/-- The numeral without exponent, and without point when nothing follows it. -/
def positional (d : Decimal) : Text :=
  let digits := decimalDigits d.coefficient
  if 0 ≤ d.exponent then
    d.sign ++ digits ++ List.replicate (if d.coefficient = 0 then 0 else d.exponent.toNat) '0'
  else
    let (whole, fraction) := splitDigits digits (-d.exponent).toNat
    d.sign ++ whole ++ ['.'] ++ fraction

/-- How a format writes numbers that may need an exponent. -/
structure Style where
  /-- The least power of ten of a first digit that is written without exponent. -/
  least : Int
  /-- The greatest power of ten of a first digit that is written without exponent. -/
  greatest : Int
  /-- Is a plus sign written before an exponent that is not negative? -/
  plus : Bool
  /-- The least number of digits of an exponent. -/
  exponentDigits : Nat

/-- The text of an exponent after the letter. -/
def exponentText (style : Style) (e : Int) : Text :=
  let digits := decimalDigits e.natAbs
  (if e < 0 then ['-'] else if style.plus then ['+'] else []) ++
    List.replicate (style.exponentDigits - digits.length) '0' ++ digits

/-- One digit, the point and the rest of the digits if there are more, and the exponent. -/
def scientific (style : Style) (d : Decimal) : Text :=
  match decimalDigits d.coefficient with
  | [] => []
  | first :: rest =>
    d.sign ++ [first] ++ (if rest.isEmpty then [] else '.' :: rest) ++ ['e'] ++
      exponentText style d.leading

/-- Is the number written with an exponent? -/
def needsExponent (style : Style) (d : Decimal) : Bool :=
  decide (d.leading < style.least) || decide (style.greatest < d.leading)

/-- The text of a number that is not known to be whole: a whole number shows one zero after the
point, and numbers outside the range of the style show an exponent. -/
def text (style : Style) (d : Decimal) : Text :=
  if d.coefficient ≠ 0 ∧ d.needsExponent style then d.scientific style
  else if 0 ≤ d.exponent then d.positional ++ ['.', '0']
  else d.positional

end Decimal

end PictureReport
