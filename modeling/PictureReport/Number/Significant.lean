import PictureReport.Number.Binary64

/-!
# Significant digits

A double-precision number rounded to a count of significant digits, a tie to the even digit, and
the two notations built on it: `exponential` always shows an exponent, `general` only outside the
range in which the digits reach the point.
-/

namespace PictureReport.Binary64

/-- The digits of `num / den` rounded to `count` significant digits, as one number, and the power of
ten of the first of them. -/
def significant (num den count : Nat) : Nat × Int :=
  if num = 0 then (0, 0)
  else
    let first := leadingDigit num den
    let (n, d) := overPower 10 num den (first + 1 - count)
    let digits := roundHalfEven n d
    if digits = Nat.pow 10 count then (Nat.pow 10 (count - 1), first + 1) else (digits, first)

/-- A fraction after its point; nothing when there is no digit. -/
def afterPoint (fraction : Text) : Text := if fraction.isEmpty then [] else '.' :: fraction

/-- An exponent with its letter, its sign and at least two digits. -/
def exponentPart (e : Int) : Text :=
  let digits := decimalDigits e.natAbs
  ['e', if e < 0 then '-' else '+'] ++ List.replicate (2 - digits.length) '0' ++ digits

/-- Exactly `count` digits: zeros stand in front of a shorter number. -/
def exactDigits (count : Nat) (n : Nat) : Text :=
  let digits := decimalDigits n
  List.replicate (count - digits.length) '0' ++ digits

/-- One digit, `precision` digits after the point, and the exponent. -/
def exponential (precision : Nat) (num den : Nat) : Text :=
  let (digits, first) := significant num den (precision + 1)
  let shown := exactDigits (precision + 1) digits
  shown.take 1 ++ afterPoint (shown.drop 1) ++ exponentPart first

/-- `precision` significant digits, at least one, without trailing zeros after the point; with an
exponent when the first digit is below `10 ^ -4` or beyond the digits shown. -/
def general (precision : Nat) (num den : Nat) : Text :=
  let count := max precision 1
  let (digits, first) := significant num den count
  if first < -4 ∨ (count : Int) ≤ first then
    let shown := exactDigits count digits
    shown.take 1 ++ afterPoint (Text.dropEnd (· = '0') (shown.drop 1)) ++ exponentPart first
  else
    let (whole, fraction) := Decimal.splitDigits (exactDigits count digits) (count - 1 - first).toNat
    whole ++ afterPoint (Text.dropEnd (· = '0') fraction)

/-- A number in the notation that `digits` gives its magnitude. -/
def inNotation (digits : Nat → Nat → Text) : Binary64 → Text
  | finite negative mantissa exponent =>
    let (num, den) := ratio mantissa exponent
    (if negative then ['-'] else []) ++ digits num den
  | infinite negative => (if negative then ['-'] else []) ++ ['i', 'n', 'f']
  | nan => ['n', 'a', 'n']

end PictureReport.Binary64
