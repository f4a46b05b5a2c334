import PictureReport.Number.Decimal

/-!
# Double-precision numbers

A finite number is a sign, a mantissa and a power of two, kept exactly. Reading a ratio rounds it to
the nearest number, a tie to the even mantissa; the shortest decimal of a number is the one with
the fewest digits that rounds back to it.
-/

namespace PictureReport

/-- A binary floating-point number of 64 bits.  A finite one is `± mantissa · 2 ^ exponent` with a mantissa
below `2 ^ 53` that is at least `2 ^ 52` unless the exponent is `-1074`. -/
inductive Binary64 where
  | finite (negative : Bool) (mantissa : Nat) (exponent : Int)
  | infinite (negative : Bool)
  | nan
deriving DecidableEq, Repr

/-- The natural number nearest to `num / den`, the even one of two. -/
def roundHalfEven (num den : Nat) : Nat :=
  let quotient := num / den
  let twice := 2 * (num % den)
  if twice < den then quotient
  else if den < twice then quotient + 1
  else quotient + quotient % 2

/-- The ratio `num / den` over `base ^ power`, as a ratio of natural numbers. -/
def overPower (base : Nat) (num den : Nat) (power : Int) : Nat × Nat :=
  if 0 ≤ power then (num, den * base.pow power.toNat) else (num * base.pow (-power).toNat, den)

namespace Binary64

/-- The least exponent of a finite number. -/
def leastExponent : Int := -1074

/-- The greatest exponent of a finite number. -/
def greatestExponent : Int := 971

/-- No mantissa reaches `2 ^ 53`. -/
def mantissaBound : Nat := 9007199254740992

/-- The power of two of the first binary digit of `num / den`, both positive. -/
def leadingBit (num den : Nat) : Int :=
  let guess : Int := (num.log2 : Int) - den.log2
  let (n, d) := overPower 2 num den guess
  if d ≤ n then guess else guess - 1

/-- The number nearest to `± num / den`, infinite when the magnitude is too large. -/
def ofRatio (negative : Bool) (num den : Nat) : Binary64 :=
  if num = 0 then finite negative 0 leastExponent
  else
    let exponent := max (leadingBit num den - 52) leastExponent
    let (n, d) := overPower 2 num den exponent
    let mantissa := roundHalfEven n d
    let (mantissa, exponent) :=
      if mantissa = mantissaBound then (mantissaBound / 2, exponent + 1) else (mantissa, exponent)
    if greatestExponent < exponent then infinite negative else finite negative mantissa exponent

/-- The number nearest to a decimal.  Magnitudes of `10 ^ 310` and more are infinite and those below
`10 ^ -400` are zero, whatever their digits. -/
def ofDecimal (d : Decimal) : Binary64 :=
  if d.coefficient = 0 then finite d.negative 0 leastExponent
  else if 310 ≤ d.leading then infinite d.negative
  else if d.leading < -400 then finite d.negative 0 leastExponent
  else if 0 ≤ d.exponent then ofRatio d.negative (d.coefficient * Nat.pow 10 d.exponent.toNat) 1
  else ofRatio d.negative d.coefficient (Nat.pow 10 (-d.exponent).toNat)

/-- The magnitude of a finite number as a ratio of natural numbers. -/
def ratio (mantissa : Nat) (exponent : Int) : Nat × Nat :=
  if 0 ≤ exponent then (mantissa * Nat.pow 2 exponent.toNat, 1) else (mantissa, Nat.pow 2 (-exponent).toNat)

/-- The power of ten of the first decimal digit of `num / den`, both positive. -/
def leadingDigit (num den : Nat) : Int :=
  let guess : Int := ((decimalDigits num).length : Int) - (decimalDigits den).length
  let (n, d) := overPower 10 num den guess
  if d ≤ n then guess else guess - 1

/-- The two neighbours of `num / den` among the multiples of `10 ^ power`, the nearer one first and
of two equally near ones the even one. -/
def neighbours (num den : Nat) (power : Int) : List Nat :=
  let (n, d) := overPower 10 num den power
  let below := n / d
  if roundHalfEven n d = below then [below, below + 1] else [below + 1, below]

/-- The exact decimal of a finite number. -/
def exactDecimal (negative : Bool) (mantissa : Nat) (exponent : Int) : Decimal :=
  if 0 ≤ exponent then ⟨negative, mantissa * Nat.pow 2 exponent.toNat, 0⟩
  else ⟨negative, mantissa * Nat.pow 5 (-exponent).toNat, exponent⟩

/-- The decimals tried for a finite number: for each count of digits from one to seventeen the
neighbours with so many digits, and last the number itself. -/
def candidates (negative : Bool) (mantissa : Nat) (exponent : Int) : List Decimal :=
  let (num, den) := ratio mantissa exponent
  let first := leadingDigit num den
  (List.range 17).flatMap (fun (further : Nat) =>
    let power := first - further
    (neighbours num den power).map fun coefficient => ⟨negative, coefficient, power⟩) ++
  [exactDecimal negative mantissa exponent]

/-- The decimal with the fewest digits that rounds to the number, and of those the nearest one. -/
def shortest (negative : Bool) (mantissa : Nat) (exponent : Int) : Decimal :=
  if mantissa = 0 then ⟨negative, 0, 0⟩
  else
    let found := (candidates negative mantissa exponent).find? fun d =>
      ofDecimal d = finite negative mantissa exponent
    let d := found.getD (exactDecimal negative mantissa exponent)
    d.stripZeros (decimalDigits d.coefficient).length

/-- The integer part, toward zero. -/
def truncate (negative : Bool) (mantissa : Nat) (exponent : Int) : Int :=
  let (num, den) := ratio mantissa exponent
  if negative then -((num / den : Nat) : Int) else ((num / den : Nat) : Int)

/-- Is the number a zero of either sign? -/
def isZero : Binary64 → Bool
  | finite _ mantissa _ => mantissa = 0
  | _ => false

end Binary64

end PictureReport
