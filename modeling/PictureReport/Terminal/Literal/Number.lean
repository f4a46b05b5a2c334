import PictureReport.Terminal.Literal.Fault

/-!
# Numbers in expressions

A number has decimal digits, perhaps with a fraction, an exponent and an imaginary mark, or digits of
another base after its mark. Single underscores may stand between digits. `numberEnd` takes a number
from the front of a text and gives what follows it.
-/

namespace PictureReport.Literal

/-- Must the character not stand right after a number? -/
def joinsNumber (c : Char) : Bool := c.isAlphanum || c = '_'

/-- The words that may follow a number without a blank. -/
def wordsAfterNumber : List Text :=
  ["and", "else", "for", "if", "in", "is", "or", "not"].map String.toList

/-- The text after a number, which must not go on with it. -/
def endNumber (kind : String) (rest : Text) : Except Fault Text :=
  if wordsAfterNumber.any (·.isPrefixOf rest) then .ok rest
  else if rest.head?.any joinsNumber then .error (.badNumber kind)
  else .ok rest

/-- The text after decimal digits; an underscore must stand before one. -/
def digitsEnd : Text → Except Fault Text
  | [] => .ok []
  | '_' :: rest =>
    if rest.head?.any Char.isDigit then digitsEnd rest else .error (.badNumber "decimal")
  | c :: rest => if c.isDigit then digitsEnd rest else .ok (c :: rest)

/-- The text after digits of another base, where `owns` tells its digits; one is `needed` first. -/
def radixEnd (kind : String) (owns : Char → Bool) (needed : Bool) : Text → Except Fault Text
  | [] => if needed then .error (.badNumber kind) else .ok []
  | c :: rest =>
    if owns c then radixEnd kind owns false rest
    else if c = '_' && !needed then radixEnd kind owns true rest
    else if c.isDigit then .error (.badDigit c kind)
    else if needed then .error (.badNumber kind)
    else endNumber kind (c :: rest)

/-- The text after a number of another base, from its mark on. -/
def basedEnd (kind : String) (owns : Char → Bool) : Text → Except Fault Text
  | '_' :: rest => radixEnd kind owns true rest
  | rest => radixEnd kind owns true rest

/-- Is the character an exponent's mark? -/
def isExponentMark (c : Char) : Bool := c = 'e' || c = 'E'

/-- Is the character an imaginary mark? -/
def isImaginaryMark (c : Char) : Bool := c = 'j' || c = 'J'

/-- The text after a number whose exponent, if there is one, is read, and whether the number is
imaginary. -/
def markEnd : Text → Except Fault (Text × Bool)
  | c :: rest =>
    if isImaginaryMark c then (endNumber "imaginary" rest).map (·, true)
    else (endNumber "decimal" (c :: rest)).map (·, false)
  | [] => .ok ([], false)

/-- The text after a number whose whole part and fraction are read. -/
def exponentEnd : Text → Except Fault (Text × Bool)
  | [] => .ok ([], false)
  | mark :: rest =>
    if !isExponentMark mark then markEnd (mark :: rest)
    else if rest.head?.any Char.isDigit then digitsEnd rest >>= markEnd
    else if rest.head?.any (fun c => c = '+' || c = '-') then
      if (rest.drop 1).head?.any Char.isDigit then digitsEnd (rest.drop 1) >>= markEnd
      else .error (.badNumber "decimal")
    else (endNumber "decimal" (mark :: rest)).map (·, false)

/-- The text after a number whose whole part is read. -/
def fractionEnd : Text → Except Fault (Text × Bool)
  | '.' :: rest =>
    if rest.head?.any Char.isDigit then digitsEnd rest >>= exponentEnd else exponentEnd rest
  | rest => exponentEnd rest

/-- The text after a number with decimal digits.  A whole number that is not zero must not start with a zero.
-/
def decimalEnd (t : Text) : Except Fault (Text × Bool) := do
  let rest ← if t.head? = some '.' then pure t else digitsEnd t
  let whole := t.take (t.length - rest.length)
  let goesOn := rest.head?.any fun c => c = '.' || isExponentMark c || isImaginaryMark c
  if whole.head? = some '0' && whole.any (fun c => c ≠ '0' && c ≠ '_') && !goesOn then
    throw .leadingZeros
  else fractionEnd rest

/-- The text after the number at the front, and whether the number is imaginary. -/
def numberEnd : Text → Except Fault (Text × Bool)
  | '0' :: mark :: rest =>
    if mark = 'x' || mark = 'X' then
      (basedEnd "hexadecimal"
        (fun c => c.isDigit || ('a' ≤ c.toLower && c.toLower ≤ 'f')) rest).map (·, false)
    else if mark = 'o' || mark = 'O' then
      (basedEnd "octal" (fun c => '0' ≤ c && c ≤ '7') rest).map (·, false)
    else if mark = 'b' || mark = 'B' then
      (basedEnd "binary" (fun c => c = '0' || c = '1') rest).map (·, false)
    else decimalEnd ('0' :: mark :: rest)
  | t => decimalEnd t

end PictureReport.Literal
