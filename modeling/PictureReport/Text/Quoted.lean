import PictureReport.Text.Basic
import PictureReport.Text.Printable

/-!
# Quoted texts

Messages show a text between quotes, with escapes for the quote in use, the backslash and every
character that is not printable. Double quotes are used only for a text that has a single quote and
no double quote.
-/

namespace PictureReport.Text

/-- A digit of a lower-case hexadecimal numeral. -/
def hexDigit (value : Nat) : Char := if value < 10 then Char.ofNat (48 + value) else Char.ofNat (87 + value)

/-- The last `places` hexadecimal digits of a number. -/
def hex (n : Nat) : Nat → Text
  | 0 => []
  | places + 1 => hex (n / 16) places ++ [hexDigit (n % 16)]

/-- One character between the quotes `quote`. -/
def escape (quote : Char) (c : Char) : Text :=
  if c = quote || c = '\\' then ['\\', c]
  else if c = '\n' then ['\\', 'n']
  else if c = '\r' then ['\\', 'r']
  else if c = '\t' then ['\\', 't']
  else if isPrintable c then [c]
  else if c.toNat < 0x100 then ['\\', 'x'] ++ hex c.toNat 2
  else if c.toNat < 0x10000 then ['\\', 'u'] ++ hex c.toNat 4
  else ['\\', 'U'] ++ hex c.toNat 8

/-- The text between quotes. -/
def quoted (t : Text) : Text :=
  let quote := if t.contains '\'' && !t.contains '"' then '"' else '\''
  quote :: t.flatMap (escape quote) ++ [quote]

end PictureReport.Text
