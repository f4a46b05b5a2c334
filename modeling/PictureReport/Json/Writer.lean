import PictureReport.Fault
import PictureReport.Value

/-!
# Writing JSON

Values are written on one line or indented by two spaces. Characters outside ASCII stand as they
are. Integers must fit into 64 bits, and a number that is not finite is written as null.
-/

namespace PictureReport.Json

/-- Numbers are written without exponent from `10 ^ -5` to below `10 ^ 16`; an exponent has its sign
and no leading zeros. -/
def writtenNumber : Decimal.Style := ⟨-5, 15, true, 1⟩

/-- One character within quotes. -/
def escape (c : Char) : Text :=
  match c with
  | '"' => ['\\', '"']
  | '\\' => ['\\', '\\']
  | '\x08' => ['\\', 'b']
  | '\x0c' => ['\\', 'f']
  | '\n' => ['\\', 'n']
  | '\r' => ['\\', 'r']
  | '\t' => ['\\', 't']
  | c => if c.toNat < 32 then ['\\', 'u'] ++ Text.hex c.toNat 4 else [c]

def quote (t : Text) : Text := '"' :: t.flatMap escape ++ ['"']

/-- A value that holds no others. -/
def scalarText : Value → Except Fault Text
  | .null => .ok "null".toList
  | .bool b => .ok (if b then "true".toList else "false".toList)
  | .int i => if -signedBound ≤ i ∧ i < unsignedBound then .ok (integerText i) else .error .wideInteger
  | .float (.finite negative mantissa exponent) =>
    .ok ((Binary64.shortest negative mantissa exponent).text writtenNumber)
  | .float _ => .ok "null".toList
  | .text t => .ok (quote t)
  | .list _ | .object _ => .ok []

mutual

/-- The value on one line, without spaces. -/
def compact : Value → Except Fault Text
  | .list items => do
    let parts ← compactItems items
    pure ('[' :: Text.joinWith [','] parts ++ [']'])
  | .object entries => do
    let parts ← compactEntries entries
    pure ('\x7b' :: Text.joinWith [','] parts ++ ['\x7d'])
  | value => scalarText value

def compactItems : List Value → Except Fault (List Text)
  | [] => .ok []
  | item :: rest => do
    let t ← compact item
    let others ← compactItems rest
    pure (t :: others)

def compactEntries : List (String × Value) → Except Fault (List Text)
  | [] => .ok []
  | (key, item) :: rest => do
    let t ← compact item
    let others ← compactEntries rest
    pure ((quote key.toList ++ [':'] ++ t) :: others)

end

/-- Parts on lines of their own between brackets, or the brackets alone without parts. -/
def block (left right : Char) (level : Nat) (parts : List Text) : Text :=
  if parts.isEmpty then [left, right]
  else
    let inner := '\n' :: Text.spaces (2 * level + 2)
    left :: inner ++ Text.joinWith (',' :: inner) parts ++ '\n' :: Text.spaces (2 * level) ++ [right]

mutual

/-- The value with its items and entries on lines of their own, `level` steps from the left. -/
def indented : Nat → Value → Except Fault Text
  | level, .list items => do
    let parts ← indentedItems (level + 1) items
    pure (block '[' ']' level parts)
  | level, .object entries => do
    let parts ← indentedEntries (level + 1) entries
    pure (block '\x7b' '\x7d' level parts)
  | _, value => scalarText value

def indentedItems : Nat → List Value → Except Fault (List Text)
  | _, [] => .ok []
  | level, item :: rest => do
    let t ← indented level item
    let others ← indentedItems level rest
    pure (t :: others)

def indentedEntries : Nat → List (String × Value) → Except Fault (List Text)
  | _, [] => .ok []
  | level, (key, item) :: rest => do
    let t ← indented level item
    let others ← indentedEntries level rest
    pure ((quote key.toList ++ [':', ' '] ++ t) :: others)

end

end PictureReport.Json
