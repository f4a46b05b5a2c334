import PictureReport.Terminal.Literal.Fault

/-!
# Quotations in expressions

A quotation is text between single quotes, or between three of them in a row, with letters before it
that tell its kind. Escapes in it must be whole unless it is raw, and a quotation of bytes has ASCII
characters only.
-/

namespace PictureReport.Literal

/-- A quotation without its quotes. -/
structure Quotation where
  raw : Bool
  bytes : Bool
  template : Bool
  body : Text
deriving DecidableEq, Repr

/-- The letters that may stand right before a quotation, in small letters. -/
def quotationMarks : List Text :=
  ["", "b", "r", "u", "f", "br", "rb", "fr", "rf"].map String.toList

/-- The length of what stands before the closing quotes, and whether there are any.  A character after a
backslash closes nothing, and only three quotes in a row close a `triple` quotation. -/
def bodyLength (quote : Char) (triple : Bool) : Text → Nat × Bool
  | [] => (0, false)
  | '\\' :: _ :: rest => let (length, closed) := bodyLength quote triple rest; (length + 2, closed)
  | c :: rest =>
    if c = quote && (!triple || rest.take 2 = [quote, quote]) then (0, true)
    else if c = '\n' && !triple then (0, false)
    else let (length, closed) := bodyLength quote triple rest; (length + 1, closed)

/-- The quotation with `mark` before it, from after its first quote on, and how many characters it has there.
It starts on `line`. -/
def quotationAt (line : Nat) (mark : Text) (quote : Char) (rest : Text) :
    Except Fault (Quotation × Nat) :=
  let triple := rest.take 2 = [quote, quote]
  let opening := if triple then 2 else 0
  let (length, closed) := bodyLength quote triple (rest.drop opening)
  let body := (rest.drop opening).take length
  let mark := mark.map Char.toLower
  if closed then
    .ok (⟨mark.contains 'r', mark.contains 'b', mark.contains 'f', body⟩,
      opening + length + (if triple then 3 else 1))
  else .error (.unfinishedText triple (line + body.count '\n'))

/-! ## Escapes -/

/-- The text with its characters beyond ASCII as escapes.  A backslash before one, or at the end, becomes an
escape too. -/
def plain : Text → Text
  | [] => []
  | ['\\'] => "\\u005c".toList
  | '\\' :: c :: rest =>
    if c.toNat < 128 then '\\' :: c :: plain rest
    else "\\u005c\\U".toList ++ Text.hex c.toNat 8 ++ plain rest
  | c :: rest =>
    if c.toNat < 128 then c :: plain rest else "\\U".toList ++ Text.hex c.toNat 8 ++ plain rest

def isHexDigit (c : Char) : Bool := c.isDigit || ('a' ≤ c.toLower && c.toLower ≤ 'f')

/-- How many hexadecimal digits follow the letter of an escape. -/
def escapeDigits? : Char → Option Nat
  | 'x' => some 2
  | 'u' => some 4
  | 'U' => some 8
  | _ => none

/-- Can the text be the name of a character?  Names are words of letters and digits, and no name is as short
as a letter. -/
def isCharacterName (name : Text) : Bool :=
  2 ≤ name.length && name.head?.any Char.isAlpha &&
    name.all fun c => c.isAlphanum || c = ' ' || c = '-'

/-- The number that hexadecimal digits write. -/
def hexNumber (digits : Text) : Nat :=
  digits.foldl (fun n c => 16 * n + (if c.isDigit then c.toNat - 48 else c.toLower.toNat - 87)) 0

/-- What is wrong with an escape, given by its letter and the text after it, and how many characters
after the letter belong to it. -/
def escapeFault (letter : Char) (rest : Text) : Option EscapeFault × Nat :=
  match escapeDigits? letter with
  | some digits =>
    let found := (rest.take digits).takeWhile isHexDigit
    if found.length < digits then (some (.truncated digits), found.length)
    else if 0x10ffff < hexNumber found then (some .beyondUnicode, digits)
    else (none, digits)
  | none =>
    if letter ≠ 'N' then (none, 0)
    else match rest with
      | '\x7b' :: named =>
        let name := named.takeWhile (· ≠ '\x7d')
        if name.length = named.length then (some .malformedName, rest.length)
        else if name.isEmpty then (some .malformedName, 1)
        else (if isCharacterName name then none else some .unknownName, name.length + 2)
      | _ => (some .malformedName, 0)

/-- Check the escapes of an ASCII text that is read from `position` on. -/
def checkEscapes (position : Nat) : Text → Except Fault Unit
  | '\\' :: letter :: rest =>
    match escapeFault letter rest with
    | (some fault, size) => .error (.badEscape position (position + size + 1) fault)
    | (none, size) => checkEscapes (position + size + 2) (rest.drop size)
  | _ :: rest => checkEscapes (position + 1) rest
  | [] => .ok ()
termination_by t => t.length
decreasing_by
  · simp only [List.length_drop, List.length_cons]; omega
  · simp only [List.length_cons]; omega

/-- Check the escapes of bytes that are read from `position` on. -/
def checkByteEscapes (position : Nat) : Text → Except Fault Unit
  | '\\' :: 'x' :: a :: b :: rest =>
    if isHexDigit a && isHexDigit b then checkByteEscapes (position + 4) rest
    else .error (.badByteEscape position)
  | '\\' :: 'x' :: _ => .error (.badByteEscape position)
  | '\\' :: _ :: rest => checkByteEscapes (position + 2) rest
  | _ :: rest => checkByteEscapes (position + 1) rest
  | [] => .ok ()

/-- Check a quotation that is no template. -/
def Quotation.check (quotation : Quotation) : Except Fault Unit :=
  if quotation.bytes && quotation.body.any (fun c => 128 ≤ c.toNat) then .error .foreignByte
  else if quotation.raw then .ok ()
  else if quotation.bytes then checkByteEscapes 0 quotation.body
  else checkEscapes 0 (plain quotation.body)

end PictureReport.Literal
