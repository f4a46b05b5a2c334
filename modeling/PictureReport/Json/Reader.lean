import PictureReport.Entries
import PictureReport.Number.Numeral
import PictureReport.Text.Lines
import PictureReport.Value

/-!
# Reading JSON

JSON texts are read into values. An object keeps its keys in order; of equal keys the last value
stands at the first place. What numbers are allowed is the matter of a `Dialect`.
-/

namespace PictureReport.Json

/-- How the numbers of a text are read. -/
inductive Dialect where
  /-- Numbers are finite.  An integer of more than 64 bits is a double-precision number. -/
  | strict
  /-- Integers have any size, and `NaN`, `Infinity` and magnitudes beyond the range are numbers. -/
  | lenient
  /-- Integers have any size.  A number with an exponent is one only if it has a point before it and a sign in
  it, and else is a text, as `NaN` and `Infinity` are. -/
  | plain
deriving DecidableEq, Repr

/-- How many lists and objects may stand within each other, if there is a limit. -/
def Dialect.nesting : Dialect → Option Nat
  | strict => some 1024
  | lenient => some 990
  | plain => none

/-- Why a text is not read. -/
inductive Refusal where
  | malformed
  /-- Too many lists and objects stand within each other; the innermost one is a list or not. -/
  | tooDeep (list : Bool)
  | tooManyDigits (digits : Nat)
deriving DecidableEq, Repr

def isSpace (c : Char) : Bool := c = ' ' || c = '\t' || c = '\n' || c = '\r'

def skipSpace (t : Text) : Text := t.dropWhile isSpace

/-! ## Strings -/

/-- The value of a hexadecimal digit. -/
def hexValue? (c : Char) : Option Nat :=
  let n := c.toNat
  if 48 ≤ n && n ≤ 57 then some (n - 48)
  else if 65 ≤ n && n ≤ 70 then some (n - 55)
  else if 97 ≤ n && n ≤ 102 then some (n - 87)
  else none

/-- The number that four hexadecimal digits write. -/
def hexUnit? (a b c d : Char) : Option Nat := do
  let a ← hexValue? a
  let b ← hexValue? b
  let c ← hexValue? c
  let d ← hexValue? d
  pure (((a * 16 + b) * 16 + c) * 16 + d)

/-- The character that a backslash and `c` stand for. -/
def escaped? (c : Char) : Option Char :=
  match c with
  | '"' => some '"'
  | '\\' => some '\\'
  | '/' => some '/'
  | 'b' => some '\x08'
  | 'f' => some '\x0c'
  | 'n' => some '\n'
  | 'r' => some '\r'
  | 't' => some '\t'
  | _ => none

/-- The code units of a string up to its closing quote, and the text after it.  A character is one unit; the
escapes of four digits may give halves of surrogate pairs. -/
def units : Text → Option (List Nat × Text)
  | [] => none
  | '"' :: rest => some ([], rest)
  | '\\' :: 'u' :: a :: b :: c :: d :: rest => do
    let unit ← hexUnit? a b c d
    let (others, rest) ← units rest
    pure (unit :: others, rest)
  | '\\' :: c :: rest => do
    let unit ← escaped? c
    let (others, rest) ← units rest
    pure (unit.toNat :: others, rest)
  | c :: rest =>
    if c.toNat < 32 then none
    else do
      let (others, rest) ← units rest
      pure (c.toNat :: others, rest)

def isHighSurrogate (unit : Nat) : Bool := 0xD800 ≤ unit && unit ≤ 0xDBFF

def isLowSurrogate (unit : Nat) : Bool := 0xDC00 ≤ unit && unit ≤ 0xDFFF

/-- The characters of code units.  Two halves of a surrogate pair make one character; a half alone is refused,
or replaced where `replace` says so. -/
def characters (replace : Bool) : List Nat → Option Text
  | [] => some []
  | high :: low :: rest =>
    if isHighSurrogate high && isLowSurrogate low then
      (characters replace rest).map
        (Char.ofNat (0x10000 + (high - 0xD800) * 0x400 + (low - 0xDC00)) :: ·)
    else if isHighSurrogate high || isLowSurrogate high then
      if replace then (characters replace (low :: rest)).map ('\ufffd' :: ·) else none
    else (characters replace (low :: rest)).map (Char.ofNat high :: ·)
  | [unit] =>
    if isHighSurrogate unit || isLowSurrogate unit then if replace then some ['\ufffd'] else none
    else some [Char.ofNat unit]

/-- The string after its opening quote, and the text after it. -/
def string (dialect : Dialect) (t : Text) : Except Refusal (Text × Text) :=
  match units t with
  | none => .error .malformed
  | some (codes, rest) =>
    match characters (dialect ≠ .strict) codes with
    | none => .error .malformed
    | some chars => .ok (chars, rest)

/-! ## Numbers -/

/-- The parts of a number. -/
structure NumberParts where
  negative : Bool
  whole : Text
  /-- The digits after the point, if there is one. -/
  fraction : Option Text
  /-- The exponent after its letter, if there is one, with its sign. -/
  exponent : Option (Char × Text)

/-- The digits at the front, at least one, and the text after them. -/
def digits? (t : Text) : Option (Text × Text) :=
  let found := t.takeWhile Numeral.isAsciiDigit
  if found.isEmpty then none else some (found, t.dropWhile Numeral.isAsciiDigit)

/-- The digits after a point at the front, if there is a point. -/
def fraction? : Text → Option (Option Text × Text)
  | '.' :: rest => (digits? rest).map fun (found, rest) => (some found, rest)
  | rest => some (none, rest)

/-- The exponent at the front with its letter and its sign, if there is one. -/
def exponentPart? : Text → Option (Option (Char × Text) × Text)
  | [] => some (none, [])
  | mark :: rest =>
    if mark = 'e' || mark = 'E' then
      match rest with
      | '+' :: more => (digits? more).map fun (found, rest) => (some (mark, '+' :: found), rest)
      | '-' :: more => (digits? more).map fun (found, rest) => (some (mark, '-' :: found), rest)
      | more => (digits? more).map fun (found, rest) => (some (mark, found), rest)
    else some (none, mark :: rest)

/-- The number at the front and the text after it.  Its whole part has no zero in front of other digits. -/
def numberParts? (t : Text) : Option (NumberParts × Text) := do
  let (negative, t) := match t with
    | '-' :: rest => (true, rest)
    | rest => (false, rest)
  let (whole, t) ← digits? t
  if whole.head? = some '0' && whole.length ≠ 1 then none
  else
    let (fraction, t) ← fraction? t
    let (exponent, t) ← exponentPart? t
    pure (⟨negative, whole, fraction, exponent⟩, t)

namespace NumberParts

/-- The number as it is written. -/
def source (parts : NumberParts) : Text :=
  (if parts.negative then ['-'] else []) ++ parts.whole ++
    (parts.fraction.elim [] ('.' :: ·)) ++ (parts.exponent.elim [] fun (mark, t) => mark :: t)

/-- The exponent, zero if none is written. -/
def exponentValue (parts : NumberParts) : Int :=
  match parts.exponent with
  | none => 0
  | some (_, t) =>
    let (negative, found) := Numeral.signed t
    Numeral.negateIf negative (Numeral.natural found)

/-- The number as a decimal. -/
def decimal (parts : NumberParts) : Decimal :=
  let fraction := parts.fraction.getD []
  ⟨parts.negative, Numeral.natural (parts.whole ++ fraction),
    parts.exponentValue - fraction.length⟩

/-- Has the exponent a sign? -/
def hasSignedExponent (parts : NumberParts) : Bool :=
  match parts.exponent with
  | some (_, '+' :: _) | some (_, '-' :: _) => true
  | _ => false

/-- The value of a number. -/
def value (dialect : Dialect) (parts : NumberParts) : Except Refusal Value :=
  if parts.fraction.isNone && parts.exponent.isNone then
    if dialect = .strict then
      let i := Numeral.negateIf parts.negative (Numeral.natural parts.whole)
      if -signedBound ≤ i ∧ i < unsignedBound then .ok (.int i)
      else match Binary64.ofDecimal parts.decimal with
        | .finite negative mantissa exponent => .ok (.float (.finite negative mantissa exponent))
        | _ => .error .malformed
    else if Numeral.maxDigits < parts.whole.length then
      .error (.tooManyDigits parts.whole.length)
    else .ok (.int (Numeral.negateIf parts.negative (Numeral.natural parts.whole)))
  else match dialect, Binary64.ofDecimal parts.decimal with
    | .strict, .infinite _ => .error .malformed
    | .plain, x =>
      if parts.exponent.isNone || (parts.fraction.isSome && parts.hasSignedExponent) then
        .ok (.float x)
      else .ok (.text parts.source)
    | _, x => .ok (.float x)

end NumberParts

/-! ## Values -/

/-- The words that stand for values. -/
def words (dialect : Dialect) : List (Text × Value) :=
  [("null".toList, .null), ("true".toList, .bool true), ("false".toList, .bool false)] ++
    match dialect with
    | .strict => []
    | .lenient =>
      [("NaN".toList, .float .nan), ("Infinity".toList, .float (.infinite false)),
        ("-Infinity".toList, .float (.infinite true))]
    | .plain =>
      [("NaN".toList, .text "NaN".toList), ("Infinity".toList, .text "Infinity".toList),
        ("-Infinity".toList, .text "-Infinity".toList)]

/-- The word at the front and the text after it. -/
def word? (dialect : Dialect) (t : Text) : Option (Value × Text) :=
  (words dialect).findSome? fun (word, value) =>
    if word.isPrefixOf t then some (value, t.drop word.length) else none

/-- The word or number at the front and the text after it. -/
def scalar (dialect : Dialect) (t : Text) : Except Refusal (Value × Text) :=
  match word? dialect t with
  | some found => .ok found
  | none =>
    match numberParts? t with
    | none => .error .malformed
    | some (parts, rest) => (parts.value dialect).map (·, rest)

/-- One level below `level`. -/
def deeper (dialect : Dialect) (level : Nat) (list : Bool) : Except Refusal Nat :=
  match dialect.nesting with
  | some most => if level < most then .ok (level + 1) else .error (.tooDeep list)
  | none => .ok (level + 1)

mutual

/-- The value at the front, within `level` lists and objects, and the text after it.  Each step into it takes
a character, so a `depth` of the length of the text is enough. -/
def value (dialect : Dialect) (level : Nat) : Nat → Text → Except Refusal (Value × Text)
  | 0, _ => .error .malformed
  | depth + 1, t =>
    match t with
    | '"' :: rest => do
      let (chars, rest) ← string dialect rest
      pure (.text chars, rest)
    | '[' :: rest => do
      let level ← deeper dialect level true
      let (items, rest) ← match skipSpace rest with
        | ']' :: rest => .ok ([], rest)
        | rest => items dialect level depth rest
      pure (.list items, rest)
    | '\x7b' :: rest => do
      let level ← deeper dialect level false
      let (entries, rest) ← match skipSpace rest with
        | '\x7d' :: rest => .ok ([], rest)
        | rest => entries dialect level depth rest
      pure (.object (Entries.ofPairs entries), rest)
    | t => scalar dialect t

/-- The items of a list, at least one, up to its bracket. -/
def items (dialect : Dialect) (level : Nat) : Nat → Text → Except Refusal (List Value × Text)
  | 0, _ => .error .malformed
  | depth + 1, t => do
    let (item, rest) ← value dialect level depth (skipSpace t)
    match skipSpace rest with
    | ']' :: rest => pure ([item], rest)
    | ',' :: rest =>
      let (others, rest) ← items dialect level depth rest
      pure (item :: others, rest)
    | _ => .error .malformed

/-- The entries of an object, at least one, up to its brace. -/
def entries (dialect : Dialect) (level : Nat) : Nat → Text → Except Refusal (List (String × Value) × Text)
  | 0, _ => .error .malformed
  | depth + 1, t =>
    match skipSpace t with
    | '"' :: rest => do
      let (key, rest) ← string dialect rest
      match skipSpace rest with
      | ':' :: rest =>
        let (item, rest) ← value dialect level depth (skipSpace rest)
        match skipSpace rest with
        | '\x7d' :: rest => pure ([(Text.str key, item)], rest)
        | ',' :: rest =>
          let (others, rest) ← entries dialect level depth rest
          pure ((Text.str key, item) :: others, rest)
        | _ => .error .malformed
      | _ => .error .malformed
    | _ => .error .malformed

end

/-- The value that a text writes, with spaces around it. -/
def read (dialect : Dialect) (t : Text) : Except Refusal Value := do
  let (found, rest) ← value dialect 0 (t.length + 1) (skipSpace t)
  if (skipSpace rest).isEmpty then pure found else .error .malformed

end PictureReport.Json
