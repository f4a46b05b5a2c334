import PictureReport.Text.Letters
import PictureReport.Terminal.Literal.Number
import PictureReport.Terminal.Literal.Quotation

/-!
# Tokens of expressions

A text is cut into numbers, quotations, words and signs. Lines matter only outside of brackets. A
fault that the characters themselves show ends the tokens; one that shows only how the text breaks
off counts where it is reached.
-/

namespace PictureReport.Literal

namespace Token

inductive Kind where
  | number (imaginary : Bool)
  | quotation (quotation : Quotation)
  | keyword (word : Text)
  | name (word : Text)
  | sign (sign : Text)
  | lineEnd
  | indent
  | finish
deriving DecidableEq, Repr

end Token

/-- A token with the number of brackets that are open after it and the line it stands on. -/
structure Token where
  kind : Token.Kind
  depth : Nat
  line : Nat
deriving DecidableEq, Repr

/-- An open bracket and its line. -/
structure Bracket where
  sign : Char
  line : Nat
deriving DecidableEq, Repr

/-- How the tokens of a text end. -/
inductive Ending where
  | whole
  /-- The characters are at fault, and nothing else counts. -/
  | broken (fault : Fault)
  /-- The text breaks off within `bracket`; `tight` if the last token ends it and could go on. -/
  | cut (fault : Fault) (bracket : Option Bracket) (tight : Bool)
deriving DecidableEq, Repr

/-- Words that are no names. -/
def keywords : List Text :=
  ["False", "None", "True", "and", "as", "assert", "async", "await", "break", "class", "continue",
    "def", "del", "elif", "else", "except", "finally", "for", "from", "global", "if", "import", "in",
    "is", "lambda", "nonlocal", "not", "or", "pass", "raise", "return", "try", "while", "with",
    "yield"].map String.toList

/-- Signs of more than one character, the longest ones first. -/
def longSigns : List Text :=
  ["**=", "...", "//=", "<<=", ">>=", "!=", "%=", "&=", "**", "*=", "+=", "-=", "->", "//", "/=",
    ":=", "<<", "<=", "<>", "==", ">=", ">>", "@=", "^=", "|="].map String.toList

/-- Is the character read on with a word, be it allowed there or not? -/
def joinsWord (c : Char) : Bool := c.isAlphanum || c = '_' || 128 ≤ c.toNat

/-- The first character of a word that must not stand there. -/
def strangeIn? : Text → Option Char
  | [] => none
  | c :: rest => if isNameStart c then rest.find? (!isNameChar ·) else some c

def strange (c : Char) : Fault := if isPrintable c then .strangeCharacter c else .hiddenCharacter c

/-- A word that stands before no quotation, and how many characters after its first one belong to
it. -/
def plainWord (word : Text) : Except Fault (Token.Kind × Nat) :=
  match strangeIn? word with
  | some c => .error (strange c)
  | none => .ok (if keywords.contains word then .keyword word else .name word, word.length - 1)

/-- The word that starts with `c`, or the quotation that it stands before, and how many characters
after `c` belong to it. -/
def wordAt (line : Nat) (c : Char) (rest : Text) : Except Fault (Token.Kind × Nat) :=
  let word := c :: rest.takeWhile joinsWord
  match rest.drop (word.length - 1) with
  | quote :: after =>
    if (quote = '"' || quote = '\'') && quotationMarks.contains (word.map Char.toLower) then
      (quotationAt line word quote after).map fun (quotation, length) =>
        (.quotation quotation, word.length + length)
    else plainWord word
  | [] => plainWord word

/-- The token that starts with `c`, and how many characters after `c` belong to it. -/
def tokenAt (line : Nat) (c : Char) (rest : Text) : Except Fault (Token.Kind × Nat) :=
  if c = '"' || c = '\'' then
    (quotationAt line [] c rest).map fun (quotation, length) => (.quotation quotation, length)
  else if c.isDigit || (c = '.' && rest.head?.any Char.isDigit) then
    (numberEnd (c :: rest)).map fun (after, imaginary) =>
      (.number imaginary, rest.length - after.length)
  else if joinsWord c then wordAt line c rest
  else if !isPrintable c then .error (.hiddenCharacter c)
  else match longSigns.find? (·.isPrefixOf (c :: rest)) with
    | some sign => .ok (.sign sign, sign.length - 1)
    | none => .ok (.sign [c], 0)

/-! ## Brackets and lines -/

/-- Where the cut into tokens stands. -/
structure Place where
  line : Nat
  /-- The open brackets, the innermost one first. -/
  opened : List Bracket
  /-- The columns that lines around this one start in, the innermost one first. -/
  columns : List Nat
  /-- There is no token on the line so far. -/
  blank : Bool
  /-- The last token is no quotation, and nothing follows it so far. -/
  tight : Bool
deriving DecidableEq, Repr

/-- The closing bracket of an opening one. -/
def partner? : Char → Option Char
  | '(' => some ')'
  | '[' => some ']'
  | '\x7b' => some '\x7d'
  | _ => none

def isClosing (c : Char) : Bool := c = ')' || c = ']' || c = '\x7d'

/-- The greatest number of brackets that may be open. -/
def maxBrackets : Nat := 200

/-- The open brackets after a sign on `line`. -/
def brackets (line : Nat) (opened : List Bracket) (c : Char) : Except Fault (List Bracket) :=
  if (partner? c).isSome then
    if maxBrackets ≤ opened.length then .error .tooManyBrackets else .ok (⟨c, line⟩ :: opened)
  else if isClosing c then
    match opened with
    | [] => .error (.unmatched c)
    | bracket :: others =>
      if partner? bracket.sign = some c then .ok others
      else
        .error (.mismatched c bracket.sign (if bracket.line = line then none else some bracket.line))
  else .ok opened

/-- The place after a token. -/
def Place.after (place : Place) (kind : Token.Kind) : Except Fault Place := do
  let opened ←
    match kind with
    | .sign [c] => brackets place.line place.opened c
    | _ => pure place.opened
  match kind with
  | .quotation quotation =>
    pure ⟨place.line + quotation.body.count '\n', opened, place.columns, false, false⟩
  | _ => pure ⟨place.line, opened, place.columns, false, true⟩

/-- The end of tokens where the text ends. -/
def Place.close (place : Place) (tight : Bool) : Ending :=
  match place.opened with
  | [] => .cut .unfinishedLine none false
  | bracket :: _ => .cut (.neverClosed bracket.sign) (some bracket) tight

def Place.strayBackslash (place : Place) : Ending := .cut .strayBackslash place.opened.head? false

/-- The column of the first token of a line, how many lines are joined to it by backslashes before it, and how
many characters stand before it.  There is none after a stray backslash. -/
def indentation (column : Nat) : Text → Option (Nat × Nat × Nat)
  | ' ' :: rest => (indentation (column + 1) rest).map fun (c, lines, size) => (c, lines, size + 1)
  | '\t' :: rest =>
    (indentation ((column / 8 + 1) * 8) rest).map fun (c, lines, size) => (c, lines, size + 1)
  | '\x0c' :: rest => (indentation 0 rest).map fun (c, lines, size) => (c, lines, size + 1)
  | '\\' :: '\n' :: rest =>
    (indentation column rest).map fun (c, lines, size) => (c, lines + 1, size + 2)
  | '\\' :: _ => none
  | _ => some (column, 0, 0)

/-- Start a line: the token for a greater column, if there is one, the place of the first character, and how
many characters stand before it.  Lines without a token have no column. -/
def Place.startLine (place : Place) (t : Text) : Except Ending (List Token × Place × Nat) :=
  match indentation 0 t with
  | none => .error place.strayBackslash
  | some (column, lines, size) =>
    let line := place.line + lines
    let place := { place with line := line, blank := true, tight := false }
    let next := (t.drop size).head?
    if next = none || next = some '#' || next = some '\n' then .ok ([], place, size)
    else if place.columns.head?.any (· < column) then
      .ok ([⟨.indent, 0, line⟩], { place with columns := column :: place.columns }, size)
    else
      let columns := place.columns.dropWhile (column < ·)
      if columns.head? = some column then .ok ([], { place with columns := columns }, size)
      else .error (.cut .badUnindent none false)

/-- The tokens of a text from `place` on, and how they end. -/
def tokensFrom (place : Place) : Text → List Token × Ending
  | [] =>
    if place.opened.isEmpty then ([⟨.finish, 0, place.line⟩], .whole)
    else ([], place.close place.tight)
  | c :: rest =>
    if c = ' ' || c = '\t' || c = '\x0c' then tokensFrom { place with tight := false } rest
    else if c = '#' then
      tokensFrom { place with tight := false } (rest.drop (rest.takeWhile (· ≠ '\n')).length)
    else if c = '\n' then
      if place.opened.isEmpty then
        let ended := if place.blank then [] else [⟨.lineEnd, 0, place.line⟩]
        match Place.startLine { place with line := place.line + 1 } rest with
        | .error ending => (ended, ending)
        | .ok (indent, next, size) =>
          let (others, ending) := tokensFrom next (rest.drop size)
          (ended ++ indent ++ others, ending)
      else tokensFrom { place with line := place.line + 1, tight := false } rest
    else if c = '\\' then
      if rest.head? ≠ some '\n' then ([], place.strayBackslash)
      else if rest.length = 1 then ([], place.close false)
      else tokensFrom { place with line := place.line + 1, tight := false } (rest.drop 1)
    else match tokenAt place.line c rest with
      | .error fault => ([], .broken fault)
      | .ok (kind, more) =>
        match place.after kind with
        | .error fault => ([], .broken fault)
        | .ok next =>
          let (others, ending) := tokensFrom next (rest.drop more)
          (⟨kind, next.opened.length, place.line⟩ :: others, ending)
termination_by t => t.length
decreasing_by all_goals simp only [List.length_drop, List.length_cons]; omega

/-- The text with one kind of line ends. -/
def unifyLines : Text → Text
  | '\r' :: '\n' :: rest => '\n' :: unifyLines rest
  | '\r' :: rest => '\n' :: unifyLines rest
  | c :: rest => c :: unifyLines rest
  | [] => []

/-- The tokens of a text, and how they end. -/
def tokens (t : Text) : List Token × Ending :=
  if t.contains '\x00' then ([], .broken .nullCharacter)
  else
    let t := unifyLines t
    match Place.startLine ⟨1, [], [0], true, false⟩ t with
    | .error ending => ([], ending)
    | .ok (indent, place, size) =>
      let (others, ending) := tokensFrom place (t.drop size)
      (indent ++ others, ending)

end PictureReport.Literal
