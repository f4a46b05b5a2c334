import PictureReport.Terminal.Literal.Expression
import PictureReport.Terminal.Literal.Token

/-!
# Templates

A template is a quotation with expressions in braces. A brace that stands for itself is doubled. After
an expression there may be an equals sign, a conversion and a format, which is a template again, with
no braces of its own but those of expressions.
-/

namespace PictureReport.Literal

namespace Template

def isBrace (c : Char) : Bool := c = '\x7b' || c = '\x7d'

/-- What a brace with `rest` after it adds to a piece of text, what follows the piece, and whether the
brace is doubled. -/
def braceEnd (outermost : Bool) (c : Char) (rest : Text) :
    Except TemplateFault (Text × Text × Bool) :=
  if outermost && rest.head? = some c then .ok ([c], rest.drop 1, true)
  else if outermost && c = '\x7d' then .error .singleBrace
  else .ok ([], c :: rest, false)

/-- Put characters before a piece of text. -/
def prepend (start : Text) : Text × Text × Bool → Text × Text × Bool
  | (piece, rest, doubled) => (start ++ piece, rest, doubled)

/-- The text up to an expression or the end, what follows it, and whether it ends with a doubled brace.  The
braces around the name of a character, where it is `named` by an escape, are text. -/
def piece (raw outermost named : Bool) : Text → Except TemplateFault (Text × Text × Bool)
  | [] => .ok ([], [], false)
  | c :: rest =>
    if named then (piece raw outermost (c ≠ '\x7d') rest).map (prepend [c])
    else if c = '\\' && !raw then
      match rest with
      | [] => .ok ([c], [], false)
      | 'N' :: d :: more => (piece raw outermost (d = '\x7b') more).map (prepend [c, 'N', d])
      | d :: more =>
        if isBrace d then (braceEnd outermost d more).map (prepend [c])
        else (piece raw outermost false more).map (prepend [c, d])
    else if isBrace c then braceEnd outermost c rest
    else (piece raw outermost false rest).map (prepend [c])
termination_by t => t.length
decreasing_by all_goals simp only [List.length_cons]; omega

/-- The fault where a template ends within an expression. -/
def endFault (quote : Option (Char × Bool)) (opened : List Char) : TemplateFault :=
  if quote.isSome then .unfinishedText
  else match opened with
    | bracket :: _ => .unmatched bracket
    | [] => .expectedBrace

/-- Does the character end an expression or go on to a comparison? -/
def isStop (c : Char) : Bool := ['!', ':', '\x7d', '=', '>', '<'].contains c

/-- The characters of an expression and what follows it.  Within quotes, three of a kind if the mark says so,
and within brackets, nothing ends it. -/
def expression (quote : Option (Char × Bool)) (opened : List Char) :
    Text → Except TemplateFault (Text × Text)
  | [] => .error (endFault quote opened)
  | c :: rest =>
    let keep (count : Nat) (result : Except TemplateFault (Text × Text)) :=
      result.map fun (inner, after) => (c :: rest.take count ++ inner, after)
    if c = '\\' then .error .backslash
    else match quote with
      | some (q, triple) =>
        if c ≠ q || (triple && rest.take 2 ≠ [q, q]) then keep 0 (expression quote opened rest)
        else if triple then keep 2 (expression none opened (rest.drop 2))
        else keep 0 (expression none opened rest)
      | none =>
        if c = '"' || c = '\'' then
          if rest.take 2 = [c, c] then keep 2 (expression (some (c, true)) opened (rest.drop 2))
          else keep 0 (expression (some (c, false)) opened rest)
        else if (partner? c).isSome then
          if maxBrackets ≤ opened.length then .error .tooManyBrackets
          else keep 0 (expression none (c :: opened) rest)
        else if c = '#' then .error .remark
        else if opened.isEmpty && isStop c then
          if c ≠ ':' && c ≠ '\x7d' && rest.head? = some '=' then
            keep 1 (expression none opened (rest.drop 1))
          else if c = '<' || c = '>' then keep 0 (expression none opened rest)
          else .ok ([], c :: rest)
        else if isClosing c then
          match opened with
          | [] => .error (.unmatched c)
          | bracket :: others =>
            if partner? bracket = some c then keep 0 (expression none others rest)
            else .error (.mismatched c bracket)
        else keep 0 (expression none opened rest)
termination_by t => t.length
decreasing_by all_goals simp only [List.length_drop, List.length_cons]; omega

/-- What follows an equals sign after an expression, if there is one, and the blanks after it. -/
def afterEquals : Text → Text
  | '=' :: rest => rest.dropWhile fun c => c = ' ' || ('\t' ≤ c && c ≤ '\r')
  | rest => rest

/-- What follows a conversion, if there is one. -/
def afterConversion : Text → Except TemplateFault Text
  | '!' :: c :: rest =>
    if c ≠ 's' && c ≠ 'r' && c ≠ 'a' then .error .badConversion else .ok rest
  | ['!'] => .error .expectedBrace
  | rest => .ok rest

/-- Check that something stands between the braces before `stop`. -/
def checkExpression (inner : Text) (stop : Option Char) : Except TemplateFault Unit :=
  if inner.any fun c => c ≠ ' ' && c ≠ '\t' && c ≠ '\n' && c ≠ '\x0c' then .ok ()
  else match stop with
    | some '\x7d' => .error .emptyExpression
    | some c => .error (.expressionBefore c)
    | none => .error .expectedBrace

/-- How a template is judged: expressions in parentheses by `judge`, and its own faults are shown by
`frame`. -/
structure Judgement where
  judge : Text → Except Literal.Fault Unit
  frame : Literal.Fault → Literal.Fault

/-- A result with the faults of a template as they are shown. -/
def Judgement.show {α : Type} (judgement : Judgement) (result : Except TemplateFault α) :
    Except Literal.Fault α :=
  result.mapError fun fault => judgement.frame (.template fault)

mutual

/-- Check a template, or the format of an expression at a greater `level`; what follows it. -/
def textEnd (judgement : Judgement) (raw : Bool) (level : Nat) :
    Nat → Text → Except Literal.Fault Text
  | 0, t => .ok t
  | steps + 1, t => do
    let (piece, rest, doubled) ← judgement.show (piece raw (level = 0) false t)
    unless raw do (checkEscapes 0 (plain piece)).mapError judgement.frame
    if doubled then textEnd judgement raw level steps rest
    else match rest with
      | '\x7b' :: inside =>
        let rest ← fieldEnd judgement raw level steps inside
        textEnd judgement raw level steps rest
      | _ =>
        if level ≠ 0 && rest.isEmpty then judgement.show (.error .expectedBrace) else pure rest

/-- Check what stands in braces; what follows it. -/
def fieldEnd (judgement : Judgement) (raw : Bool) (level : Nat) :
    Nat → Text → Except Literal.Fault Text
  | 0, t => .ok t
  | steps + 1, t => do
    if 2 ≤ level then judgement.show (.error .tooDeep)
    let (inner, rest) ← judgement.show (expression none [] t)
    judgement.show (checkExpression inner rest.head?)
    judgement.judge ('(' :: inner ++ [')'])
    let rest ← judgement.show (afterConversion (afterEquals rest))
    let rest ←
      match rest with
      | ':' :: format =>
        if format.isEmpty then judgement.show (.error .expectedBrace)
        else textEnd judgement raw (level + 1) steps format
      | _ => pure rest
    match rest with
    | '\x7d' :: rest => pure rest
    | _ => judgement.show (.error .expectedBrace)

end

/-- Check a template. -/
def check (judgement : Judgement) (raw : Bool) (t : Text) : Except Literal.Fault Unit :=
  discard (textEnd judgement raw 0 (2 * t.length + 2) t)

end Template

/-- Check quotations in a row, which are all of bytes if `bytes` is so, or all of text. -/
def checkQuotations (judgement : Template.Judgement) (bytes : Bool) :
    List Quotation → Except Fault Unit
  | [] => .ok ()
  | quotation :: rest => do
    unless quotation.template do quotation.check.mapError judgement.frame
    unless quotation.bytes = bytes do throw (judgement.frame .mixedTexts)
    if quotation.template then Template.check judgement quotation.raw quotation.body
    checkQuotations judgement bytes rest

/-- Quotations in a row as one expression. -/
def joinQuotations (judgement : Template.Judgement) (quotations : List Quotation) :
    Except Fault Expression := do
  checkQuotations judgement (quotations.head?.any (·.bytes)) quotations
  pure (if quotations.any (·.template) then .template else .text)

end PictureReport.Literal
