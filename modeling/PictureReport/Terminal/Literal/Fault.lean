import PictureReport.Number.Decimal
import PictureReport.Text.Quoted

/-!
# What is wrong with a literal

The causes for which a text is no expression, and their messages. A cause that is found inside the
braces of a template is marked as such.
-/

namespace PictureReport.Literal

/-- What is wrong with an escape in a quotation. -/
inductive EscapeFault where
  /-- Fewer hexadecimal digits than the `digits` that the escape has. -/
  | truncated (digits : Nat)
  | beyondUnicode
  | malformedName
  | unknownName
deriving DecidableEq, Repr

def EscapeFault.message : EscapeFault → String
  | truncated digits =>
    "truncated \\" ++ (if digits = 2 then "x" else if digits = 4 then "u" else "U") ++
      Text.str (List.replicate digits 'X') ++ " escape"
  | beyondUnicode => "illegal Unicode character"
  | malformedName => "malformed \\N character escape"
  | unknownName => "unknown Unicode character name"

/-- What is wrong with the braces of a template. -/
inductive TemplateFault where
  | tooDeep
  | backslash
  | remark
  | emptyExpression
  | expressionBefore (sign : Char)
  | singleBrace
  | expectedBrace
  | unfinishedText
  | unmatched (bracket : Char)
  | mismatched (closing opening : Char)
  | tooManyBrackets
  | badConversion
deriving DecidableEq, Repr

def TemplateFault.message : TemplateFault → String
  | tooDeep => "f-string: expressions nested too deeply"
  | backslash => "f-string expression part cannot include a backslash"
  | remark => "f-string expression part cannot include '#'"
  | emptyExpression => "f-string: empty expression not allowed"
  | expressionBefore sign => "f-string: expression required before '" ++ Text.str [sign] ++ "'"
  | singleBrace => "f-string: single '\x7d' is not allowed"
  | expectedBrace => "f-string: expecting '\x7d'"
  | unfinishedText => "f-string: unterminated string"
  | unmatched bracket => "f-string: unmatched '" ++ Text.str [bracket] ++ "'"
  | mismatched closing opening =>
    "f-string: closing parenthesis '" ++ Text.str [closing] ++
      "' does not match opening parenthesis '" ++ Text.str [opening] ++ "'"
  | tooManyBrackets => "f-string: too many nested parenthesis"
  | badConversion => "f-string: invalid conversion character: expected 's', 'r', or 'a'"

/-- What is wrong with the parameters of a function. -/
inductive ParameterFault where
  | nothingBeforeSlash
  | secondSlash
  | slashAfterStar
  | noCommaBeforeStar
  | defaultBefore
  | defaultMissing
  | parenthesized
  | nothingAfterStar
  | starDefault
  | secondStar
  | doubleStarDefault
  | afterDoubleStar
deriving DecidableEq, Repr

def ParameterFault.message : ParameterFault → String
  | nothingBeforeSlash => "at least one argument must precede /"
  | secondSlash => "/ may appear only once"
  | slashAfterStar => "/ must be ahead of *"
  | noCommaBeforeStar => "expected comma between / and *"
  | defaultBefore => "non-default argument follows default argument"
  | defaultMissing => "expected default value expression"
  | parenthesized => "Lambda expression parameters cannot be parenthesized"
  | nothingAfterStar => "named arguments must follow bare *"
  | starDefault => "var-positional argument cannot have default value"
  | secondStar => "* argument may appear only once"
  | doubleStarDefault => "var-keyword argument cannot have default value"
  | afterDoubleStar => "arguments cannot follow var-keyword argument"

/-- What is wrong with the arguments of a call. -/
inductive ArgumentFault where
  | starAfterDoubleStar
  | bareGenerator
  | afterNamed
  | afterDoubleStar
  | nameless
deriving DecidableEq, Repr

def ArgumentFault.message : ArgumentFault → String
  | starAfterDoubleStar => "iterable argument unpacking follows keyword argument unpacking"
  | bareGenerator => "Generator expression must be parenthesized"
  | afterNamed => "positional argument follows keyword argument"
  | afterDoubleStar => "positional argument follows keyword argument unpacking"
  | nameless => "expression cannot contain assignment, perhaps you meant \"==\"?"

/-- What is wrong with stars and braces. -/
inductive DisplayFault where
  | bareStar
  | starAlone
  | doubleStarAlone
  | starValue
  | valueMissing
  | colonMissing
  | starComprehension
  | doubleStarComprehension
  | bareTarget
deriving DecidableEq, Repr

def DisplayFault.message : DisplayFault → String
  | bareStar => "Invalid star expression"
  | starAlone => "cannot use starred expression here"
  | doubleStarAlone => "cannot use double starred expression here"
  | starValue => "cannot use a starred expression in a dictionary value"
  | valueMissing => "expression expected after dictionary key and ':'"
  | colonMissing => "':' expected after dictionary key"
  | starComprehension => "iterable unpacking cannot be used in comprehension"
  | doubleStarComprehension => "dict unpacking cannot be used in dict comprehension"
  | bareTarget => "did you forget parentheses around the comprehension target?"

/-- Why a text is no expression. -/
inductive Fault where
  /-- Something that is no part of a number of its kind stands in it or right after it. -/
  | badNumber (kind : String)
  | badDigit (digit : Char) (kind : String)
  | leadingZeros
  /-- A quotation ends nowhere; it breaks off on `line`. -/
  | unfinishedText (triple : Bool) (line : Nat)
  | foreignByte
  | mixedTexts
  /-- A flawed escape that reaches from one position of a text to another. -/
  | badEscape (first last : Nat) (fault : EscapeFault)
  | badByteEscape (position : Nat)
  | nullCharacter
  | strangeCharacter (c : Char)
  | hiddenCharacter (c : Char)
  | strayBackslash
  /-- The text ends where a line goes on. -/
  | unfinishedLine
  | tooManyBrackets
  | unmatched (closing : Char)
  /-- A closing bracket of another kind than the opening one, which stands on another line if `line`
  tells which. -/
  | mismatched (closing opening : Char) (line : Option Nat)
  | neverClosed (opening : Char)
  | unexpectedIndent
  | badUnindent
  | malformed
  | missingComma
  | missingElse
  /-- A name that is taken for a command stands before an expression. -/
  | bareCommand (name : Text)
  /-- A value is given to something of this title, which is no name. -/
  | misnamed (title : String)
  /-- An equals sign after a name where a comparison is to stand. -/
  | equalsAfterName
  /-- An equals sign after something of this title where a comparison is to stand. -/
  | equalsAfter (title : String)
  /-- Something of this title stands where a name is to be assigned to. -/
  | notAssignable (title : String)
  | parameters (fault : ParameterFault)
  | arguments (fault : ArgumentFault)
  | display (fault : DisplayFault)
  | template (fault : TemplateFault)
  /-- The cause stands in an expression inside the braces of a template. -/
  | inTemplate (fault : Fault)
deriving DecidableEq, Repr

/-- The number of a character in hexadecimal digits, at least four. -/
def codePoint (c : Char) : Text :=
  (Text.hex c.toNat (max 4 (Nat.toDigits 16 c.toNat).length)).map Char.toUpper

def Fault.message : Fault → String
  | badNumber kind => "invalid " ++ kind ++ " literal"
  | badDigit digit kind => "invalid digit '" ++ Text.str [digit] ++ "' in " ++ kind ++ " literal"
  | leadingZeros =>
    "leading zeros in decimal integer literals are not permitted; " ++
      "use an 0o prefix for octal integers"
  | unfinishedText triple line =>
    "unterminated " ++ (if triple then "triple-quoted " else "") ++
      "string literal (detected at line " ++ Text.str (decimalDigits line) ++ ")"
  | foreignByte => "bytes can only contain ASCII literal characters"
  | mixedTexts => "cannot mix bytes and nonbytes literals"
  | badEscape first last fault =>
    "(unicode error) 'unicodeescape' codec can't decode bytes in position " ++
      Text.str (decimalDigits first) ++ "-" ++ Text.str (decimalDigits last) ++ ": " ++ fault.message
  | badByteEscape position =>
    "(value error) invalid \\x escape at position " ++ Text.str (decimalDigits position)
  | nullCharacter => "source code string cannot contain null bytes"
  | strangeCharacter c =>
    "invalid character '" ++ Text.str [c] ++ "' (U+" ++ Text.str (codePoint c) ++ ")"
  | hiddenCharacter c => "invalid non-printable character U+" ++ Text.str (codePoint c)
  | strayBackslash => "unexpected character after line continuation character"
  | unfinishedLine => "unexpected EOF while parsing"
  | tooManyBrackets => "too many nested parentheses"
  | unmatched closing => "unmatched '" ++ Text.str [closing] ++ "'"
  | mismatched closing opening line =>
    "closing parenthesis '" ++ Text.str [closing] ++ "' does not match opening parenthesis '" ++
      Text.str [opening] ++ "'" ++
      line.elim "" (fun line => " on line " ++ Text.str (decimalDigits line))
  | neverClosed opening => "'" ++ Text.str [opening] ++ "' was never closed"
  | unexpectedIndent => "unexpected indent"
  | badUnindent => "unindent does not match any outer indentation level"
  | malformed => "invalid syntax"
  | missingComma => "invalid syntax. Perhaps you forgot a comma?"
  | missingElse => "expected 'else' after 'if' expression"
  | bareCommand name =>
    "Missing parentheses in call to '" ++ name.str ++ "'. Did you mean " ++ name.str ++ "(...)?"
  | misnamed title => "cannot use assignment expressions with " ++ title
  | equalsAfterName => "invalid syntax. Maybe you meant '==' or ':=' instead of '='?"
  | equalsAfter title =>
    "cannot assign to " ++ title ++ " here. Maybe you meant '==' instead of '='?"
  | notAssignable title => "cannot assign to " ++ title
  | parameters fault => fault.message
  | arguments fault => fault.message
  | display fault => fault.message
  | template fault => fault.message
  | inTemplate fault => "f-string: " ++ fault.message

end PictureReport.Literal
