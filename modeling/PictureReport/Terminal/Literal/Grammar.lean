import PictureReport.Terminal.Literal.Parser

/-!
# The grammar of expressions

Each rule takes what it finds by the first of its forms that fits. Faulty forms come before the others
where they are looked for; a faulty form names its fault. The rules that are noted down call each
other by `rule`, and `parse` ties them together.
-/

namespace PictureReport.Literal

/-- An argument of a call. -/
inductive Argument where
  | positional
  | named
  | doubleStar
deriving DecidableEq, Repr

namespace Grammar

open PictureReport.Literal.Parser

variable (rule : Rule → Parser Expression)

/-! ## Parameters of functions -/

def parameterEnd : Parser Unit := sign "," <|> ahead (sign ":")

def parameter : Parser Unit := do
  discard anyName
  parameterEnd

def default : Parser Unit :=
  (do sign "="; discard (rule .expression)) <|>
  diagnose (refuse (do sign "="; ahead (sign ")" <|> sign ",")) (.parameters .defaultMissing))

def withDefault : Parser Unit := do
  discard anyName
  default rule
  parameterEnd

def maybeDefault : Parser Unit := do
  discard anyName
  discard (possibly (default rule))
  parameterEnd

/-- Two stars with a parameter. -/
def doubleStar : Parser Unit :=
  diagnose (
    refuse (do sign "**"; discard anyName; sign "=") (.parameters .doubleStarDefault) <|>
    refuse (do sign "**"; discard anyName; sign ","; discard anyName) (.parameters .afterDoubleStar) <|>
    refuse (do sign "**"; discard anyName; sign ","; sign "*" <|> sign "**" <|> sign "/")
      (.parameters .afterDoubleStar)) <|>
  (do sign "**"; parameter)

/-- A parameter or the comma that stands for one. -/
def parameterOrComma : Parser Unit := parameter <|> sign ","

/-- A star, with a parameter or without, and what follows it. -/
def starParameters : Parser Unit :=
  diagnose (
    refuse (do sign "*"; sign ":" <|> (do sign ","; sign ":" <|> sign "**"))
      (.parameters .nothingAfterStar) <|>
    refuse (do sign "*"; discard anyName; sign "=") (.parameters .starDefault) <|>
    refuse (do
        sign "*"
        parameterOrComma
        discard (many (maybeDefault rule))
        sign "*"
        parameterOrComma)
      (.parameters .secondStar)) <|>
  (do
    sign "*"
    parameter
    discard (many (maybeDefault rule))
    discard (possibly doubleStar)) <|>
  (do
    sign "*"
    sign ","
    discard (atLeastOne (maybeDefault rule))
    discard (possibly doubleStar)) <|>
  doubleStar

def slashEnd : Parser Unit :=
  (do sign "/"; sign ",") <|> (do sign "/"; ahead (sign ":"))

def plainSlash : Parser Unit := do
  discard (atLeastOne parameter)
  slashEnd

def defaultSlash : Parser Unit := do
  discard (many parameter)
  discard (atLeastOne (withDefault rule))
  slashEnd

def eitherSlash : Parser Unit := plainSlash <|> defaultSlash rule

/-- Parameters with defaults, and those from a star on. -/
def parametersEnd (first : Parser Unit) : Parser Unit := do
  first
  discard (many (withDefault rule))
  discard (possibly (starParameters rule))

def faultyParameters : Parser Unit :=
  refuse (do sign "/"; sign ",") (.parameters .nothingBeforeSlash) <|>
  refuse (do eitherSlash rule; discard (many (maybeDefault rule)); sign "/")
    (.parameters .secondSlash) <|>
  refuse (do
      discard (possibly plainSlash)
      discard (many parameter)
      defaultSlash rule <|> discard (atLeastOne (withDefault rule))
      parameter)
    (.parameters .defaultBefore) <|>
  refuse (do
      discard (many parameter)
      sign "("
      discard (separated anyName)
      discard (possibly (sign ","))
      sign ")")
    (.parameters .parenthesized) <|>
  refuse (do
      discard (possibly (eitherSlash rule))
      discard (many (maybeDefault rule))
      sign "*"
      sign "," <|> parameter
      discard (many (maybeDefault rule))
      sign "/")
    (.parameters .slashAfterStar) <|>
  refuse (do discard (atLeastOne (maybeDefault rule)); sign "/"; sign "*")
    (.parameters .noCommaBeforeStar)

def parameters : Parser Unit :=
  diagnose (faultyParameters rule) <|>
  parametersEnd rule (do plainSlash; discard (many parameter)) <|>
  parametersEnd rule (defaultSlash rule) <|>
  parametersEnd rule (discard (atLeastOne parameter)) <|>
  (do discard (atLeastOne (withDefault rule)); discard (possibly (starParameters rule))) <|>
  starParameters rule

def lambda : Parser Expression := do
  keyword "lambda"
  discard (possibly (parameters rule))
  sign ":"
  discard (rule .expression)
  pure .lambda

/-! ## Expressions -/

def conditional : Parser Expression := do
  discard (rule .disjunction)
  keyword "if"
  discard (rule .disjunction)
  keyword "else"
  discard (rule .expression)
  pure .conditional

/-- An expression, without a look at its faulty forms. -/
def plainExpression : Parser Expression :=
  conditional rule <|> rule .disjunction <|> lambda rule

/-- A name that an expression may follow. -/
def loneName : Parser Unit :=
  (do discard anyName; discard (ahead anyQuotation)) <|>
  (do
    let word ← anyName
    unless ["_", "case", "match"].any (·.toList = word) do miss)

/-- Is the expression a name that is taken for a command? -/
def isCommand : Expression → Bool
  | .name word => word = "print".toList || word = "exec".toList
  | _ => false

/-- Two expressions in a row within brackets. -/
def missingComma : Parser Expression := do
  absent loneName
  let first ← rule .disjunction
  discard (plainly (plainExpression rule))
  if isCommand first then miss
  if (← previous).depth = 0 then miss
  object .missingComma

def missingElse : Parser Expression :=
  refuse (do
      discard (rule .disjunction)
      keyword "if"
      discard (rule .disjunction)
      absent (keyword "else" <|> sign ":"))
    .missingElse

/-- Something after an expression that makes a tuple: more of its kind with commas before them, or a
comma alone. -/
def tupleOf (part : Parser Expression) : Parser Expression :=
  (do
    let first ← part
    let others ← atLeastOne (do sign ","; part)
    discard (possibly (sign ","))
    pure (.tuple (first :: others))) <|>
  (do
    let only ← part
    sign ","
    pure (.tuple [only])) <|>
  part

/-- Items, which are a tuple if there is a comma. -/
def items : Parser Expression := tupleOf (rule .item)

def bareCommand : Parser Expression := do
  let word ← anyName
  absent (sign "(")
  discard (items rule)
  if isCommand (.name word) then object (.bareCommand word) else miss

def expression : Parser Expression :=
  diagnose (missingComma rule <|> missingElse rule) <|>
  diagnose (bareCommand rule) <|>
  plainExpression rule

def starred (inner : Rule) : Parser Expression := do
  sign "*"
  return .starred (← rule inner)

def item : Parser Expression := starred rule .union <|> rule .expression

/-- A name that is given to a value. -/
def naming : Parser Expression := do
  discard anyName
  sign ":="
  discard (rule .expression)
  pure .naming

/-- An expression that no value is given to. -/
def unnamed : Parser Expression := do
  let e ← rule .expression
  absent (sign ":=")
  pure e

def named : Parser Expression := naming rule <|> diagnose (rule .misnamed) <|> unnamed rule

def element : Parser Expression := starred rule .union <|> named rule

def elements : Parser (List Expression) := do
  let found ← separated (element rule)
  discard (possibly (sign ","))
  pure found

def yielded : Parser Expression :=
  (do keyword "yield"; keyword "from"; discard (rule .expression); pure .yielded) <|>
  (do keyword "yield"; discard (possibly (items rule)); pure .yielded)

/-- An argument with a star. -/
def starArgument : Parser Expression :=
  starred rule .expression <|> refuse (sign "*") (.display .bareStar)

/-! ## Targets and comprehensions -/

/-- Does a target go on? -/
def targetGoesOn : Parser Unit := ahead (sign "(" <|> sign ".")

def targets : Parser Unit :=
  (do discard (rule .target); absent (sign ",")) <|>
  (do
    discard (rule .target)
    discard (many (do sign ","; rule .target))
    discard (possibly (sign ",")))

def targetTuple : Parser Unit :=
  (do
    discard (rule .target)
    discard (atLeastOne (do sign ","; rule .target))
    discard (possibly (sign ","))) <|>
  (do discard (rule .target); sign ",")

def target : Parser Expression :=
  (do sign "*"; absent (sign "*"); return .starred (← rule .target)) <|> rule .plainTarget

def plainTarget : Parser Expression :=
  (do
    discard (rule .targetPrimary)
    sign "."
    discard anyName
    absent targetGoesOn
    pure .property) <|>
  .name <$> anyName <|>
  (do
    sign "("
    let inner ← rule .plainTarget
    sign ")"
    pure inner) <|>
  (do
    sign "("
    discard (possibly (targetTuple rule))
    sign ")"
    pure (.tuple []))

/-- Items where a name is to be assigned to. -/
def badTarget : Parser Unit := do
  discard (possibly (keyword "async"))
  keyword "for"
  match (← items rule).unassignable? with
  | some e => object (.notAssignable e.title)
  | none => miss

/-- The part of a comprehension that goes through something.  After `in` no other form is tried. -/
def clause : Parser Unit := do
  let begun ← possibly (do
    discard (possibly (keyword "async"))
    keyword "for"
    targets rule
    keyword "in")
  match begun with
  | some _ =>
    discard (rule .disjunction)
    discard (many (do keyword "if"; rule .disjunction))
  | none => diagnose (badTarget rule)

def clauses : Parser Unit := discard (atLeastOne (clause rule))

/-- An opening bracket. -/
def openBracket : Parser Unit := sign "(" <|> sign "\x7b"

def faultyComprehension : Parser Expression :=
  refuse (do openBracket; discard (starArgument rule); clauses rule)
    (.display .starComprehension) <|>
  refuse (do
      sign "\x7b"
      discard (element rule)
      sign ","
      discard (elements rule)
      clauses rule)
    (.display .bareTarget) <|>
  refuse (do sign "\x7b"; discard (element rule); sign ","; clauses rule) (.display .bareTarget)

def generator : Parser Expression :=
  (do
    sign "("
    discard (naming rule <|> unnamed rule)
    clauses rule
    sign ")"
    pure (.comprehension .generator)) <|>
  diagnose (faultyComprehension rule)

def setComprehension : Parser Expression :=
  (do
    sign "\x7b"
    discard (named rule)
    clauses rule
    sign "\x7d"
    pure (.comprehension .set)) <|>
  diagnose (faultyComprehension rule)

/-! ## Brackets and braces -/

def tuple : Parser Expression := do
  sign "("
  let found ← possibly (do
    let first ← element rule
    sign ","
    let others ← possibly (elements rule)
    pure (first :: others.getD []))
  sign ")"
  pure (.tuple (found.getD []))

def group : Parser Expression :=
  (do
    sign "("
    let inner ← yielded rule <|> named rule
    sign ")"
    pure inner) <|>
  diagnose (
    refuse (do sign "("; discard (starArgument rule); sign ")") (.display .starAlone) <|>
    refuse (do sign "("; sign "**"; discard (rule .expression); sign ")")
      (.display .doubleStarAlone))

def set : Parser Expression := do
  sign "\x7b"
  let found ← elements rule
  sign "\x7d"
  pure (.set found)

def pair : Parser (Expression × Expression) := do
  let key ← rule .expression
  sign ":"
  return (key, ← rule .expression)

def entry : Parser (Expression × Expression) :=
  (do sign "**"; return (.keyless, ← rule .union)) <|> pair rule

/-- A key whose value is missing or has a star. -/
def badValue : Parser Expression :=
  refuse (do
      discard (rule .expression)
      sign ":"
      sign "*"
      discard (rule .union))
    (.display .starValue) <|>
  refuse (do
      discard (rule .expression)
      sign ":"
      ahead (sign "\x7d" <|> sign ","))
    (.display .valueMissing)

def badEntries : Parser Expression :=
  (do
    discard (separated (entry rule))
    sign ","
    refuse (do discard (rule .expression); absent (sign ":")) (.display .colonMissing) <|>
      badValue rule) <|>
  badValue rule

def dict : Parser Expression :=
  (do
    sign "\x7b"
    let found ← possibly (do
      let found ← separated (entry rule)
      discard (possibly (sign ","))
      pure found)
    sign "\x7d"
    pure (.dict (found.getD []))) <|>
  (do sign "\x7b"; badEntries rule)

def dictComprehension : Parser Expression :=
  (do
    sign "\x7b"
    discard (pair rule)
    clauses rule
    sign "\x7d"
    pure (.comprehension .dict)) <|>
  diagnose (
    refuse (do
        sign "\x7b"
        sign "**"
        discard (rule .union)
        clauses rule
        sign "\x7d")
      (.display .doubleStarComprehension))

def atom : Parser Expression :=
  .name <$> anyName <|>
  (do keyword "True"; pure (.truth true)) <|>
  (do keyword "False"; pure (.truth false)) <|>
  (do keyword "None"; pure .nothing) <|>
  (do discard (ahead anyQuotation); rule .quotations) <|>
  .number <$> anyNumber <|>
  (do ahead (sign "("); tuple rule <|> group rule <|> generator rule) <|>
  (do
    ahead (sign "\x7b")
    dict rule <|> set rule <|> dictComprehension rule <|> setComprehension rule) <|>
  (do sign "..."; pure .ellipsis)

def quotations : Parser Expression := do
  let found ← atLeastOne anyQuotation
  join found

/-! ## Arguments -/

def faultyNamed : Parser Argument :=
  (do
    let word ←
      (do keyword "True"; pure "True") <|> (do keyword "False"; pure "False") <|>
        (do keyword "None"; pure "None")
    sign "="
    object (.notAssignable word)) <|>
  refuse (do
      discard anyName
      sign "="
      discard (rule .expression)
      clauses rule)
    .equalsAfterName <|>
  refuse (do
      absent (do discard anyName; sign "=")
      discard (rule .expression)
      sign "=")
    (.arguments .nameless)

def namedArgument : Parser Argument := do
  discard anyName
  sign "="
  discard (rule .expression)
  pure .named

def namedOrStar : Parser Argument :=
  diagnose (faultyNamed rule) <|> namedArgument rule <|>
  (do discard (starArgument rule); pure .positional)

def namedOrDoubleStar : Parser Argument :=
  diagnose (faultyNamed rule) <|> namedArgument rule <|>
  (do sign "**"; discard (rule .expression); pure .doubleStar)

def namedArguments : Parser (List Argument) :=
  (do
    let first ← separated (namedOrStar rule)
    sign ","
    let others ← separated (namedOrDoubleStar rule)
    pure (first ++ others)) <|>
  separated (namedOrStar rule) <|>
  separated (namedOrDoubleStar rule)

def positional : Parser Argument :=
  (do discard (starArgument rule); pure .positional) <|>
  (do
    discard (naming rule <|> unnamed rule)
    absent (sign "=")
    pure .positional)

def argumentList : Parser (List Argument) :=
  (do
    let first ← separated (positional rule)
    let others ← possibly (do sign ","; namedArguments rule)
    pure (first ++ others.getD [])) <|>
  namedArguments rule

/-- A generator without parentheses. -/
def bareGenerator : Parser Unit := do
  discard (rule .expression)
  clauses rule

def faultyArguments : Parser Expression :=
  refuse (do discard (argumentList rule); sign ","; sign "*") (.arguments .starAfterDoubleStar) <|>
  refuse (do
      bareGenerator rule
      sign ","
      discard (possibly (discard (argumentList rule) <|> bareGenerator rule)))
    (.arguments .bareGenerator) <|>
  refuse (do discard anyName; sign "="; bareGenerator rule) .equalsAfterName <|>
  (do
    let found ← argumentList rule
    clauses rule
    if (found.filter (· = .positional)).length ≤ 1 then miss
    else object (.arguments .bareGenerator)) <|>
  refuse (do discard (argumentList rule); sign ","; bareGenerator rule)
    (.arguments .bareGenerator) <|>
  (do
    let found ← argumentList rule
    sign ","
    discard (argumentList rule)
    object (.arguments (if found.contains .doubleStar then .afterDoubleStar else .afterNamed)))

def arguments : Parser Expression :=
  (do
    discard (argumentList rule)
    discard (possibly (sign ","))
    ahead (sign ")")
    pure (.tuple [])) <|>
  diagnose (faultyArguments rule)

/-- What goes on with a primary, before something that `after` reads. -/
def suffix (after : Parser Unit) : Parser (Expression → Expression) :=
  (do
    sign "."
    discard anyName
    after
    pure fun _ => .property) <|>
  (do
    discard (generator rule)
    after
    pure fun function => .call function false) <|>
  (do
    sign "("
    let found ← possibly (rule .arguments)
    sign ")"
    after
    pure fun function => .call function found.isNone)

def primary : Parser Expression := do
  let first ← atom rule
  let suffixes ← many (suffix rule (pure ()))
  pure (suffixes.foldl (fun e suffix => suffix e) first)

def targetPrimary : Parser Expression := do
  let first ← atom rule
  targetGoesOn
  let suffixes ← many (suffix rule targetGoesOn)
  pure (suffixes.foldl (fun e suffix => suffix e) first)

/-! ## Operations -/

/-- Operands with signs between, which hold together from the left. -/
def chain (signs : List String) (operand : Rule) : Parser Expression := do
  let first ← rule operand
  let others ← many (do
    let sign ← oneOf signs
    return (sign, ← rule operand))
  pure (others.foldl (fun left (sign, right) => .binary sign left right) first)

def awaited : Parser Expression :=
  (do keyword "await"; discard (rule .primary); pure .awaited) <|> rule .primary

def power : Parser Expression :=
  (do
    discard (rule .awaited)
    sign "**"
    discard (rule .signed)
    pure .operation) <|>
  rule .awaited

def signed : Parser Expression :=
  (do
    let sign ← oneOf ["+", "-", "~"]
    return .signed sign (← rule .signed)) <|>
  power rule

/-- A sign of comparison with what follows it; whether it is `in`. -/
def compared : Parser Bool :=
  (do
    discard (oneOf ["==", "!=", "<=", "<", ">=", ">"])
    discard (rule .union)
    pure false) <|>
  (do keyword "not"; keyword "in"; discard (rule .union); pure false) <|>
  (do keyword "in"; discard (rule .union); pure true) <|>
  (do keyword "is"; keyword "not"; discard (rule .union); pure false) <|>
  (do keyword "is"; discard (rule .union); pure false)

def comparison : Parser Expression :=
  (do
    let first ← rule .union
    let others ← atLeastOne (compared rule)
    pure (.comparison (if others.head? = some true then some first else none))) <|>
  rule .union

def negation : Parser Expression :=
  (do keyword "not"; discard (rule .negation); pure .operation) <|> comparison rule

/-- Operands with a word between. -/
def joined (word : String) (operand : Rule) : Parser Expression :=
  (do
    discard (rule operand)
    discard (atLeastOne (do keyword word; rule operand))
    pure .operation) <|>
  rule operand

/-- A value that is given to what is no name, or an equals sign where none may stand. -/
def misnamed : Parser Expression :=
  (do
    let e ← rule .expression
    sign ":="
    discard (rule .expression)
    object (.misnamed e.title)) <|>
  refuse (do
      discard anyName
      sign "="
      discard (rule .union)
      absent (sign "=" <|> sign ":="))
    .equalsAfterName <|>
  (do
    absent (
      discard (tuple rule) <|> discard (generator rule) <|>
        keyword "True" <|> keyword "None" <|> keyword "False")
    let e ← rule .union
    sign "="
    discard (rule .union)
    absent (sign "=" <|> sign ":=")
    object (.equalsAfter e.title))

/-! ## The rules together -/

/-- What a rule reads, where other rules are called by `rule`. -/
def body : Rule → Parser Expression
  | .expression => expression rule
  | .item => item rule
  | .disjunction => joined rule "or" .conjunction
  | .conjunction => joined rule "and" .negation
  | .negation => negation rule
  | .union => chain rule ["|"] .difference
  | .difference => chain rule ["^"] .intersection
  | .intersection => chain rule ["&"] .shift
  | .shift => chain rule ["<<", ">>"] .sum
  | .sum => chain rule ["+", "-"] .product
  | .product => chain rule ["*", "/", "//", "%", "@"] .signed
  | .signed => signed rule
  | .awaited => awaited rule
  | .primary => primary rule
  | .quotations => quotations
  | .arguments => arguments rule
  | .target => target rule
  | .plainTarget => plainTarget rule
  | .targetPrimary => targetPrimary rule
  | .misnamed => misnamed rule

/-- Read by a rule, with at most `steps` rules within each other. -/
def parse : Nat → Rule → Parser Expression
  | 0, _ => miss
  | steps + 1, rule => remember rule (body (parse steps) rule)

/-- A whole text: expressions with commas between, and nothing after them but ends of lines. -/
def whole : Parser Expression := do
  let e ← tupleOf (rule .expression)
  discard (many (one .lineEnd))
  one .finish
  pure e

end Grammar

end PictureReport.Literal
