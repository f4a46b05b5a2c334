import PictureReport.Text.Basic

/-!
# Expressions

What a text in the language of literals means: values written out, and the forms that would have to
be computed and so are no literals. `Expression.check` tells the literals from the others.
-/

namespace PictureReport.Literal

/-- Kinds of comprehensions. -/
inductive Comprehension where
  | generator
  | set
  | dict
deriving DecidableEq, Repr

inductive Expression where
  | name (word : Text)
  | number (imaginary : Bool)
  /-- Quotations in a row without a template. -/
  | text
  /-- Quotations in a row, one of which is a template. -/
  | template
  | truth (value : Bool)
  | nothing
  | ellipsis
  | tuple (items : List Expression)
  | set (items : List Expression)
  | dict (entries : List (Expression × Expression))
  /-- What stands for the key of an entry of two stars. -/
  | keyless
  | comprehension (kind : Comprehension)
  /-- A call; `bare` if it has no arguments. -/
  | call (function : Expression) (bare : Bool)
  /-- A property of what stands before a point. -/
  | property
  | starred (inner : Expression)
  | signed (sign : Text) (inner : Expression)
  | binary (sign : Text) (left right : Expression)
  /-- A power, or words that join truth values. -/
  | operation
  /-- A comparison; if its first sign is `in`, what stands before it. -/
  | comparison (member : Option Expression)
  | conditional
  | lambda
  /-- A name that is given to a value. -/
  | naming
  | yielded
  | awaited
deriving Repr

namespace Expression

/-- What an expression is called in messages. -/
def title : Expression → String
  | name _ => "name"
  | number _ => "literal"
  | text => "literal"
  | template => "f-string expression"
  | truth value => if value then "True" else "False"
  | nothing => "None"
  | ellipsis => "ellipsis"
  | tuple _ => "tuple"
  | set _ => "set display"
  | dict _ => "dict literal"
  | keyless => "None"
  | comprehension .generator => "generator expression"
  | comprehension .set => "set comprehension"
  | comprehension .dict => "dict comprehension"
  | call _ _ => "function call"
  | property => "attribute"
  | starred _ => "starred"
  | signed _ _ => "expression"
  | binary _ _ _ => "expression"
  | operation => "expression"
  | comparison _ => "comparison"
  | conditional => "conditional expression"
  | lambda => "lambda"
  | naming => "named expression"
  | yielded => "yield expression"
  | awaited => "await expression"

/-! ## Targets -/

mutual

/-- The first part of a target that cannot be assigned to. -/
def unassignable? : Expression → Option Expression
  | name _ => none
  | property => none
  | tuple items => firstUnassignable? items
  | starred inner => unassignable? inner
  | comparison (some member) => unassignable? member
  | comparison none => none
  | e => some e

/-- The first part of targets in a row that cannot be assigned to. -/
def firstUnassignable? : List Expression → Option Expression
  | [] => none
  | e :: rest => (unassignable? e).or (firstUnassignable? rest)

end

/-! ## Literals -/

/-- Why an expression is no literal. -/
inductive Fault where
  /-- A set or dict is an item of a set or a key. -/
  | unhashable (kind : String)
  /-- An entry of two stars in a dict. -/
  | noKey
  /-- Something that would have to be computed. -/
  | computed
deriving DecidableEq, Repr

def Fault.message : Fault → String
  | unhashable kind => "unhashable type: '" ++ kind ++ "'"
  | noKey => "malformed node or string: None"
  | computed => "malformed node or string"

/-- Is the expression a number, perhaps with a sign? -/
def number? : Expression → Option Bool
  | number imaginary => some imaginary
  | signed sign (number imaginary) =>
    if sign = ['+'] || sign = ['-'] then some imaginary else none
  | _ => none

/-- The kind of what is unhashable in a value. -/
abbrev Unhashable := Option String

/-- A value that is to be hashed. -/
def hashed : Unhashable → Except Fault Unit
  | some kind => .error (.unhashable kind)
  | none => .ok ()

mutual

/-- What is unhashable in the value that a literal writes out. -/
def unhashable? : Expression → Except Fault Unhashable
  | number _ => .ok none
  | text => .ok none
  | truth _ => .ok none
  | nothing => .ok none
  | ellipsis => .ok none
  | tuple items => firstUnhashable? items
  | set items => do
    checkItems items
    pure (some "set")
  | call (name word) bare =>
    if word = "set".toList && bare then .ok (some "set") else .error .computed
  | dict entries => do
    checkEntries entries
    pure (some "dict")
  | keyless => .error .noKey
  | signed sign inner =>
    if (number? (signed sign inner)).isSome then .ok none else .error .computed
  | binary sign left right =>
    if (sign = ['+'] || sign = ['-']) && number? left = some false &&
        (match right with | number imaginary => imaginary | _ => false) then .ok none
    else .error .computed
  | _ => .error .computed

/-- What is unhashable first in the values of literals. -/
def firstUnhashable? : List Expression → Except Fault Unhashable
  | [] => .ok none
  | e :: rest => do
    let first ← unhashable? e
    let others ← firstUnhashable? rest
    pure (first.or others)

/-- Check literals whose values are to be hashed. -/
def checkItems : List Expression → Except Fault Unit
  | [] => .ok ()
  | e :: rest => do
    hashed (← unhashable? e)
    checkItems rest

/-- Check entries of a dict. -/
def checkEntries : List (Expression × Expression) → Except Fault Unit
  | [] => .ok ()
  | (key, value) :: rest => do
    let kind ← unhashable? key
    discard (unhashable? value)
    hashed kind
    checkEntries rest

end

/-- Check that an expression is a literal. -/
def check (e : Expression) : Except Fault Unit := discard (unhashable? e)

end Expression

end PictureReport.Literal
