import PictureReport.Terminal.Literal.Expression
import PictureReport.Terminal.Literal.Token

/-!
# Reading tokens

A parser takes tokens from a position on and finds something, misses it, or comes upon a fault. Where
it misses something another parser may try from the same position; a fault is final. What the rules
of the grammar found at a position is noted down and not read twice.
-/

namespace PictureReport.Literal

/-- The rules of the grammar whose findings are noted down. -/
inductive Rule where
  | expression
  | item
  | disjunction
  | conjunction
  | negation
  | union
  | difference
  | intersection
  | shift
  | sum
  | product
  | signed
  | awaited
  | primary
  | quotations
  | arguments
  | target
  | plainTarget
  | targetPrimary
  | misnamed
deriving DecidableEq, Repr

/-- What a rule found at a position, and where that ends. -/
structure Note where
  rule : Rule
  found : Option Expression
  finish : Nat

/-- What a parser reads. -/
structure Setting where
  tokens : Array Token
  /-- Faulty forms are looked for. -/
  diagnosing : Bool
  /-- Check quotations in a row, and read them as one expression. -/
  join : List Quotation → Except Fault Expression
  /-- How a fault is shown. -/
  frame : Fault → Fault

/-- How far a parser has come. -/
structure Progress where
  position : Nat
  /-- The greatest position that was looked at. -/
  reached : Nat
  /-- What is noted down, by position. -/
  notes : Array (List Note)

/-- What comes of a parser. -/
inductive Outcome (α : Type) where
  | found (a : α)
  | missing
  | faulty (fault : Fault)
  /-- The parser came to where the tokens break off. -/
  | exhausted

def Parser (α : Type) : Type := Setting → Progress → Outcome α × Progress

namespace Parser

variable {α β : Type}

instance : Monad Parser where
  pure a := fun _ progress => (.found a, progress)
  bind p f := fun setting progress =>
    match p setting progress with
    | (.found a, progress) => f a setting progress
    | (.missing, progress) => (.missing, progress)
    | (.faulty fault, progress) => (.faulty fault, progress)
    | (.exhausted, progress) => (.exhausted, progress)

/-- Find nothing. -/
def miss : Parser α := fun _ progress => (.missing, progress)

/-- Come upon a fault. -/
def object (fault : Fault) : Parser α := fun setting progress =>
  (.faulty (setting.frame fault), progress)

/-- Try another parser from the same position where the first one finds nothing. -/
def orTry (p : Parser α) (q : Unit → Parser α) : Parser α := fun setting progress =>
  match p setting progress with
  | (.missing, after) => q () setting { after with position := progress.position }
  | result => result

instance : OrElse (Parser α) := ⟨orTry⟩

/-- What a parser finds, if anything. -/
def possibly (p : Parser α) : Parser (Option α) := (some <$> p) <|> pure none

/-- Go back to where a parser started. -/
def ahead (p : Parser α) : Parser α := fun setting progress =>
  match p setting progress with
  | (result, after) => (result, { after with position := progress.position })

/-- Find something only where a parser finds nothing. -/
def absent (p : Parser α) : Parser Unit := do
  match ← ahead (possibly p) with
  | some _ => miss
  | none => pure ()

/-- What a parser finds at most `count` times in a row. -/
def upTo (p : Parser α) : Nat → Parser (List α)
  | 0 => pure []
  | count + 1 => do
    match ← possibly p with
    | some a => return a :: (← upTo p count)
    | none => pure []

/-- A number of times that nothing can be found in a row, for each takes a token. -/
def limit : Parser Nat := fun setting progress => (.found (setting.tokens.size + 1), progress)

/-- What a parser finds in a row. -/
def many (p : Parser α) : Parser (List α) := limit >>= upTo p

/-- What a parser finds in a row, at least once. -/
def atLeastOne (p : Parser α) : Parser (List α) := do
  let first ← p
  return first :: (← many p)

/-- Look for a faulty form if they are looked for. -/
def diagnose (p : Parser α) : Parser α := fun setting progress =>
  if setting.diagnosing then p setting progress else (.missing, progress)

/-- Look for no faulty forms. -/
def plainly (p : Parser α) : Parser α := fun setting progress =>
  p { setting with diagnosing := false } progress

/-- A form that is a fault wherever it is found. -/
def refuse (p : Parser α) (fault : Fault) : Parser β := p >>= fun _ => object fault

/-! ## Tokens -/

/-- The next token. -/
def next : Parser Token := fun setting progress =>
  let progress := { progress with reached := max progress.reached progress.position }
  match setting.tokens[progress.position]? with
  | some token => (.found token, { progress with position := progress.position + 1 })
  | none => (.exhausted, progress)

/-- The token before the position. -/
def previous : Parser Token := fun setting progress =>
  match setting.tokens[progress.position - 1]? with
  | some token => (.found token, progress)
  | none => (.missing, progress)

/-- What a token of one kind holds. -/
def holding (content? : Token.Kind → Option α) : Parser α := do
  match content? (← next).kind with
  | some a => pure a
  | none => miss

def one (kind : Token.Kind) : Parser Unit := holding fun found => if found = kind then some () else none

def sign (sign : String) : Parser Unit := one (.sign sign.toList)

def keyword (word : String) : Parser Unit := one (.keyword word.toList)

def anyName : Parser Text := holding fun
  | .name word => some word
  | _ => none

def anyQuotation : Parser Quotation := holding fun
  | .quotation quotation => some quotation
  | _ => none

def anyNumber : Parser Bool := holding fun
  | .number imaginary => some imaginary
  | _ => none

/-- One of some signs. -/
def oneOf (signs : List String) : Parser Text := holding fun
  | .sign sign => if signs.any (·.toList = sign) then some sign else none
  | _ => none

/-- Quotations in a row as one expression. -/
def join (quotations : List Quotation) : Parser Expression := fun setting progress =>
  match setting.join quotations with
  | .ok e => (.found e, progress)
  | .error fault => (.faulty fault, progress)

/-- What a parser finds with commas between. -/
def separated (p : Parser α) : Parser (List α) := do
  let first ← p
  return first :: (← many (sign "," >>= fun _ => p))

/-! ## Notes -/

/-- What is noted down about a rule at a position. -/
def noted? (progress : Progress) (rule : Rule) : Option Note :=
  (progress.notes[progress.position]?).bind (·.find? (·.rule = rule))

/-- Note down what a rule found from `start` on. -/
def note (progress : Progress) (start : Nat) (rule : Rule) (found : Option Expression) : Progress :=
  { progress with
    notes := progress.notes.modify start (⟨rule, found, progress.position⟩ :: ·) }

/-- Read by a rule, unless it is noted down what that finds. -/
def remember (rule : Rule) (p : Parser Expression) : Parser Expression := fun setting progress =>
  match noted? progress rule with
  | some seen =>
    (seen.found.elim .missing .found, { progress with position := seen.finish })
  | none =>
    match p setting progress with
    | (.found e, after) => (.found e, note after progress.position rule e)
    | (.missing, after) =>
      let back := { after with position := progress.position }
      (.missing, note back progress.position rule none)
    | result => result

end Parser

end PictureReport.Literal
