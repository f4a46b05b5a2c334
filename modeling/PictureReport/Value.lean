import PictureReport.Number.Numeral

/-!
# Values

The values that a report prints and that reading it back gives. `Value.stringify` gives the text of a
value, in which a missing value is empty and the items of a list or an object are shown as literals. Two
things have no text: lists and objects too deep within each other, and integers with too many digits.
-/

namespace PictureReport

inductive Value where
  | null
  | bool (b : Bool)
  | int (i : Int)
  | float (x : Binary64)
  | text (t : Text)
  | list (items : List Value)
  | object (entries : List (String × Value))
deriving Repr

/-- Why a value has no text. -/
inductive ShowFault where
  /-- Lists or objects stand too deep within each other. -/
  | tooDeep
  /-- An integer has more digits than a text may show. -/
  | tooLong
deriving DecidableEq, Repr

def ShowFault.message : ShowFault → String
  | tooDeep => "maximum recursion depth exceeded while getting the repr of an object"
  | tooLong =>
    "Exceeds the limit (4300 digits) for integer string conversion; " ++
      "use sys.set_int_max_str_digits() to increase the limit"

/-- Numbers are shown without exponent from `10 ^ -4` to below `10 ^ 16`, and an exponent has its
sign and at least two digits. -/
def shownNumber : Decimal.Style := ⟨-4, 15, true, 2⟩

/-- The shortest text that reads back as the number. -/
def Binary64.text (style : Decimal.Style) : Binary64 → Text
  | finite negative mantissa exponent => (shortest negative mantissa exponent).text style
  | infinite negative => (if negative then ['-'] else []) ++ "inf".toList
  | nan => "nan".toList

namespace Value

/-- Items between brackets, with a comma and a space between each two. -/
def enclosed (left right : Char) (items : List Text) : Text :=
  left :: Text.joinWith [',', ' '] items ++ [right]

mutual

/-- A value as it is written within a list or an object, provided that nothing is an `obstacle` to it. -/
def literal : Value → Text
  | null => "None".toList
  | bool b => if b then "True".toList else "False".toList
  | int i => integerText i
  | float x => x.text shownNumber
  | text t => t.quoted
  | list items => enclosed '[' ']' (literals items)
  | object entries => enclosed '\x7b' '\x7d' (entryLiterals entries)

def literals : List Value → List Text
  | [] => []
  | item :: rest => literal item :: literals rest

def entryLiterals : List (String × Value) → List Text
  | [] => []
  | (key, item) :: rest => (Text.quoted key.toList ++ [':', ' '] ++ literal item) :: entryLiterals rest

end

/-- The most lists and objects within each other that a text shows. -/
def maxNesting : Nat := 970

/-- Has the integer more digits than a text may show? -/
def isTooLong (i : Int) : Bool := Numeral.maxDigits < (decimalDigits i.natAbs).length

mutual

/-- What comes first that keeps a value from being written as a literal, where `depth` lists and objects may
stand within each other. -/
def obstacleWithin : Nat → Value → Option ShowFault
  | _, int i => if isTooLong i then some .tooLong else none
  | 0, list _ | 0, object _ => some .tooDeep
  | depth + 1, list items => obstacleOfItems depth items
  | depth + 1, object entries => obstacleOfEntries depth entries
  | _, _ => none

def obstacleOfItems : Nat → List Value → Option ShowFault
  | _, [] => none
  | depth, item :: rest => (obstacleWithin depth item).or (obstacleOfItems depth rest)

def obstacleOfEntries : Nat → List (String × Value) → Option ShowFault
  | _, [] => none
  | depth, (_, item) :: rest => (obstacleWithin depth item).or (obstacleOfEntries depth rest)

end

/-- What keeps a value from having a text. -/
def obstacle (value : Value) : Option ShowFault := obstacleWithin maxNesting value

/-- A value that can be shown. -/
def HasText (value : Value) : Prop := value.obstacle = none

instance (value : Value) : Decidable value.HasText := inferInstanceAs (Decidable (_ = none))

/-- A value that has a text as such: a text stands for itself, and other values are written as literals. -/
def asText : Value → Text
  | text t => t
  | value => literal value

/-- A value that has a text as a report shows it: a missing value is empty. -/
def shown : Value → Text
  | null => []
  | value => asText value

/-- A value that has a text as a fixed-point field shows it: a number whose text has an exponent is written
out. -/
def shownPlain : Value → Text
  | float (.finite negative mantissa exponent) =>
    let d := Binary64.shortest negative mantissa exponent
    if d.coefficient ≠ 0 ∧ d.needsExponent shownNumber then d.positional else d.text shownNumber
  | value => value.shown

/-- The text `t` of a value, unless there is an `obstacle` to it. -/
def orObstacle (value : Value) (t : Text) : Except ShowFault Text :=
  match value.obstacle with
  | some fault => .error fault
  | none => .ok t

/-- A value in words of its own, a missing one too, or why it has no text. -/
def toText (value : Value) : Except ShowFault Text := value.orObstacle value.asText

/-- The text of a value, or why it has none; a missing value has an empty text. -/
def stringify (value : Value) : Except ShowFault Text := value.orObstacle value.shown

/-- The text of a value for a fixed-point field, or why it has none. -/
def stringifyPlain (value : Value) : Except ShowFault Text := value.orObstacle value.shownPlain

/-- Does the value hold anything?  Zeros and empty texts, lists and objects do not. -/
def holds : Value → Bool
  | null => false
  | bool b => b
  | int i => i ≠ 0
  | float x => !x.isZero
  | text t => !t.isEmpty
  | list items => !items.isEmpty
  | object entries => !entries.isEmpty

/-- The word for the kind of a value in messages. -/
def kindName : Value → String
  | null => "NoneType"
  | bool _ => "bool"
  | int _ => "int"
  | float _ => "float"
  | text _ => "str"
  | list _ => "list"
  | object _ => "dict"

end Value

end PictureReport
