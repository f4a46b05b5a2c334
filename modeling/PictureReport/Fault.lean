import PictureReport.Band
import PictureReport.Files.Path
import PictureReport.Value

/-!
# Faults

What can go wrong while pictures are compiled, forms put together, records printed and read back,
and layouts loaded: one constructor for each cause, and the message that states it.
-/

namespace PictureReport

/-- What was compared when a count of variables was found wrong. -/
inductive ArityCause where
  /-- A line of names has too few or too many of them. -/
  | nameLine (line : Text)
  /-- The line of names after a picture line is missing. -/
  | noNameLine (picture : Text)
  /-- A compiled line holds another number of names than fields. -/
  | pictureLine (picture : Text)
deriving DecidableEq, Repr

inductive Fault where
  /-- No field can be read after an introducer. -/
  | malformedField (fragment : Text) (line : Option Text)
  /-- Fields and variables do not pair up. -/
  | arity (expected : Int) (received : Nat) (cause : ArityCause)
  /-- A name stands for no band. -/
  | undefinedBand (name : Text)
  /-- Neither a detail nor a top band is given. -/
  | noBody
  /-- The detail is given as a form and not as a picture. -/
  | bodyIsForm
  /-- Nothing is given for a band that is to be set. -/
  | noPicture
  /-- The detail cannot be set as a band of a form. -/
  | detailIsForm
  /-- A form would become reachable from itself. -/
  | recursiveBand (band : Band)
  /-- A form is already the band of another form. -/
  | takenBand (band : Band)
  /-- A text or a number is no integer. -/
  | number (fault : NumberFault)
  /-- A value that is no record was asked for a variable. -/
  | noVariables (kind : String)
  /-- A fragment that is no text was to follow a value of the kind `left`. -/
  | cannotFollow (left right : String)
  /-- Two values cannot be added. -/
  | cannotAdd (left right : String)
  /-- A layout has no mapping of bands, or an empty one. -/
  | noBands
  /-- The file of a band is missing. -/
  | noBandFile (key : Text) (path : Path)
  /-- A band is given by a value of the wrong kind. -/
  | badBand (key : Text)
  /-- The content of a layout file is no mapping. -/
  | badLayout (path : Path)
  /-- A value of the wrong kind stands where an integer is needed. -/
  | noInteger (kind : String)
  /-- A value of the wrong kind stands where a path is needed. -/
  | noPath (kind : String)
  /-- A file cannot be read or written. -/
  | file (fault : FileFault)
  /-- The content of a layout file cannot be read. -/
  | badSyntax
  /-- Lists or objects of a layout file stand too deep within each other. -/
  | tooDeep (list : Bool)
  /-- A value has no text. -/
  | noText (fault : ShowFault)
  /-- An integer needs more than 64 bits. -/
  | wideInteger
  /-- An integer of a column needs more than 64 bits. -/
  | wideColumn
deriving DecidableEq, Repr

namespace ArityCause

def message : ArityCause → String
  | nameLine line =>
    "be sure to separate names using commas, got " ++ Text.str line.quoted
  | noNameLine picture => "missing variable line after " ++ Text.str picture.quoted
  | pictureLine picture => "picture line " ++ Text.str picture.quoted

end ArityCause

namespace Fault

def message : Fault → String
  | malformedField fragment none => "Malformed format entry \"" ++ fragment.str ++ "\""
  | malformedField fragment (some line) =>
    "Malformed format entry \"" ++ fragment.str ++ "\" in picture line " ++ Text.str line.quoted
  | arity expected received cause =>
    "Expected " ++ Text.str (integerText expected) ++ " variable(s) but received " ++
      Text.str (decimalDigits received) ++ ": " ++ cause.message
  | undefinedBand name => "undefined band " ++ Text.str name.quoted
  | noBody => "a form needs at least a detail (or top) band"
  | bodyIsForm => "the detail band must be a picture spec, not a Form"
  | noPicture => "'NoneType' object is not iterable"
  | detailIsForm => "the detail band is the form itself"
  | recursiveBand band =>
    "recursive format not allowed for band " ++ Text.str (Text.quoted band.key.toList)
  | takenBand band =>
    "band " ++ Text.str (Text.quoted band.key.toList) ++ " already belongs to another form"
  | number fault => fault.message
  | noVariables kind => "'" ++ kind ++ "' object has no attribute 'get'"
  | cannotFollow left right =>
    "can only concatenate " ++ left ++ " (not \"" ++ right ++ "\") to " ++ left
  | cannotAdd left right =>
    "unsupported operand type(s) for +: '" ++ left ++ "' and '" ++ right ++ "'"
  | noBands => "layout needs a non-empty 'bands' mapping"
  | noBandFile key path =>
    "band " ++ Text.str key.quoted ++ ": file not found: " ++ Text.str path.text
  | badBand key =>
    "band " ++ Text.str key.quoted ++ " must be text, a list of lines or \x7bfile: path\x7d"
  | badLayout path => Text.str path.text ++ ": layout must be a mapping"
  | noInteger kind =>
    "int() argument must be a string, a bytes-like object or a real number, not '" ++ kind ++ "'"
  | noPath kind => "expected str, bytes or os.PathLike object, not " ++ kind
  | file fault => fault.message
  | badSyntax => ""
  | tooDeep list =>
    "maximum recursion depth exceeded while decoding a JSON " ++
      (if list then "array" else "object") ++ " from a unicode string"
  | noText fault => fault.message
  | wideInteger => "Integer exceeds 64-bit range"
  | wideColumn => "Python int too large to convert to C long"

/-- Is it a fault of the pictures, forms or layouts that the user wrote? -/
def isUserFault : Fault → Bool
  | malformedField .. | arity .. | undefinedBand _ | noBody | bodyIsForm | detailIsForm
  | recursiveBand _ | takenBand _ | noBands | noBandFile .. | badBand _ | badLayout _ => true
  | _ => false

end Fault

end PictureReport
