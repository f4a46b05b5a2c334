import PictureReport.Picture.Line
import PictureReport.Text.Lines

/-!
# Picture specifications

A specification is a sequence of lines. A line that starts with `#` is a comment. A picture line
with fields is followed by a line that names one variable for each field, separated by commas.
-/

namespace PictureReport

/-- A picture as it is written: one text or a list of chunks of lines. -/
inductive Spec where
  | text (t : Text)
  | chunks (ts : List Text)
deriving DecidableEq, Repr

namespace Spec

/-- The lines of a specification; an empty chunk is an empty line. -/
def lines : Spec → List Text
  | text t => t.lines
  | chunks ts => ts.flatMap fun t => if t.isEmpty then [[]] else t.lines

/-- The names on a line of names, without the empty ones at its end. -/
def namesOf (line : Text) : List String :=
  let parts := (Text.separate ',' line).map Text.trim
  ((parts.reverse.dropWhile List.isEmpty).reverse).map Text.str

/-- The names on a line that must hold `expected` of them. -/
def expectNames (expected : Int) (line : Text) : Except Fault (List String) :=
  let found := namesOf line
  if (found.length : Int) = expected then .ok found
  else .error (.arity expected found.length (.nameLine line))

def isComment (line : Text) : Bool := line.head? = some '#'

/-- The picture lines of the lines of a specification; `pending` is a picture line whose variables
are to be named next. -/
def picturesFrom (pending : Option PictureLine) : List Text → Except Fault (List PictureLine)
  | [] =>
    match pending with
    | none => .ok []
    | some line => .error (.arity line.fields.length 0 (.noNameLine line.source))
  | raw :: rest =>
    if isComment raw then picturesFrom pending rest
    else match pending with
      | some line => do
        let names ← expectNames line.fields.length raw
        let others ← picturesFrom none rest
        pure ({ line with names } :: others)
      | none => do
        let line ← PictureLine.ofSource raw
        if line.fields.isEmpty then
          let others ← picturesFrom none rest
          pure (line :: others)
        else picturesFrom (some line) rest

/-- The picture lines of a specification with their variables. -/
def compile (spec : Spec) : Except Fault (List PictureLine) := picturesFrom none spec.lines

/-- The distinct variables of picture lines in the order of their first use. -/
def variableNames (pictures : List PictureLine) : List String :=
  (pictures.flatMap (·.names)).foldl
    (fun seen name => if seen.contains name then seen else seen ++ [name]) []

end Spec

end PictureReport
