import PictureReport.Json.Reader
import PictureReport.Json.Writer

/-!
# Codecs

Commands read and write the JSON texts of records by a `Codec`, of which they know nothing else.
`Codec.strict` is the one that programs use: it reads by `read .strict` and writes by `compact` and
`indented`.
-/

namespace PictureReport.Json

/-- How values become JSON texts and texts become values. -/
structure Codec where
  /-- The value that a text writes, if the text is a JSON document. -/
  loads : Text → Option Value
  /-- The value on one line. -/
  dumps : Value → Except Fault Text
  /-- The value on lines that are indented by its lists and objects. -/
  dumpsIndented : Value → Except Fault Text

def Codec.strict : Codec where
  loads t := (read .strict t).toOption
  dumps := compact
  dumpsIndented := indented 0

end PictureReport.Json
