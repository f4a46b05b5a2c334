import PictureReport.Text.Quoted

/-!
# Paths

A path is a row of names, from the root of all files or from the folder at hand. Empty names and
single dots are dropped; two dots stay, as what they lead to depends on the folders there are.
-/

namespace PictureReport

/-- Where a path starts. -/
inductive Start where
  /-- The folder at hand. -/
  | here
  /-- The root, written with one slash or with three and more. -/
  | root
  /-- The root, written with two slashes. -/
  | doubleRoot
deriving DecidableEq, Repr

structure Path where
  start : Start
  names : List Text
deriving DecidableEq, Repr

namespace Start

def ofText : Text → Start
  | '/' :: '/' :: '/' :: _ => root
  | '/' :: '/' :: _ => doubleRoot
  | '/' :: _ => root
  | _ => here

def text : Start → Text
  | here => []
  | root => ['/']
  | doubleRoot => ['/', '/']

end Start

/-- The name that leads to the folder above. -/
def upward : Text := ['.', '.']

namespace Path

def ofText (t : Text) : Path :=
  ⟨Start.ofText t, (Text.separate '/' t).filter fun name => !name.isEmpty && name ≠ ['.']⟩

def text (path : Path) : Text :=
  if path.start = .here && path.names.isEmpty then ['.']
  else path.start.text ++ Text.joinWith ['/'] path.names

/-- The folder of the file. -/
def parent (path : Path) : Path := { path with names := path.names.dropLast }

/-- The path `other` as it is seen from the folder `path`. -/
def join (path other : Path) : Path :=
  if other.start = .here then { path with names := path.names ++ other.names } else other

/-- The suffix of a name from its last dot, in lower case.  A dot at either end starts none. -/
def suffix (path : Path) : Text :=
  let name := path.names.getLast?.getD []
  let pieces := Text.separate '.' name
  let last := pieces.getLast?.getD []
  if pieces.length < 2 || last.isEmpty || name.length = last.length + 1 then []
  else '.' :: last.map Char.toLower

end Path

/-- Why a file cannot be read or written. -/
inductive FileFault where
  | missing (path : Path)
  | isFolder (path : Path)
  | alreadyThere (path : Path)
  | noFolder (path : Path)
  /-- A name, or the path as a whole, has too many bytes. -/
  | tooLong (path : Path)
  /-- The path holds a null character. -/
  | nullCharacter
  /-- A table cannot be written to a folder. -/
  | tableIsFolder (path : Path)
  /-- The path of a table has a name of too many bytes. -/
  | tableTooLong (path : Path)
  /-- The path of a table holds a null character. -/
  | tableNullCharacter
deriving DecidableEq, Repr

def FileFault.message : FileFault → String
  | missing path => "[Errno 2] No such file or directory: " ++ Text.str path.text.quoted
  | isFolder path => "[Errno 21] Is a directory: " ++ Text.str path.text.quoted
  | alreadyThere path => "[Errno 17] File exists: " ++ Text.str path.text.quoted
  | noFolder path => "[Errno 20] Not a directory: " ++ Text.str path.text.quoted
  | tooLong path => "[Errno 36] File name too long: " ++ Text.str path.text.quoted
  | nullCharacter => "embedded null byte"
  | tableIsFolder path => "Expected file path, but " ++ Text.str path.text ++ " is a directory"
  | tableTooLong path =>
    "[Errno 36] Failed to open local file '" ++ Text.str path.text ++
      "'. Detail: [errno 36] File name too long"
  | tableNullCharacter => ""

end PictureReport
