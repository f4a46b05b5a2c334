import PictureReport.Command.Run

/-!
# The program

The command line: arguments and files come from the system, all else is done by `Command.run`.
-/

namespace PictureReport

/-- A table of columns as text, for systems that keep text only. -/
def Table.asText (table : Table) : Text :=
  Text.ofLines (table.columns.map fun column =>
    Text.joinWith ['\t'] (column.name.toList :: column.type.name.toList ::
      column.values.map Value.shown))

def FileContent.asText : FileContent → Text
  | .text t => t
  | .table columns => columns.asText

/-- The files of the system. -/
def systemDisk : Disk IO where
  isFile path := do
    try
      let _ ← IO.FS.readFile path.text.str
      pure (.ok true)
    catch _ => pure (.ok false)
  read path := do
    try
      let content ← IO.FS.readFile path.text.str
      pure (.ok content.toList)
    catch _ => pure (.error (.missing path))
  makeFolder path := do
    try
      IO.FS.createDirAll path.text.str
      pure (.ok ())
    catch _ => pure (.error (.alreadyThere path))
  write path content := do
    try
      IO.FS.writeFile path.text.str content.asText.str
      pure (.ok ())
    catch _ => pure (.error (.isFolder path))

def Notice.lines : Notice → List Text
  | .line t => [t]
  | .table title columns rows =>
    title :: Text.joinWith ['\t'] (columns.map String.toList) ::
      rows.map (Text.joinWith ['\t'])

end PictureReport

open PictureReport in
def main (arguments : List String) : IO UInt32 := do
  match Command.ofArguments? (arguments.map String.toList) with
  | none =>
    IO.eprintln "usage: render | read | inspect | sample-layout"
    pure 2
  | some command =>
    let (outcome, output) ← Command.run .strict systemDisk command ⟨[], [], []⟩
    for warning in output.warnings do IO.eprintln warning.message
    IO.print output.report.str
    for line in output.notices.flatMap Notice.lines do IO.println line.str
    match outcome with
    | .ok () => pure 0
    | .error fault =>
      IO.eprintln fault.message
      pure 2
