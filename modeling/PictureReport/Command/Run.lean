import PictureReport.Command.Basic
import PictureReport.Json.Codec
import PictureReport.Layout
import PictureReport.Reading.Records
import PictureReport.Terminal.Markup

/-!
# Running commands

A command reads its files from a disk, does its work and writes its output to the disk or to the
terminal. What is wrong with its input ends it with a message.
-/

namespace PictureReport

/-- What is shown on the terminal besides a report. -/
inductive Notice where
  | line (t : Text)
  | table (title : Text) (columns : List String) (rows : List (List Text))
deriving Repr

/-- What a command gives so far. -/
structure CommandOutput where
  report : Text
  notices : List Notice
  warnings : List Warning
deriving Repr

/-- What ends a command. -/
inductive CommandFault where
  | noLayoutFile (path : Path)
  | noInputFile (path : Path)
  | badJson (path : Path)
  | noRecords (path : Path)
  | pageLength
  | unknownFormat (name : Text)
  | outputNeeded
  /-- A fault of the pictures or the layout. -/
  | user (fault : Fault)
  /-- A fault of the values. -/
  | other (fault : Fault)
  /-- What is written into a notice holds tags that close nothing. -/
  | markup (fault : Markup.Fault)
deriving DecidableEq, Repr

namespace CommandFault

def message : CommandFault → String
  | noLayoutFile path => "Layout file not found: " ++ Text.str path.text
  | noInputFile path => "Input file not found: " ++ Text.str path.text
  | badJson path => "Invalid JSON in " ++ Text.str path.text
  | noRecords path => Text.str path.text ++ " must hold a JSON object or array of objects"
  | pageLength => "--page-length must be positive"
  | unknownFormat name => "Unsupported format '" ++ name.str ++ "'."
  | outputNeeded => "Arrow output needs --output"
  | user fault | other fault => fault.message
  | markup fault => fault.message

/-- Faults of what the user wrote are told apart from the others. -/
def ofFault (fault : Fault) : CommandFault := if fault.isUserFault then user fault else other fault

end CommandFault

/-! ## Records in files -/

namespace Records

variable (json : Json.Codec)

/-- The values on the lines of a text; blank lines hold none. -/
def ofJsonLines (t : Text) : Option (List Value) :=
  (t.lines.filter fun line => !(Text.trim line).isEmpty).mapM json.loads

/-- The records as lines, up to the first that cannot be written. -/
def toJsonLines : List Record → Text × Option Fault
  | [] => ([], none)
  | record :: rest =>
    match json.dumps (.object record) with
    | .error fault => ([], some fault)
    | .ok line =>
      let (others, fault) := toJsonLines rest
      (line ++ '\n' :: others, fault)

/-- The records as one list, spread over lines. -/
def toJson (records : List Record) : Except Fault Text :=
  json.dumpsIndented (.list (records.map .object))

/-- The values that a file holds in one list, or the one object that it holds. -/
def ofValue? : Value → Option (List Value)
  | .object entries => some [.object entries]
  | .list items => some items
  | _ => none

end Records

/-! ## The commands -/

/-- A command at work in `m`; its output is kept when it fails. -/
abbrev Running (m : Type → Type) := ExceptT CommandFault (StateT CommandOutput m)

namespace Command

variable {m : Type → Type} [Monad m]

/-- A computation that needs the disk only. -/
def lifted {α : Type} (x : m α) : Running m α := fun output => do
  let result ← x
  pure (.ok result, output)

def ofExcept {α : Type} (x : Except Fault α) : Running m α :=
  match x with
  | .ok result => pure result
  | .error fault => throw (.ofFault fault)

def notice (notice : Notice) : Running m Unit :=
  modify fun output => { output with notices := output.notices ++ [notice] }

/-- Show the text of a marked-up notice. -/
def say (t : Text) : Running m Unit := do
  match Markup.read t with
  | .ok shown => notice (.line shown)
  | .error (.badColor fault) => throw (.other (.number fault))
  | .error fault => throw (.markup fault)

/-- Show the report on the terminal. -/
def print (t : Text) : Running m Unit :=
  modify fun output => { output with report := t.withoutEscapes }

/-- A computation on files, whose faults end the command. -/
def onDisk {α : Type} (x : m (Except FileFault α)) : Running m α := do
  match ← lifted x with
  | .ok result => pure result
  | .error fault => throw (.other (.file fault))

/-- Make the folder of a file. -/
def prepare (disk : Disk m) (path : Path) : Running m Unit := onDisk (disk.makeFolder path.parent)

def write (disk : Disk m) (path : Path) (content : FileContent) : Running m Unit :=
  onDisk (disk.write path content)

def loadLayout (disk : Disk m) (path : Path) : Running m Layout := do
  if ← onDisk (disk.isFile path) then
    let found ← lifted (Layout.load disk path).run
    ofExcept found
  else throw (.noLayoutFile path)

def readText (disk : Disk m) (path : Path) : Running m Text := do
  if ← onDisk (disk.isFile path) then
    let found ← lifted (Layout.readText disk path).run
    ofExcept found
  else throw (.noInputFile path)

/-- The values in a file of records. -/
def loadRecords (json : Json.Codec) (disk : Disk m) (path : Path) : Running m (List Value) := do
  let t ← readText disk path
  if path.suffix = ".jsonl".toList then
    match Records.ofJsonLines json t with
    | some values => pure values
    | none => throw (.badJson path)
  else
    match json.loads t with
    | none => throw (.badJson path)
    | some value =>
      match Records.ofValue? value with
      | some values => pure values
      | none => throw (.noRecords path)

/-- Run a computation on a session; the session it leaves is kept with its outcome. -/
def reporting {α : Type} (session : Session) (x : Reporting α) : Running m (α × Session) := do
  let (outcome, session) := x session
  modify fun output => { output with warnings := session.press.desk.warnings }
  let result ← ofExcept outcome
  pure (result, session)

/-- The marked-up notice that something is written.  The path stands in it as it is. -/
def written (emphasis : String) (rest : Text) (path : Path) : Text :=
  "[bold green]".toList ++ emphasis.toList ++ "[/]".toList ++ rest ++ " to ".toList ++ path.text

/-- A count and a word as they follow the first word of a notice. -/
def counted (count : Nat) (word : String) : Text := ' ' :: decimalDigits count ++ ' ' :: word.toList

def runRender (json : Json.Codec) (disk : Disk m) (layoutPath recordsPath : Path)
    (output : Option Path) (pageLength : Option Int) (finish : Bool) (formFeed : Option Bool) :
    Running m Unit := do
  let layout ← loadLayout disk layoutPath
  if let some length := pageLength then
    if length < 1 then throw .pageLength
  let layout := { layout with
    pageLength := pageLength.getD layout.pageLength
    formFeed := formFeed.getD layout.formFeed }
  let values ← loadRecords json disk recordsPath
  let (form, session) ← reporting layout.session (Session.compileBands layout.bandValues)
  let session := { session with sources := values.map Source.ofValue }
  let (_, session) ← reporting session
    (Session.printAll form (List.range values.length) finish)
  let lines := session.press.lines
  match output with
  | some path =>
    prepare disk path
    write disk path (.text (Text.ofLines lines))
    say (written "Wrote" (counted lines.length "lines") path)
  | none => print (Text.ofLines lines)

def runRead (json : Json.Codec) (disk : Disk m) (layoutPath reportPath : Path)
    (output : Option Path) (formatName : Text) : Running m Unit := do
  match RecordFormat.ofName? formatName with
  | none => throw (.unknownFormat formatName)
  | some format =>
    if format = .arrow && output.isNone then throw .outputNeeded
    let layout ← loadLayout disk layoutPath
    let (form, session) ← reporting layout.session (Session.compileBands layout.bandValues)
    let t ← readText disk reportPath
    let patterns ← ofExcept (LinePattern.ofLines (session.assembly.linesOf form))
    let (records, fault) := readReport patterns (t.filter (· ≠ '\x0c'))
    if let some fault := fault then throw (.ofFault fault)
    match output with
    | none =>
      let shown ← ofExcept (Records.toJson json records)
      print (shown ++ ['\n'])
    | some path =>
      prepare disk path
      match format with
      | .arrow => write disk path (.table (← ofExcept (Table.ofRecords records)))
      | .json => write disk path (.text (← ofExcept (Records.toJson json records)))
      | .jsonl =>
        let (lines, fault) := Records.toJsonLines json records
        write disk path (.text lines)
        if let some fault := fault then throw (.ofFault fault)
      say (written "Wrote" (counted records.length "records") path)

/-- One row for a picture line: its band, the line, its fields with their variables, its marks. -/
def inspectLine (band : String) (line : PictureLine) : Except Fault (List Text) := do
  let bindings ← line.bindings
  let fields := bindings.map fun (f, name) =>
    name.toList ++ ['='] ++ f.source ++ ['('] ++ decimalDigits f.width ++ [')']
  let marks := if line.repeated then "repeat" else if line.suppressed then "suppress" else ""
  pure [band.toList, line.source.withoutControls,
    (Text.joinWith [',', ' '] fields).withoutControls, marks.toList]

def runInspect (disk : Disk m) (layoutPath : Path) : Running m Unit := do
  let layout ← loadLayout disk layoutPath
  let (form, session) ← reporting layout.session (Session.compileBands layout.bandValues)
  let pictures := session.assembly.formOf form
  let lines := ((Band.detail, pictures.body) :: pictures.bands).flatMap fun (band, lines) =>
    lines.map fun line => (band.key, line)
  let rows ← ofExcept (lines.mapM fun (band, line) => inspectLine band line)
  notice (.table
    (layout.name ++ " (page length ".toList ++ integerText layout.pageLength ++ [')'])
    ["band", "picture", "fields", "flags"] rows)

def runSampleLayout (json : Json.Codec) (disk : Disk m) (path : Path) : Running m Unit := do
  let content ←
    if Layout.isYaml path then pure Layout.sampleYaml
    else ofExcept (json.dumpsIndented (.object Layout.sample))
  prepare disk path
  write disk path (.text content)
  say (written "Wrote sample layout" [] path)

/-- Run a command. -/
def run (json : Json.Codec) (disk : Disk m) : Command → Running m Unit
  | render layout records output pageLength finish formFeed =>
    runRender json disk layout records output pageLength finish formFeed
  | read layout report output format => runRead json disk layout report output format
  | inspect layout => runInspect disk layout
  | sampleLayout output => runSampleLayout json disk output

end Command

end PictureReport
