import PictureReport.Files.Path
import PictureReport.Number.Numeral

/-!
# Commands

The commands of the program and the arguments that call them. Options may stand anywhere after the
name of a command.
-/

namespace PictureReport

/-- The format of records that are read back. -/
inductive RecordFormat where
  | json
  | jsonl
  | arrow
deriving DecidableEq, Repr

def RecordFormat.ofName? (name : Text) : Option RecordFormat :=
  let plain := name.map Char.toLower
  if plain = "json".toList then some .json
  else if plain = "jsonl".toList then some .jsonl
  else if plain = "arrow".toList then some .arrow
  else none

inductive Command where
  /-- Print records with a layout. -/
  | render (layout records : Path) (output : Option Path) (pageLength : Option Int)
      (finish : Bool) (formFeed : Option Bool)
  /-- Read records back from a report. -/
  | read (layout report : Path) (output : Option Path) (format : Text)
  /-- Show the pictures of a layout. -/
  | inspect (layout : Path)
  /-- Write a layout to start from. -/
  | sampleLayout (output : Path)
deriving Repr

namespace Command

/-- Arguments as they are read: those without an option, and the options with their values. -/
structure Arguments where
  plain : List Text
  options : List (String × Text)

/-- An option of a command: its names, its key, and the value that it has without argument. -/
structure Flag where
  names : List String
  key : String
  value : Option Text

def renderFlags : List Flag :=
  [⟨["--output", "-o"], "output", none⟩, ⟨["--page-length"], "page-length", none⟩,
    ⟨["--finish"], "finish", some "on".toList⟩, ⟨["--no-finish"], "finish", some "off".toList⟩,
    ⟨["--form-feed"], "form-feed", some "on".toList⟩,
    ⟨["--no-form-feed"], "form-feed", some "off".toList⟩]

def readFlags : List Flag :=
  [⟨["--output", "-o"], "output", none⟩, ⟨["--format", "-f"], "format", none⟩]

/-- The option that an argument names, with the value that is attached to it: after an equals sign
for a long name, at once for a short one. -/
def flagOf? (flags : List Flag) (argument : Text) : Option (Flag × Option Text) :=
  flags.findSome? fun flag => flag.names.findSome? fun name =>
    if name.toList = argument then some (flag, none)
    else if name.toList.length = 2 then
      if name.toList.isPrefixOf argument then some (flag, some (argument.drop 2)) else none
    else if (name.toList ++ ['=']).isPrefixOf argument then
      some (flag, some (argument.drop (name.toList.length + 1)))
    else none

/-- Sort arguments into options and others.  After two hyphens there are no more options. -/
def sort (flags : List Flag) : List Text → Option Arguments
  | [] => some ⟨[], []⟩
  | argument :: rest =>
    if argument = "--".toList then some ⟨rest, []⟩
    else match flagOf? flags argument with
      | some (flag, attached) =>
        match flag.value, attached, rest with
        | some value, none, rest =>
          (sort flags rest).map fun found =>
            { found with options := (flag.key, value) :: found.options }
        | some _, some _, _ => none
        | none, some value, rest =>
          (sort flags rest).map fun found =>
            { found with options := (flag.key, value) :: found.options }
        | none, none, value :: rest =>
          (sort flags rest).map fun found =>
            { found with options := (flag.key, value) :: found.options }
        | none, none, [] => none
      | none =>
        if argument.head? = some '-' && argument.length ≠ 1 then none
        else (sort flags rest).map fun found => { found with plain := argument :: found.plain }

namespace Arguments

/-- The value of an option; the last one counts. -/
def option? (arguments : Arguments) (key : String) : Option Text :=
  arguments.options.reverse.lookup key

/-- Is an option switched on? -/
def switch? (arguments : Arguments) (key : String) : Option Bool :=
  (arguments.option? key).map (· = "on".toList)

end Arguments

/-- The count that an argument writes: an integer, and perhaps a point with zeros after it. -/
def count? (t : Text) : Option Int :=
  let plain := t.trim
  let whole := plain.takeWhile (· ≠ '.')
  let fraction := plain.drop (whole.length + 1)
  (Numeral.integer (if fraction.all (· = '0') then whole else plain)).toOption

/-- The command that a name and the arguments after it call. -/
def ofName? (name : String) (rest : List Text) : Option Command :=
  match name with
  | "render" => do
    let found ← sort renderFlags rest
    let pageLength ← match found.option? "page-length" with
      | none => some none
      | some t => (count? t).map some
    match found.plain with
    | [layout, records] =>
      some (render (Path.ofText layout) (Path.ofText records)
        ((found.option? "output").map Path.ofText) pageLength
        ((found.switch? "finish").getD true) (found.switch? "form-feed"))
    | _ => none
  | "read" => do
    let found ← sort readFlags rest
    match found.plain with
    | [layout, report] =>
      some (read (Path.ofText layout) (Path.ofText report)
        ((found.option? "output").map Path.ofText)
        ((found.option? "format").getD "json".toList))
    | _ => none
  | "inspect" => do
    let found ← sort [] rest
    match found.plain with
    | [layout] => some (inspect (Path.ofText layout))
    | _ => none
  | "sample-layout" => do
    let found ← sort [] rest
    match found.plain with
    | [output] => some (sampleLayout (Path.ofText output))
    | _ => none
  | _ => none

/-- Does the argument ask for verbosity, once or several times? -/
def isVerbosity (argument : Text) : Bool :=
  argument = "--verbose".toList ||
    (argument.head? = some '-' && argument.length ≠ 1 && (argument.drop 1).all (· = 'v'))

/-- The command that arguments call.  Verbosity may be asked for first; after two hyphens the name of the
command must follow. -/
def ofArguments? : List Text → Option Command
  | [] => none
  | argument :: rest =>
    if isVerbosity argument then ofArguments? rest
    else if argument = "--".toList then
      match rest with
      | name :: rest => ofName? name.str rest
      | [] => none
    else ofName? argument.str rest

end Command

end PictureReport
