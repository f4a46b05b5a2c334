import PictureReport.Files.Disk
import PictureReport.Json.Reader
import PictureReport.Session

/-!
# Layouts

A layout names a report and gives the pictures of its bands, the page length and whether pages start
with form feeds. It is read from a mapping; the picture of a band may stand in a file of its own,
which is sought in the folder of the layout.
-/

namespace PictureReport

structure Layout where
  name : Text
  bands : Entries Band Spec
  pageLength : Int
  formFeed : Bool
deriving Repr

/-- The integer that a value is or writes; a number loses its fraction. -/
def Value.toInteger : Value → Except Fault Int
  | .int i => .ok i
  | .bool b => .ok (if b then 1 else 0)
  | .float x =>
    match x.toInteger with
    | .ok i => .ok i
    | .error fault => .error (.number fault)
  | .text t =>
    match Numeral.integer t with
    | .ok i => .ok i
    | .error fault => .error (.number fault)
  | value => .error (.noInteger value.kindName)

namespace Layout

variable {m : Type → Type} [Monad m]

/-- The content of a text file, where every line end is one line feed. -/
def readText (disk : Disk m) (path : Path) : ExceptT Fault m Text := do
  match ← disk.read path with
  | .ok t => pure t.unifyEnds
  | .error fault => throw (.file fault)

/-- Is there a file? -/
def isFile (disk : Disk m) (path : Path) : ExceptT Fault m Bool := do
  match ← disk.isFile path with
  | .ok found => pure found
  | .error fault => throw (.file fault)

/-- The picture of the band with the key `key`. -/
def bandSpec (disk : Disk m) (base : Option Path) (key : Text) (value : Value) :
    ExceptT Fault m Spec := do
  match value with
  | .text t => pure (.text t)
  | .list items =>
    match items.mapM Value.toText with
    | .ok lines => pure (.chunks lines)
    | .error fault => throw (.noText fault)
  | .object entries =>
    match Entries.get? "file" entries with
    | none => throw (.badBand key)
    | some (.text t) =>
      let path := Path.ofText t
      let path := (base.map fun base => base.join path).getD path
      if ← isFile disk path then return .text (← readText disk path)
      else throw (.noBandFile key path)
    | some value => throw (.noPath value.kindName)
  | _ => throw (.badBand key)

/-- The pictures of bands by their bands.  Where two keys name one band the later one counts. -/
def bandSpecs (disk : Disk m) (base : Option Path) (found : Entries Band Spec) :
    List (String × Value) → ExceptT Fault m (Entries Band Spec)
  | [] => pure found
  | (key, value) :: rest => do
    match Assembly.bandOf key.toList with
    | .error fault => throw fault
    | .ok band =>
      let spec ← bandSpec disk base key.toList value
      bandSpecs disk base (Entries.set band spec found) rest

/-- The layout of a mapping.  Files of bands are sought in the folder `base`. -/
def ofEntries (disk : Disk m) (base : Option Path) (entries : List (String × Value)) :
    ExceptT Fault m Layout := do
  match Entries.get? "bands" entries with
  | some (.object (first :: others)) =>
    let bands ← bandSpecs disk base [] (first :: others)
    match ((Entries.get? "name" entries).getD (.text "layout".toList)).toText with
    | .error fault => throw (.noText fault)
    | .ok name =>
      match ((Entries.get? "page_length" entries).getD (.int Page.defaultLength)).toInteger with
      | .error fault => throw fault
      | .ok pageLength =>
        let formFeed := ((Entries.get? "form_feed" entries).getD (.bool true)).holds
        pure ⟨name, bands, pageLength, formFeed⟩
  | _ => throw .noBands

/-- Does the name of a file say that it holds YAML? -/
def isYaml (path : Path) : Bool := path.suffix = ".yml".toList || path.suffix = ".yaml".toList

/-- The value that the content of a layout file is.  A YAML file is read as far as it is written like JSON;
other content of it is no mapping. -/
def payload (yaml : Bool) (t : Text) : Except Fault Value :=
  match Json.read (if yaml then .plain else .lenient) t with
  | .ok value => .ok value
  | .error (.tooManyDigits digits) => .error (.number (.tooManyDigits digits))
  | .error (.tooDeep list) => .error (.tooDeep list)
  | .error .malformed => if yaml then .ok .null else .error .badSyntax

/-- The layout in a file. -/
def load (disk : Disk m) (path : Path) : ExceptT Fault m Layout := do
  let t ← readText disk path
  match payload (isYaml path) t with
  | .error fault => throw fault
  | .ok (.object entries) => ofEntries disk (some path.parent) entries
  | .ok _ => throw (.badLayout path)

/-- The bands of the layout as they are given for a form. -/
def bandValues (layout : Layout) : Entries Text BandValue :=
  layout.bands.map fun entry => (entry.1.key.toList, .spec entry.2)

/-- A session with the page settings of the layout. -/
def session (layout : Layout) : Session := Session.start (Page.first layout.pageLength) layout.formFeed

/-- A layout to start from. -/
def sample : List (String × Value) :=
  [("name", .text "invoices".toList), ("page_length", .int 20), ("form_feed", .bool false),
    ("bands", .object
      [("top", .text "Invoices                 page @&&\npage\n".toList),
        ("detail", .text "@<<<<<<<<<<< $@######.##\ncustomer, amount\n".toList),
        ("bottom", .text "------------------------------\n".toList)])]

/-- The layout to start from as YAML. -/
def sampleYaml : Text :=
  Text.ofLines (List.map String.toList
    ["name: invoices", "page_length: 20", "form_feed: false", "bands:",
      "  top: 'Invoices                 page @&&", "", "    page", "", "    '",
      "  detail: '@<<<<<<<<<<< $@######.##", "", "    customer, amount", "", "    '",
      "  bottom: '------------------------------", "", "    '"])

end Layout

end PictureReport
