import PictureReport.Entries
import PictureReport.Form
import PictureReport.Page

/-!
# Putting forms together

Forms are created one after the other and become bands of each other. A form is the band of at most
one other form, no form is reachable from itself, and forms that hang together share one page
context. All of this is kept in a table of forms; a form is known by its place in the table.
-/

namespace PictureReport

/-- The place of a form in the table of forms. -/
abbrev FormId := Nat

/-- A page context as forms refer to it: which one it is, and the page length it was made with. -/
structure ContextRef where
  serial : Nat
  pageLength : Int
deriving DecidableEq, Repr

structure FormEntry where
  lines : List PictureLine
  bands : Entries Band FormId
  owner : Option FormId
  context : ContextRef
deriving Repr

structure Assembly where
  forms : List FormEntry
  /-- How many page contexts have been made. -/
  contexts : Nat
deriving Repr

/-- What is given for a band: nothing, a picture, or a form that exists already. -/
inductive BandValue where
  | absent
  | spec (spec : Spec)
  | form (form : FormId)
deriving Repr

/-- A computation on the forms that may fail; the forms it leaves are kept in either case. -/
abbrev Assembling := ExceptT Fault (StateM Assembly)

namespace Assembly

def empty : Assembly := ⟨[], 0⟩

def linesOf (assembly : Assembly) (form : FormId) : List PictureLine :=
  (assembly.forms[form]?.map (·.lines)).getD []

def bandsOf (assembly : Assembly) (form : FormId) : Entries Band FormId :=
  (assembly.forms[form]?.map (·.bands)).getD []

def ownerOf (assembly : Assembly) (form : FormId) : Option FormId :=
  assembly.forms[form]?.bind (·.owner)

def contextOf (assembly : Assembly) (form : FormId) : ContextRef :=
  (assembly.forms[form]?.map (·.context)).getD ⟨0, Page.defaultLength⟩

def sizeOf (assembly : Assembly) (form : FormId) : Nat := (assembly.linesOf form).length

def modifyForm (form : FormId) (f : FormEntry → FormEntry) (assembly : Assembly) : Assembly :=
  { assembly with forms := assembly.forms.modify form f }

/-- Name the variables of one picture line anew. -/
def rename (form : FormId) (line : Nat) (names : List String) (assembly : Assembly) : Assembly :=
  assembly.modifyForm form fun entry =>
    { entry with lines := entry.lines.modify line fun picture => { picture with names } }

/-- The forms below a form to the given depth, each before the forms below it. -/
def walk (assembly : Assembly) : Nat → FormId → List FormId
  | 0, _ => []
  | depth + 1, form =>
    (assembly.bandsOf form).flatMap fun entry => entry.2 :: walk assembly depth entry.2

/-- All forms below a form.  No chain of forms is longer than their number. -/
def below (assembly : Assembly) (form : FormId) : List FormId :=
  assembly.walk assembly.forms.length form

/-- The form as printing sees it. -/
def formOf (assembly : Assembly) (form : FormId) : Form :=
  ⟨assembly.linesOf form, (assembly.bandsOf form).map fun entry => (entry.1, assembly.linesOf entry.2)⟩

/-- Make the context the one of a form and of all forms below it. -/
def bindContext (form : FormId) (context : ContextRef) (assembly : Assembly) : Assembly :=
  (form :: assembly.below form).foldl
    (fun assembly member => assembly.modifyForm member fun entry => { entry with context })
    assembly

/-- A new page context. -/
def newContext (pageLength : Int) : Assembling ContextRef := do
  let assembly ← get
  set { assembly with contexts := assembly.contexts + 1 }
  pure ⟨assembly.contexts, pageLength⟩

/-- The band that a name stands for. -/
def bandOf (name : Text) : Except Fault Band :=
  match Band.ofName? name with
  | some band => .ok band
  | none => .error (.undefinedBand name)

/-- The new form of a picture, in the given context or in one of its own. -/
def create (spec : Spec) (context : Option ContextRef) : Assembling FormId := do
  match spec.compile with
  | .error fault => throw fault
  | .ok lines =>
    let context ← match context with
      | some context => pure context
      | none => newContext Page.defaultLength
    let assembly ← get
    let entry : FormEntry := ⟨lines, [], none, context⟩
    set { assembly with forms := assembly.forms ++ [entry] }
    pure assembly.forms.length

/-- Make a form the band of another one.  A form that held the band before loses its owner. -/
def attach (owner : FormId) (band : Band) (value : BandValue) : Assembling FormId := do
  if band = .detail then throw .detailIsForm
  let form ← match value with
    | .absent => throw .noPicture
    | .form form => pure form
    | .spec spec => create spec none
  let assembly ← get
  if form = owner || (assembly.below form).contains owner then throw (.recursiveBand band)
  if let some other := assembly.ownerOf form then
    if other ≠ owner then throw (.takenBand band)
  if let some previous := Entries.get? band (assembly.bandsOf owner) then
    modify (modifyForm previous fun entry => { entry with owner := none })
  modify (modifyForm form fun entry => { entry with owner := some owner })
  modify (bindContext form (assembly.contextOf owner))
  modify (modifyForm owner fun entry => { entry with bands := Entries.set band form entry.bands })
  pure form

/-- Set the band that a name stands for. -/
def setBand (owner : FormId) (name : Text) (value : BandValue) : Assembling FormId := do
  match bandOf name with
  | .error fault => throw fault
  | .ok band => attach owner band value

/-- The values that are given, by the bands that their names stand for.  Names of nothing are passed over. -/
def named (values : Entries Text BandValue) : Except Fault (Entries Band BandValue) :=
  values.foldlM (fun bands entry =>
    match entry.2 with
    | .absent => .ok bands
    | value => do
      let band ← bandOf entry.1
      pure (Entries.set band value bands)) []

/-- Attach the bands in order. -/
def attachAll (owner : FormId) : Entries Band BandValue → Assembling Unit
  | [] => pure ()
  | entry :: rest => do
    let _ ← attach owner entry.1 entry.2
    attachAll owner rest

/-- The form of a mapping of bands.  The detail is its body; without a detail the top is. -/
def ofBands (values : Entries Text BandValue) (context : Option ContextRef) :
    Assembling FormId := do
  match named values with
  | .error fault => throw fault
  | .ok bands =>
    let body := if (Entries.get? Band.detail bands).isSome then Band.detail else Band.top
    match Entries.get? body bands with
    | none | some .absent => throw .noBody
    | some (.form _) => throw .bodyIsForm
    | some (.spec spec) =>
      let form ← create spec context
      attachAll form (Entries.erase body bands)
      pure form

end Assembly

end PictureReport
