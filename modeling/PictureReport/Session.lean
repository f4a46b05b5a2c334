import PictureReport.Assembly
import PictureReport.Press.Records

/-!
# Printing sessions

A session prints forms of an assembly on one press, with values from a table of sources. A form that
is printed is bound to the page context of the session first, if it has another one.
-/

namespace PictureReport

/-- The place of a source in the table of sources. -/
abbrev SourceId := Nat

structure Session where
  assembly : Assembly
  /-- The page context of the session. -/
  context : ContextRef
  press : Press
  sources : List Source
deriving Repr

/-- A step of a report. -/
inductive Task where
  | record
  | groupHeader
  | groupDetail
  | groupFooter
  | group
  | summary
  | finishPage (feed : Bool)
  | skipPage
deriving DecidableEq, Repr

namespace Task

/-- What the press does for a task. -/
def run (form : Form) : Task → Printing Unit
  | record => Press.printRecord form
  | groupHeader => Press.printGroupHeader form
  | groupDetail => Press.printBand form .groupDetail
  | groupFooter => Press.printBand form .groupFooter
  | group => Press.printGroup form
  | summary => Press.printSummary form
  | finishPage feed => Press.finishPage form feed
  | skipPage => Press.skipPage form

/-- Does the task concern the form at all?  A band on demand does only if the form has it. -/
def concerns (form : Form) (page : Page) : Task → Bool
  | record | finishPage _ | skipPage => true
  | groupHeader => (form.band? .groupHeader).isSome
  | groupDetail => (form.band? .groupDetail).isSome
  | groupFooter => (form.band? .groupFooter).isSome
  | group =>
    (form.band? .groupHeader).isSome || (form.band? .groupDetail).isSome ||
      (form.band? .groupFooter).isSome
  | summary => (form.band? .summary).isSome && page.summaryPending

end Task

/-- A computation on a session that may fail; the session it leaves is kept in either case. -/
abbrev Reporting := ExceptT Fault (StateM Session)

namespace Session

/-- A session before its first page. -/
def start (page : Page) (formFeed : Bool) : Session :=
  ⟨⟨[], 1⟩, ⟨0, page.length⟩, Press.start page formFeed, []⟩

def onAssembly {α : Type} (x : Assembling α) : Reporting α := fun session =>
  let (outcome, assembly) := x session.assembly
  (outcome, { session with assembly })

/-- Run a computation on the press with the values of a source, which takes back what they become. -/
def withSource {α : Type} (source : SourceId) (x : Printing α) : Reporting α := fun session =>
  let journal := Journal.start ((session.sources[source]?).getD ⟨.mapping, []⟩)
  let (outcome, press) := x { session.press with desk := { session.press.desk with journal } }
  (outcome, { session with press, sources := session.sources.set source press.desk.journal.source })

/-- Control the page from outside a report. -/
def control (f : Pager → Pager) (session : Session) : Session :=
  { session with press := { session.press with pager := f session.press.pager } }

/-- Set a variable of a source from outside a report. -/
def setVariable (source : SourceId) (name : String) (value : Value) (session : Session) : Session :=
  { session with sources := session.sources.modify source (·.set name value) }

/-- The text of one picture line with the values of a source, on the page at hand. -/
def composeLine (source : SourceId) (line : PictureLine) : Reporting (Option Text) := do
  let number := (← get).press.page.number
  withSource source (Press.onDesk (line.compose number))

/-- Put a source into the table. -/
def addSource (source : Source) : Reporting SourceId := fun session =>
  (.ok session.sources.length, { session with sources := session.sources ++ [source] })

/-- The new form of a picture, bound to the session. -/
def compileSpec (spec : Spec) : Reporting FormId := do
  onAssembly (Assembly.create spec (some (← get).context))

/-- The new form of a mapping of bands, bound to the session. -/
def compileBands (values : Entries Text BandValue) : Reporting FormId := do
  onAssembly (Assembly.ofBands values (some (← get).context))

/-- Does a form have the page context of the session? -/
def isBound (session : Session) (form : FormId) : Bool :=
  session.assembly.contextOf form = session.context

/-- Bind a form and all forms below it to the session, unless it is bound. -/
def bind (form : FormId) : Reporting Unit :=
  modify fun session =>
    if session.isBound form then session
    else { session with assembly := session.assembly.bindContext form session.context }

/-- Do one step of a report with the values of a source.  The result is the number of lines that it prints. -/
def perform (form : FormId) (source : SourceId) (task : Task) : Reporting Nat := do
  let session ← get
  let pictures := session.assembly.formOf form
  if task.concerns pictures session.press.page then bind form
  withSource source (Press.counted (task.run pictures))

/-- Print one record for each source. -/
def printRecords (form : FormId) : List SourceId → Reporting Nat
  | [] => pure 0
  | source :: rest => do
    let count ← perform form source .record
    let others ← printRecords form rest
    pure (count + others)

/-- Print one record for each source, then the summary with the values of the last one, and, if `finish` says
so, finish the page.  The result is the number of lines printed. -/
def printAll (form : FormId) (sources : List SourceId) (finish : Bool) : Reporting Nat := do
  let records ← printRecords form sources
  let last ← match sources.getLast? with
    | some source => pure source
    | none => addSource ⟨.mapping, []⟩
  let summary ← perform form last .summary
  let padding ← if finish then perform form last (.finishPage false) else pure 0
  pure (records + summary + padding)

end Session

end PictureReport
