import PictureReport.Composing
import PictureReport.Form
import PictureReport.Page

/-!
# The press

The press prints lines onto pages. Besides the page and the values at hand it holds the body lines
that are composed and wait for room, and a log of all that was printed. The report is read off the
log: its lines in order, each with a form feed in front where one was due.
-/

namespace PictureReport

/-- What a line was printed for. -/
inductive Origin where
  | body
  | band (band : Band)
  | padding
deriving DecidableEq, Repr

/-- A composed line with the number of the page at hand when it was composed. -/
structure Composed where
  text : Text
  page : Int
deriving DecidableEq, Repr

/-- A line as it was printed. -/
structure Printed where
  line : Composed
  origin : Origin
  /-- The number of the page at hand when the line was printed. -/
  page : Int
  /-- Does a form feed stand before the line? -/
  feed : Bool
  /-- The state of the printing at that moment. -/
  state : PageState
deriving DecidableEq, Repr

/-- The line as the report shows it. -/
def Printed.shown (printed : Printed) : Text :=
  if printed.feed then '\x0c' :: printed.line.text else printed.line.text

inductive Event where
  /-- A page was begun. -/
  | opened
  | printed (line : Printed)
  /-- All lines of a band were printed. -/
  | emitted (band : Band) (count : Nat)
  /-- Lines of a record were printed before the record was complete; so many stayed behind. -/
  | flushed (left : Nat)
  /-- A record of so many lines was put off to the next page. -/
  | deferred (count : Nat)
  /-- A page was closed. -/
  | closed (feed bottomPrinted : Bool)
deriving DecidableEq, Repr

def Event.line? : Event → Option Printed
  | printed line => some line
  | _ => none

structure Press where
  pager : Pager
  /-- Does each new page start with a form feed? -/
  formFeed : Bool
  desk : Desk
  /-- The body lines that are composed and not yet printed. -/
  pending : List Composed
  log : Array Event
deriving Repr

/-- A computation on the press that may fail; the press it leaves is kept in either case. -/
abbrev Printing := ExceptT Fault (StateM Press)

namespace Press

/-- A press before its first page. -/
def start (page : Page) (formFeed : Bool) : Press :=
  ⟨Pager.start page, formFeed, ⟨Journal.start ⟨.mapping, []⟩, []⟩, [], #[]⟩

/-- The lines printed so far. -/
def printed (press : Press) : List Printed := press.log.toList.filterMap Event.line?

/-- The lines of the report so far. -/
def lines (press : Press) : List Text := press.printed.map Printed.shown

/-- How many lines are printed. -/
def lineCount (press : Press) : Nat := press.printed.length

def page (press : Press) : Page := press.pager.page

/-- A computation on the desk as one on the press. -/
def onDesk {α : Type} (x : Composing α) : Printing α := fun press =>
  let (outcome, desk) := x press.desk
  (outcome, { press with desk })

def onPager (f : Pager → Pager) : Printing Unit :=
  modify fun press => { press with pager := f press.pager }

def note (event : Event) : Printing Unit :=
  modify fun press => { press with log := press.log.push event }

def commit : Printing Unit :=
  modify fun press =>
    { press with desk := { press.desk with journal := press.desk.journal.commit } }

def rollback : Printing Unit :=
  modify fun press =>
    { press with desk := { press.desk with journal := press.desk.journal.rollback } }

/-- Print one line.  A form feed that is due goes before it. -/
def write (origin : Origin) (line : Composed) : Printing Unit :=
  modify fun press =>
    let page := press.pager.page
    { press with
      pager := { press.pager with page := { page with feedPending := false } }
      log := press.log.push
        (.printed ⟨line, origin, page.number, page.feedPending, press.pager.state⟩) }

/-- Print lines in order. -/
def writeAll (origin : Origin) : List Composed → Printing Unit
  | [] => pure ()
  | line :: rest => do
    write origin line
    writeAll origin rest

/-! ## Composing the lines of a form -/

/-- Compose a picture line, and a repeated one again until it is suppressed or leaves its variables as they
are, at most `turns` times.  Before each turn `before` is done, and each composed line is handed to `emit`.
The result is the number of composed lines. -/
def composeTurns (before : Printing Unit) (emit : Composed → Printing Unit) (line : PictureLine) :
    Nat → Printing Nat
  | 0 => pure 0
  | turns + 1 => do
    before
    let held ← onDesk (Desk.texts line.names)
    let number := (← get).page.number
    match ← onDesk (line.compose number) with
    | none => pure 0
    | some shown =>
      emit ⟨shown, number⟩
      if line.repeated then
        let left ← onDesk (Desk.texts line.names)
        if left = held then
          onDesk (Desk.warn [.noProgress line.source])
          pure 1
        else
          let further ← composeTurns before emit line turns
          pure (further + 1)
      else pure 1

/-- Compose picture lines in order.  A turn of a repeated line that makes progress takes a character from its
variables, so one turn more than they hold characters is never used up. -/
def composeAll (before : Printing Unit) (emit : Composed → Printing Unit) :
    List PictureLine → Printing Nat
  | [] => pure 0
  | line :: rest => do
    let turns := (← get).desk.textSize line.names + 1
    let count ← composeTurns before emit line turns
    let others ← composeAll before emit rest
    pure (count + others)

end Press

end PictureReport
