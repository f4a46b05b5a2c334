/-!
# Pages

A page context counts the lines of the page at hand and remembers what is owed to it: the top that
is still to be printed, the bottom that is due, the form feed before the next line. The pager adds
the state of the printing and moves both together.
-/

namespace PictureReport

/-- What printing is about to do with the page at hand. -/
inductive PageState where
  | awaitingTop
  | body
  | partialFlush
  | awaitingBottom
  | pageBreak
deriving DecidableEq, Repr

namespace PageState

def all : List PageState := [awaitingTop, body, partialFlush, awaitingBottom, pageBreak]

def name : PageState → String
  | awaitingTop => "awaiting_top"
  | body => "body"
  | partialFlush => "partial_flush"
  | awaitingBottom => "awaiting_bottom"
  | pageBreak => "page_break"

def ofName? (name : String) : Option PageState := all.find? (·.name = name)

end PageState

/-- The page at hand, shared by all forms of a report. -/
structure Page where
  length : Int
  /-- The lines that are left on the page.  Lines written by other means may make it negative. -/
  linesLeft : Int
  number : Int
  topPending : Bool
  bodyPrinted : Bool
  bottomPending : Bool
  summaryPending : Bool
  feedPending : Bool
deriving DecidableEq, Repr

namespace Page

/-- The page length that is used when none is given. -/
def defaultLength : Int := 60

/-- The first page of a report, not yet begun. -/
def first (length : Int) : Page := ⟨length, length, 1, true, false, false, true, false⟩

/-- All lines of the page are left. -/
def resetLines (page : Page) : Page := { page with linesLeft := page.length }

def resetNumber (page : Page) : Page := { page with number := 1 }

def setLength (page : Page) (length : Int) : Page := ({ page with length }).resetLines

def setLinesLeft (page : Page) (linesLeft : Int) : Page := { page with linesLeft }

/-- Count lines that other means have written: `delta` is added to the lines that are left. -/
def addLines (page : Page) (delta : Int) : Page := { page with linesLeft := page.linesLeft + delta }

/-- Back to the first page with the same length. -/
def reset (page : Page) : Page := first page.length

/-- Is nothing printed on the page? -/
def isFresh (page : Page) : Bool := page.linesLeft = page.length

/-- The page number, where a page whose bottom is due counts as finished. -/
def tentativeNumber (page : Page) : Int :=
  if page.bottomPending then page.number + 1 else page.number

end Page

structure Pager where
  page : Page
  state : PageState
deriving DecidableEq, Repr

namespace Pager

def start (page : Page) : Pager := ⟨page, .awaitingTop⟩

def transition (pager : Pager) (state : PageState) : Pager := { pager with state }

/-- Is there room for the buffered lines and the bottom? -/
def fits (pager : Pager) (buffered bottom : Int) : Bool :=
  buffered + bottom ≤ pager.page.linesLeft

/-- Do the buffered lines of a record use all the room of a page that shows no record yet? -/
def fillsFreshPage (pager : Pager) (buffered bottom : Int) : Bool :=
  0 < buffered && !pager.page.bodyPrinted && pager.page.linesLeft ≤ buffered + bottom

/-- The number of body lines that the page takes.  It is never less than one, so that printing goes on even
where top and bottom leave no room. -/
def capacity (pager : Pager) (bottom : Int) : Int := max (pager.page.linesLeft - bottom) 1

/-- Is a page begun that has only room for its bottom? -/
def isFull (pager : Pager) (bottom : Int) : Bool :=
  !pager.page.topPending && pager.page.linesLeft ≤ bottom

/-- Take `count` lines of the page, or give them back; `body` tells whether they belong to a
record. -/
def consume (pager : Pager) (count : Int) (body : Bool) : Pager :=
  { pager with page := { pager.page with
    linesLeft := pager.page.linesLeft - count
    bodyPrinted := pager.page.bodyPrinted || (body && count ≠ 0) } }

/-- Begin the page that is owed.  The flag tells whether its top is to be printed. -/
def beginPage (pager : Pager) : Bool × Pager :=
  if pager.page.topPending then
    let page := { pager.page with topPending := false, bodyPrinted := false }
    (page.isFresh, ⟨page, .body⟩)
  else (false, pager)

/-- The bottom of the page is due. -/
def requestBottom (pager : Pager) : Pager :=
  ⟨{ pager.page with bottomPending := true }, .awaitingBottom⟩

/-- Close the page.  Its number only advances past a bottom that was printed. -/
def endPage (pager : Pager) (feed bottomPrinted : Bool) : Pager :=
  ⟨{ pager.page with
      linesLeft := pager.page.length
      number := if bottomPrinted then pager.page.number + 1 else pager.page.number
      topPending := true
      bodyPrinted := false
      bottomPending := false
      feedPending := feed }, .awaitingTop⟩

/-- Change the page and keep the state. -/
def onPage (f : Page → Page) (pager : Pager) : Pager := { pager with page := f pager.page }

/-- Back to the first page. -/
def reset (pager : Pager) : Pager := ⟨pager.page.reset, .awaitingTop⟩

end Pager

end PictureReport
