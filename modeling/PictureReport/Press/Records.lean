import PictureReport.Press.Pages

/-!
# Printing records and bands

The lines of a record are composed before any of them is printed, so that a record that does not fit
can be deferred: its values are rolled back, the page is closed and the record is composed again on
the next page. A record that is first on its page is not deferred but cut; as much of it as fits is
printed and the rest goes on the next page. Bands are printed on demand where there is room.
-/

namespace PictureReport.Press

/-- Print the lines as lines of a record. -/
def writeBody (lines : List Composed) : Printing Unit := do
  writeAll .body lines
  onPager (·.consume lines.length true)

/-- Print as many of the pending lines as fit, for good, and close the page. -/
def flushPartial (form : Form) : Printing Unit := do
  onPager (·.transition .partialFlush)
  let press ← get
  let count := (press.pager.capacity (form.bandSize .bottom)).toNat
  writeBody (press.pending.take count)
  modify fun press => { press with pending := press.pending.drop count }
  note (.flushed (press.pending.drop count).length)
  commit
  endPage form none

/-- Flush the pending lines when they use all the room of a page that shows no record yet. -/
def splitFullPage (form : Form) : Printing Unit := do
  unless (← get).pending.isEmpty do
    printTop form
    let press ← get
    if press.pager.fillsFreshPage press.pending.length (form.bandSize .bottom) then
      flushPartial form

/-- Flush pending lines until the rest fits.  Each flush prints a line, so as many rounds as there are lines
are enough. -/
def flushRest (form : Form) : Nat → Printing Unit
  | 0 => pure ()
  | rounds + 1 => do
    let press ← get
    unless press.pending.isEmpty || press.pager.fits press.pending.length (form.bandSize .bottom) do
      flushPartial form
      unless (← get).pending.isEmpty do printTop form
      flushRest form rounds

/-- Compose the record and print it, or defer it: then its values are rolled back, the page is
closed and the answer is `false`. -/
def placeRecord (form : Form) : Printing Bool := do
  printTop form
  modify fun press => { press with pending := [] }
  let _ ← composeAll (splitFullPage form)
    (fun line => modify fun press => { press with pending := press.pending ++ [line] }) form.body
  let press ← get
  if press.pending.isEmpty && press.page.topPending then pure true
  else
    printTop form
    let press ← get
    if press.pager.fits press.pending.length (form.bandSize .bottom) then
      writeBody press.pending
      pure true
    else if !press.page.bodyPrinted then
      flushRest form press.pending.length
      writeBody (← get).pending
      pure true
    else
      note (.deferred press.pending.length)
      rollback
      endPage form none
      pure false

/-- The number of lines that a computation prints. -/
def counted (x : Printing Unit) : Printing Nat := do
  let before := (← get).lineCount
  x
  pure ((← get).lineCount - before)

/-- Print one record.  A deferred record is placed on the fresh page that its deferral leaves, where nothing
can defer it again. -/
def printRecord (form : Form) : Printing Unit := do
  unless ← placeRecord form do
    let _ ← placeRecord form
  commit
  unless (← get).page.topPending do onPager (·.transition .body)
  endPageIfFull form

/-- Begin a page, and another one if a band of `size` lines does not fit on the first. -/
def makeRoom (form : Form) (size : Nat) : Printing Unit := do
  printTop form
  if (← get).page.linesLeft < (size : Int) then
    skipPage form
    printTop form

/-- Print a band on demand; nothing without the band. -/
def printBand (form : Form) (band : Band) : Printing Unit := do
  if let some lines := form.band? band then
    makeRoom form lines.length
    let _ ← emitBand band lines
    endPageIfFull form

/-- Print the group header on demand.  It is left out on a page that shows the top and the header and nothing
else. -/
def printGroupHeader (form : Form) : Printing Unit := do
  if let some header := form.band? .groupHeader then
    makeRoom form header.length
    let page := (← get).page
    if ((form.bandSize .top + header.length : Nat) : Int) + page.linesLeft ≠ page.length then
      let _ ← emitBand .groupHeader header
    endPageIfFull form

/-- Print the bands of a group. -/
def printGroup (form : Form) : Printing Unit := do
  printGroupHeader form
  printBand form .groupDetail
  printBand form .groupFooter

/-- Print the summary, once until the press is reset. -/
def printSummary (form : Form) : Printing Unit := do
  if (form.band? .summary).isSome && (← get).page.summaryPending then
    onPager fun pager => { pager with page := { pager.page with summaryPending := false } }
    printBand form .summary

end PictureReport.Press
