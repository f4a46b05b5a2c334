import PictureReport.Press.Basic

/-!
# Opening and closing pages

A page opens with the top of the form, which the group header follows, and closes with its bottom. A
page that has room for nothing but its bottom keeps it pending until the next line is to be printed.
-/

namespace PictureReport.Press

/-- Print the lines of a band. -/
def emitBand (band : Band) (lines : List PictureLine) : Printing Nat := do
  let count ← composeAll (pure ()) (fun line => do
    write (.band band) line
    onPager (·.consume 1 false)) lines
  note (.emitted band count)
  pure count

/-- Print the bottom and close the page.  `feed` says whether the next page starts with a form feed; without
it the setting of the press does. -/
def endPage (form : Form) (feed : Option Bool) : Printing Unit := do
  onPager Pager.requestBottom
  let count ← match form.band? .bottom with
    | some lines => emitBand .bottom lines
    | none => pure 0
  let feed := feed.getD (← get).formFeed
  onPager (·.endPage feed (0 < count))
  note (.closed feed (0 < count))

/-- Begin the page that is owed.  The flag tells whether its top is to be printed. -/
def beginPage : Printing Bool := do
  let (fresh, pager) := (← get).pager.beginPage
  if (← get).page.topPending then note .opened
  onPager fun _ => pager
  pure fresh

/-- Close a page whose bottom is due, begin the page that is owed, and print its top and after it the group
header.  The header is left out where the top and the header are all that the page shows. -/
def printTop (form : Form) : Printing Unit := do
  if (← get).page.bottomPending then endPage form none
  if ← beginPage then
    if let some top := form.band? .top then
      let _ ← emitBand .top top
      if let some header := form.band? .groupHeader then
        let page := (← get).page
        if ((top.length + header.length : Nat) : Int) + page.linesLeft ≠ page.length then
          let _ ← emitBand .groupHeader header

/-- Close a page that has only room for its bottom; a form with a bottom leaves it pending. -/
def endPageIfFull (form : Form) : Printing Unit := do
  if (← get).pager.isFull (form.bandSize .bottom) then
    if (form.band? .bottom).isNone then endPage form none
    else onPager Pager.requestBottom

/-- Fill the page that is begun with blank lines and close it. -/
def finishPage (form : Form) (feed : Bool) : Printing Unit := do
  let page := (← get).page
  unless page.topPending do
    let blanks := (page.linesLeft - form.bandSize .bottom).toNat
    writeAll .padding (List.replicate blanks ⟨[], page.number⟩)
    onPager (·.consume blanks false)
    endPage form (some feed)

/-- Finish the page; the next one starts with a form feed if the press sets them. -/
def skipPage (form : Form) : Printing Unit := do
  finishPage form (← get).formFeed

end PictureReport.Press
