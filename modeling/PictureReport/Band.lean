import PictureReport.Text.Basic

/-!
# Bands

A report is made of bands: the detail of a record, the top and bottom of a page, the bands of a
group and a summary. Each band has a key, and some have further names.
-/

namespace PictureReport

inductive Band where
  | top
  | bottom
  | detail
  | groupHeader
  | groupDetail
  | groupFooter
  | summary
deriving DecidableEq, Repr

namespace Band

/-- The key of a band in a layout. -/
def key : Band → String
  | top => "top"
  | bottom => "bottom"
  | detail => "detail"
  | groupHeader => "group_header"
  | groupDetail => "group_detail"
  | groupFooter => "group_footer"
  | summary => "summary"

/-- The bands by their keys and further names. -/
def byName : List (String × Band) :=
  [("page_header", top), ("page_footer", bottom), ("page_detail", detail), ("body", detail),
    ("group_bottom", groupFooter), ("top", top), ("bottom", bottom), ("detail", detail),
    ("group_header", groupHeader), ("group_detail", groupDetail), ("group_footer", groupFooter),
    ("summary", summary)]

/-- The band that a name stands for.  Blanks around it and its case do not count, and a hyphen stands for an
underscore.  Every name is in ASCII, so only ASCII letters are folded. -/
def ofName? (name : Text) : Option Band :=
  let plain := (Text.trim name).map fun c => if c = '-' then '_' else c.toLower
  byName.lookup (Text.str plain)

end Band

end PictureReport
