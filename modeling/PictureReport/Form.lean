import PictureReport.Picture.Spec

/-!
# Forms as printing sees them

To print a form its own picture lines and those of its bands are needed; the bands of a band play no
part.
-/

namespace PictureReport

structure Form where
  body : List PictureLine
  bands : List (Band × List PictureLine)
deriving Repr

namespace Form

def band? (form : Form) (band : Band) : Option (List PictureLine) := form.bands.lookup band

/-- The number of picture lines of a band; zero without the band. -/
def bandSize (form : Form) (band : Band) : Nat := ((form.band? band).getD []).length

end Form

end PictureReport
