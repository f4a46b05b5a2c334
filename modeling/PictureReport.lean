import PictureReport.Main
import PictureReport.Proofs.Ends
import PictureReport.Proofs.Composing
import PictureReport.Proofs.Press.Effects
import PictureReport.Proofs.Press.Operations
import PictureReport.Proofs.Press.Keeping
import PictureReport.Proofs.Press.Numbers
import PictureReport.Proofs.Press.Account
import PictureReport.Proofs.Press.Capacity
import PictureReport.Proofs.Press.Room
import PictureReport.Proofs.Press.Transparency
import PictureReport.Proofs.Integers
import PictureReport.Proofs.Picture.Columns
import PictureReport.Proofs.Picture.Drawing
import PictureReport.Proofs.Picture.Compiled
import PictureReport.Proofs.Picture.LineFeeds
import PictureReport.Proofs.Reading.Pattern
import PictureReport.Proofs.Reading.Recognition
import PictureReport.Proofs.Press.Steps
import PictureReport.Proofs.Press.Sheets
import PictureReport.Proofs.Reading.Records
import PictureReport.Proofs.RoundTrip
import PictureReport.Proofs.Wrapping
import PictureReport.Proofs.Assembly.Attaching
import PictureReport.Proofs.Assembly.Ownership
import PictureReport.Proofs.Press.States
import PictureReport.Proofs.Picture.Grammar
import PictureReport.Proofs.Reading.Partition
import PictureReport.Proofs.Assembly.Walking
import PictureReport.Proofs.Picture.Widths
import PictureReport.Proofs.Picture.Rounding
import PictureReport.Proofs.Picture.Chomping
import PictureReport.Proofs.Reading.Placement
import PictureReport.Proofs.Press.Termination
import PictureReport.Proofs.Press.Lockstep
import PictureReport.Proofs.Press.Feeds
import PictureReport.Proofs.Reading.Separation
import PictureReport.Proofs.Reading.Shielding
import PictureReport.Proofs.Reading.FormFeeds
import PictureReport.Proofs.Press.Cutting
import PictureReport.Proofs.Press.Headers
import PictureReport.Proofs.Press.Requests
import PictureReport.Proofs.Draining
import PictureReport.Proofs.Rollback
import PictureReport.Proofs.Reading.Matching
import PictureReport.Proofs.Press.Frame
import PictureReport.Proofs.Press.Stacking
import PictureReport.Proofs.Packing
import PictureReport.Proofs.Picture.Classifying
import PictureReport.Proofs.Numerals.Grammar
import PictureReport.Proofs.Numerals.Reading
import PictureReport.Proofs.Reading.Incremental
import PictureReport.Proofs.Reading.Values
import PictureReport.Proofs.Picture.Degrading
import PictureReport.Proofs.Assembly.Claiming
import PictureReport.Proofs.Numerals.Decimals
import PictureReport.Proofs.Numerals.Nearest
import PictureReport.Proofs.Json.Scalars
import PictureReport.Proofs.Json.Records
import PictureReport.Proofs.Json.Lines
import PictureReport.Proofs.Files.Stored
