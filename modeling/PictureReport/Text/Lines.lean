import PictureReport.Text.Basic

/-!
# Lines of a text

A line ends at any of the line and page separators; carriage return and line feed together end one
line. The last line needs no separator, so the empty text has no line.
-/

namespace PictureReport.Text

/-- The characters that end a line. -/
def isBreak (c : Char) : Bool :=
  let n := c.toNat
  (10 ≤ n && n ≤ 13) || (28 ≤ n && n ≤ 30) || n == 0x85 || n == 0x2028 || n == 0x2029

/-- The lines of a text without their separators. -/
def lines : Text → List Text
  | [] => []
  | '\r' :: '\n' :: rest => [] :: lines rest
  | c :: rest =>
    if isBreak c then [] :: lines rest
    else match lines rest with
      | [] => [[c]]
      | line :: others => (c :: line) :: others

/-- Every line ending, be it carriage return, line feed or both together, as one line feed. -/
def unifyEnds : Text → Text
  | [] => []
  | '\r' :: '\n' :: rest => '\n' :: unifyEnds rest
  | '\r' :: rest => '\n' :: unifyEnds rest
  | c :: rest => c :: unifyEnds rest

/-- The lines one after the other, each ended by a line feed. -/
def ofLines (ls : List Text) : Text := ls.flatMap (· ++ ['\n'])

end PictureReport.Text
