/-!
# Text: rows of characters, blanks and padding

A text is a list of characters and its width is its length. Blanks are the characters that trimming
and word splitting drop; padding uses the space alone.
-/

namespace PictureReport

/-- A row of characters.  Its width in a report is the number of its characters. -/
abbrev Text := List Char

/-- The characters that count as white space: the separators of the C0 and C1 controls and every
Unicode space but the zero-width ones. -/
def isBlank (c : Char) : Bool :=
  let n := c.toNat
  (9 ≤ n && n ≤ 13) || (28 ≤ n && n ≤ 32) || n == 0x85 || n == 0xA0 || n == 0x1680 ||
    (0x2000 ≤ n && n ≤ 0x200A) || n == 0x2028 || n == 0x2029 || n == 0x202F || n == 0x205F ||
    n == 0x3000

namespace Text

/-- `count` spaces. -/
def spaces (count : Nat) : Text := List.replicate count ' '

def trimLeft (t : Text) : Text := t.dropWhile isBlank

def trimRight (t : Text) : Text := (t.reverse.dropWhile isBlank).reverse

def trim (t : Text) : Text := trimRight (trimLeft t)

/-- Drop the trailing characters that satisfy `p`. -/
def dropEnd (p : Char → Bool) (t : Text) : Text := (t.reverse.dropWhile p).reverse

/-- The maximal runs of nonblank characters. -/
def words : Text → List Text
  | [] => []
  | c :: rest =>
    if isBlank c then words rest
    else match rest with
      | [] => [[c]]
      | d :: _ =>
        if isBlank d then [c] :: words rest
        else match words rest with
          | [] => [[c]]
          | word :: others => (c :: word) :: others

/-- The pieces between the occurrences of `mark`; one more piece than there are marks. -/
def separate (mark : Char) : Text → List Text
  | [] => [[]]
  | c :: rest =>
    if c = mark then [] :: separate mark rest
    else match separate mark rest with
      | [] => [[c]]
      | piece :: others => (c :: piece) :: others

/-- The pieces with `mark` between each two of them. -/
def joinWith (mark : Text) : List Text → Text
  | [] => []
  | [piece] => piece
  | piece :: others => piece ++ mark ++ joinWith mark others

/-- Flush left in `width` columns; a longer text keeps its length. -/
def padRight (t : Text) (width : Nat) : Text := t ++ spaces (width - t.length)

/-- Flush right in `width` columns; a longer text keeps its length. -/
def padLeft (t : Text) (width : Nat) : Text := spaces (width - t.length) ++ t

/-- Centered in `width` columns; an odd space goes to the right. -/
def padBoth (t : Text) (width : Nat) : Text :=
  let pad := width - t.length
  spaces (pad / 2) ++ t ++ spaces (pad - pad / 2)

/-- The text as a string, for names and messages. -/
def str (t : Text) : String := String.ofList t

@[simp] theorem length_spaces (count : Nat) : (spaces count).length = count := by
  simp [spaces]

theorem length_padRight (t : Text) (width : Nat) : (padRight t width).length = max t.length width := by
  simp only [padRight, List.length_append, length_spaces]; omega

theorem length_padLeft (t : Text) (width : Nat) : (padLeft t width).length = max t.length width := by
  simp only [padLeft, List.length_append, length_spaces]; omega

theorem length_padBoth (t : Text) (width : Nat) : (padBoth t width).length = max t.length width := by
  simp only [padBoth, List.length_append, length_spaces]; omega

end Text

end PictureReport
