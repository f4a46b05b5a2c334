import PictureReport.Picture.Line

/-!
# Line patterns

A picture line is matched against a printed line as a row of parts: literal text, a number of
columns, and for the last field whatever is left. The match starts at the first place where one is
possible, and the last field takes as much as it can.
-/

namespace PictureReport

/-- A part of a line pattern. -/
inductive Part where
  /-- The text itself. -/
  | literal (t : Text)
  /-- So many characters of any kind but line feeds. -/
  | columns (width : Nat)
  /-- As many characters as possible, of any kind but line feeds. -/
  | remainder
deriving DecidableEq, Repr

structure LinePattern where
  parts : List Part
  bindings : List (Field × String)
  repeated : Bool
deriving Repr

namespace Part

/-- What follows `t` when it starts with the literal. -/
def after? : Text → Text → Option Text
  | [], t => some t
  | _ :: _, [] => none
  | c :: rest, d :: t => if c = d then after? rest t else none

/-- The first `some` that `f` gives for the numbers from `n` down to zero. -/
def findDown? {α : Type} (f : Nat → Option α) : Nat → Option α
  | 0 => f 0
  | n + 1 => (f (n + 1)).or (findDown? f n)

/-- The texts that the fields take when the parts match at the front of a text. -/
def matchAt? : List Part → Text → Option (List Text)
  | [], _ => some []
  | literal l :: parts, t => (after? l t).bind (matchAt? parts)
  | columns width :: parts, t =>
    let taken := t.take width
    if taken.length = width ∧ !taken.contains '\n' then
      (matchAt? parts (t.drop width)).map (taken :: ·)
    else none
  | remainder :: parts, t =>
    findDown? (fun n => (matchAt? parts (t.drop n)).map (t.take n :: ·))
      (t.takeWhile (· ≠ '\n')).length

/-- The texts that the fields take at the first place in a text where the parts match. -/
def search? (parts : List Part) : Text → Option (List Text)
  | [] => matchAt? parts []
  | c :: rest => (matchAt? parts (c :: rest)).or (search? parts rest)

end Part

namespace LinePattern

/-- The parts of segments.  Printed lines have no blanks at their ends, so a literal at the end of the line
loses those it has. -/
def partsOf : List Segment → List Part
  | [] => []
  | .literal t :: rest => .literal (if rest.isEmpty then t.trimRight else t) :: partsOf rest
  | .field f :: rest =>
    (if (rest.filterMap Segment.field?).isEmpty then .remainder else .columns f.width) ::
      partsOf rest

/-- The pattern of a picture line. -/
def ofLine (line : PictureLine) : Except Fault LinePattern := do
  let bindings ← line.bindings
  pure ⟨partsOf line.segments, bindings, line.repeated⟩

/-- The patterns of picture lines in order. -/
def ofLines (lines : List PictureLine) : Except Fault (List LinePattern) := lines.mapM ofLine

end LinePattern

end PictureReport
