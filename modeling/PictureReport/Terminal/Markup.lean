import PictureReport.Terminal.Control
import PictureReport.Terminal.Emoji
import PictureReport.Terminal.Literal
import PictureReport.Terminal.Style

/-!
# Marked-up notices

A notice may hold tags in brackets that open and close styles, or actions if their name starts with
an at sign. A tag starts with a small letter, a number sign, an at sign or a slash; other brackets
are text. A backslash before a tag makes it text, and two backslashes stand for one. Reading a notice
gives the text without tags, where every closing tag must close something and the parameters of an
action that is closed must be a literal.
-/

namespace PictureReport

namespace Markup

/-- A tag: its name and what stands after an equals sign. -/
structure Tag where
  name : Text
  parameters : Option Text
deriving DecidableEq, Repr

/-- The tag as it is written. -/
def Tag.source (tag : Tag) : Text :=
  '[' :: tag.name ++ (tag.parameters.elim [] ('=' :: ·)) ++ [']']

inductive Fault where
  /-- The tag that closes the last style stands where none is open. -/
  | nothingToClose (position : Nat)
  /-- No style of the name of a closing tag is open. -/
  | notOpen (tag : Tag) (position : Nat)
  /-- The parameters of an action, which are to be the literal `source`, are no expression. -/
  | badAction (parameters source : Text) (fault : Literal.Fault)
  /-- The parameters of an action are an expression that is no literal. -/
  | noLiteral (parameters : Text) (fault : Literal.Expression.Fault)
  /-- A part of a colour is no number. -/
  | badColor (fault : NumberFault)
deriving DecidableEq, Repr

def Fault.message : Fault → String
  | nothingToClose position =>
    "closing tag '[/]' at position " ++ Text.str (decimalDigits position) ++ " has nothing to close"
  | notOpen tag position =>
    "closing tag '" ++ tag.source.str ++ "' at position " ++ Text.str (decimalDigits position) ++
      " doesn't match any open tag"
  | badAction parameters source fault =>
    "error parsing " ++ Text.str source.quoted ++ " in " ++ Text.str parameters.quoted ++ "; " ++
      fault.message
  | noLiteral parameters fault =>
    "error parsing " ++ Text.str parameters.quoted ++ "; " ++ fault.message
  | badColor fault => fault.message

/-- The characters that a tag starts with. -/
def startsTag (c : Char) : Bool := (97 ≤ c.toNat && c.toNat ≤ 122) || c = '#' || c = '/' || c = '@'

/-- The content of the tag at the front of a text. -/
def tagAt? : Text → Option Text
  | '[' :: c :: rest =>
    let inner := rest.takeWhile fun d => d ≠ ']' && d ≠ '['
    if startsTag c && (rest[inner.length]?) = some ']' then some (c :: inner) else none
  | _ => none

def tagOf (content : Text) : Tag :=
  let name := content.takeWhile (· ≠ '=')
  ⟨name, if name.length < content.length then some (content.drop (name.length + 1)) else none⟩

/-- A piece of a notice. -/
inductive Piece where
  | text (t : Text)
  | tag (tag : Tag) (position : Nat)
deriving DecidableEq, Repr

/-- The pieces that a tag with backslashes before it makes: half of them as text, and the tag, which
is text after an odd number of them. -/
def tagPieces (position slashes : Nat) (content : Text) : List Piece :=
  let literal := List.replicate (slashes / 2) '\\'
  (if literal.isEmpty then [] else [.text literal]) ++
    [if slashes % 2 = 1 then .text ('[' :: content ++ [']'])
      else .tag (tagOf content) (position + slashes)]

/-- The pieces of a notice from `position` on; `held` is text before it. -/
def pieces (position : Nat) (held : Text) : Text → List Piece
  | [] => if held.isEmpty then [] else [.text held]
  | c :: rest =>
    let slashes := ((c :: rest).takeWhile (· = '\\')).length
    match tagAt? ((c :: rest).drop slashes) with
    | some content =>
      let size := slashes + content.length + 1
      (if held.isEmpty then [] else [.text held]) ++ tagPieces position slashes content ++
        pieces (position + size + 1) [] (rest.drop size)
    | none => pieces (position + 1) (held ++ [c]) rest
termination_by t => t.length
decreasing_by
  · simp only [List.length_drop, List.length_cons]; omega
  · simp only [List.length_cons]; omega

/-- A backslash before a bracket is dropped where no tag follows. -/
def dropBackslashes : Text → Text
  | '\\' :: '[' :: rest => '[' :: dropBackslashes rest
  | c :: rest => c :: dropBackslashes rest
  | [] => []

/-- The normal form of the name of a tag. -/
def normalName (name : Text) : Except Fault Text := (Style.normal name).mapError .badColor

/-- The literal that the parameters of an action are to be: what stands in parentheses after a name, or
everything.  There is none for a name alone. -/
def literal? (parameters : Text) : Option Text :=
  let plain := parameters.trim
  let rest := plain.dropWhile fun c => isWordChar c || c = '.'
  if rest.isEmpty then none
  else if rest.head? = some '(' && rest.getLast? = some ')' && !rest.contains '\n' then some rest
  else some plain

/-- Check the parameters of an action that is closed.  Styles may have any. -/
def Tag.checkClosed (tag : Tag) : Except Fault Unit :=
  match tag.name, tag.parameters with
  | '@' :: _, some parameters =>
    match literal? parameters with
    | some source => do
      let e ← (Literal.read source).mapError (.badAction parameters source)
      e.check.mapError (.noLiteral parameters)
    | none => .ok ()
  | _, _ => .ok ()

/-- The tag that a closing tag closes, and the tags that stay open: the last one opened, or the last
one of its name if it has one. -/
def close (opened : List Tag) (tag : Tag) (position : Nat) : Except Fault (Tag × List Tag) := do
  let name := Text.trim (tag.name.drop 1)
  if name.isEmpty then
    match opened with
    | [] => throw (.nothingToClose position)
    | last :: others => pure (last, others)
  else
    let name ← normalName name
    match opened.find? (·.name = name) with
    | some found => pure (found, opened.eraseP (·.name = name))
    | none => throw (.notOpen tag position)

/-- The text that pieces show; `opened` are the open tags with the normal forms of their names, the
last one first. -/
def shown (opened : List Tag) : List Piece → Except Fault Text
  | [] => .ok []
  | .text t :: rest => do
    let following ← shown opened rest
    pure ((Emoji.substitute (dropBackslashes t)).withoutControls ++ following)
  | .tag tag position :: rest => do
    if tag.name.head? = some '/' then
      let (closed, opened) ← close opened tag position
      closed.checkClosed
      shown opened rest
    else
      let name ← normalName tag.name
      shown (⟨name, tag.parameters⟩ :: opened) rest

/-- The text that a marked-up notice shows. -/
def read (t : Text) : Except Fault Text := shown [] (pieces 0 [] t)

end Markup

end PictureReport
