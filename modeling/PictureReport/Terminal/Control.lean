import PictureReport.Text.Basic

/-!
# Control characters and escape sequences

What a terminal would act on is taken out of texts that are only to be read: single control
characters from the texts of notices, whole escape sequences from a report that is printed.
-/

namespace PictureReport.Text

/-- Bell, backspace, vertical tab, form feed and carriage return. -/
def isTerminalControl (c : Char) : Bool :=
  let n := c.toNat
  n = 7 || n = 8 || (11 ≤ n && n ≤ 13)

/-- The text without the control characters that a terminal acts on. -/
def withoutControls (t : Text) : Text := t.filter fun c => !isTerminalControl c

/-- The character that starts an escape sequence. -/
def escapeStart : Char := '\x1b'

/-- The characters of the parameters of an escape sequence. -/
def isEscapeParameter (c : Char) : Bool := c = ';' || c = '?' || (48 ≤ c.toNat && c.toNat ≤ 57)

/-- The rest of a text without its escape sequences; `held` is what may be the beginning of one.  A sequence
is the start, an opening bracket, parameters and one letter. -/
def dropEscapes (held : Text) : Text → Text
  | [] => held
  | c :: rest =>
    if c = escapeStart then held ++ dropEscapes [c] rest
    else if held = [] then c :: dropEscapes [] rest
    else if held = [escapeStart] then
      if c = '[' then dropEscapes [escapeStart, c] rest else held ++ c :: dropEscapes [] rest
    else if isEscapeParameter c then dropEscapes (held ++ [c]) rest
    else if c.isAlpha then dropEscapes [] rest
    else held ++ c :: dropEscapes [] rest

/-- The text without its escape sequences. -/
def withoutEscapes (t : Text) : Text := dropEscapes [] t

end PictureReport.Text
