import PictureReport.Terminal.Literal.Grammar
import PictureReport.Terminal.Literal.Template

/-!
# Literals

The parameters of an action are a literal: an expression that writes a value out. A text is read as an
expression twice if need be: first by the forms that are right, and if none fits once more with the
faulty forms, to find out what is wrong. A fault of the characters goes before all others.
-/

namespace PictureReport

namespace Literal

/-- A bound for how many rules of the grammar are within each other over so many tokens: a rule comes
back to itself only after a token. -/
def ruleSteps (count : Nat) : Nat := 32 * (count + 2)

/-- What a parser makes of tokens from the start. -/
def run (p : (Rule → Parser Expression) → Parser Expression) (setting : Setting) :
    Outcome Expression × Progress :=
  p (Grammar.parse (ruleSteps setting.tokens.size)) setting
    ⟨0, 0, Array.replicate (setting.tokens.size + 1) []⟩

/-- The fault that is shown for one that came up when the tokens up to `reached` were looked at.  A bracket
that is never closed is shown if it stands on a line before; `seen` tells whether a parser came upon the
fault, which then may have had a look at the end of the text already. -/
def overruled (setting : Setting) (ending : Ending) (reached : Nat) (seen : Bool) (fault : Fault) :
    Fault :=
  match ending with
  | .whole => fault
  | .broken other => other
  | .cut _ bracket tight =>
    if seen && tight && reached + 1 = setting.tokens.size then fault
    else match bracket with
      | none => fault
      | some bracket =>
        if (setting.tokens[reached]?).any (bracket.line < ·.line) then
          setting.frame (.neverClosed bracket.sign)
        else fault

/-- The fault where the tokens break off. -/
def endFault (setting : Setting) : Ending → Fault
  | .whole => setting.frame .malformed
  | .broken fault => fault
  | .cut fault _ _ => setting.frame fault

/-- The fault of tokens that no form fits, where those up to `reached` were looked at first, and those
up to `again` in all. -/
def malformed (setting : Setting) (ending : Ending) (reached again : Nat) : Fault :=
  if (setting.tokens[reached]?).any (·.kind = .indent) then setting.frame .unexpectedIndent
  else overruled setting ending again false (setting.frame .malformed)

/-- Read tokens as an expression. -/
def readTokens (p : (Rule → Parser Expression) → Parser Expression) (setting : Setting)
    (ending : Ending) : Except Fault Expression :=
  match run p { setting with diagnosing := false } with
  | (.found e, _) => .ok e
  | (.faulty fault, progress) => .error (overruled setting ending progress.reached true fault)
  | (.exhausted, _) => .error (endFault setting ending)
  | (.missing, first) =>
    match run p { setting with diagnosing := true } with
    | (.faulty fault, second) =>
      .error (overruled setting ending (max first.reached second.reached) true fault)
    | (.exhausted, _) => .error (endFault setting ending)
    | (_, second) =>
      .error (malformed setting ending first.reached (max first.reached second.reached))

/-- Read a text as an expression, or what stands in the braces of a template as items.  Templates within each
other are read up to a depth of `depth`. -/
def readWithin (inTemplate : Bool) : Nat → Text → Except Fault Expression
  | 0, _ => .error .malformed
  | depth + 1, t =>
    let frame := if inTemplate then Fault.inTemplate else id
    let judge := fun inner => discard (readWithin true depth inner)
    let (found, ending) := tokens t
    readTokens (if inTemplate then Grammar.items else Grammar.whole)
      ⟨found.toArray, false, joinQuotations ⟨judge, frame⟩, frame⟩ ending

/-- Read a text as an expression.  What stands in a template is shorter than the text. -/
def read (t : Text) : Except Fault Expression :=
  readWithin false (t.length + 1) (t.dropWhile fun c => c = ' ' || c = '\t')

end Literal

end PictureReport
