import PictureReport.Proofs.Assembly.Attaching

/-!
# Calls that put forms together

Forms are put together by one call after the other: a form is made of a picture or of a mapping of bands,
or a band of a form is set.  A call that fails leaves an assembly as well, and the next one works on it.
-/

namespace PictureReport.Assembly

inductive Call where
  | create (spec : Spec) (context : Option ContextRef)
  | ofBands (values : Entries Text BandValue) (context : Option ContextRef)
  | setBand (owner : FormId) (name : Text) (value : BandValue)
deriving Repr

namespace Call

def run : Call → Assembling FormId
  | create spec context => Assembly.create spec context
  | ofBands values context => Assembly.ofBands values context
  | setBand owner name value => Assembly.setBand owner name value

/-- The forms that the call is about exist. -/
def Refers (a : Assembly) : Call → Prop
  | create _ _ => True
  | ofBands values _ => ∀ entry ∈ values, a.Holds entry.2
  | setBand owner _ value => owner < a.forms.length ∧ a.Holds value

instance Refers.decidable (a : Assembly) : ∀ call, Decidable (Refers a call)
  | create _ _ => .isTrue trivial
  | ofBands values _ => inferInstanceAs (Decidable (∀ entry ∈ values, a.Holds entry.2))
  | setBand owner _ value => inferInstanceAs (Decidable (owner < a.forms.length ∧ a.Holds value))

end Call

/-- The assembly after `calls`, one after the other, whether they fail or not. -/
def after (calls : List Call) (a : Assembly) : Assembly := calls.foldl (fun a call => (call.run a).2) a

/-- Each call meets `C` on the assembly that it finds. -/
def Throughout (C : Assembly → Call → Prop) : List Call → Assembly → Prop
  | [], _ => True
  | call :: calls, a => C a call ∧ Throughout C calls (call.run a).2

instance Throughout.decidable (C : Assembly → Call → Prop) [∀ a call, Decidable (C a call)] :
    ∀ calls a, Decidable (Throughout C calls a)
  | [], _ => .isTrue trivial
  | _ :: calls, _ => @instDecidableAnd _ _ _ (Throughout.decidable C calls _)

/-- What every call keeps that meets `C` holds after calls that all do (`Throughout C`). -/
theorem Throughout.induction {C : Assembly → Call → Prop} {I : Assembly → Prop} {calls : List Call}
    (h : ∀ a call, C a call → I a → I (call.run a).2) :
    ∀ a, Throughout C calls a → I a → I (after calls a) := by
  induction calls with
  | nil => exact fun a _ ha => ha
  | cons call calls ih => exact fun a hc ha => ih _ hc.2 (h a call hc.1 ha)

variable {a b : Assembly} {I : Assembly → Prop}

theorem setBand_eq {owner : FormId} {name : Text} {value : BandValue} {band : Band}
    (h : Band.ofName? name = some band) : setBand owner name value = attach owner band value := by
  simp only [setBand, bandOf, h]

/-- A call keeps `I` if its `Steps` do, and setting a band that may be taken does. -/
theorem Steps.call (h : Steps I) {call : Call} (hcall : call.Refers a)
    (hset : ∀ owner name value band, call = .setBand owner name value → Band.ofName? name = some band →
      Ends (attach owner band value) a (fun _ b => I b) fun _ b => I b) (ha : I a) :
    I (call.run a).2 := by
  refine ends_state.mp ?_
  cases call with
  | create spec context =>
    exact (create_ends spec context a).mono (fun form b hb => h.grown a form b hb ha) fun _ b hb => hb ▸ ha
  | ofBands values context => exact h.ofBands context hcall ha
  | setBand owner name value =>
    simp only [Call.run]
    cases hband : Band.ofName? name with
    | none =>
      simp only [setBand, bandOf, hband]
      exact ha
    | some band =>
      rw [setBand_eq hband]
      exact hset owner name value band rfl hband

end PictureReport.Assembly
