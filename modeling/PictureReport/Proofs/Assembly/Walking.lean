import Mathlib.Data.Finset.Card
import PictureReport.Proofs.Assembly.Ownership

/-!
# Walking through forms

A walk goes from a form to its bands, from each of them to its own bands, and so on; nothing but the forms
themselves brings it to an end.  A rule says when such a walk has ended and with what (`Walks`), and another
one says it of giving a form and all forms below it a context (`Binds`).  Whatever calls have been made, and
whichever of them failed, the forms are a forest, and both end on every form.  A call that sets a band and
fails changes nothing.
-/

namespace PictureReport.Assembly

variable {a b : Assembly} {f form : FormId} {members met : List FormId} {context : ContextRef}

/-! ## A walk that ends -/

/-- A walk through `members` has ended, and has met `met`: each of them, and after it those that a walk
through its bands met. -/
inductive Walks (a : Assembly) : List FormId → List FormId → Prop
  | none : Walks a [] []
  | next {f : FormId} {rest inner outer : List FormId} :
    Walks a (a.parts f) inner → Walks a rest outer → Walks a (f :: rest) (f :: inner ++ outer)

/-- Binding some forms to a context has ended, and has turned the first assembly into the second: each of them
got it, and then its bands did. -/
inductive Binds (context : ContextRef) : List FormId → Assembly → Assembly → Prop
  | none (a : Assembly) : Binds context [] a a
  | next {f : FormId} {rest : List FormId} {a bound b c : Assembly} :
    bound = a.modifyForm f (fun entry => { entry with context }) →
    Binds context (bound.parts f) bound b → Binds context rest b c → Binds context (f :: rest) a c

theorem Walks.flatMap {w : FormId → List FormId} (h : ∀ f ∈ members, Walks a (a.parts f) (w f)) :
    Walks a members (members.flatMap fun f => f :: w f) := by
  induction members with
  | nil => exact .none
  | cons f members ih =>
    rw [List.forall_mem_cons] at h
    rw [List.flatMap_cons]
    exact .next h.1 (ih h.2)

theorem walk_succ (n : Nat) (f : FormId) :
    a.walk (n + 1) f = (a.parts f).flatMap fun part => part :: a.walk n part := by
  rw [parts, List.flatMap_map, walk]

/-- Of the forms below a form, a band of it has all but itself below it at most: what makes walks end. -/
theorem Forest.card_below_lt (h : a.Forest) {part : FormId} (hpart : part ∈ a.parts f) :
    (a.below part).toFinset.card < (a.below f).toFinset.card := by
  refine Finset.card_lt_card ((Finset.ssubset_iff_of_subset fun g hg => ?_).mpr ⟨part, ?_, ?_⟩)
  · rw [List.mem_toFinset, h.mem_below] at hg ⊢
    exact .head hpart hg
  · rw [List.mem_toFinset, h.mem_below]
    exact .single hpart
  · rw [List.mem_toFinset, h.mem_below]
    exact h.acyclic part

theorem Forest.walks_of_card_le (h : a.Forest) {n : Nat} (hn : (a.below f).toFinset.card ≤ n) :
    Walks a (a.parts f) (a.walk n f) := by
  induction n generalizing f with
  | zero =>
    have hnone : a.parts f = [] := by
      refine List.eq_nil_iff_forall_not_mem.mpr fun part hpart => ?_
      have hlt := h.card_below_lt hpart
      omega
    rw [hnone]
    exact .none
  | succ n ih =>
    rw [walk_succ]
    refine Walks.flatMap fun part hpart => ih ?_
    have hlt := h.card_below_lt hpart
    omega

/-- A walk ends on every form of a `Forest`, and meets the forms `below`. -/
theorem Forest.walks (h : a.Forest) (f : FormId) : Walks a (a.parts f) (a.below f) := by
  refine h.walks_of_card_le ?_
  have hexist : (a.below f).toFinset ⊆ Finset.range a.forms.length := by
    intro g hg
    rw [List.mem_toFinset, h.mem_below] at hg
    exact Finset.mem_range.mpr (h.exists_of_above hg)
  exact (Finset.card_le_card hexist).trans_eq (Finset.card_range _)

/-- Contexts do not bear on which forms are met, so binding the members of a walk in the order in which it
meets them is what `Binds` does. -/
theorem Walks.binds (h : Walks a members met) (hbands : ∀ f, b.bandsOf f = a.bandsOf f) :
    Binds context members b
      (met.foldl (fun b member => b.modifyForm member fun entry => { entry with context }) b) := by
  induction h generalizing b with
  | none => exact .none b
  | @next f rest inner outer _ _ ihinner ihouter =>
    rw [List.cons_append, List.foldl_cons, List.foldl_append]
    have hbound : ∀ g, (b.modifyForm f fun entry => { entry with context }).bandsOf g = a.bandsOf g :=
      fun g => (bandsOf_modifyForm (by simp) g).trans (hbands g)
    refine .next rfl ?_ (ihouter fun g => ?_)
    · rw [parts_eq hbound]
      exact ihinner hbound
    · exact ((bound_foldl inner context _).bandsOf g).trans (hbound g)

theorem Forest.binds (h : a.Forest) (f : FormId) (context : ContextRef) :
    Binds context [f] a (a.bindContext f context) := by
  have hwalk : Walks a [f] (f :: a.below f ++ []) := .next (h.walks f) .none
  rw [List.append_nil] at hwalk
  exact hwalk.binds fun _ => rfl

/-! ## Calls -/

theorem forest_steps : Steps Forest where
  grown := fun _ _ _ hb ha => hb.forest ha
  joined := fun _ _ _ _ _ hform _ hb ha => hb.forest ha hform

/-- Whichever band a call sets, of whatever it takes the place, the forms stay a `Forest`. -/
theorem Forest.attach {owner : FormId} {band : Band} {value : BandValue} (h : a.Forest)
    (howner : owner < a.forms.length) (hvalue : a.Holds value) :
    Ends (attach owner band value) a (fun _ b => Forest b) fun _ b => Forest b := by
  refine (attach_ends howner hvalue).mono ?_ fun _ b hb => hb ▸ h
  rintro form c ⟨b, hgiven, hjoined⟩
  exact hjoined.forest (forest_steps.given hgiven h) (hgiven.exists hvalue)

theorem setBand_error {owner : FormId} {name : Text} {value : BandValue} {fault : Fault}
    (howner : owner < a.forms.length) (hvalue : a.Holds value)
    (h : setBand owner name value a = (.error fault, b)) : b = a := by
  cases hband : Band.ofName? name with
  | none =>
    simp only [setBand, bandOf, hband] at h
    exact (congrArg Prod.snd h).symm
  | some band =>
    rw [setBand_eq hband] at h
    exact (attach_ends howner hvalue).of_error h

/-- After any calls, whichever of them fail: no form stands above itself, a walk through the bands of any
form ends with the forms below it, binding any form to a context ends with those forms bound, and a call
that sets a band and fails leaves everything as it was. -/
theorem after_walks (calls : List Call) (hcalls : Throughout (fun a call => call.Refers a) calls empty) :
    let a := after calls empty
    (∀ f, ¬ a.Above f f) ∧
    (∀ f, Walks a (a.parts f) (a.below f)) ∧
    (∀ f context, Binds context [f] a (a.bindContext f context)) ∧
    ∀ owner name value fault b, Call.Refers a (.setBand owner name value) →
      setBand owner name value a = (.error fault, b) → b = a := by
  have hforest : (after calls empty).Forest := by
    refine hcalls.induction (fun a call hcall ha => ?_) empty empty_owned.toForest
    refine forest_steps.call hcall (fun owner name value band hset _ => ?_) ha
    subst hset
    exact ha.attach hcall.1 hcall.2
  refine ⟨hforest.acyclic, hforest.walks, hforest.binds, ?_⟩
  exact fun owner name value fault b hcall herror => setBand_error hcall.1 hcall.2 herror

/-- A form is at the top of another one.  Then calls fail because a form would stand above itself, belongs to
another form, has no band of the name or no bands but the detail, and because a picture cannot be read.  The
last mapping gets its top before it fails for its bottom. -/
def refusals : List Call :=
  [.create (.text "a".toList) none, .create (.text "b".toList) none, .create (.text "c".toList) none,
    .setBand 0 "top".toList (.form 1), .setBand 1 "top".toList (.form 0),
    .setBand 2 "bottom".toList (.form 1), .setBand 2 "sidebar".toList (.spec (.text "d".toList)),
    .setBand 2 "body".toList (.spec (.text "d".toList)), .setBand 2 "top".toList (.spec (.text "@".toList)),
    .ofBands [("detail".toList, .spec (.text "e".toList)), ("top".toList, .form 0),
      ("bottom".toList, .form 1)] none]

theorem after_walks_refusals :
    let a := after refusals empty
    Throughout (fun a call => call.Refers a) refusals empty ∧
    a.parts 0 = [1] ∧ a.parts 2 = [] ∧ a.parts 3 = [0] ∧ ¬ a.Above 3 3 ∧ Walks a [0] [0, 1] ∧
    Binds ⟨7, 66⟩ [3] a (a.bindContext 3 ⟨7, 66⟩) ∧
    (setBand 1 "summary".toList (.form 3) a).1 = .error (.recursiveBand .summary) ∧
    (setBand 1 "summary".toList (.form 3) a).2 = a := by
  intro a
  have hcalls : Throughout (fun a call => call.Refers a) refusals empty := by decide +kernel
  have hbands : a.parts 0 = [1] ∧ a.parts 2 = [] ∧ a.parts 3 = [0] := by decide +kernel
  have hbelow : a.below 3 = [0, 1] := by decide +kernel
  have hfault : (setBand 1 "summary".toList (.form 3) a).1 = .error (.recursiveBand .summary) := by
    decide +kernel
  obtain ⟨hacyclic, hwalks, hbinds, hatomic⟩ := after_walks refusals hcalls
  have hwalk := hwalks 3
  rw [hbands.2.2, hbelow] at hwalk
  refine ⟨hcalls, hbands.1, hbands.2.1, hbands.2.2, hacyclic 3, hwalk, hbinds 3 ⟨7, 66⟩, hfault, ?_⟩
  exact hatomic 1 "summary".toList (.form 3) _ _ (by decide +kernel) (Prod.ext hfault rfl)

end PictureReport.Assembly
