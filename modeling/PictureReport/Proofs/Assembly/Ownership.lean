import PictureReport.Proofs.Assembly.Calls

/-!
# Owners and contexts

A form is the band of at most one other form, its owner says of which, and it has the context of its owner
(`Owned`).  Calls that make forms and set bands keep this, whether they fail or not, but for one kind: the
owner has a form at two bands, and another form takes one of them (`Orphans`).  The form that is left at the
other band has no owner then, and may become a band of a second form.
-/

namespace PictureReport.Assembly

variable {a b c : Assembly} {f form owner p : FormId} {band : Band}

/-- Each form belongs to the form whose band it is, and has its context. -/
structure Owned (a : Assembly) : Prop extends Forest a where
  owner : ∀ p f, a.ownerOf f = some p ↔ f ∈ a.parts p
  context : ∀ p, ∀ f ∈ a.parts p, a.contextOf f = a.contextOf p

theorem Owned.eq_of_mem {q : FormId} (h : a.Owned) (hp : f ∈ a.parts p) (hq : f ∈ a.parts q) : p = q :=
  Option.some.inj (((h.owner p f).mpr hp).symm.trans ((h.owner q f).mpr hq))

theorem parts_eq (h : ∀ f, b.bandsOf f = a.bandsOf f) : b.parts = a.parts := by
  funext p
  simp only [parts, h]

theorem Grown.forest (hb : Grown a form b) (h : a.Forest) : b.Forest := by
  have hparts := parts_eq hb.bandsOf
  refine ⟨fun p => ?_, fun p f hf => ?_, fun f hf => ?_⟩
  · rw [hb.bandsOf]
    exact h.keys p
  · rw [hparts] at hf
    rw [hb.length]
    exact Nat.lt_succ_of_lt (h.exist p f hf)
  · rw [Above, hparts] at hf
    exact h.acyclic f hf

theorem Owned.grown (h : a.Owned) (hb : Grown a form b) : b.Owned := by
  have hparts := parts_eq hb.bandsOf
  have hold : ∀ p, ∀ f ∈ a.parts p, f ≠ form ∧ p ≠ form := by
    intro p f hf
    rw [hb.new]
    exact ⟨Nat.ne_of_lt (h.exist p f hf), Nat.ne_of_lt (exists_of_mem_parts hf)⟩
  refine ⟨hb.forest h.toForest, fun p f => ?_, fun p f hf => ?_⟩
  · rw [hb.ownerOf, hparts]
    exact h.owner p f
  · rw [hparts] at hf
    obtain ⟨hne, hne'⟩ := hold p f hf
    rw [hb.contextOf hne, hb.contextOf hne']
    exact h.context p f hf

/-! ## One more band -/

/-- After `Joined` the bands of the owner are the form and those that it had, but for the one at the same
band. -/
theorem Joined.mem_parts (hb : Joined owner band form a b) (hkeys : ((a.bandsOf owner).map (·.1)).Nodup) :
    f ∈ b.parts p ↔ if p = owner then f = form ∨ ∃ other ≠ band, (other, f) ∈ a.bandsOf owner
      else f ∈ a.parts p := by
  rw [Assembly.mem_parts, hb.bandsOf]
  by_cases hp : p = owner
  · simp only [if_pos hp, Entries.mem_set_iff hkeys, Prod.mk.injEq]
    constructor
    · rintro ⟨other, ⟨-, rfl⟩ | ⟨hother, hne⟩⟩
      · exact .inl rfl
      · exact .inr ⟨other, hne, hother⟩
    · rintro (rfl | ⟨other, hne, hother⟩)
      · exact ⟨band, .inl ⟨rfl, rfl⟩⟩
      · exact ⟨other, .inr ⟨hother, hne⟩⟩
  · simp only [if_neg hp, Assembly.mem_parts]

theorem Joined.old_or_new (hb : Joined owner band form a b) (h : a.Forest) (hf : f ∈ b.parts p) :
    f ∈ a.parts p ∨ p = owner ∧ f = form := by
  rw [hb.mem_parts (h.keys owner)] at hf
  split at hf
  · rename_i hp
    subst hp
    rcases hf with rfl | ⟨other, -, hother⟩
    · exact .inr ⟨rfl, rfl⟩
    · exact .inl (Assembly.mem_parts.mpr ⟨other, hother⟩)
  · exact .inl hf

theorem Joined.forest (hb : Joined owner band form a b) (h : a.Forest) (hform : form < a.forms.length) :
    b.Forest := by
  have habove : ¬ a.Above form owner := fun habove => hb.notBelow (h.mem_below.mpr habove)
  refine ⟨fun p => ?_, fun p f hf => ?_, ?_⟩
  · rw [hb.bandsOf]
    split
    · exact Entries.nodup_keys_set (h.keys owner)
    · exact h.keys p
  · rw [hb.length]
    rcases hb.old_or_new h hf with hf | ⟨-, rfl⟩
    · exact h.exist p f hf
    · exact hform
  · exact h.acyclic_of_parts hb.apart habove fun p g hg => hb.old_or_new h hg

/-- The band is free, or its form stays no band of the owner. -/
def Keeps (owner : FormId) (band : Band) (form : FormId) (a : Assembly) : Prop :=
  ∀ previous, Entries.get? band (a.bandsOf owner) = some previous → previous ≠ form →
    ∀ other ≠ band, (other, previous) ∉ a.bandsOf owner

theorem Joined.owner_iff (hb : Joined owner band form a b) (h : a.Owned)
    (hkeeps : Keeps owner band form a) : b.ownerOf f = some p ↔ f ∈ b.parts p := by
  have hband : Entries.get? band (a.bandsOf owner) = some f ↔ (band, f) ∈ a.bandsOf owner :=
    ⟨Entries.mem_of_get?, Entries.get?_of_mem (h.keys owner)⟩
  rw [hb.ownerOf, hb.mem_parts (h.keys owner)]
  -- three kinds of forms: the one that is joined, the one whose place it takes, and all others
  by_cases hf : f = form
  · subst hf
    rw [if_pos rfl]
    constructor
    · intro hp
      rw [if_pos (Option.some.inj hp).symm]
      exact .inl rfl
    · intro hmem
      split at hmem
      · rename_i hp
        rw [hp]
      · rw [hb.free p ((h.owner p f).mpr hmem)]
  · rw [if_neg hf]
    by_cases hprevious : Entries.get? band (a.bandsOf owner) = some f
    · rw [if_pos hprevious]
      refine ⟨fun hnone => (by cases hnone), fun hmem => ?_⟩
      split at hmem
      · obtain hform | ⟨other, hne, hother⟩ := hmem
        · exact absurd hform hf
        · exact absurd hother (hkeeps f hprevious hf other hne)
      · rename_i hp
        have howner := (h.owner owner f).mpr (Assembly.mem_parts.mpr ⟨band, hband.mp hprevious⟩)
        rw [(h.owner p f).mpr hmem] at howner
        exact absurd (Option.some.inj howner) hp
    · rw [if_neg hprevious, h.owner, Assembly.mem_parts]
      split
      · rename_i hp
        subst hp
        constructor
        · rintro ⟨other, hother⟩
          refine .inr ⟨other, fun hother' => hprevious (hband.mpr ?_), hother⟩
          rwa [← hother']
        · rintro (hform | ⟨other, -, hother⟩)
          · exact absurd hform hf
          · exact ⟨other, hother⟩
      · rfl

/-- The bands of the forms that get the context of the owner get it too, and no others do but the form itself.
-/
theorem Joined.context_eq (hb : Joined owner band form a b) (h : a.Owned) (hform : form < a.forms.length)
    (hf : f ∈ b.parts p) : b.contextOf f = b.contextOf p := by
  have hbelow : ∀ {g}, g ∈ form :: a.below form ↔ Relation.ReflTransGen (fun p f => f ∈ a.parts p) form g := by
    intro g
    rw [List.mem_cons, h.mem_below, Relation.reflTransGen_iff_eq_or_transGen]
    rfl
  have hfexists : f < a.forms.length := by
    rw [← hb.length]
    exact (hb.forest h.toForest hform).exist p f hf
  have hpexists : p < a.forms.length := by
    rw [← hb.length]
    exact exists_of_mem_parts hf
  rw [hb.contextOf f hfexists, hb.contextOf p hpexists]
  rcases hb.old_or_new h.toForest hf with hold | ⟨rfl, rfl⟩
  · by_cases hp : p ∈ form :: a.below form
    · rw [if_pos hp, if_pos (hbelow.mpr ((hbelow.mp hp).tail hold))]
    · rw [if_neg hp]
      split
      · rename_i hreach
        obtain rfl | ⟨q, hq, hqf⟩ := Relation.ReflTransGen.cases_tail (hbelow.mp hreach)
        · rw [hb.free p ((h.owner p f).mpr hold)]
        · rw [h.eq_of_mem hqf hold] at hq
          exact absurd (hbelow.mpr hq) hp
      · exact h.context p f hold
  · rw [if_pos List.mem_cons_self, if_neg]
    rw [List.mem_cons, not_or]
    exact ⟨hb.apart.symm, hb.notBelow⟩

theorem Joined.owned (hb : Joined owner band form a b) (h : a.Owned) (hform : form < a.forms.length)
    (hkeeps : Keeps owner band form a) : b.Owned :=
  ⟨hb.forest h.toForest hform, fun _ _ => hb.owner_iff h hkeeps, fun _ _ hf => hb.context_eq h hform hf⟩

/-- Making a form and setting a band that is free keep `Owned`. -/
theorem owned_steps : Steps Owned where
  grown := fun _ _ _ hb ha => ha.grown hb
  joined := fun _ _ _ _ _ hform hfree hb ha => hb.owned ha hform fun previous hprevious => by
    rw [hfree] at hprevious
    cases hprevious

/-! ## Orphans -/

/-- The call sets a band of a form that the owner has at another band too, and another form takes it: the case
that `Keeps` rules out. -/
def Orphans (a : Assembly) : Call → Prop
  | .setBand owner name value =>
    ∃ band ∈ Band.ofName? name, ∃ previous ∈ Entries.get? band (a.bandsOf owner),
      previous ∈ (Entries.erase band (a.bandsOf owner)).map (·.2) ∧
        ∃ form ∈ (setBand owner name value a).1.toOption, form ≠ previous
  | _ => False

instance Orphans.decidable (a : Assembly) : ∀ call, Decidable (Orphans a call)
  | .create _ _ => .isFalse id
  | .ofBands _ _ => .isFalse id
  | .setBand owner name value => inferInstanceAs (Decidable (∃ band ∈ Band.ofName? name,
      ∃ previous ∈ Entries.get? band (a.bandsOf owner),
        previous ∈ (Entries.erase band (a.bandsOf owner)).map (·.2) ∧
          ∃ form ∈ (setBand owner name value a).1.toOption, form ≠ previous))

theorem mem_erase {f : FormId} : f ∈ (Entries.erase band (a.bandsOf owner)).map (·.2) ↔
    ∃ other ≠ band, (other, f) ∈ a.bandsOf owner := by
  simp [Entries.erase, and_comm]

theorem Owned.attach {name : Text} {value : BandValue} (h : a.Owned) (hband : Band.ofName? name = some band)
    (howner : owner < a.forms.length) (hvalue : a.Holds value)
    (hkept : ¬ Orphans a (.setBand owner name value)) :
    Ends (attach owner band value) a (fun _ b => Owned b) fun _ b => Owned b := by
  refine ((attach_ends howner hvalue).and (ends_self _ a)).mono ?_ fun _ b hb => hb.1 ▸ h
  rintro form c ⟨⟨b, hgiven, hjoined⟩, hrun⟩
  refine hjoined.owned (owned_steps.given hgiven h) (hgiven.exists hvalue) fun previous hprevious hne => ?_
  rw [hgiven.bandsOf] at hprevious ⊢
  intro other hother hmem
  refine hkept ⟨band, hband, previous, hprevious, mem_erase.mpr ⟨other, hother, hmem⟩, form, ?_, hne.symm⟩
  rw [setBand_eq hband, hrun]
  rfl

/-- An orphan belongs to no form and still is a band of the owner. -/
theorem Orphans.orphan {call : Call} (h : Orphans a call) (hcall : call.Refers a) (ha : a.Forest) :
    ∃ p, ∃ f ∈ (call.run a).2.parts p, (call.run a).2.ownerOf f = none := by
  cases call with
  | create | ofBands => exact h.elim
  | setBand owner name value =>
    obtain ⟨band, hband, previous, hprevious, hmem, form, hform, hne⟩ := h
    simp only [Call.run]
    rw [setBand_eq hband] at hform ⊢
    have hrun : (attach owner band value a).1 = .ok form := by
      cases hresult : (attach owner band value a).1 with
      | error fault =>
        rw [hresult] at hform
        cases hform
      | ok made =>
        rw [hresult] at hform
        cases hform
        rfl
    obtain ⟨b, hgiven, hjoined⟩ := (ends_iff.mp (attach_ends hcall.1 hcall.2)).1 form hrun
    have hkeys : ((b.bandsOf owner).map (·.1)).Nodup := by
      rw [hgiven.bandsOf]
      exact ha.keys owner
    refine ⟨owner, previous, (hjoined.mem_parts hkeys).mpr ?_, ?_⟩
    · rw [if_pos rfl, hgiven.bandsOf]
      exact .inr (mem_erase.mp hmem)
    · rw [hjoined.ownerOf, if_neg hne.symm, hgiven.bandsOf]
      exact if_pos hprevious

/-! ## Runs -/

theorem empty_owned : empty.Owned := by
  have hbands : ∀ p, empty.bandsOf p = [] := fun p => rfl
  have hparts : ∀ p, empty.parts p = [] := fun p => rfl
  refine ⟨⟨fun p => ?_, fun p f hf => ?_, fun f hf => ?_⟩, fun p f => ?_, fun p f hf => ?_⟩
  · rw [hbands]
    exact List.nodup_nil
  · cases hf
  · obtain ⟨part, hpart, -⟩ := Relation.TransGen.head'_iff.mp hf
    cases hpart
  · exact ⟨fun h => (by cases h), fun h => (by cases h)⟩
  · cases hf

/-- After any calls, whichever of them fail, as long as none makes an orphan: a form is the band of one
other form at most, its owner is that form, and the two have one context.  A call that makes an orphan
leaves a form without an owner that is still a band. -/
theorem after_owned (calls : List Call)
    (hcalls : Throughout (fun a call => call.Refers a ∧ ¬ Orphans a call) calls empty) :
    let a := after calls empty
    (∀ f p q, f ∈ a.parts p → f ∈ a.parts q → p = q) ∧
    (∀ f p, a.ownerOf f = some p ↔ f ∈ a.parts p) ∧
    (∀ f p, f ∈ a.parts p → a.contextOf f = a.contextOf p) ∧
    ∀ call, call.Refers a → Orphans a call →
      ∃ p, ∃ f ∈ (call.run a).2.parts p, (call.run a).2.ownerOf f = none := by
  have howned : (after calls empty).Owned := by
    refine hcalls.induction (fun a call hcall ha => ?_) empty empty_owned
    refine owned_steps.call hcall.1 (fun owner name value band hset hband => ?_) ha
    subst hset
    exact ha.attach hband hcall.1.1 hcall.1.2 hcall.2
  refine ⟨fun f p q => howned.eq_of_mem, fun f p => howned.owner p f, fun f p => howned.context p f, ?_⟩
  exact fun call hcall horphans => horphans.orphan hcall howned.toForest

/-- The second form stands at the top and at the bottom of the first.  The third one is its summary until
another form takes the place, and becomes the top of a form that is made of bands.  Then the bottom of that
form cannot be the second form, which belongs to the first. -/
def letterhead : List Call :=
  [.create (.text "a".toList) none, .create (.text "b".toList) none, .create (.text "c".toList) none,
    .setBand 0 "top".toList (.form 1), .setBand 0 "Page-Footer".toList (.form 1),
    .setBand 0 "summary".toList (.form 2), .setBand 0 "summary".toList (.spec (.text "d".toList)),
    .ofBands [("detail".toList, .spec (.text "e".toList)), ("top".toList, .form 2)] none,
    .setBand 4 "bottom".toList (.form 1)]

theorem after_owned_letterhead :
    let a := after letterhead empty
    let takesTop := Call.setBand 0 "top".toList (.spec (.text "f".toList))
    Throughout (fun a call => call.Refers a ∧ ¬ Orphans a call) letterhead empty ∧
    a.parts 0 = [1, 1, 3] ∧ a.parts 4 = [2] ∧ a.ownerOf 1 = some 0 ∧ a.ownerOf 2 = some 4 ∧
    (∀ f p, f ∈ a.parts p → a.contextOf f = a.contextOf p) ∧
    ∃ p, ∃ f ∈ (takesTop.run a).2.parts p, (takesTop.run a).2.ownerOf f = none := by
  intro a takesTop
  have hcalls : Throughout (fun a call => call.Refers a ∧ ¬ Orphans a call) letterhead empty := by
    decide +kernel
  have hbands : a.parts 0 = [1, 1, 3] ∧ a.parts 4 = [2] := by decide +kernel
  obtain ⟨-, howner, hcontext, horphan⟩ := after_owned letterhead hcalls
  refine ⟨hcalls, hbands.1, hbands.2, ?_, ?_, hcontext, ?_⟩
  · exact (howner 1 0).mpr (by rw [hbands.1]; decide)
  · exact (howner 2 4).mpr (by rw [hbands.2]; decide)
  · exact horphan takesTop (by decide +kernel) (by decide +kernel)

/-- When another form takes the top, the second form is left at the bottom of the first one without an owner,
and it becomes the top of a further form, whose context it has then. -/
theorem orphan_of_two_forms :
    let calls := letterhead ++ [.setBand 0 "top".toList (.spec (.text "f".toList)),
      .create (.text "g".toList) none]
    let a := after calls empty
    let b := after (calls ++ [.setBand 6 "top".toList (.form 1)]) empty
    Throughout (fun a call => call.Refers a) (calls ++ [.setBand 6 "top".toList (.form 1)]) empty ∧
    1 ∈ a.parts 0 ∧ a.ownerOf 1 = none ∧
    1 ∈ b.parts 0 ∧ 1 ∈ b.parts 6 ∧ b.ownerOf 1 = some 6 ∧ b.contextOf 1 ≠ b.contextOf 0 := by
  decide +kernel

end PictureReport.Assembly
