import PictureReport.Proofs.Assembly.Forest
import PictureReport.Proofs.Ends

/-!
# What putting forms together does

A new form has no bands and belongs to no other form (`Grown`).  A form that is made the band of another
one gets its owner and, with all forms below it, the context of the owner; the form that held the band
before loses its owner (`Joined`).  A call that fails leaves all forms as they are.
-/

namespace PictureReport.Assembly

variable {a b c : Assembly} {f form owner : FormId} {band : Band}

/-! ## Changes of the table -/

theorem getElem?_modifyForm (form : FormId) (change : FormEntry → FormEntry) (a : Assembly) (f : FormId) :
    (a.modifyForm form change).forms[f]? =
      if f = form then a.forms[f]?.map change else a.forms[f]? := by
  simp only [modifyForm, List.getElem?_modify, eq_comm (a := form)]
  split <;> simp

@[simp] theorem length_modifyForm (form : FormId) (change : FormEntry → FormEntry) (a : Assembly) :
    (a.modifyForm form change).forms.length = a.forms.length := by
  simp [modifyForm]

section Change

variable {change : FormEntry → FormEntry}

theorem linesOf_modifyForm (h : ∀ entry, (change entry).lines = entry.lines) (f : FormId) :
    (a.modifyForm form change).linesOf f = a.linesOf f := by
  simp only [linesOf, getElem?_modifyForm]
  split <;> simp [Function.comp_def, h]

theorem bandsOf_modifyForm (h : ∀ entry, (change entry).bands = entry.bands) (f : FormId) :
    (a.modifyForm form change).bandsOf f = a.bandsOf f := by
  simp only [bandsOf, getElem?_modifyForm]
  split <;> simp [Function.comp_def, h]

theorem ownerOf_modifyForm (h : ∀ entry, (change entry).owner = entry.owner) (f : FormId) :
    (a.modifyForm form change).ownerOf f = a.ownerOf f := by
  simp only [ownerOf, getElem?_modifyForm]
  split
  · rw [Option.bind_map]
    exact congrArg (a.forms[f]?.bind ·) (funext h)
  · rfl

theorem contextOf_modifyForm (h : ∀ entry, (change entry).context = entry.context) (f : FormId) :
    (a.modifyForm form change).contextOf f = a.contextOf f := by
  simp only [contextOf, getElem?_modifyForm]
  split <;> simp [Function.comp_def, h]

end Change

theorem exists_getElem? (h : f < a.forms.length) : ∃ entry, a.forms[f]? = some entry :=
  ⟨a.forms[f], List.getElem?_eq_getElem h⟩

/-- Each form of `members` gets the context, and nothing else is changed. -/
structure Bound (members : List FormId) (context : ContextRef) (a b : Assembly) : Prop where
  length : b.forms.length = a.forms.length
  bandsOf : ∀ f, b.bandsOf f = a.bandsOf f
  ownerOf : ∀ f, b.ownerOf f = a.ownerOf f
  contextOf : ∀ f < a.forms.length, b.contextOf f = if f ∈ members then context else a.contextOf f

theorem bound_foldl (members : List FormId) (context : ContextRef) (a : Assembly) :
    Bound members context a
      (members.foldl (fun a member => a.modifyForm member fun entry => { entry with context }) a) := by
  induction members generalizing a with
  | nil => exact ⟨rfl, fun _ => rfl, fun _ => rfl, fun _ _ => rfl⟩
  | cons member members ih =>
    have hrest := ih (a.modifyForm member fun entry => { entry with context })
    refine ⟨?_, fun f => ?_, fun f => ?_, fun f hf => ?_⟩
    · exact hrest.length.trans (length_modifyForm _ _ a)
    · exact (hrest.bandsOf f).trans (by rw [bandsOf_modifyForm]; exact fun _ => rfl)
    · exact (hrest.ownerOf f).trans (by rw [ownerOf_modifyForm]; exact fun _ => rfl)
    · refine (hrest.contextOf f (by simpa using hf)).trans ?_
      obtain ⟨entry, hentry⟩ := exists_getElem? hf
      by_cases hmember : f = member
      · simp [contextOf, getElem?_modifyForm, hmember.symm, hentry]
      · simp [contextOf, getElem?_modifyForm, hmember]

theorem bindContext_bound (form : FormId) (context : ContextRef) (a : Assembly) :
    Bound (form :: a.below form) context a (a.bindContext form context) :=
  bound_foldl (form :: a.below form) context a

/-- What is printed with a form, `formOf`, does not depend on its context. -/
theorem formOf_bindContext (form : FormId) (context : ContextRef) (a : Assembly) (f : FormId) :
    (a.bindContext form context).formOf f = a.formOf f := by
  have hlines : ∀ (members : List FormId) (a : Assembly) (f : FormId), (members.foldl
      (fun a member => a.modifyForm member fun entry => { entry with context }) a).linesOf f =
        a.linesOf f := by
    intro members
    induction members with
    | nil => exact fun _ _ => rfl
    | cons member members ih =>
      intro a f
      exact (ih _ f).trans (by rw [linesOf_modifyForm]; exact fun _ => rfl)
  have hbound : (a.bindContext form context).linesOf = a.linesOf :=
    funext (hlines (form :: a.below form) a)
  rw [formOf, formOf, (bindContext_bound form context a).bandsOf, hbound]

/-! ## New forms -/

/-- Between `a` and `b` a new form is made, without bands and without an owner. -/
structure Grown (a : Assembly) (form : FormId) (b : Assembly) : Prop where
  new : form = a.forms.length
  forms : ∃ entry, b.forms = a.forms ++ [entry] ∧ entry.bands = [] ∧ entry.owner = none

theorem Grown.length (h : Grown a form b) : b.forms.length = a.forms.length + 1 := by
  obtain ⟨entry, hforms, -⟩ := h.forms
  simp [hforms]

theorem Grown.getElem? (h : Grown a form b) (hf : f ≠ form) : b.forms[f]? = a.forms[f]? := by
  obtain ⟨entry, hforms, -⟩ := h.forms
  obtain rfl := h.new
  rw [hforms]
  rcases Nat.lt_or_ge f a.forms.length with hlt | hge
  · exact List.getElem?_append_left hlt
  · rw [List.getElem?_eq_none hge, List.getElem?_eq_none]
    rw [List.length_append]
    exact Nat.lt_of_le_of_ne hge hf.symm

theorem Grown.getElem?_new (h : Grown a form b) :
    ∃ entry, b.forms[form]? = some entry ∧ entry.bands = [] ∧ entry.owner = none := by
  obtain ⟨entry, hforms, hentry⟩ := h.forms
  exact ⟨entry, by simp [hforms, h.new], hentry⟩

theorem Grown.bandsOf_new (h : Grown a form b) : b.bandsOf form = [] := by
  obtain ⟨entry, hentry, hbands, -⟩ := h.getElem?_new
  simp [bandsOf, hentry, hbands]

/-- The bands are the same after `Grown`: a form that is not there yet counts as one without bands. -/
theorem Grown.bandsOf (h : Grown a form b) (f : FormId) : b.bandsOf f = a.bandsOf f := by
  by_cases hf : f = form
  · have hnone : a.forms[form]? = none := List.getElem?_eq_none (Nat.le_of_eq h.new.symm)
    rw [hf, h.bandsOf_new]
    simp [Assembly.bandsOf, hnone]
  · simp [Assembly.bandsOf, h.getElem? hf]

theorem Grown.ownerOf (h : Grown a form b) (f : FormId) : b.ownerOf f = a.ownerOf f := by
  by_cases hf : f = form
  · obtain ⟨entry, hentry, -, howner⟩ := h.getElem?_new
    have hnone : a.forms[form]? = none := List.getElem?_eq_none (Nat.le_of_eq h.new.symm)
    simp [Assembly.ownerOf, hf, hentry, howner, hnone]
  · simp [Assembly.ownerOf, h.getElem? hf]

theorem Grown.contextOf (h : Grown a form b) (hf : f ≠ form) : b.contextOf f = a.contextOf f := by
  simp [Assembly.contextOf, h.getElem? hf]

theorem create_ends (spec : Spec) (context : Option ContextRef) (a : Assembly) :
    Ends (create spec context) a (fun form b => Grown a form b) fun _ b => b = a := by
  unfold create
  cases spec.compile with
  | error fault => exact ends_throw.mpr rfl
  | ok lines =>
    cases context with
    | some context =>
      simp only [pure_bind, ends_bind, ends_get, ends_set, ends_pure]
      exact ⟨rfl, _, rfl, rfl, rfl⟩
    | none =>
      simp only [newContext, ends_bind, ends_get, ends_set, ends_pure]
      exact ⟨rfl, _, rfl, rfl, rfl⟩

/-! ## Bands -/

/-- A form that is given for a band exists. -/
def Holds (a : Assembly) : BandValue → Prop
  | .form existing => existing < a.forms.length
  | _ => True

instance Holds.decidable (a : Assembly) : ∀ value, Decidable (a.Holds value)
  | .form existing => inferInstanceAs (Decidable (existing < a.forms.length))
  | .absent => .isTrue trivial
  | .spec _ => .isTrue trivial

/-- The form that a band gets: the one that is given for it, or one that is `Grown` from its picture. -/
def Given (value : BandValue) (a : Assembly) (form : FormId) (b : Assembly) : Prop :=
  match value with
  | .absent => False
  | .form existing => form = existing ∧ b = a
  | .spec _ => Grown a form b

theorem Given.bandsOf {value : BandValue} (h : Given value a form b) (f : FormId) :
    b.bandsOf f = a.bandsOf f := by
  cases value with
  | absent => exact h.elim
  | form existing => rw [h.2]
  | spec spec => exact Grown.bandsOf h f

theorem Given.length_le {value : BandValue} (h : Given value a form b) :
    a.forms.length ≤ b.forms.length := by
  cases value with
  | absent => exact h.elim
  | form existing => exact Nat.le_of_eq (congrArg (·.forms.length) h.2.symm)
  | spec spec =>
    rw [Grown.length h]
    exact Nat.le_succ _

theorem Given.exists {value : BandValue} (hvalue : a.Holds value) (h : Given value a form b) :
    form < b.forms.length := by
  cases value with
  | absent => exact h.elim
  | form existing =>
    rw [h.1, h.2]
    exact hvalue
  | spec spec =>
    rw [Grown.length h, h.new]
    exact Nat.lt_succ_self _

/-- Between `a` and `b` the form is made a band of the owner, and the one that held the band loses its owner.
-/
structure Joined (owner : FormId) (band : Band) (form : FormId) (a b : Assembly) : Prop where
  apart : form ≠ owner
  notBelow : owner ∉ a.below form
  free : ∀ other, a.ownerOf form = some other → other = owner
  length : b.forms.length = a.forms.length
  bandsOf : ∀ f, b.bandsOf f =
    if f = owner then Entries.set band form (a.bandsOf owner) else a.bandsOf f
  ownerOf : ∀ f, b.ownerOf f =
    if f = form then some owner
    else if Entries.get? band (a.bandsOf owner) = some f then none else a.ownerOf f
  contextOf : ∀ f < a.forms.length, b.contextOf f =
    if f ∈ form :: a.below form then a.contextOf owner else a.contextOf f

/-- The assembly in which `previous` has no owner. -/
def released (previous : Option FormId) (a : Assembly) : Assembly :=
  match previous with
  | some previous => a.modifyForm previous fun entry => { entry with owner := none }
  | none => a

/-- The assembly in which the form is a band of the owner. -/
def joined (owner : FormId) (band : Band) (form : FormId) (a : Assembly) : Assembly :=
  let released := a.released (Entries.get? band (a.bandsOf owner))
  let owned := released.modifyForm form fun entry => { entry with owner := some owner }
  (owned.bindContext form (a.contextOf owner)).modifyForm owner fun entry =>
    { entry with bands := Entries.set band form entry.bands }

section Released

variable (previous : Option FormId) (a : Assembly) (f : FormId)

@[simp] theorem length_released : (a.released previous).forms.length = a.forms.length := by
  cases previous <;> simp [released]

@[simp] theorem bandsOf_released : (a.released previous).bandsOf f = a.bandsOf f := by
  cases previous with
  | none => rfl
  | some previous => simp only [released, bandsOf_modifyForm, implies_true]

@[simp] theorem contextOf_released : (a.released previous).contextOf f = a.contextOf f := by
  cases previous with
  | none => rfl
  | some previous => simp only [released, contextOf_modifyForm, implies_true]

theorem ownerOf_released :
    (a.released previous).ownerOf f = if previous = some f then none else a.ownerOf f := by
  cases previous with
  | none => rfl
  | some previous =>
    simp only [released, ownerOf, getElem?_modifyForm, Option.some.injEq, eq_comm (a := previous)]
    split <;> simp

end Released

/-- The forms `below` a form depend on nothing but the bands. -/
theorem below_congr (hlength : b.forms.length = a.forms.length) (hbands : ∀ f, b.bandsOf f = a.bandsOf f)
    (f : FormId) : b.below f = a.below f := by
  have hwalk : ∀ n f, b.walk n f = a.walk n f := by
    intro n
    induction n with
    | zero => exact fun _ => rfl
    | succ n ih => simp only [walk, hbands, ih, implies_true]
  unfold below
  rw [hlength, hwalk]

theorem joined_joined (howner : owner < a.forms.length) (hform : form < a.forms.length)
    (hapart : form ≠ owner) (hbelow : owner ∉ a.below form)
    (hfree : ∀ other, a.ownerOf form = some other → other = owner) :
    Joined owner band form a (a.joined owner band form) := by
  unfold joined
  extract_lets freed owned
  have hlength : owned.forms.length = a.forms.length := by simp [owned, freed]
  have hbands : ∀ f, owned.bandsOf f = a.bandsOf f := by
    simp only [owned, freed, bandsOf_modifyForm, bandsOf_released, implies_true]
  have hcontext : ∀ f, owned.contextOf f = a.contextOf f := by
    simp only [owned, freed, contextOf_modifyForm, contextOf_released, implies_true]
  have howned : ∀ f, owned.ownerOf f = if f = form then some owner
      else if Entries.get? band (a.bandsOf owner) = some f then none else a.ownerOf f := by
    intro f
    have hfreed := ownerOf_released (Entries.get? band (a.bandsOf owner)) a f
    by_cases hf : f = form
    · obtain ⟨entry, hentry⟩ := exists_getElem? (show form < freed.forms.length by simpa [freed] using hform)
      simp [owned, ownerOf, getElem?_modifyForm, hf, hentry]
    · rw [if_neg hf, ← hfreed]
      simp [owned, freed, ownerOf, getElem?_modifyForm, hf]
  -- owners and bands do not matter to what is below the form, so it may be computed before they are set
  have hbound := bindContext_bound form (a.contextOf owner) owned
  rw [below_congr hlength hbands] at hbound
  refine ⟨hapart, hbelow, hfree, ?_, fun f => ?_, fun f => ?_, fun f hf => ?_⟩
  · rw [length_modifyForm, hbound.length, hlength]
  · by_cases hf : f = owner
    · have hown := hbound.bandsOf owner
      rw [hbands] at hown
      obtain ⟨entry, hentry⟩ := exists_getElem?
        (show owner < (owned.bindContext form (a.contextOf owner)).forms.length by rwa [hbound.length, hlength])
      rw [if_pos hf, ← hown, hf]
      simp [bandsOf, getElem?_modifyForm, hentry]
    · rw [if_neg hf, ← hbands f, ← hbound.bandsOf f]
      simp [bandsOf, getElem?_modifyForm, hf]
  · simp only [ownerOf_modifyForm, implies_true, hbound.ownerOf, howned]
  · simp only [contextOf_modifyForm, implies_true, hbound.contextOf f (by rwa [hlength]), hcontext]

/-- Give the form to the owner, which has no other form at the band then: `attach` ends so. -/
def give (owner : FormId) (band : Band) (form : FormId) (assembly : Assembly) : Assembling FormId := do
  if let some previous := Entries.get? band (assembly.bandsOf owner) then
    modify (modifyForm previous fun entry => { entry with owner := none })
  modify (modifyForm form fun entry => { entry with owner := some owner })
  modify (bindContext form (assembly.contextOf owner))
  modify (modifyForm owner fun entry => { entry with bands := Entries.set band form entry.bands })
  pure form

/-- Make a form that exists a band of the owner: `attach` once there is a form. -/
def join (owner : FormId) (band : Band) (form : FormId) : Assembling FormId := do
  let assembly ← get
  if form = owner || (assembly.below form).contains owner then throw (.recursiveBand band)
  if let some other := assembly.ownerOf form then
    if other ≠ owner then throw (.takenBand band)
  give owner band form assembly

theorem attach_eq (owner : FormId) (band : Band) (value : BandValue) : attach owner band value = (do
    if band = .detail then throw .detailIsForm
    let form ← match value with
      | .absent => throw .noPicture
      | .form form => pure form
      | .spec spec => create spec none
    join owner band form) := rfl

theorem give_ends : Ends (give owner band form a) a
    (fun made b => made = form ∧ b = a.joined owner band form) fun _ _ => False := by
  unfold give joined
  cases Entries.get? band (a.bandsOf owner) with
  | none => exact ⟨rfl, rfl⟩
  | some previous => exact ⟨rfl, rfl⟩

/-- `join` refuses a form that is above the owner or belongs to another form. -/
def Refused (owner form : FormId) (a : Assembly) : Prop :=
  form = owner ∨ owner ∈ a.below form ∨ ∃ other, a.ownerOf form = some other ∧ other ≠ owner

theorem join_ends (howner : owner < a.forms.length) (hform : form < a.forms.length) :
    Ends (join owner band form) a (fun made b => made = form ∧ Joined owner band form a b)
      fun _ b => b = a ∧ Refused owner form a := by
  simp only [join, ends_bind, ends_get]
  rw [ends_ite]
  split
  · rename_i hrefused
    simp only [Bool.or_eq_true, decide_eq_true_eq, List.contains_iff_mem] at hrefused
    exact ⟨rfl, hrefused.imp_right .inl⟩
  · rename_i hapart
    simp only [Bool.or_eq_true, decide_eq_true_eq, List.contains_iff_mem, not_or] at hapart
    -- there are two ways to here: the form has no owner, or it has this one
    have hgive : (∀ other, a.ownerOf form = some other → other = owner) →
        Ends (give owner band form a) a (fun made b => made = form ∧ Joined owner band form a b)
          fun _ b => b = a ∧ Refused owner form a := by
      refine fun hfree => give_ends.mono ?_ fun _ _ he => he.elim
      rintro made _ ⟨rfl, rfl⟩
      exact ⟨rfl, joined_joined howner hform hapart.1 hapart.2 hfree⟩
    cases hother : a.ownerOf form with
    | none => exact hgive (by simp [hother])
    | some other =>
      dsimp only
      rw [ends_ite]
      split
      · rename_i hne
        exact ⟨rfl, .inr (.inr ⟨other, hother, hne⟩)⟩
      · rename_i heq
        exact hgive fun owner' h => by
          rw [hother] at h
          rw [← Option.some.inj h]
          exact Decidable.not_not.mp heq

/-- A form that is made for its band is not `Refused`. -/
theorem Grown.not_refused (h : Grown a form b) (howner : owner < a.forms.length) :
    ¬ Refused owner form b := by
  have hnone : a.forms[form]? = none := List.getElem?_eq_none (Nat.le_of_eq h.new.symm)
  rintro (heq | hbelow | ⟨other, hother, -⟩)
  · rw [← heq, h.new] at howner
    exact Nat.lt_irrefl _ howner
  · obtain ⟨part, hpart, -⟩ := Relation.TransGen.head'_iff.mp (above_of_mem_walk hbelow)
    rw [parts, h.bandsOf_new] at hpart
    cases hpart
  · rw [h.ownerOf] at hother
    simp [Assembly.ownerOf, hnone] at hother

/-- `attach` makes a form a band of the owner, or changes nothing. -/
theorem attach_ends {value : BandValue} (howner : owner < a.forms.length) (hvalue : a.Holds value) :
    Ends (attach owner band value) a (fun form c => ∃ b, Given value a form b ∧ Joined owner band form b c)
      fun _ c => c = a := by
  rw [attach_eq, ends_ite]
  split
  · rfl
  · cases value with
    | absent => exact rfl
    | form existing =>
      dsimp only
      refine (join_ends howner hvalue).mono ?_ fun _ _ he => he.1
      rintro made c ⟨rfl, hc⟩
      exact ⟨a, ⟨rfl, rfl⟩, hc⟩
    | spec spec =>
      simp only [ends_bind]
      refine (create_ends spec none a).mono (fun form b hb => ?_) fun _ _ he => he
      have hgiven : Given (.spec spec) a form b := hb
      have howner' := Nat.lt_of_lt_of_le howner hgiven.length_le
      refine (join_ends howner' (hgiven.exists hvalue)).mono ?_ fun _ c he => ?_
      · rintro made c ⟨rfl, hc⟩
        exact ⟨b, hb, hc⟩
      · exact absurd he.2 (hb.not_refused howner)

/-! ## Mappings of bands -/

/-- One entry of a mapping sets the band that it stands for. -/
theorem named_step {bands named : Entries Band BandValue} {entry : Text × BandValue}
    (h : (match entry.2 with
      | .absent => .ok bands
      | value => do
        let band ← bandOf entry.1
        pure (Entries.set band value bands)) = (Except.ok named : Except Fault _)) :
    named = bands ∨ ∃ band, named = Entries.set band entry.2 bands := by
  split at h
  · exact .inl (Except.ok.inj h).symm
  · obtain ⟨band, -, h⟩ := bind_eq_ok.mp h
    exact .inr ⟨band, (Except.ok.inj h).symm⟩

/-- In a mapping each band has one value, which is one of those given. -/
theorem named_values {values : Entries Text BandValue} {bands : Entries Band BandValue}
    (h : named values = .ok bands) {P : BandValue → Prop} (hvalues : ∀ entry ∈ values, P entry.2) :
    (bands.map (·.1)).Nodup ∧ ∀ entry ∈ bands, P entry.2 := by
  unfold named at h
  have hstart : (([] : Entries Band BandValue).map (·.1)).Nodup ∧
      ∀ entry ∈ ([] : Entries Band BandValue), P entry.2 := by simp
  generalize ([] : Entries Band BandValue) = start at h hstart
  induction values generalizing start with
  | nil =>
    cases h
    exact hstart
  | cons entry values ih =>
    rw [List.forall_mem_cons] at hvalues
    rw [List.foldlM_cons] at h
    obtain ⟨next, hnext, h⟩ := bind_eq_ok.mp h
    refine ih hvalues.2 next h ?_
    rcases named_step hnext with rfl | ⟨band, rfl⟩
    · exact hstart
    · refine ⟨Entries.nodup_keys_set hstart.1, fun other hother => ?_⟩
      rcases Entries.mem_set hother with rfl | hother
      · exact hvalues.1
      · exact hstart.2 other hother

/-- Making a form and setting a band that is free keep `I`. -/
structure Steps (I : Assembly → Prop) : Prop where
  grown : ∀ a form b, Grown a form b → I a → I b
  joined : ∀ owner band form a b, form < a.forms.length → Entries.get? band (a.bandsOf owner) = none →
    Joined owner band form a b → I a → I b

theorem Steps.given {I : Assembly → Prop} (h : Steps I) {value : BandValue} (hb : Given value a form b)
    (ha : I a) : I b := by
  cases value with
  | absent => exact hb.elim
  | form existing =>
    rw [hb.2]
    exact ha
  | spec spec => exact h.grown a form b hb ha

theorem Holds.of_le {value : BandValue} (hvalue : a.Holds value)
    (h : a.forms.length ≤ b.forms.length) : b.Holds value := by
  cases value with
  | form existing => exact Nat.lt_of_lt_of_le hvalue h
  | absent | spec _ => trivial

/-- `attachAll` keeps `I` on a form that has none of the bands yet. -/
theorem Steps.attachAll {I : Assembly → Prop} (h : Steps I) {bands : Entries Band BandValue}
    (hform : form < a.forms.length) (hvalues : ∀ entry ∈ bands, a.Holds entry.2)
    (hkeys : (bands.map (·.1)).Nodup)
    (hfree : ∀ entry ∈ bands, Entries.get? entry.1 (a.bandsOf form) = none) (ha : I a) :
    Ends (attachAll form bands) a (fun _ b => I b) fun _ b => I b := by
  induction bands generalizing a with
  | nil => exact ha
  | cons entry bands ih =>
    rw [List.forall_mem_cons] at hvalues hfree
    rw [List.map_cons, List.nodup_cons] at hkeys
    simp only [Assembly.attachAll, ends_bind]
    refine (attach_ends hform hvalues.1).mono ?_ fun _ b hb => hb ▸ ha
    rintro made c ⟨b, hgiven, hjoined⟩
    have hlength : a.forms.length ≤ c.forms.length := hjoined.length ▸ hgiven.length_le
    have hc : I c := by
      refine h.joined form entry.1 made b c (hgiven.exists hvalues.1) ?_ hjoined (h.given hgiven ha)
      rw [hgiven.bandsOf]
      exact hfree.1
    refine ih (Nat.lt_of_lt_of_le hform hlength) (fun entry he => (hvalues.2 entry he).of_le hlength)
      hkeys.2 (fun other hother => ?_) hc
    have hne : entry.1 ≠ other.1 := fun heq => hkeys.1 (List.mem_map.mpr ⟨other, hother, heq.symm⟩)
    rw [hjoined.bandsOf, if_pos rfl, Entries.get?_set_of_ne hne, hgiven.bandsOf]
    exact hfree.2 other hother

/-- `ofBands` makes a form and attaches its bands, as far as nothing fails, and keeps `I` either way. -/
theorem Steps.ofBands {I : Assembly → Prop} (h : Steps I) {values : Entries Text BandValue}
    (context : Option ContextRef) (hvalues : ∀ entry ∈ values, a.Holds entry.2) (ha : I a) :
    Ends (ofBands values context) a (fun _ b => I b) fun _ b => I b := by
  unfold Assembly.ofBands
  cases hnamed : named values with
  | error fault => exact ha
  | ok bands =>
    obtain ⟨hkeys, hbands⟩ := named_values hnamed hvalues
    dsimp only
    generalize (if (Entries.get? Band.detail bands).isSome then Band.detail else Band.top) = body
    split
    · exact ha
    · exact ha
    · exact ha
    · simp only [ends_bind, ends_pure]
      refine (create_ends _ context a).mono (fun form b hb => ?_) fun _ b hb => hb ▸ ha
      have hlength := hb.length
      have hform : form < b.forms.length := by
        rw [hlength, hb.new]
        exact Nat.lt_succ_self _
      refine h.attachAll hform ?_ ?_ ?_ (h.grown a form b hb ha)
      · intro entry he
        exact (hbands entry (List.mem_of_mem_filter he)).of_le (by omega)
      · exact hkeys.sublist (List.filter_sublist.map _)
      · intro entry _
        rw [hb.bandsOf_new]
        rfl

end PictureReport.Assembly
