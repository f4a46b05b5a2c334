import Mathlib.Data.List.TakeWhile
import PictureReport.Proofs.Assembly.Walking

/-!
# Mappings of bands that fail

A mapping of bands makes a form and gives it the bands one after the other.  When one of them is refused the
call fails, but the forms that stood in front of it belong to the new form by then, which nobody gets:
`taken` lists them.  No other form can have them as a band any more.  All other forms keep their owner, their
bands and their context (`ofBands_failed`).
-/

namespace PictureReport

theorem Entries.ne_of_get?_eq_none {κ ν : Type} [DecidableEq κ] {key : κ} {entries : Entries κ ν}
    (h : get? key entries = none) : ∀ entry ∈ entries, entry.1 ≠ key := by
  induction entries with
  | nil => simp
  | cons entry rest ih =>
    rw [get?_cons] at h
    split at h
    · cases h
    · rename_i hkey
      exact List.forall_mem_cons.mpr ⟨hkey, ih h⟩

namespace Assembly

variable {a b c : Assembly} {f g form owner p : FormId} {band : Band} {value : BandValue}
variable {given : List FormId} {bands : Entries Band BandValue}

/-! ## What is attached and what is refused -/

/-- The bands that a mapping gives to the form that it makes, in order; none if it makes no form. -/
def attachments (values : Entries Text BandValue) : Entries Band BandValue :=
  match named values with
  | .error _ => []
  | .ok bands =>
    let body := if (Entries.get? Band.detail bands).isSome then Band.detail else Band.top
    match Entries.get? body bands with
    | some (.spec spec) => if spec.compile.isOk then Entries.erase body bands else []
    | _ => []

/-- A new form can have the value as a band: a picture that compiles, or a form without an owner. -/
def admits (a : Assembly) : BandValue → Bool
  | .absent => false
  | .spec spec => spec.compile.isOk
  | .form form => (a.ownerOf form).isNone

/-- The form that a value is, if it is one. -/
def form? : BandValue → Option FormId
  | .form form => some form
  | _ => none

/-- The forms among bands that stand in front of the first one that a new form does not admit. -/
def takenOf (a : Assembly) (bands : Entries Band BandValue) : List FormId :=
  (bands.takeWhile fun entry => a.admits entry.2).filterMap fun entry => form? entry.2

/-- The forms that a mapping takes before a band is refused: `takenOf` its `attachments`. -/
def taken (a : Assembly) (values : Entries Text BandValue) : List FormId := a.takenOf (attachments values)

theorem takenOf_refused {entry : Band × BandValue} (h : a.admits entry.2 = false) :
    a.takenOf (entry :: bands) = [] := by
  simp [takenOf, h]

theorem takenOf_admitted {entry : Band × BandValue} (h : a.admits entry.2 = true) :
    a.takenOf (entry :: bands) = (form? entry.2).toList ++ a.takenOf bands := by
  simp only [takenOf, List.takeWhile_cons, h, if_true, List.filterMap_cons]
  cases form? entry.2 <;> rfl

theorem form?_eq_some : form? value = some f ↔ value = .form f := by
  cases value <;> simp [form?]

theorem mem_takenOf (h : f ∈ a.takenOf bands) :
    a.ownerOf f = none ∧ ∃ entry ∈ bands, entry.2 = .form f := by
  obtain ⟨entry, hentry, hform⟩ := List.mem_filterMap.mp h
  rw [form?_eq_some] at hform
  have hadmits : a.admits entry.2 = true :=
    List.mem_takeWhile_imp (p := fun entry : Band × BandValue => a.admits entry.2) hentry
  refine ⟨?_, entry, (List.takeWhile_prefix _).subset hentry, hform⟩
  rw [hform] at hadmits
  simpa [admits] using hadmits

/-! ## Forms that stand -/

/-- The forms are a `Forest`, and each owner exists. -/
structure Standing (a : Assembly) : Prop extends Forest a where
  owners : ∀ f p, a.ownerOf f = some p → p < a.forms.length

/-- The owner of a band exists. -/
theorem Joined.owner_exists (h : Joined owner band form a b) : owner < a.forms.length := by
  rw [← h.length]
  refine exists_of_mem_parts (f := form) (Assembly.mem_parts.mpr ⟨band, ?_⟩)
  rw [h.bandsOf, if_pos rfl]
  exact Entries.mem_of_get? (Entries.get?_set_self band form _)

theorem Joined.standing (h : Joined owner band form a b) (ha : a.Standing) (hform : form < a.forms.length) :
    b.Standing := by
  refine ⟨h.forest ha.toForest hform, fun f p howner => ?_⟩
  rw [h.length]
  rw [h.ownerOf] at howner
  split at howner
  · obtain rfl := Option.some.inj howner
    exact h.owner_exists
  · split at howner
    · cases howner
    · exact ha.owners f p howner

theorem standing_steps : Steps Standing where
  grown := fun a form b hb ha => ⟨hb.forest ha.toForest, fun f p howner => by
    rw [hb.ownerOf] at howner
    rw [hb.length]
    exact Nat.lt_succ_of_lt (ha.owners f p howner)⟩
  joined := fun _ _ _ _ _ hform _ hb ha => hb.standing ha hform

theorem after_standing {calls : List Call} (hcalls : Throughout (fun a call => call.Refers a) calls empty) :
    (after calls empty).Standing := by
  refine hcalls.induction (fun a call hcall ha => ?_) empty ⟨empty_owned.toForest, fun f p h => (by cases h)⟩
  refine standing_steps.call hcall (fun owner name value band hset _ => ?_) ha
  subst hset
  refine (attach_ends hcall.1 hcall.2).mono ?_ fun _ b hb => hb ▸ ha
  rintro form c ⟨b, hgiven, hjoined⟩
  exact hjoined.standing (standing_steps.given hgiven ha) (hgiven.exists hcall.2)

/-- What stands below an old form depends on the bands of old forms alone. -/
theorem Above.of_parts {n : Nat} (hparts : ∀ p < n, ∀ f ∈ a.parts p, f ∈ b.parts p ∧ f < n)
    (h : a.Above f g) (hf : f < n) : b.Above f g ∧ g < n := by
  induction h with
  | single hstep =>
    obtain ⟨hmem, hlt⟩ := hparts f hf _ hstep
    exact ⟨.single hmem, hlt⟩
  | tail _ hstep ih =>
    obtain ⟨habove, hlt⟩ := ih
    obtain ⟨hmem, hlt'⟩ := hparts _ hlt _ hstep
    exact ⟨habove.tail hmem, hlt'⟩

/-! ## Bands of a new form, one after the other -/

/-- Between `a` and `b`, of the forms that were there the `given` ones belong to a new one, and none of the
others has another owner.  If no form was given away, all of them have the context that they had. -/
structure Claimed (owner : FormId) (given : List FormId) (a b : Assembly) : Prop where
  new : owner = a.forms.length
  made : owner < b.forms.length
  free : ∀ f ∈ given, a.ownerOf f = none
  bandsOf : ∀ f < a.forms.length, b.bandsOf f = a.bandsOf f
  ownerOf : ∀ f < a.forms.length, b.ownerOf f = if f ∈ given then some owner else a.ownerOf f
  contextOf : given = [] → ∀ f < a.forms.length, b.contextOf f = a.contextOf f

theorem Grown.claims (h : Grown a form b) : Claimed form [] a b := by
  have hold : ∀ f < a.forms.length, f ≠ form := fun f hf => by
    rw [h.new]
    exact Nat.ne_of_lt hf
  refine ⟨h.new, ?_, by simp, fun f _ => h.bandsOf f, fun f _ => h.ownerOf f,
    fun _ f hf => h.contextOf (hold f hf)⟩
  rw [h.length, h.new]
  exact Nat.lt_succ_self _

namespace Claimed

theorem length_le (h : Claimed owner given a b) : a.forms.length ≤ b.forms.length := by
  have hmade := h.made
  rw [h.new] at hmade
  exact hmade.le

theorem apart (h : Claimed owner given a b) (hf : f < a.forms.length) : f ≠ owner := by
  rw [h.new]
  exact Nat.ne_of_lt hf

/-- The new form does not stand `below` an old one. -/
theorem notBelow (h : Claimed owner given a b) (ha : a.Forest) (hf : f < a.forms.length) :
    owner ∉ b.below f := by
  intro hmem
  have hparts : ∀ p < a.forms.length, ∀ f ∈ b.parts p, f ∈ a.parts p ∧ f < a.forms.length := by
    intro p hp f hf
    rw [parts, h.bandsOf p hp] at hf
    exact ⟨hf, ha.exist p f hf⟩
  have hlt := ((above_of_mem_walk hmem).of_parts hparts hf).2
  rw [h.new] at hlt
  exact Nat.lt_irrefl _ hlt

/-- The new form is refused an old form just if that had an owner. -/
theorem refused_iff (h : Claimed owner given a b) (ha : a.Standing) (hf : f < a.forms.length) :
    Refused owner f b ↔ a.ownerOf f ≠ none := by
  have howner := h.ownerOf f hf
  constructor
  · rintro (heq | hbelow | ⟨other, hother, hne⟩) hnone
    · exact h.apart hf heq
    · exact h.notBelow ha.toForest hf hbelow
    · rw [howner, hnone] at hother
      split at hother
      · exact hne (Option.some.inj hother).symm
      · cases hother
  · intro hsome
    obtain ⟨other, hother⟩ := Option.ne_none_iff_exists'.mp hsome
    have hnot : f ∉ given := fun hmem => hsome (h.free f hmem)
    refine .inr (.inr ⟨other, ?_, ?_⟩)
    · rw [howner, if_neg hnot, hother]
    · rw [h.new]
      exact Nat.ne_of_lt (ha.owners f other hother)

/-- A further form is given to the new one, which keeps `Claimed`. -/
theorem withForm (h : Claimed owner given a b) (hnone : a.ownerOf form = none)
    (hfree : Entries.get? band (b.bandsOf owner) = none) (hjoined : Joined owner band form b c) :
    Claimed owner (given ++ [form]) a c := by
  refine ⟨h.new, ?_, fun f hf => ?_, fun f hf => ?_, fun f hf => ?_, fun hnil => ?_⟩
  · rw [hjoined.length]
    exact h.made
  · rcases List.mem_append.mp hf with hf | hf
    · exact h.free f hf
    · rw [List.mem_singleton.mp hf]
      exact hnone
  · rw [hjoined.bandsOf, if_neg (h.apart hf), h.bandsOf f hf]
  · rw [hjoined.ownerOf, hfree, h.ownerOf f hf]
    by_cases hform : f = form
    · simp [hform]
    · simp [hform]
  · simp at hnil

/-- A picture becomes a band of the new form, which keeps `Claimed`: nothing is given away. -/
theorem withSpec (h : Claimed owner given a b) {b' : Assembly}
    (hfree : Entries.get? band (b.bandsOf owner) = none) (hgrown : Grown b form b')
    (hjoined : Joined owner band form b' c) : Claimed owner given a c := by
  have hle := h.length_le
  have hold : ∀ f < a.forms.length, f ≠ form := fun f hf => by
    rw [hgrown.new]
    omega
  have hbelow : b'.below form = [] := by
    rw [below, hgrown.length, walk, hgrown.bandsOf_new]
    rfl
  refine ⟨h.new, ?_, h.free, fun f hf => ?_, fun f hf => ?_, fun hnil f hf => ?_⟩
  · rw [hjoined.length, hgrown.length]
    exact Nat.lt_succ_of_lt h.made
  · rw [hjoined.bandsOf, if_neg (h.apart hf), hgrown.bandsOf, h.bandsOf f hf]
  · rw [hjoined.ownerOf, if_neg (hold f hf), hgrown.bandsOf, hfree, hgrown.ownerOf, ← h.ownerOf f hf]
    simp
  · have hlt : f < b'.forms.length := by
      rw [hgrown.length]
      omega
    rw [hjoined.contextOf f hlt, hbelow, if_neg (by simpa using hold f hf), hgrown.contextOf (hold f hf),
      h.contextOf hnil f hf]

end Claimed

theorem create_compiles (spec : Spec) (context : Option ContextRef) (a : Assembly) :
    Ends (create spec context) a (fun _ _ => spec.compile.isOk = true) fun _ _ => spec.compile.isOk = false := by
  unfold create
  cases spec.compile with
  | error fault => exact ends_throw.mpr rfl
  | ok lines => cases context <;> rfl

/-- A value that a new form admits becomes its band, and another one is refused, and then nothing is changed.
-/
theorem Claimed.attach (h : Claimed owner given a b) (ha : a.Standing) (hband : band ≠ .detail)
    (hvalue : a.Holds value) (hfree : Entries.get? band (b.bandsOf owner) = none) :
    Ends (attach owner band value) b
      (fun _ c => a.admits value = true ∧ Claimed owner (given ++ (form? value).toList) a c ∧
        ∀ other ≠ band, Entries.get? other (c.bandsOf owner) = Entries.get? other (b.bandsOf owner))
      fun _ c => a.admits value = false ∧ c = b := by
  have hkept : ∀ {form : FormId} {b' c : Assembly}, (∀ f, b'.bandsOf f = b.bandsOf f) →
      Joined owner band form b' c → ∀ other ≠ band,
        Entries.get? other (c.bandsOf owner) = Entries.get? other (b.bandsOf owner) := by
    intro form b' c hbands hjoined other hother
    rw [hjoined.bandsOf, if_pos rfl, hbands, Entries.get?_set_of_ne hother.symm]
  rw [attach_eq, ends_ite, if_neg hband]
  cases value with
  | absent => exact ⟨rfl, rfl⟩
  | form existing =>
    have hexisting : existing < b.forms.length := Nat.lt_of_lt_of_le hvalue h.length_le
    refine (join_ends h.made hexisting).mono ?_ ?_
    · rintro made c ⟨rfl, hjoined⟩
      have hnone : a.ownerOf made = none := by
        by_contra hsome
        rcases (h.refused_iff ha hvalue).mpr hsome with heq | hbelow | ⟨other, hother, hne⟩
        · exact hjoined.apart heq
        · exact hjoined.notBelow hbelow
        · exact hne (hjoined.free other hother)
      exact ⟨by simp [admits, hnone], h.withForm hnone hfree hjoined, hkept (fun _ => rfl) hjoined⟩
    · rintro fault c ⟨rfl, hrefused⟩
      have hsome := (h.refused_iff ha hvalue).mp hrefused
      exact ⟨by simpa [admits, Option.isSome_iff_ne_none] using hsome, rfl⟩
  -- a form that is just made has no owner and nothing below it, so only its picture can be refused
  | spec spec =>
    simp only [ends_bind]
    refine ((create_ends spec none b).and (create_compiles spec none b)).mono ?_ fun _ c hc => ⟨hc.2, hc.1⟩
    rintro form b' ⟨hgrown, hok⟩
    have hform : form < b'.forms.length := by
      rw [hgrown.length, hgrown.new]
      exact Nat.lt_succ_self _
    have howner : owner < b'.forms.length := by
      rw [hgrown.length]
      exact Nat.lt_succ_of_lt h.made
    refine (join_ends howner hform).mono ?_ fun _ c he => absurd he.2 (hgrown.not_refused h.made)
    rintro made c ⟨rfl, hjoined⟩
    refine ⟨hok, ?_, hkept hgrown.bandsOf hjoined⟩
    simp only [form?, Option.toList_none, List.append_nil]
    exact h.withSpec hfree hgrown hjoined

/-- Where one of the bands is refused, the new form has got the forms in front of it (`takenOf`). -/
theorem Claimed.attachAll (h : Claimed owner given a b) (ha : a.Standing)
    (hvalues : ∀ entry ∈ bands, a.Holds entry.2) (hkeys : (bands.map (·.1)).Nodup)
    (hdetail : ∀ entry ∈ bands, entry.1 ≠ .detail)
    (hfree : ∀ entry ∈ bands, Entries.get? entry.1 (b.bandsOf owner) = none) :
    Ends (attachAll owner bands) b (fun _ _ => True)
      fun _ c => Claimed owner (given ++ a.takenOf bands) a c := by
  induction bands generalizing b given with
  | nil => trivial
  | cons entry bands ih =>
    rw [List.forall_mem_cons] at hvalues hdetail hfree
    rw [List.map_cons, List.nodup_cons] at hkeys
    simp only [Assembly.attachAll, ends_bind]
    refine (h.attach ha hdetail.1 hvalues.1 hfree.1).mono ?_ ?_
    · rintro made c ⟨hadmits, hnext, hothers⟩
      rw [takenOf_admitted hadmits, ← List.append_assoc]
      refine ih hnext hvalues.2 hkeys.2 hdetail.2 fun other hother => ?_
      have hne : other.1 ≠ entry.1 := fun heq => hkeys.1 (List.mem_map.mpr ⟨other, hother, heq⟩)
      rw [hothers other.1 hne]
      exact hfree.2 other hother
    · rintro fault c ⟨hrefused, rfl⟩
      rw [takenOf_refused hrefused, List.append_nil]
      exact h

/-! ## Mappings that fail -/

/-- The `attachments` have one value each, which is one of those that are given, and none of them is the
detail. -/
theorem attachments_spec (values : Entries Text BandValue) {P : BandValue → Prop}
    (hvalues : ∀ entry ∈ values, P entry.2) :
    ((attachments values).map (·.1)).Nodup ∧ (∀ entry ∈ attachments values, P entry.2) ∧
      ∀ entry ∈ attachments values, entry.1 ≠ .detail := by
  unfold attachments
  cases hnamed : named values with
  | error fault => simp
  | ok bands =>
    obtain ⟨hkeys, hbands⟩ := named_values hnamed hvalues
    dsimp only
    split
    · split
      · refine ⟨hkeys.sublist (List.filter_sublist.map _),
          fun entry he => hbands entry (List.mem_of_mem_filter he), fun entry he hdetail => ?_⟩
        have hbody := (List.mem_filter.mp he).2
        rw [hdetail] at hbody
        cases hget : Entries.get? Band.detail bands with
        | none => exact Entries.ne_of_get?_eq_none hget entry (List.mem_of_mem_filter he) hdetail
        | some value => simp [hget] at hbody
      · simp
    · simp

/-- A mapping that fails has given the forms it has `taken` to a new form; if it made no form it has changed
nothing. -/
theorem ofBands_claims {values : Entries Text BandValue} (context : Option ContextRef) (ha : a.Standing)
    (hvalues : ∀ entry ∈ values, a.Holds entry.2) :
    Ends (ofBands values context) a (fun _ _ => True)
      fun _ b => a.taken values = [] ∧ b = a ∨ Claimed a.forms.length (a.taken values) a b := by
  obtain ⟨hkeys, hholds, hdetail⟩ := attachments_spec values hvalues
  unfold Assembly.ofBands
  unfold taken attachments at *
  cases hnamed : named values with
  | error fault => exact .inl ⟨rfl, rfl⟩
  | ok bands =>
    simp only [hnamed] at hkeys hholds hdetail ⊢
    -- the bands that are left for `attachAll` are those besides the picture of the form itself
    generalize (if (Entries.get? Band.detail bands).isSome then Band.detail else Band.top) = body at *
    cases hbody : Entries.get? body bands with
    | none => exact .inl ⟨rfl, rfl⟩
    | some value =>
      cases value with
      | absent | form _ => exact .inl ⟨rfl, rfl⟩
      | spec spec =>
        simp only [hbody] at hkeys hholds hdetail ⊢
        simp only [ends_bind, ends_pure]
        refine ((create_ends spec context a).and (create_compiles spec context a)).mono ?_ ?_
        · rintro form b ⟨hgrown, hok⟩
          simp only [hok, if_true] at hkeys hholds hdetail ⊢
          have hclaims := hgrown.claims
          rw [← hgrown.new]
          refine (hclaims.attachAll ha hholds hkeys hdetail fun entry _ => ?_).mono (fun _ _ h => h)
            fun _ _ h => .inr h
          rw [hgrown.bandsOf_new]
          rfl
        · rintro fault b ⟨rfl, hbad⟩
          refine .inl ⟨?_, rfl⟩
          rw [hbad]
          rfl

/-- A form that exists becomes a band of another one just if it is not `Refused`. -/
theorem attach_form_ok (howner : owner < a.forms.length) (hform : form < a.forms.length) :
    (∃ made, (attach owner band (.form form) a).1 = .ok made) ↔ band ≠ .detail ∧ ¬ Refused owner form a := by
  by_cases hband : band = .detail
  · subst hband
    exact iff_of_false (fun ⟨made, hmade⟩ => (by cases hmade)) fun h => h.1 rfl
  · have hends : Ends (attach owner band (.form form)) a (fun _ _ => ¬ Refused owner form a)
        fun _ _ => Refused owner form a := by
      rw [attach_eq, ends_ite, if_neg hband]
      refine (join_ends howner hform).mono ?_ fun _ _ he => he.2
      rintro made c ⟨rfl, hjoined⟩ (heq | hbelow | ⟨other, hother, hne⟩)
      · exact hjoined.apart heq
      · exact hjoined.notBelow hbelow
      · exact hne (hjoined.free other hother)
    obtain ⟨hok, herror⟩ := ends_iff.mp hends
    refine ⟨fun ⟨made, hmade⟩ => ⟨hband, hok made hmade⟩, fun h => ?_⟩
    cases hresult : (attach owner band (.form form) a).1 with
    | ok made => exact ⟨made, rfl⟩
    | error fault => exact absurd (herror fault hresult) h.2

/-- A form has the owner, the bands and the context that it had. -/
structure Untouched (a b : Assembly) (f : FormId) : Prop where
  ownerOf : b.ownerOf f = a.ownerOf f
  bandsOf : b.bandsOf f = a.bandsOf f
  contextOf : b.contextOf f = a.contextOf f

/-- What is `Refused` depends on owners and bands alone. -/
theorem Untouched.refused_iff (h : ∀ f < a.forms.length, Untouched a b f) (ha : a.Forest) (hb : b.Forest)
    (hf : f < a.forms.length) : Refused owner f b ↔ Refused owner f a := by
  have hparts : ∀ p < a.forms.length, b.parts p = a.parts p := fun p hp => by
    rw [parts, parts, (h p hp).bandsOf]
  have habove : b.Above f owner ↔ a.Above f owner := by
    constructor
    · intro hbelow
      refine (hbelow.of_parts (n := a.forms.length) (fun p hp g hg => ?_) hf).1
      rw [hparts p hp] at hg
      exact ⟨hg, ha.exist p g hg⟩
    · intro hbelow
      refine (hbelow.of_parts (n := a.forms.length) (fun p hp g hg => ⟨?_, ha.exist p g hg⟩) hf).1
      rw [hparts p hp]
      exact hg
  unfold Refused
  rw [hb.mem_below, ha.mem_below, habove, (h f hf).ownerOf]

/-- After any calls, when a mapping of bands fails: if it took no form before, all forms have the owner, the
bands and the context that they had, and can be attached to each other as before.  A form that it took had no
owner; it belongs to the new form, which is lost, and can be attached to no other. -/
theorem ofBands_failed (calls : List Call) (hcalls : Throughout (fun a call => call.Refers a) calls empty)
    (values : Entries Text BandValue) (context : Option ContextRef)
    (hvalues : ∀ entry ∈ values, (after calls empty).Holds entry.2) (fault : Fault) (b : Assembly)
    (hfault : ofBands values context (after calls empty) = (.error fault, b)) :
    let a := after calls empty
    (a.taken values = [] → (∀ f < a.forms.length, Untouched a b f) ∧
      ∀ f < a.forms.length, ∀ owner < a.forms.length, ∀ band,
        ((∃ made, (attach owner band (.form f) b).1 = .ok made) ↔
          ∃ made, (attach owner band (.form f) a).1 = .ok made)) ∧
    ∀ f ∈ a.taken values, (∃ entry ∈ values, entry.2 = .form f) ∧ a.ownerOf f = none ∧
      b.ownerOf f = some a.forms.length ∧
      ∀ owner < b.forms.length, owner ≠ a.forms.length →
        ∀ band, ¬ ∃ made, (attach owner band (.form f) b).1 = .ok made := by
  intro a
  have ha : a.Standing := after_standing hcalls
  have hforest : b.Forest := (forest_steps.ofBands context hvalues ha.toForest).of_error hfault
  have hclaims := (ofBands_claims context ha hvalues).of_error hfault
  refine ⟨fun hnone => ?_, fun f hf => ?_⟩
  · have hsame : ∀ f < a.forms.length, Untouched a b f := by
      intro f hf
      rcases hclaims with ⟨-, rfl⟩ | hclaims
      · exact ⟨rfl, rfl, rfl⟩
      · refine ⟨?_, hclaims.bandsOf f hf, hclaims.contextOf hnone f hf⟩
        rw [hclaims.ownerOf f hf, hnone, if_neg List.not_mem_nil]
    have hlength : a.forms.length ≤ b.forms.length := by
      rcases hclaims with ⟨-, rfl⟩ | hclaims
      · exact Nat.le_refl _
      · exact hclaims.length_le
    refine ⟨hsame, fun f hf owner howner band => ?_⟩
    rw [attach_form_ok (Nat.lt_of_lt_of_le howner hlength) (Nat.lt_of_lt_of_le hf hlength),
      attach_form_ok howner hf, Untouched.refused_iff hsame ha.toForest hforest hf]
  · obtain ⟨hfree, entry, hentry, hform⟩ := mem_takenOf hf
    obtain ⟨-, hgiven, -⟩ := attachments_spec values
      (P := fun value => ∃ entry ∈ values, entry.2 = value) fun entry he => ⟨entry, he, rfl⟩
    obtain ⟨given, hmem, heq⟩ := hgiven entry hentry
    have hexists : f < a.forms.length := by
      have hholds := hvalues given hmem
      rw [heq, hform] at hholds
      exact hholds
    -- the form belongs to the new one, so it is refused wherever it is to be attached
    have howner : b.ownerOf f = some a.forms.length := by
      rcases hclaims with ⟨hnone, -⟩ | hclaims
      · rw [hnone] at hf
        cases hf
      · rw [hclaims.ownerOf f hexists, if_pos hf]
    refine ⟨⟨given, hmem, heq.trans hform⟩, hfree, howner, fun owner howner' hne band hmade => ?_⟩
    have hlength : f < b.forms.length := by
      rcases hclaims with ⟨-, rfl⟩ | hclaims
      · exact hexists
      · exact Nat.lt_of_lt_of_le hexists hclaims.length_le
    exact ((attach_form_ok howner' hlength).mp hmade).2 (.inr (.inr ⟨_, howner, hne.symm⟩))

/-- Two forms are there.  In a mapping a picture that cannot be read stands before the second form and after
the first one, or before both. -/
def prepared : List Call := [.create (.text "a".toList) none, .create (.text "b".toList) none]

def faultBehindForm : Entries Text BandValue :=
  [("detail".toList, .spec (.text "x".toList)), ("top".toList, .form 0),
    ("Page-Footer".toList, .spec (.text "@".toList)), ("summary".toList, .form 1)]

def faultBeforeForms : Entries Text BandValue :=
  [("detail".toList, .spec (.text "x".toList)), ("bottom".toList, .spec (.text "@".toList)),
    ("top".toList, .form 0), ("summary".toList, .form 1)]

/-- The first form is taken and stays with the form that was not made, the second one is free. -/
theorem ofBands_failed_faults :
    let a := after prepared empty
    let b := (ofBands faultBehindForm none a).2
    Throughout (fun a call => call.Refers a) prepared empty ∧ (∀ entry ∈ faultBehindForm, a.Holds entry.2) ∧
    (ofBands faultBehindForm none a).1 = .error (.malformedField ['@'] (some ['@'])) ∧
    a.taken faultBehindForm = [0] ∧
    (a.ownerOf 0 = none ∧ b.ownerOf 0 = some 2 ∧
      ¬ ∃ made, (attach 1 .top (.form 0) b).1 = .ok made) ∧
    a.taken faultBeforeForms = [] ∧
    (ofBands faultBeforeForms none a).1 = .error (.malformedField ['@'] (some ['@'])) ∧
    ∀ f < 2, Untouched a (ofBands faultBeforeForms none a).2 f := by
  intro a b
  have hcalls : Throughout (fun a call => call.Refers a) prepared empty := by decide +kernel
  have hbehind : ∀ entry ∈ faultBehindForm, a.Holds entry.2 := by decide +kernel
  have hbefore : ∀ entry ∈ faultBeforeForms, a.Holds entry.2 := by decide +kernel
  have hfault : (ofBands faultBehindForm none a).1 = .error (.malformedField ['@'] (some ['@'])) := by
    decide +kernel
  have hfault' : (ofBands faultBeforeForms none a).1 = .error (.malformedField ['@'] (some ['@'])) := by
    decide +kernel
  have htaken : a.taken faultBehindForm = [0] := by decide +kernel
  have htaken' : a.taken faultBeforeForms = [] := by decide +kernel
  have htook := (ofBands_failed prepared hcalls faultBehindForm none hbehind _ b (Prod.ext hfault rfl)).2 0
    (by rw [htaken]; exact List.mem_cons_self)
  have hkept := (ofBands_failed prepared hcalls faultBeforeForms none hbefore _ _
    (Prod.ext hfault' rfl)).1 htaken'
  refine ⟨hcalls, hbehind, hfault, htaken, ⟨htook.2.1, htook.2.2.1, ?_⟩, htaken', hfault', hkept.1⟩
  exact htook.2.2.2 1 (by decide +kernel) (by decide +kernel) .top

/-- After the call that failed the first form has the owner and the context of a form that was not made, so
that it cannot be the top of the second one, as it could before. -/
theorem form_lost_to_failed_mapping :
    let a := after prepared empty
    let b := after (prepared ++ [.ofBands faultBehindForm none]) empty
    (ofBands faultBehindForm none a).1 = .error (.malformedField ['@'] (some ['@'])) ∧
    b.ownerOf 0 ≠ a.ownerOf 0 ∧ b.contextOf 0 ≠ a.contextOf 0 ∧
    (attach 1 .top (.form 0) a).1 = .ok 0 ∧ (attach 1 .top (.form 0) b).1 = .error (.takenBand .top) := by
  decide +kernel

end Assembly

end PictureReport
