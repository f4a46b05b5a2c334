/-!
# How computations end

A computation that works on a state and may fail ends with a result or with a fault, and it leaves a
state in either case.  `Ends x s Q E` says what holds then: `Q` of the result and the state, or `E`
of the fault and the state.  The rules take a computation apart, one for each form that it can have.

`Follows R G x y s t` compares two computations: `x` ends as `y` does and leaves related states, but
it may also fail on its own.

`Mirrors R x y s t` says that neither does: both end with the same result or the same fault, and the states
they leave are related.

`Rounds again x n s r` says that a loop that repeats `x` ends after `n` rounds.
-/

namespace PictureReport

variable {σ τ ε α β : Type}

/-- A computation `x >>= f` without a state has the result `b` just if `x` has a result of which `f` makes
`b`. -/
theorem bind_eq_ok {x : Except ε α} {f : α → Except ε β} {b : β} :
    x >>= f = .ok b ↔ ∃ a, x = .ok a ∧ f a = .ok b := by
  cases x with
  | error e => exact ⟨fun h => (by cases h), fun ⟨a, ha, _⟩ => (by cases ha)⟩
  | ok a => exact ⟨fun h => ⟨a, rfl, h⟩, fun ⟨_, ha, h⟩ => (by cases ha; exact h)⟩

/-- A computation `x >>= f` without a state fails just if `x` does, or `f` on the result of `x`. -/
theorem bind_eq_error {x : Except ε α} {f : α → Except ε β} {e : ε} :
    x >>= f = .error e ↔ x = .error e ∨ ∃ a, x = .ok a ∧ f a = .error e := by
  cases x with
  | error e' =>
    refine ⟨fun h => (by cases h; exact .inl rfl), ?_⟩
    rintro (h | ⟨a, ha, -⟩)
    · cases h
      rfl
    · cases ha
  | ok a =>
    refine ⟨fun h => .inr ⟨a, rfl, h⟩, ?_⟩
    rintro (h | ⟨b, hb, h⟩)
    · cases h
    · cases hb
      exact h

theorem mapError_eq_ok {x : Except ε α} {f : ε → σ} {a : α} : x.mapError f = .ok a ↔ x = .ok a := by
  cases x with
  | error e => exact ⟨fun h => (by cases h), fun h => (by cases h)⟩
  | ok b => exact ⟨fun h => (by cases h; rfl), fun h => (by cases h; rfl)⟩

theorem mapError_eq_error {x : Except ε α} {f : ε → σ} {e : σ} :
    x.mapError f = .error e ↔ ∃ d, x = .error d ∧ e = f d := by
  cases x with
  | error d =>
    constructor
    · exact fun h => ⟨d, rfl, (Except.error.inj h).symm⟩
    · rintro ⟨_, hd, rfl⟩
      cases hd
      rfl
  | ok a => exact ⟨fun h => (by cases h), fun ⟨_, hd, _⟩ => (by cases hd)⟩

/-- `Ends x s Q E`: run from `s`, `x` ends with a result in `Q` or with a fault in `E`. -/
def Ends (x : ExceptT ε (StateM σ) α) (s : σ) (Q : α → σ → Prop) (E : ε → σ → Prop) : Prop :=
  match x s with
  | (.ok a, t) => Q a t
  | (.error e, t) => E e t

section Rules

variable {Q : α → σ → Prop} {E : ε → σ → Prop} {s : σ}

theorem Ends.mono {x : ExceptT ε (StateM σ) α} {Q' : α → σ → Prop} {E' : ε → σ → Prop}
    (h : Ends x s Q E) (hQ : ∀ a t, Q a t → Q' a t) (hE : ∀ e t, E e t → E' e t) :
    Ends x s Q' E' := by
  unfold Ends at *
  split at h
  · exact hQ _ _ h
  · exact hE _ _ h

theorem ends_of_forall {x : ExceptT ε (StateM σ) α} (hQ : ∀ a t, Q a t) (hE : ∀ e t, E e t) :
    Ends x s Q E := by
  unfold Ends
  split
  · exact hQ _ _
  · exact hE _ _

/-- `Ends` holds of a run with what `x s` is as result, fault and state. -/
theorem ends_self (x : ExceptT ε (StateM σ) α) (s : σ) :
    Ends x s (fun a t => x s = (.ok a, t)) fun e t => x s = (.error e, t) := by
  unfold Ends
  split <;> assumption

/-- Two statements `Ends` about the same run hold together. -/
theorem Ends.and {x : ExceptT ε (StateM σ) α} {Q' : α → σ → Prop} {E' : ε → σ → Prop}
    (h : Ends x s Q E) (h' : Ends x s Q' E') :
    Ends x s (fun a t => Q a t ∧ Q' a t) (fun e t => E e t ∧ E' e t) := by
  unfold Ends at *
  split at h <;> rename_i hx <;> rw [hx] at h' <;> exact ⟨h, h'⟩

/-- What a second statement says of results is added to `Q`; the faults stay in `E`. -/
theorem Ends.and_ok {x : ExceptT ε (StateM σ) α} {Q' : α → σ → Prop} (h : Ends x s Q E)
    (h' : Ends x s Q' fun _ _ => True) : Ends x s (fun a t => Q a t ∧ Q' a t) E :=
  (h.and h').mono (fun _ _ hq => hq) fun _ _ he => he.1

theorem ends_of_eq_ok {x : ExceptT ε (StateM σ) α} {a : α} {t : σ} (h : x s = (.ok a, t)) :
    Ends x s Q E ↔ Q a t := by
  unfold Ends; rw [h]

theorem ends_of_eq_error {x : ExceptT ε (StateM σ) α} {e : ε} {t : σ} (h : x s = (.error e, t)) :
    Ends x s Q E ↔ E e t := by
  unfold Ends; rw [h]

theorem Ends.of_ok {x : ExceptT ε (StateM σ) α} {a : α} {t : σ} (h : Ends x s Q E)
    (hx : x s = (.ok a, t)) : Q a t := (ends_of_eq_ok hx).mp h

theorem Ends.of_error {x : ExceptT ε (StateM σ) α} {e : ε} {t : σ} (h : Ends x s Q E)
    (hx : x s = (.error e, t)) : E e t := (ends_of_eq_error hx).mp h

/-- With the same `P` for results and faults, `Ends` speaks of the state `(x s).2` alone. -/
theorem ends_state {x : ExceptT ε (StateM σ) α} {P : σ → Prop} :
    Ends x s (fun _ t => P t) (fun _ t => P t) ↔ P (x s).2 := by
  unfold Ends
  rcases x s with ⟨e | a, t⟩ <;> rfl

theorem ends_iff {x : ExceptT ε (StateM σ) α} : Ends x s Q E ↔
    (∀ a, (x s).1 = .ok a → Q a (x s).2) ∧ ∀ e, (x s).1 = .error e → E e (x s).2 := by
  unfold Ends
  rcases x s with ⟨e | a, t⟩ <;> simp

/-- A computation whose faults are in `fun _ _ => False` has a result. -/
theorem Ends.exists_ok {x : ExceptT ε (StateM σ) α} (h : Ends x s Q fun _ _ => False) :
    ∃ a, (x s).1 = .ok a ∧ Q a (x s).2 := by
  unfold Ends at h
  split at h
  · rename_i a t hx
    rw [hx]
    exact ⟨a, rfl, h⟩
  · exact h.elim

theorem bind_apply (x : ExceptT ε (StateM σ) α) (f : α → ExceptT ε (StateM σ) β) (s : σ) :
    (x >>= f) s = match x s with
      | (.ok a, t) => f a t
      | (.error e, t) => (.error e, t) := by
  simp only [bind, ExceptT.bind, ExceptT.mk, StateT.bind]
  rcases x s with ⟨e | a, t⟩ <;> rfl

theorem ends_bind {x : ExceptT ε (StateM σ) α} {f : α → ExceptT ε (StateM σ) β}
    {Q : β → σ → Prop} :
    Ends (x >>= f) s Q E ↔ Ends x s (fun a t => Ends (f a) t Q E) E := by
  unfold Ends
  rw [bind_apply]
  rcases x s with ⟨e | a, t⟩ <;> rfl

@[simp] theorem ends_pure {a : α} : Ends (pure a) s Q E ↔ Q a s := Iff.rfl

@[simp] theorem ends_throw {e : ε} : Ends (throw e : ExceptT ε (StateM σ) α) s Q E ↔ E e s := Iff.rfl

@[simp] theorem ends_get {Q : σ → σ → Prop} :
    Ends (get : ExceptT ε (StateM σ) σ) s Q E ↔ Q s s := Iff.rfl

@[simp] theorem ends_set {t : σ} {Q : PUnit → σ → Prop} :
    Ends (set t : ExceptT ε (StateM σ) PUnit) s Q E ↔ Q () t := Iff.rfl

@[simp] theorem ends_modify {f : σ → σ} {Q : Unit → σ → Prop} :
    Ends (modify f : ExceptT ε (StateM σ) Unit) s Q E ↔ Q () (f s) := Iff.rfl

theorem ends_ite {c : Prop} [Decidable c] {x y : ExceptT ε (StateM σ) α} :
    Ends (if c then x else y) s Q E ↔ if c then Ends x s Q E else Ends y s Q E := by
  split <;> rfl

end Rules

/-- `Follows R G x y s t`: run from `s`, `x` gives the result that `y` gives from `t`, and the states are then
in `R`; or it fails as `G` says, or with the fault of `y`. -/
def Follows (R : σ → τ → Prop) (G : ε → σ → Prop) (x : ExceptT ε (StateM σ) α)
    (y : ExceptT ε (StateM τ) α) (s : σ) (t : τ) : Prop :=
  Ends x s (fun a s' => ∃ t', y t = (.ok a, t') ∧ R s' t') fun e s' => G e s' ∨ ∃ t', y t = (.error e, t')

section Follows

variable {R S : σ → τ → Prop} {G : ε → σ → Prop} {s : σ} {t : τ}
variable {x : ExceptT ε (StateM σ) α} {y : ExceptT ε (StateM τ) α}

/-- Where `x` does not fail on its own, any `G` serves. -/
theorem Follows.weaken (h : Follows R (fun _ _ => False) x y s t) : Follows R G x y s t :=
  Ends.mono h (fun _ _ hr => hr) fun _ _ he => .inr (he.resolve_left id)

/-- What holds of the state that `x` leaves, whatever `y` does, is added to `R`. -/
theorem Follows.and_left (h : Follows R G x y s t) {P : σ → Prop}
    (hP : Ends x s (fun _ s' => P s') fun _ _ => True) :
    Follows (fun s t => R s t ∧ P s) G x y s t :=
  (Ends.and_ok h hP).mono (fun _ _ ⟨⟨t', hy, hr⟩, hp⟩ => ⟨t', hy, hr, hp⟩) fun _ _ he => he

theorem Follows.bind {f : α → ExceptT ε (StateM σ) β} {g : α → ExceptT ε (StateM τ) β}
    (h : Follows R G x y s t) (hf : ∀ a s t, R s t → Follows S G (f a) (g a) s t) :
    Follows S G (x >>= f) (y >>= g) s t := by
  unfold Follows
  rw [ends_bind]
  refine Ends.mono h ?_ ?_
  · rintro a s' ⟨t', hy, hr⟩
    have hbind : (y >>= g) t = g a t' := by rw [bind_apply, hy]
    rw [hbind]
    exact hf a s' t' hr
  · rintro e s' (he | ⟨t', hy⟩)
    · exact .inl he
    · exact .inr ⟨t', by rw [bind_apply, hy]⟩

/-- Each side of `Follows` looks at its own state with `get`. -/
theorem follows_get {f : σ → ExceptT ε (StateM σ) β} {g : τ → ExceptT ε (StateM τ) β}
    (h : Follows R G (f s) (g t) s t) : Follows R G (get >>= f) (get >>= g) s t := by
  unfold Follows
  rw [ends_bind, ends_get]
  exact h

theorem follows_pure (a : α) (h : R s t) :
    Follows R G (pure a : ExceptT ε (StateM σ) α) (pure a : ExceptT ε (StateM τ) α) s t :=
  ⟨t, rfl, h⟩

theorem follows_throw (e : ε) :
    Follows R G (throw e : ExceptT ε (StateM σ) α) (throw e : ExceptT ε (StateM τ) α) s t :=
  .inr ⟨t, rfl⟩

theorem follows_modify {f : σ → σ} {g : τ → τ} (h : R (f s) (g t)) :
    Follows R G (modify f : ExceptT ε (StateM σ) Unit) (modify g : ExceptT ε (StateM τ) Unit) s t :=
  ⟨g t, rfl, h⟩

/-- The computation `x` may do more than `y` does: a step `z` follows `pure ()`. -/
theorem follows_of_ends {z : ExceptT ε (StateM σ) Unit} (h : Ends z s (fun _ s => R s t) G) :
    Follows R G z (pure () : ExceptT ε (StateM τ) Unit) s t :=
  h.mono (fun _ _ hr => ⟨t, rfl, hr⟩) fun _ _ he => .inl he

end Follows

/-- `Mirrors R x y s t`: run from `s` and `t`, `x` and `y` end with the same result or the same fault, and
leave states in `R`. -/
def Mirrors (R : σ → τ → Prop) (x : ExceptT ε (StateM σ) α) (y : ExceptT ε (StateM τ) α) (s : σ) (t : τ) :
    Prop :=
  (x s).1 = (y t).1 ∧ R (x s).2 (y t).2

section Mirrors

variable {R : σ → τ → Prop} {s : σ} {t : τ}

theorem Mirrors.bind {x : ExceptT ε (StateM σ) α} {y : ExceptT ε (StateM τ) α}
    {f : α → ExceptT ε (StateM σ) β} {g : α → ExceptT ε (StateM τ) β} (h : Mirrors R x y s t)
    (hf : ∀ a s t, R s t → Mirrors R (f a) (g a) s t) : Mirrors R (x >>= f) (y >>= g) s t := by
  obtain ⟨hsame, hleft⟩ := h
  unfold Mirrors
  rw [bind_apply, bind_apply]
  rcases hx : x s with ⟨outcome, s'⟩
  rcases hy : y t with ⟨outcome', t'⟩
  rw [hx, hy] at hsame hleft
  obtain rfl : outcome = outcome' := hsame
  cases outcome with
  | error e => exact ⟨rfl, hleft⟩
  | ok a => exact hf a s' t' hleft

theorem mirrors_get {f : σ → ExceptT ε (StateM σ) β} {g : τ → ExceptT ε (StateM τ) β}
    (h : Mirrors R (f s) (g t) s t) : Mirrors R (get >>= f) (get >>= g) s t := h

theorem mirrors_pure (a : α) (h : R s t) :
    Mirrors R (pure a : ExceptT ε (StateM σ) α) (pure a : ExceptT ε (StateM τ) α) s t := ⟨rfl, h⟩

theorem mirrors_modify {f : σ → σ} {g : τ → τ} (h : R (f s) (g t)) :
    Mirrors R (modify f : ExceptT ε (StateM σ) Unit) (modify g : ExceptT ε (StateM τ) Unit) s t := ⟨rfl, h⟩

end Mirrors

/-- `Rounds again x n s r`: the loop that does `x` again as long as `again` says so of its results ends after
`n` rounds, from the state `s` with the outcome `r`.  Nothing bounds `n`. -/
inductive Rounds (again : α → Bool) (x : ExceptT ε (StateM σ) α) :
    Nat → σ → Except ε Unit × σ → Prop
  | failed {s t : σ} {e : ε} : x s = (.error e, t) → Rounds again x 1 s (.error e, t)
  | ended {s t : σ} {a : α} : x s = (.ok a, t) → again a = false → Rounds again x 1 s (.ok (), t)
  | next {s t : σ} {a : α} {n : Nat} {r : Except ε Unit × σ} :
    x s = (.ok a, t) → again a = true → Rounds again x n t r → Rounds again x (n + 1) s r

end PictureReport
