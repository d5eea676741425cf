import Mathlib.Logic.Basic

/-!
# Computations that may raise

How a successful `Except` computation comes apart: into the success of its first part and of
its continuation (`bind_eq_ok`), and, for a fold, into a relation that every step keeps
(`foldlM_rel`). Proofs about the code peel its `do` blocks with these and never unfold a bind.
What a computation may raise is `Raises`, by the same peeling.
-/

namespace Vibapp

universe u v

variable {ε : Type u} {α β : Type v}

@[simp] theorem ok_bind (a : α) (f : α → Except ε β) : (Except.ok a >>= f) = f a := rfl

@[simp] theorem error_bind (e : ε) (f : α → Except ε β) :
    ((Except.error e : Except ε α) >>= f) = .error e := rfl

theorem pure_eq_ok {a b : α} : (pure a : Except ε α) = .ok b ↔ a = b := by
  simp [pure, Except.pure]

/-- A sequence succeeds when both its parts do. -/
theorem bind_eq_ok {x : Except ε α} {f : α → Except ε β} {b : β} :
    (x >>= f) = .ok b ↔ ∃ a, x = .ok a ∧ f a = .ok b := by
  cases x with
  | error e => simp
  | ok a => simp

theorem map_eq_ok {x : Except ε α} {f : α → β} {b : β} :
    (f <$> x) = .ok b ↔ ∃ a, x = .ok a ∧ f a = b := by
  cases x with
  | error e => simp [Functor.map, Except.map]
  | ok a => simp [Functor.map, Except.map]

/-- A check in front of the rest. -/
theorem ite_error_eq_ok {c : Prop} [Decidable c] {e : ε} {x : Except ε α} {a : α} :
    (if c then .error e else x) = .ok a ↔ ¬ c ∧ x = .ok a := by
  by_cases h : c
  · simp [h]
  · simp [h]

/-- A fold keeps what every step keeps. -/
theorem foldlM_rel {γ : Type v} {step : α → γ → Except ε α} {R : α → α → Prop}
    (hrefl : ∀ a, R a a) (htrans : ∀ {a b c}, R a b → R b c → R a c)
    (hstep : ∀ {a x b}, step a x = .ok b → R a b) :
    ∀ {xs : List γ} {a b : α}, xs.foldlM step a = .ok b → R a b
  | [], a, b, h => by
    cases pure_eq_ok.1 h
    exact hrefl a
  | x :: xs, a, b, h => by
    rw [List.foldlM_cons] at h
    obtain ⟨m, hm, hrest⟩ := bind_eq_ok.1 h
    exact htrans (hstep hm) (foldlM_rel hrefl htrans hstep hrest)

/-- A fold whose steps are steps of another fold, seen through `π` and `ρ`. -/
theorem foldlM_map_of_step {α' γ γ' : Type v} {ε' : Type u} {step : α → γ → Except ε α}
    {step' : α' → γ' → Except ε' α'} (π : α → α') (ρ : γ → γ')
    (hstep : ∀ {a x b}, step a x = .ok b → step' (π a) (ρ x) = .ok (π b)) :
    ∀ {xs : List γ} {a b : α}, xs.foldlM step a = .ok b →
      (xs.map ρ).foldlM step' (π a) = .ok (π b)
  | [], a, b, h => by
    cases pure_eq_ok.1 h
    rfl
  | x :: xs, a, b, h => by
    rw [List.foldlM_cons] at h
    obtain ⟨m, hm, hrest⟩ := bind_eq_ok.1 h
    rw [List.map_cons, List.foldlM_cons, hstep hm, ok_bind]
    exact foldlM_map_of_step π ρ hstep hrest

/-- A loop succeeds when its body does for every item. -/
theorem forM_eq_ok {γ : Type v} {f : γ → Except ε PUnit} {xs : List γ} :
    xs.forM f = .ok PUnit.unit ↔ ∀ x ∈ xs, f x = .ok PUnit.unit := by
  induction xs with
  | nil => exact ⟨fun _ x hx => absurd hx List.not_mem_nil, fun _ => rfl⟩
  | cons x xs ih =>
    change (f x >>= fun _ => xs.forM f) = _ ↔ _
    rw [bind_eq_ok, List.forall_mem_cons, ← ih]
    exact ⟨fun ⟨_, hx, hxs⟩ => ⟨hx, hxs⟩, fun ⟨hx, hxs⟩ => ⟨_, hx, hxs⟩⟩

/-! ## What is raised -/

/-- Whatever the computation raises satisfies `P`. -/
def Raises (P : ε → Prop) (x : Except ε α) : Prop := ∀ e, x = .error e → P e

variable {P : ε → Prop}

theorem raises_ok (a : α) : Raises P (.ok a : Except ε α) := fun _ h => by cases h

theorem raises_pure (a : α) : Raises P (pure a : Except ε α) := raises_ok a

theorem raises_error {e : ε} (h : P e) : Raises P (.error e : Except ε α) := fun _ he => by
  cases he
  exact h

/-- A sequence raises what its parts raise. -/
theorem Raises.bind {x : Except ε α} {f : α → Except ε β} (hx : Raises P x)
    (hf : ∀ a, x = .ok a → Raises P (f a)) : Raises P (x >>= f) := by
  cases x with
  | error e => exact raises_error (hx e rfl)
  | ok a => exact hf a rfl

theorem Raises.map {x : Except ε α} {f : α → β} (hx : Raises P x) : Raises P (f <$> x) := by
  cases x with
  | error e => exact raises_error (hx e rfl)
  | ok a => exact raises_ok _

/-- A fold raises what its steps raise. -/
theorem raises_foldlM {γ : Type v} {step : α → γ → Except ε α} (h : ∀ a x, Raises P (step a x)) :
    ∀ (xs : List γ) (a : α), Raises P (xs.foldlM step a)
  | [], a => raises_ok a
  | x :: xs, a => by
    rw [List.foldlM_cons]
    exact (h a x).bind fun m _ => raises_foldlM h xs m

/-- A computation that succeeds has a result. -/
theorem exists_eq_ok {x : Except ε α} (h : x.isOk = true) : ∃ a, x = .ok a := by
  cases x with
  | error e => cases h
  | ok a => exact ⟨a, rfl⟩

/-- A check that passes before another. -/
theorem isOk_bind {x : Except ε PUnit} {f : PUnit → Except ε α} (hx : x.isOk = true)
    (hf : (f ⟨⟩).isOk = true) : (x >>= f).isOk = true := by
  cases x with
  | error e => cases hx
  | ok u => exact hf

/-- A check of the result shows that there is one. -/
theorem exists_of_toOption_any {x : Except ε α} {p : α → Bool} (h : x.toOption.any p = true) :
    ∃ a, x = .ok a ∧ p a = true := by
  cases x with
  | error e => cases h
  | ok a => exact ⟨a, rfl, h⟩

/-! ## Two computations -/

/-- What the first computation returns, the second returns too, up to `R`. -/
def Carries {α' : Type v} (R : α → α' → Prop) (x : Except ε α) (y : Except ε α') : Prop :=
  ∀ a, x = .ok a → ∃ b, y = .ok b ∧ R a b

namespace Carries

variable {α' β' : Type v} {R : α → α' → Prop} {S : β → β' → Prop} {x : Except ε α}
  {y : Except ε α'}

theorem refl (x : Except ε α) : Carries Eq x x := fun a ha => ⟨a, ha, rfl⟩

theorem pure {a : α} {b : α'} (h : R a b) :
    Carries R (Pure.pure a : Except ε α) (Pure.pure b : Except ε α') := by
  intro a' ha
  cases pure_eq_ok.1 ha
  exact ⟨b, rfl, h⟩

theorem bind {f : α → Except ε β} {g : α' → Except ε β'} (h : Carries R x y)
    (hf : ∀ a b, R a b → Carries S (f a) (g b)) : Carries S (x >>= f) (y >>= g) := by
  intro c hc
  obtain ⟨a, ha, hfa⟩ := bind_eq_ok.1 hc
  obtain ⟨b, hb, hab⟩ := h a ha
  obtain ⟨d, hd, hcd⟩ := hf a b hab c hfa
  exact ⟨d, bind_eq_ok.2 ⟨b, hb, hd⟩, hcd⟩

/-- The same value goes on. -/
theorem bind_eq {y : Except ε α} {f : α → Except ε β} {g : α → Except ε β'} (h : Carries Eq x y)
    (hf : ∀ a, Carries S (f a) (g a)) : Carries S (x >>= f) (y >>= g) :=
  h.bind fun a _ hab => hab ▸ hf a

end Carries

end Vibapp
