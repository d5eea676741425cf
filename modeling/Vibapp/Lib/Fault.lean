import Mathlib.Logic.Basic

/-!
# Programs that may be cut off

Imperative programs over a state that read an environment and end in one of three ways: they
return, they raise, or the process stops and the state stays as it is at that point. The
environment decides what a step outside the program does, so a statement about every environment
is one about every fault and every crash.

* `wp`: what a run leaves behind, with one postcondition for each way to end, and the rule for
  each construct,
* `Within`: a run only changes the state along a relation, wherever it ends.
-/

namespace Vibapp

/-- How a run ends. -/
inductive Ends (ε α : Type)
  | done (a : α)
  | raised (e : ε)
  | cut
deriving DecidableEq, Repr

/-- A program over the environment `ρ`, the state `σ` and the exceptions `ε`. -/
def Prog (ρ σ ε α : Type) : Type := ρ → σ → Ends ε α × σ

namespace Prog

variable {ρ σ ε α β : Type}

instance : Monad (Prog ρ σ ε) where
  pure a := fun _ s => (.done a, s)
  bind m f := fun r s =>
    match m r s with
    | (.done a, t) => f a r t
    | (.raised e, t) => (.raised e, t)
    | (.cut, t) => (.cut, t)

instance : LawfulMonad (Prog ρ σ ε) := by
  refine LawfulMonad.mk' _ ?_ (fun a f => rfl) ?_
  · intro α m
    funext r s
    simp only [Functor.map]
    rcases m r s with ⟨a | e | _, t⟩ <;> rfl
  · intro α β γ m f g
    funext r s
    simp only [bind]
    rcases m r s with ⟨a | e | _, t⟩ <;> rfl

/-- Raise an exception. -/
def raise (e : ε) : Prog ρ σ ε α := fun _ s => (.raised e, s)

/-- The process stops. -/
def stop : Prog ρ σ ε α := fun _ s => (.cut, s)

/-- A value of the environment and of the state. -/
def read (f : ρ → σ → α) : Prog ρ σ ε α := fun r s => (.done (f r s), s)

/-- Change the state. -/
def modify (f : σ → σ) : Prog ρ σ ε Unit := fun _ s => (.done (), f s)

/-- Run `m`; an exception goes to the handler. No handler sees that the process stopped. -/
def handle (m : Prog ρ σ ε α) (h : ε → Prog ρ σ ε α) : Prog ρ σ ε α := fun r s =>
  match m r s with
  | (.done a, t) => (.done a, t)
  | (.raised e, t) => h e r t
  | (.cut, t) => (.cut, t)

/-- Run `m` and then `f`, whether `m` returns or raises; an exception of `f` is the one that is
seen. -/
def ensure (m : Prog ρ σ ε α) (f : Prog ρ σ ε Unit) : Prog ρ σ ε α := do
  let a ← m.handle fun e => f >>= fun _ => raise e
  f
  pure a

/-- One run for each item, in order. -/
def each (f : α → Prog ρ σ ε Unit) : List α → Prog ρ σ ε Unit
  | [] => pure ()
  | a :: rest => do
    f a
    each f rest

/-- What comes after a run that returns. -/
theorem bind_of_done {m : Prog ρ σ ε β} {f : β → Prog ρ σ ε α} {b : β} {r : ρ} {s t : σ}
    (h : m r s = (.done b, t)) : (m >>= f) r s = f b r t := by
  simp only [Bind.bind, h]

/-- A run whose value is passed on returns what it returns. -/
theorem map_eq_done {m : Prog ρ σ ε β} {f : β → α} {a : α} {r : ρ} {s t : σ}
    (h : (m >>= fun b => pure (f b)) r s = (.done a, t)) : ∃ b, m r s = (.done b, t) ∧ f b = a := by
  simp only [Bind.bind] at h
  rcases hm : m r s with ⟨b | e | _, u⟩ <;> rw [hm] at h <;> cases h
  exact ⟨b, rfl, rfl⟩

/-! ## What a run leaves behind -/

/-- The postcondition of the way a run of `m` ends: `Q` where it returns, `E` where it raises, `C`
where it is cut off. -/
def wp (m : Prog ρ σ ε α) (Q : α → σ → Prop) (E : ε → σ → Prop) (C : σ → Prop) (r : ρ) (s : σ) :
    Prop :=
  match m r s with
  | (.done a, t) => Q a t
  | (.raised e, t) => E e t
  | (.cut, t) => C t

section

variable {Q Q' : α → σ → Prop} {E E' : ε → σ → Prop} {C C' : σ → Prop} {r : ρ} {s : σ}

@[simp] theorem wp_pure {a : α} : wp (pure a) Q E C r s ↔ Q a s := Iff.rfl

@[simp] theorem wp_raise {e : ε} : wp (raise e) Q E C r s ↔ E e s := Iff.rfl

@[simp] theorem wp_stop : wp stop Q E C r s ↔ C s := Iff.rfl

@[simp] theorem wp_read {f : ρ → σ → α} : wp (read f) Q E C r s ↔ Q (f r s) s := Iff.rfl

@[simp] theorem wp_modify {Q : Unit → σ → Prop} {f : σ → σ} :
    wp (modify f) Q E C r s ↔ Q () (f s) := Iff.rfl

theorem wp_bind {m : Prog ρ σ ε β} {f : β → Prog ρ σ ε α} :
    wp (m >>= f) Q E C r s ↔ wp m (fun b t => wp (f b) Q E C r t) E C r s := by
  unfold wp
  simp only [Bind.bind]
  rcases m r s with ⟨b | e | _, t⟩ <;> rfl

theorem wp_read_bind {g : ρ → σ → β} {f : β → Prog ρ σ ε α} :
    wp (read g >>= f) Q E C r s ↔ wp (f (g r s)) Q E C r s := Iff.rfl

theorem wp_modify_bind {g : σ → σ} {f : Unit → Prog ρ σ ε α} :
    wp (modify g >>= f) Q E C r s ↔ wp (f ()) Q E C r (g s) := Iff.rfl

theorem wp_handle {m : Prog ρ σ ε α} {h : ε → Prog ρ σ ε α} :
    wp (handle m h) Q E C r s ↔ wp m Q (fun e t => wp (h e) Q E C r t) C r s := by
  unfold wp handle
  rcases m r s with ⟨a | e | _, t⟩ <;> rfl

theorem wp_ensure {m : Prog ρ σ ε α} {f : Prog ρ σ ε Unit} :
    wp (ensure m f) Q E C r s ↔
      wp m (fun a t => wp f (fun _ => Q a) E C r t) (fun e t => wp f (fun _ => E e) E C r t) C r
        s := by
  unfold ensure
  simp only [wp_bind, wp_handle, wp_raise, wp_pure]

theorem wp_ite {c : Prop} [Decidable c] {m n : Prog ρ σ ε α} :
    wp (if c then m else n) Q E C r s ↔ (c → wp m Q E C r s) ∧ (¬ c → wp n Q E C r s) := by
  by_cases hc : c <;> simp [hc]

/-- **Consequence.** -/
theorem wp.mono {m : Prog ρ σ ε α} (h : wp m Q E C r s) (hQ : ∀ a t, Q a t → Q' a t)
    (hE : ∀ e t, E e t → E' e t) (hC : ∀ t, C t → C' t) : wp m Q' E' C' r s := by
  unfold wp at h ⊢
  rcases hm : m r s with ⟨a | e | _, t⟩ <;> rw [hm] at h
  · exact hQ a t h
  · exact hE e t h
  · exact hC t h

theorem wp.mono_done {m : Prog ρ σ ε α} (h : wp m Q E C r s) (hQ : ∀ a t, Q a t → Q' a t) :
    wp m Q' E C r s :=
  h.mono hQ (fun _ _ h => h) fun _ h => h

theorem wp.and {m : Prog ρ σ ε α} (h : wp m Q E C r s) (h' : wp m Q' E' C' r s) :
    wp m (fun a t => Q a t ∧ Q' a t) (fun e t => E e t ∧ E' e t) (fun t => C t ∧ C' t) r s := by
  unfold wp at h h' ⊢
  rcases hm : m r s with ⟨a | e | _, t⟩ <;> rw [hm] at h h' <;> exact ⟨h, h'⟩

/-- **Sequence**, through an assertion about the state in between. -/
theorem wp_seq {m : Prog ρ σ ε β} {f : β → Prog ρ σ ε α} {M : β → σ → Prop} (h : wp m M E C r s)
    (hf : ∀ b t, M b t → wp (f b) Q E C r t) : wp (m >>= f) Q E C r s :=
  wp_bind.2 (h.mono_done hf)

/-- **Try**, through an assertion about the state where the exception is raised. -/
theorem wp_try {m : Prog ρ σ ε α} {h : ε → Prog ρ σ ε α} {M : ε → σ → Prop} (hm : wp m Q M C r s)
    (hh : ∀ e t, M e t → wp (h e) Q E C r t) : wp (handle m h) Q E C r s :=
  wp_handle.2 (hm.mono (fun _ _ h => h) hh fun _ h => h)

/-- **Loops.** What each turn keeps, the loop keeps. -/
theorem wp_each {f : β → Prog ρ σ ε Unit} {I : σ → Prop} {l : List β}
    (hf : ∀ b ∈ l, ∀ t, I t → wp (f b) (fun _ => I) E C r t) (hs : I s) :
    wp (each f l) (fun _ => I) E C r s := by
  induction l generalizing s with
  | nil => exact hs
  | cons b rest ih =>
    refine wp_seq (hf b List.mem_cons_self s hs) ?_
    intro _ t ht
    exact ih (fun b hb => hf b (List.mem_cons_of_mem _ hb)) ht

/-- A run that returned, raised or was cut off has its postcondition. -/
theorem wp.done {m : Prog ρ σ ε α} (h : wp m Q E C r s) {a : α} {t : σ}
    (hm : m r s = (.done a, t)) : Q a t := by
  unfold wp at h
  rwa [hm] at h

/-- A run that neither raises nor is cut off returns. -/
theorem wp.total {m : Prog ρ σ ε α} (h : wp m Q (fun _ _ => False) (fun _ => False) r s) :
    ∃ a t, m r s = (.done a, t) ∧ Q a t := by
  unfold wp at h
  rcases hm : m r s with ⟨a | e | _, t⟩ <;> rw [hm] at h
  · exact ⟨a, t, rfl, h⟩
  · exact h.elim
  · exact h.elim

/-- A run that returns, with the postcondition `Q`. -/
abbrev Finishes (m : Prog ρ σ ε α) (Q : α → σ → Prop) (r : ρ) (s : σ) : Prop :=
  wp m Q (fun _ _ => False) (fun _ => False) r s

/-- A run that returns has the postcondition of the runs that may not. -/
theorem wp.finishes {m : Prog ρ σ ε α} (h : wp m Q E C r s) (h' : Finishes m Q' r s) :
    Finishes m (fun a t => Q a t ∧ Q' a t) r s :=
  (h.and h').mono (fun _ _ h => h) (fun _ _ h => h.2) fun _ h => h.2

/-- A property of the way a run ends and of the state it leaves. -/
theorem wp.run {m : Prog ρ σ ε α} {P : Ends ε α × σ → Prop}
    (h : wp m (fun a t => P (.done a, t)) (fun e t => P (.raised e, t)) (fun t => P (.cut, t)) r
      s) : P (m r s) := by
  unfold wp at h
  rcases hm : m r s with ⟨a | e | _, t⟩ <;> rw [hm] at h <;> exact h

/-- What holds however a run ends. -/
theorem wp.last {m : Prog ρ σ ε α} {I : σ → Prop} (h : wp m (fun _ => I) (fun _ => I) I r s) :
    I (m r s).2 := by
  unfold wp at h
  rcases hm : m r s with ⟨a | e | _, t⟩ <;> rw [hm] at h <;> exact h

theorem wp.raised {m : Prog ρ σ ε α} (h : wp m Q E C r s) {e : ε} {t : σ}
    (hm : m r s = (.raised e, t)) : E e t := by
  unfold wp at h
  rwa [hm] at h

theorem wp.cut {m : Prog ρ σ ε α} (h : wp m Q E C r s) {t : σ} (hm : m r s = (.cut, t)) : C t := by
  unfold wp at h
  rwa [hm] at h

end

/-! ## What a run can change -/

/-- A relation that holds of no change and of one change after another. -/
structure Frame (R : σ → σ → Prop) : Prop where
  refl : ∀ s, R s s
  trans : ∀ {s t u}, R s t → R t u → R s u

/-- However a run of `m` ends, it has changed the state along `R`. -/
def Within (R : σ → σ → Prop) (r : ρ) (m : Prog ρ σ ε α) : Prop :=
  ∀ s, wp m (fun _ => R s) (fun _ => R s) (R s) r s

/-- What `m` returns satisfies `V`. -/
def Returns (V : α → Prop) (r : ρ) (m : Prog ρ σ ε α) : Prop :=
  ∀ s, wp m (fun a _ => V a) (fun _ _ => True) (fun _ => True) r s

theorem Returns.bind {V : α → Prop} {r : ρ} {m : Prog ρ σ ε β} {f : β → Prog ρ σ ε α}
    (hf : ∀ b, Returns V r (f b)) : Returns V r (m >>= f) := by
  intro s
  refine wp_bind.2 ?_
  unfold wp
  rcases m r s with ⟨b | e | _, t⟩
  · exact hf b t
  · trivial
  · trivial

theorem Returns.handle {V : α → Prop} {r : ρ} {m : Prog ρ σ ε α} {h : ε → Prog ρ σ ε α}
    (hm : Returns V r m) (hh : ∀ e, Returns V r (h e)) : Returns V r (m.handle h) := by
  intro s
  exact wp_handle.2 ((hm s).mono (fun _ _ hV => hV) (fun e t _ => hh e t) fun _ hC => hC)

theorem Returns.mono {V V' : α → Prop} {r : ρ} {m : Prog ρ σ ε α} (h : Returns V r m)
    (hV : ∀ a, V a → V' a) : Returns V' r m :=
  fun s => (h s).mono_done fun a _ => hV a

theorem Returns.ite {V : α → Prop} {r : ρ} {c : Prop} [Decidable c] {m n : Prog ρ σ ε α}
    (hm : c → Returns V r m) (hn : ¬ c → Returns V r n) : Returns V r (if c then m else n) := by
  by_cases hc : c
  · rw [if_pos hc]
    exact hm hc
  · rw [if_neg hc]
    exact hn hc

section

variable {R R' : σ → σ → Prop} {r : ρ}

theorem Within.mono {m : Prog ρ σ ε α} (h : Within R r m) (hR : ∀ {s t}, R s t → R' s t) :
    Within R' r m :=
  fun s => (h s).mono (fun _ _ => hR) (fun _ _ => hR) fun _ => hR

theorem Within.and {m : Prog ρ σ ε α} (h : Within R r m) (h' : Within R' r m) :
    Within (fun s t => R s t ∧ R' s t) r m :=
  fun s => (h s).and (h' s)

/-- A step that keeps to `R` leads from an assertion that `R` keeps to itself. -/
theorem Within.wp {m : Prog ρ σ ε α} (h : Within R r m) {I : σ → Prop} {s : σ}
    (hI : ∀ t, R s t → I t) : wp m (fun _ => I) (fun _ => I) I r s :=
  (h s).mono (fun _ => hI) (fun _ => hI) hI

theorem within_modify {f : σ → σ} (h : ∀ s, R s (f s)) :
    Within R r (modify f : Prog ρ σ ε Unit) := h

variable (hR : Frame R)

include hR

theorem within_pure (a : α) : Within R r (pure a : Prog ρ σ ε α) := fun s => hR.refl s

theorem within_raise (e : ε) : Within R r (raise e : Prog ρ σ ε α) := fun s => hR.refl s

theorem within_stop : Within R r (stop : Prog ρ σ ε α) := fun s => hR.refl s

theorem within_read (f : ρ → σ → α) : Within R r (read f : Prog ρ σ ε α) := fun s => hR.refl s

theorem Within.bind {m : Prog ρ σ ε β} {f : β → Prog ρ σ ε α} (hm : Within R r m)
    (hf : ∀ b, Within R r (f b)) : Within R r (m >>= f) := by
  intro s
  refine wp_seq (hm s) ?_
  intro b t hst
  exact (hf b).wp fun u htu => hR.trans hst htu

theorem Within.handle {m : Prog ρ σ ε α} {h : ε → Prog ρ σ ε α} (hm : Within R r m)
    (hh : ∀ e, Within R r (h e)) : Within R r (m.handle h) := by
  intro s
  refine wp_try (hm s) ?_
  intro e t hst
  exact (hh e).wp fun u htu => hR.trans hst htu

omit hR in
theorem Within.ite {c : Prop} [Decidable c] {m n : Prog ρ σ ε α} (hm : c → Within R r m)
    (hn : ¬ c → Within R r n) : Within R r (if c then m else n) := by
  by_cases hc : c
  · rw [if_pos hc]
    exact hm hc
  · rw [if_neg hc]
    exact hn hc

theorem within_each {f : β → Prog ρ σ ε Unit} {l : List β} (hf : ∀ b ∈ l, Within R r (f b)) :
    Within R r (each f l) := by
  induction l with
  | nil => exact within_pure hR ()
  | cons b rest ih =>
    exact (hf b List.mem_cons_self).bind hR fun _ =>
      ih fun b hb => hf b (List.mem_cons_of_mem _ hb)

end

end Prog

end Vibapp
