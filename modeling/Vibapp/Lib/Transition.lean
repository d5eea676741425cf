import Mathlib.Data.List.Basic

/-!
# Labelled transitions

Sequences of labelled steps, and the two inductions every proof about them is: a property each
step keeps holds at the end (`Steps.invariant`), a reflexive and transitive relation each step
is in relates the two ends (`Steps.rel`).
-/

namespace Vibapp

universe u v

variable {σ : Type u} {Λ : Type v} {R : Λ → σ → σ → Prop}

/-- `Steps R as s t`: steps labelled `as`, in order, lead from `s` to `t`. -/
inductive Steps (R : Λ → σ → σ → Prop) : List Λ → σ → σ → Prop
  | nil (s : σ) : Steps R [] s s
  | cons {a : Λ} {as : List Λ} {s m t : σ} (head : R a s m) (tail : Steps R as m t) :
    Steps R (a :: as) s t

namespace Steps

theorem single {a : Λ} {s t : σ} (h : R a s t) : Steps R [a] s t := .cons h (.nil t)

theorem append {as bs : List Λ} {s m t : σ} (h₁ : Steps R as s m) (h₂ : Steps R bs m t) :
    Steps R (as ++ bs) s t := by
  induction h₁ with
  | nil => exact h₂
  | cons head _ ih => exact .cons head (ih h₂)

/-- **Invariants.** What each step keeps, a sequence keeps. -/
theorem invariant {P : σ → Prop} {as : List Λ} {s t : σ} (h : Steps R as s t) (hs : P s)
    (hstep : ∀ {a s t}, a ∈ as → R a s t → P s → P t) : P t := by
  induction h with
  | nil => exact hs
  | cons head _ ih =>
    exact ih (hstep List.mem_cons_self head hs) fun ha => hstep (List.mem_cons_of_mem _ ha)

/-- **Relations.** A preorder that contains each step, under an invariant, contains the
sequence. -/
theorem rel {Q : σ → σ → Prop} {P : σ → Prop} (hrefl : ∀ s, Q s s)
    (htrans : ∀ {s m t}, Q s m → Q m t → Q s t) {as : List Λ} {s t : σ} (h : Steps R as s t)
    (hs : P s) (hstep : ∀ {a s t}, a ∈ as → R a s t → P s → P t ∧ Q s t) : Q s t := by
  induction h with
  | nil s => exact hrefl s
  | cons head _ ih =>
    obtain ⟨hP, hQ⟩ := hstep List.mem_cons_self head hs
    exact htrans hQ (ih hP fun ha => hstep (List.mem_cons_of_mem _ ha))

end Steps

/-- Some sequence of steps with labels in `P` leads from `s` to `t`. -/
def Reaches (R : Λ → σ → σ → Prop) (P : Λ → Prop) (s t : σ) : Prop :=
  ∃ as, (∀ a ∈ as, P a) ∧ Steps R as s t

namespace Reaches

variable {P Q : Λ → Prop}

theorem refl (s : σ) : Reaches R P s s := ⟨[], fun _ h => absurd h List.not_mem_nil, .nil s⟩

theorem single {a : Λ} {s t : σ} (ha : P a) (h : R a s t) : Reaches R P s t :=
  ⟨[a], fun _ hb => List.mem_singleton.1 hb ▸ ha, .single h⟩

theorem trans {s m t : σ} (h₁ : Reaches R P s m) (h₂ : Reaches R P m t) : Reaches R P s t := by
  obtain ⟨as, has, h₁⟩ := h₁
  obtain ⟨bs, hbs, h₂⟩ := h₂
  exact ⟨as ++ bs, fun a ha => (List.mem_append.1 ha).elim (has a) (hbs a), h₁.append h₂⟩

theorem mono {s t : σ} (h : Reaches R P s t) (hPQ : ∀ a, P a → Q a) : Reaches R Q s t := by
  obtain ⟨as, has, h⟩ := h
  exact ⟨as, fun a ha => hPQ a (has a ha), h⟩

end Reaches

end Vibapp
