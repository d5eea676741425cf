import Mathlib.Data.List.Chain
import Mathlib.Logic.Relation

/-!
# Growing chains

A list that only ever grows at its end, by an element its last one is related to. Such a list
stays a chain (`Grown.isChain`), and when the relation gives each element at most one successor,
two lists grown from the same one differ only in how far they got (`Grown.comparable`).
-/

namespace Vibapp

universe u

variable {α : Type u} {R : α → α → Prop}

/-- The list gets one more element, related to its last one. -/
inductive Extend (R : α → α → Prop) : List α → List α → Prop
  | snoc {l : List α} {p q : α} (last : l.getLast? = some p) (next : R p q) : Extend R l (l ++ [q])

/-- The list got any number of elements in this way. -/
abbrev Grown (R : α → α → Prop) : List α → List α → Prop := Relation.ReflTransGen (Extend R)

theorem isChain_snoc {l : List α} {q : α} (h : l.IsChain R) (hq : ∀ p, l.getLast? = some p → R p q) :
    (l ++ [q]).IsChain R := by
  refine List.isChain_append.2 ⟨h, .singleton q, fun p hp x hx => ?_⟩
  cases hx
  exact hq p hp

theorem Extend.rightUnique (hR : Relator.RightUnique R) : Relator.RightUnique (Extend R) := by
  rintro l _ _ ⟨hp, hq⟩ ⟨hp', hq'⟩
  cases hp.symm.trans hp'
  rw [hR hq hq']

namespace Grown

theorem isPrefix {l l' : List α} (h : Grown R l l') : l <+: l' := by
  induction h with
  | refl => exact List.prefix_refl l
  | tail _ hstep ih =>
    obtain ⟨-, -⟩ := hstep
    exact ih.trans (List.prefix_append _ _)

theorem isChain {l l' : List α} (h : Grown R l l') (hl : l.IsChain R) : l'.IsChain R := by
  induction h with
  | refl => exact hl
  | tail _ hstep ih =>
    obtain ⟨hp, hq⟩ := hstep
    refine isChain_snoc ih fun p hp' => ?_
    cases hp.symm.trans hp'
    exact hq

/-- **Determinism.** Two lists grown from the same one: one is a prefix of the other. -/
theorem comparable (hR : Relator.RightUnique R) {l l₁ l₂ : List α} (h₁ : Grown R l l₁)
    (h₂ : Grown R l l₂) : l₁ <+: l₂ ∨ l₂ <+: l₁ :=
  (Relation.ReflTransGen.total_of_right_unique (Extend.rightUnique hR) h₁ h₂).imp isPrefix isPrefix

end Grown

end Vibapp
