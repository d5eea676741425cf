import Mathlib.Data.List.Basic

/-!
# Codes that can be told from what follows

`Recovers P enc g`: among the values of `P`, the text `enc x` at the start of a longer text gives
`g x` and the rest. Fields of one length recover themselves, a field whose length stands before it
does too, and the fields of a record recover together. **Main result** (`Recovers.flatMap_inj`): a
list of such texts, one after the other, gives back the list.
-/

namespace Vibapp

variable {α β γ δ : Type*} {P : α → Prop} {enc tail : α → List β} {g : α → γ} {g' : α → δ}

/-- At the start of any text, `enc x` gives `g x` and what follows. -/
def Recovers (P : α → Prop) (enc : α → List β) (g : α → γ) : Prop :=
  ∀ ⦃x⦄, P x → ∀ ⦃y⦄, P y → ∀ ⦃r t : List β⦄, enc x ++ r = enc y ++ t → g x = g y ∧ r = t

namespace Recovers

/-- Fields of one length. -/
theorem of_length {n : Nat} (h : ∀ x, P x → (enc x).length = n) : Recovers P enc enc := by
  intro x hx y hy r t heq
  exact List.append_inj heq ((h x hx).trans (h y hy).symm)

/-- What is recovered gives what depends on it. -/
theorem of_field (h : Recovers P enc g) (hg : ∀ x y, P x → P y → g x = g y → g' x = g' y) :
    Recovers P enc g' := by
  intro x hx y hy r t heq
  obtain ⟨hfield, hrest⟩ := h hx hy heq
  exact ⟨hg x y hx hy hfield, hrest⟩

/-- A field whose length the text before it gives. -/
theorem prefixed (h : Recovers P enc g)
    (hlength : ∀ x y, P x → P y → g x = g y → (tail x).length = (tail y).length) :
    Recovers P (fun x => enc x ++ tail x) tail := by
  intro x hx y hy r t heq
  simp only [List.append_assoc] at heq
  obtain ⟨hfield, hrest⟩ := h hx hy heq
  exact List.append_inj hrest (hlength x y hx hy hfield)

/-- Two fields, one after the other. -/
theorem append (h : Recovers P enc g) (htail : Recovers P tail g') :
    Recovers P (fun x => enc x ++ tail x) fun x => (g x, g' x) := by
  intro x hx y hy r t heq
  simp only [List.append_assoc] at heq
  obtain ⟨hfield, hrest⟩ := h hx hy heq
  obtain ⟨hfield', hend⟩ := htail hx hy hrest
  exact ⟨Prod.ext hfield hfield', hend⟩

/-- The texts of a list, one after the other, give back the list. -/
theorem flatMap_inj (h : Recovers P enc id) (hne : ∀ x, P x → enc x ≠ []) {l m : List α}
    (hl : ∀ x ∈ l, P x) (hm : ∀ x ∈ m, P x) (heq : l.flatMap enc = m.flatMap enc) : l = m := by
  induction l generalizing m with
  | nil =>
    cases m with
    | nil => rfl
    | cons y m =>
      rw [List.flatMap_nil, List.flatMap_cons] at heq
      exact absurd (List.append_eq_nil_iff.1 heq.symm).1 (hne y (hm y List.mem_cons_self))
  | cons x l ih =>
    cases m with
    | nil =>
      rw [List.flatMap_nil, List.flatMap_cons] at heq
      exact absurd (List.append_eq_nil_iff.1 heq).1 (hne x (hl x List.mem_cons_self))
    | cons y m =>
      rw [List.flatMap_cons, List.flatMap_cons] at heq
      obtain ⟨hhead, hrest⟩ := h (hl x List.mem_cons_self) (hm y List.mem_cons_self) heq
      cases hhead
      rw [ih (fun z hz => hl z (List.mem_cons_of_mem _ hz))
        (fun z hz => hm z (List.mem_cons_of_mem _ hz)) hrest]

end Recovers

end Vibapp
