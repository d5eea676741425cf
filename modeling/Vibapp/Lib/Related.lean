import Mathlib.Data.List.Forall2
import Mathlib.Data.List.Sort
import Vibapp.Lib.Except

/-!
# Lists related item by item

What a relation between the items of two lists says of loops over them: a loop that may raise
(`mapM`), and insertion sort by keys that agree. **Main results** (`mapM_eq_ok`,
`forall₂_insertionSort`): a loop that succeeds relates its input to its output, and lists whose
items are related with the same order have related sorts. `insertionSort_eq_of_perm`: a list with
distinct keys has one sort by them, whatever order it is listed in.
-/

namespace Vibapp

universe u v

variable {ε : Type u} {α β γ : Type v}

/-! ## Loops -/

/-- A loop that succeeds, item by item. -/
theorem mapM_eq_ok {f : α → Except ε β} : ∀ {xs : List α} {ys : List β},
    xs.mapM f = .ok ys ↔ List.Forall₂ (fun x y => f x = .ok y) xs ys
  | [], ys => by
    rw [List.mapM_nil, pure_eq_ok, List.forall₂_nil_left_iff, eq_comm]
  | x :: xs, ys => by
    rw [List.mapM_cons, bind_eq_ok, List.forall₂_cons_left_iff]
    constructor
    · intro ⟨y, hy, h⟩
      obtain ⟨rest, hrest, h⟩ := bind_eq_ok.1 h
      exact ⟨y, rest, hy, mapM_eq_ok.1 hrest, (pure_eq_ok.1 h).symm⟩
    · intro ⟨y, rest, hy, hrest, h⟩
      exact ⟨y, hy, bind_eq_ok.2 ⟨rest, mapM_eq_ok.2 hrest, pure_eq_ok.2 h.symm⟩⟩

/-- A loop that succeeds does so for every item. -/
theorem exists_of_mapM {f : α → Except ε β} {xs : List α} {ys : List β} (h : xs.mapM f = .ok ys)
    {x : α} (hx : x ∈ xs) : ∃ y ∈ ys, f x = .ok y := by
  replace h := mapM_eq_ok.1 h
  induction h with
  | nil => cases hx
  | @cons _ b _ _ hhead _ ih =>
    rcases List.mem_cons.1 hx with rfl | hx
    · exact ⟨b, List.mem_cons_self, hhead⟩
    · obtain ⟨y, hy, hfy⟩ := ih hx
      exact ⟨y, List.mem_cons_of_mem _ hy, hfy⟩

/-- Each result is that of an item. -/
theorem exists_of_mem_mapM {f : α → Except ε β} {xs : List α} {ys : List β}
    (h : xs.mapM f = .ok ys) {y : β} (hy : y ∈ ys) : ∃ x ∈ xs, f x = .ok y := by
  replace h := mapM_eq_ok.1 h
  induction h with
  | nil => cases hy
  | @cons x _ _ _ hhead _ ih =>
    rcases List.mem_cons.1 hy with rfl | hy
    · exact ⟨x, List.mem_cons_self, hhead⟩
    · obtain ⟨x', hx', hfx'⟩ := ih hy
      exact ⟨x', List.mem_cons_of_mem _ hx', hfx'⟩

/-- A loop over items that are related to known ones. -/
theorem exists_mapM {f : α → Except ε β} {R : α → γ → Prop} {S : β → γ → Prop}
    (hf : ∀ x z, R x z → ∃ y, f x = .ok y ∧ S y z) {xs : List α} {zs : List γ}
    (h : List.Forall₂ R xs zs) : ∃ ys, xs.mapM f = .ok ys ∧ List.Forall₂ S ys zs := by
  induction h with
  | nil => exact ⟨[], rfl, .nil⟩
  | cons hhead _ ih =>
    obtain ⟨y, hy, hyz⟩ := hf _ _ hhead
    obtain ⟨ys, hys, hrest⟩ := ih
    refine ⟨y :: ys, ?_, .cons hyz hrest⟩
    rw [List.mapM_cons, hy, ok_bind, hys]
    rfl

/-- A loop over items whose results are known. -/
theorem mapM_of_forall₂ {f : α → Except ε β} {g : γ → β} {R : α → γ → Prop} {xs : List α}
    {zs : List γ} (h : List.Forall₂ R xs zs) (hf : ∀ x z, R x z → f x = .ok (g z)) :
    xs.mapM f = .ok (zs.map g) :=
  mapM_eq_ok.2 (List.forall₂_map_right_iff.2 (h.imp hf))

/-! ## Sorting -/

section Insertion

variable {r : α → α → Prop} {s : β → β → Prop} [DecidableRel r] [DecidableRel s]
  {R : α → β → Prop}

theorem forall₂_orderedInsert (hR : ∀ a b c d, R a b → R c d → (r a c ↔ s b d)) {a : α} {b : β}
    (hab : R a b) {xs : List α} {ys : List β} (h : List.Forall₂ R xs ys) :
    List.Forall₂ R (xs.orderedInsert r a) (ys.orderedInsert s b) := by
  induction h with
  | nil => exact .cons hab .nil
  | @cons x y xs ys hxy hrest ih =>
    rw [List.orderedInsert_cons, List.orderedInsert_cons]
    by_cases hr : r a x
    · rw [if_pos hr, if_pos ((hR _ _ _ _ hab hxy).1 hr)]
      exact .cons hab (.cons hxy hrest)
    · rw [if_neg hr, if_neg fun hs => hr ((hR _ _ _ _ hab hxy).2 hs)]
      exact .cons hxy ih

/-- Related items that stand in the same order are sorted alike. -/
theorem forall₂_insertionSort (hR : ∀ a b c d, R a b → R c d → (r a c ↔ s b d)) {xs : List α}
    {ys : List β} (h : List.Forall₂ R xs ys) :
    List.Forall₂ R (xs.insertionSort r) (ys.insertionSort s) := by
  induction h with
  | nil => exact .nil
  | cons hab _ ih => exact forall₂_orderedInsert hR hab ih

end Insertion

/-- A list with distinct keys has one sort by them. -/
theorem insertionSort_eq_of_perm {κ : Type v} [LinearOrder κ] (key : α → κ) {l m : List α}
    (hperm : l.Perm m) (hkeys : (l.map key).Nodup) :
    l.insertionSort (fun a b => key a ≤ key b) = m.insertionSort fun a b => key a ≤ key b := by
  have : Std.Total fun a b : α => key a ≤ key b := ⟨fun a b => le_total (key a) (key b)⟩
  have : IsTrans α fun a b => key a ≤ key b := ⟨fun _ _ _ => le_trans⟩
  have hl := List.perm_insertionSort (fun a b => key a ≤ key b) l
  have hm := List.perm_insertionSort (fun a b => key a ≤ key b) m
  refine List.Perm.eq_of_pairwise ?_ (List.pairwise_insertionSort _ l)
    (List.pairwise_insertionSort _ m) (hl.trans (hperm.trans hm.symm))
  intro a b ha hb hab hba
  have hb' : b ∈ l := hperm.mem_iff.2 (hm.mem_iff.1 hb)
  exact List.inj_on_of_nodup_map hkeys (hl.mem_iff.1 ha) hb' (le_antisymm hab hba)

end Vibapp
