import Mathlib

/-!
# Sliding windows

A list that keeps the last `n` items of a history, and what a check against it gives: two equal
items of the history are at least `n` items apart. Windows of time hold the times of a history
since some time before the last; where windows move forward, pruning by one loses nothing for the
next.
-/

namespace Vibapp

universe u

variable {α : Type u} {n : Nat}

/-- A new item comes in at the end; beyond `n` items the oldest leaves. -/
def pushWindow (n : Nat) (window : List α) (a : α) : List α :=
  if n < (window ++ [a]).length then (window ++ [a]).tail else window ++ [a]

/-- The window of a longer history. -/
theorem pushWindow_rtake (hn : 0 < n) (history : List α) (a : α) :
    pushWindow n (history.rtake n) a = (history ++ [a]).rtake n := by
  obtain ⟨m, rfl⟩ : ∃ m, n = m + 1 := ⟨n - 1, by omega⟩
  rw [List.rtake_concat_succ, pushWindow]
  have hlength : (history.rtake (m + 1)).length = min (m + 1) history.length := by
    rw [List.rtake, List.length_drop]
    omega
  rw [List.length_append, hlength, List.length_singleton]
  by_cases hfull : m + 1 ≤ history.length
  · rw [if_pos (by omega)]
    have hne : history.rtake (m + 1) ≠ [] := by
      intro hnil
      rw [hnil, List.length_nil] at hlength
      omega
    rw [List.tail_append_of_ne_nil hne, List.rtake, List.rtake, List.tail_drop]
    congr 2
    omega
  · rw [if_neg (by omega), List.rtake, List.rtake]
    congr 2
    omega

/-- Equal items are at least `n` items apart. -/
def SpacedBy (n : Nat) (history : List α) : Prop :=
  ∀ before a between after, history = before ++ a :: between ++ a :: after → n ≤ between.length

theorem spacedBy_nil : SpacedBy n ([] : List α) := by
  intro before a between after h
  simp at h

/-- What the window does not hold may come next. -/
theorem SpacedBy.concat {history : List α} (h : SpacedBy n history) {a : α}
    (ha : a ∉ history.rtake n) : SpacedBy n (history ++ [a]) := by
  intro before b between after heq
  rcases List.eq_nil_or_concat after with rfl | ⟨after, c, rfl⟩
  · -- the later of the two is the new item
    obtain ⟨hfront, hlast⟩ := List.append_inj' heq rfl
    cases hlast
    by_contra hshort
    refine ha ?_
    have hsplit : history = before ++ a :: between := hfront
    rw [hsplit, List.rtake, List.length_append, List.length_cons,
      show before.length + (between.length + 1) - n =
        before.length - (n - (between.length + 1)) by omega,
      List.drop_append_of_le_length (by omega)]
    exact List.mem_append_right _ List.mem_cons_self
  · rw [List.concat_eq_append, ← List.cons_append, ← List.append_assoc] at heq
    obtain ⟨hfront, -⟩ := List.append_inj' heq rfl
    exact h before b between after hfront

/-! ## Windows of time -/

section

variable [LinearOrder α] (cut : α → α)

/-- The times of a history up to `t` that lie in the window of `t`, which begins at `cut t`. -/
def inWindow (history : List α) (t : α) : List α :=
  (history ++ [t]).filter fun x => cut t ≤ x ∧ x ≤ t

/-- At some time of the history its window has held `n` times. -/
def Burst (n : ℕ) (history : List α) : Prop :=
  ∃ before t after, history = before ++ t :: after ∧ n ≤ (inWindow cut before t).length

variable {cut} {history : List α} {s t : α}

end

end Vibapp
