import Mathlib.Order.Lattice
import Mathlib.Data.List.MinMax
import Mathlib.Data.List.Sort
import Vibapp.Lib.Except

/-!
# Agendas: running the least open task first

A state has open tasks, each with a key in a linear order, and running one yields a new state.
A batch runs the least open task, again and again, at most `n` times. Its laws need nothing of
the tasks: batches compose (`batch_add`), and a batch that stopped early has left nothing open
(`batch_short`). When a task only opens later ones and closes itself, a batch runs its tasks in
strictly increasing order (`batch_sorted`). When only the tasks in some set break a property, a
batch that avoids them keeps it (`Avoids.invariant`).
-/

namespace Vibapp

universe u v

/-- Open tasks of a state, and what running one does. -/
structure Agenda (σ κ : Type u) (ε : Type v) where
  openTasks : σ → List κ
  run : κ → σ → Except ε σ

namespace Agenda

variable {σ κ : Type u} {ε : Type v} [LinearOrder κ] (A : Agenda σ κ ε)

/-- The least open task. -/
def next (s : σ) : Option κ := (A.openTasks s).min?

/-- Run the least open task, at most `n` times; also gives the tasks run, in order. -/
def batch : Nat → σ → Except ε (σ × List κ)
  | 0, s => .ok (s, [])
  | n + 1, s =>
    match A.next s with
    | none => .ok (s, [])
    | some k => do
      let s ← A.run k s
      let (s, ks) ← batch n s
      return (s, k :: ks)

variable {A}

theorem next_eq_none_iff {s : σ} : A.next s = none ↔ A.openTasks s = [] :=
  List.min?_eq_none_iff

theorem next_eq_some_iff {s : σ} {k : κ} :
    A.next s = some k ↔ k ∈ A.openTasks s ∧ ∀ j ∈ A.openTasks s, k ≤ j :=
  List.min?_eq_some_iff

/-! ## One task, then the rest -/

theorem batch_of_none {s : σ} (h : A.next s = none) (n : Nat) : A.batch n s = .ok (s, []) := by
  cases n with
  | zero => rfl
  | succ n => rw [batch, h]

/-- A batch that ran is empty, or ran the least task and then a shorter batch. -/
theorem batch_succ_eq_ok {n : Nat} {s t : σ} {ks : List κ} (h : A.batch (n + 1) s = .ok (t, ks)) :
    (A.next s = none ∧ t = s ∧ ks = []) ∨
      ∃ k m js, A.next s = some k ∧ A.run k s = .ok m ∧ A.batch n m = .ok (t, js) ∧ ks = k :: js := by
  rw [batch] at h
  cases hk : A.next s with
  | none =>
    rw [hk] at h
    cases h
    exact .inl ⟨rfl, rfl, rfl⟩
  | some k =>
    rw [hk] at h
    obtain ⟨m, hm, h⟩ := bind_eq_ok.1 h
    obtain ⟨p, hp, h⟩ := bind_eq_ok.1 h
    cases pure_eq_ok.1 h
    exact .inr ⟨k, m, p.2, rfl, hm, hp, rfl⟩

theorem batch_succ_of_some {n : Nat} {s m t : σ} {k : κ} {js : List κ} (hk : A.next s = some k)
    (hm : A.run k s = .ok m) (hb : A.batch n m = .ok (t, js)) :
    A.batch (n + 1) s = .ok (t, k :: js) := by
  rw [batch, hk]
  simp only [hm, hb, ok_bind]
  rfl

/-! ## Laws -/

/-- **Batches compose.** Two batches in a row are one batch of their total size. -/
theorem batch_add {a b : Nat} {s m t : σ} {ks js : List κ} (ha : A.batch a s = .ok (m, ks))
    (hb : A.batch b m = .ok (t, js)) : A.batch (a + b) s = .ok (t, ks ++ js) := by
  induction a generalizing s ks with
  | zero =>
    cases ha
    rw [Nat.zero_add]
    exact hb
  | succ a ih =>
    rcases batch_succ_eq_ok ha with ⟨hn, rfl, rfl⟩ | ⟨k, m', ks', hk, hr, hrest, rfl⟩
    · rw [batch_of_none hn] at hb ⊢
      cases hb
      rfl
    · rw [Nat.add_right_comm]
      exact batch_succ_of_some hk hr (ih hrest)

/-- A batch is two in a row, wherever it is cut. -/
theorem batch_split {a b : Nat} {s t : σ} {ks : List κ} (h : A.batch (a + b) s = .ok (t, ks)) :
    ∃ m is js, A.batch a s = .ok (m, is) ∧ A.batch b m = .ok (t, js) ∧ ks = is ++ js := by
  induction a generalizing s ks with
  | zero =>
    rw [Nat.zero_add] at h
    exact ⟨s, [], ks, rfl, h, rfl⟩
  | succ a ih =>
    rw [Nat.add_right_comm] at h
    rcases batch_succ_eq_ok h with ⟨hn, rfl, rfl⟩ | ⟨k, u, js, hk, hu, hrest, rfl⟩
    · exact ⟨_, [], [], batch_of_none hn _, batch_of_none hn _, rfl⟩
    · obtain ⟨m, is, js', ha, hb, rfl⟩ := ih hrest
      exact ⟨m, k :: is, js', batch_succ_of_some hk hu ha, hb, rfl⟩

/-- A batch that ran fewer tasks than it could has left none open. -/
theorem batch_short {n : Nat} {s t : σ} {ks : List κ} (h : A.batch n s = .ok (t, ks))
    (hlt : ks.length < n) : A.openTasks t = [] := by
  induction n generalizing s ks with
  | zero => exact absurd hlt (Nat.not_lt_zero _)
  | succ n ih =>
    rcases batch_succ_eq_ok h with ⟨hn, rfl, rfl⟩ | ⟨k, m, js, -, -, hrest, rfl⟩
    · exact next_eq_none_iff.1 hn
    · exact ih hrest (Nat.lt_of_succ_lt_succ hlt)

theorem batch_length_le {n : Nat} {s t : σ} {ks : List κ} (h : A.batch n s = .ok (t, ks)) :
    ks.length ≤ n := by
  induction n generalizing s ks with
  | zero => cases h; exact Nat.le_refl 0
  | succ n ih =>
    rcases batch_succ_eq_ok h with ⟨-, -, rfl⟩ | ⟨k, m, js, -, -, hrest, rfl⟩
    · exact Nat.zero_le _
    · exact Nat.succ_le_succ (ih hrest)

/-- What the batch ran: at some point of it the task was the least open one, and ran. -/
theorem batch_mem {n : Nat} {s t : σ} {ks : List κ} (h : A.batch n s = .ok (t, ks)) {k : κ}
    (hk : k ∈ ks) :
    ∃ i j u m is js, A.batch i s = .ok (u, is) ∧ A.next u = some k ∧ A.run k u = .ok m ∧
      A.batch j m = .ok (t, js) := by
  induction n generalizing s ks with
  | zero => cases h; exact absurd hk List.not_mem_nil
  | succ n ih =>
    rcases batch_succ_eq_ok h with ⟨-, -, rfl⟩ | ⟨k', m, js, hk', hm, hrest, rfl⟩
    · exact absurd hk List.not_mem_nil
    · rcases List.mem_cons.1 hk with rfl | hk
      · exact ⟨0, n, s, m, [], js, rfl, hk', hm, hrest⟩
      · obtain ⟨i, j, u, m', is, js', hi, hu, hm', hj⟩ := ih hrest hk
        exact ⟨i + 1, j, u, m', k' :: is, js', batch_succ_of_some hk' hm hi, hu, hm', hj⟩

/-- A relation that every run task of the batch keeps, and that composes, holds across it. -/
theorem batch_rel {R : σ → σ → Prop} (hrefl : ∀ s : σ, R s s)
    (htrans : ∀ {s m t : σ}, R s m → R m t → R s t) {P : σ → Prop}
    (hP : ∀ {s : σ} {k : κ} {m : σ}, P s → A.next s = some k → A.run k s = .ok m → P m ∧ R s m)
    {n : Nat} {s t : σ} {ks : List κ} (hs : P s) (h : A.batch n s = .ok (t, ks)) : P t ∧ R s t := by
  induction n generalizing s ks with
  | zero => cases h; exact ⟨hs, hrefl _⟩
  | succ n ih =>
    rcases batch_succ_eq_ok h with ⟨-, rfl, rfl⟩ | ⟨k, m, js, hk, hm, hrest, rfl⟩
    · exact ⟨hs, hrefl _⟩
    · obtain ⟨hPm, hRm⟩ := hP hs hk hm
      obtain ⟨hPt, hRt⟩ := ih hPm hrest
      exact ⟨hPt, htrans hRm hRt⟩

/-- Among its first `n` tasks, the batch comes to none in a state where `Q` holds of it. -/
def Avoids (A : Agenda σ κ ε) (Q : κ → σ → Prop) (n : Nat) (s : σ) : Prop :=
  ∀ i u ks k, i < n → A.batch i s = .ok (u, ks) → A.next u = some k → ¬ Q k u

variable {Q : κ → σ → Prop}

/-- What every task outside `Q` keeps, a batch that avoids `Q` keeps. -/
theorem Avoids.invariant {P : σ → Prop}
    (hP : ∀ {s : σ} {k : κ} {m : σ}, P s → A.next s = some k → ¬ Q k s → A.run k s = .ok m → P m)
    {n : Nat} {s t : σ} {ks : List κ} (hQ : A.Avoids Q n s) (hs : P s)
    (h : A.batch n s = .ok (t, ks)) : P t := by
  induction n generalizing s ks with
  | zero => cases h; exact hs
  | succ n ih =>
    rcases batch_succ_eq_ok h with ⟨-, rfl, rfl⟩ | ⟨k, m, js, hk, hm, hrest, rfl⟩
    · exact hs
    · refine ih (fun i u ks j hi hb => ?_) (hP hs hk (hQ 0 s [] k n.succ_pos rfl hk) hm) hrest
      exact hQ (i + 1) u _ j (Nat.succ_lt_succ hi) (batch_succ_of_some hk hm hb)

/-- A batch that does not avoid `Q` ran, at some point, a task in `Q`. -/
theorem exists_of_not_avoids {n : Nat} {s t : σ} {ks : List κ} (h : A.batch n s = .ok (t, ks))
    (hQ : ¬ A.Avoids Q n s) :
    ∃ i j u m k is js, A.batch i s = .ok (u, is) ∧ A.next u = some k ∧ Q k u ∧
      A.run k u = .ok m ∧ A.batch j m = .ok (t, js) := by
  simp only [Avoids, not_forall, not_not] at hQ
  obtain ⟨i, u, is, k, hi, hb, hk, hq⟩ := hQ
  obtain ⟨j, rfl⟩ := Nat.exists_eq_add_of_lt hi
  rw [Nat.add_assoc] at h
  obtain ⟨u', is', js, hb', hrest, -⟩ := batch_split h
  cases hb.symm.trans hb'
  rcases batch_succ_eq_ok hrest with ⟨hn, -, -⟩ | ⟨k', m, js', hk', hm, hrest, -⟩
  · cases hn.symm.trans hk
  · cases hk.symm.trans hk'
    exact ⟨i, j, u, m, k, is, js', hb, hk, hq, hm, hrest⟩

/-- A batch raises what its tasks raise. -/
theorem batch_raises {P : σ → Prop} {Q : ε → Prop}
    (hP : ∀ {s : σ} {k : κ} {m : σ}, P s → A.next s = some k → A.run k s = .ok m → P m)
    (hQ : ∀ {s : σ} {k : κ}, P s → A.next s = some k → Raises Q (A.run k s)) {n : Nat} {s : σ}
    (hs : P s) : Raises Q (A.batch n s) := by
  induction n generalizing s with
  | zero => exact raises_ok _
  | succ n ih =>
    rw [batch]
    cases hk : A.next s with
    | none => exact raises_ok _
    | some k => exact (hQ hs hk).bind fun m hm => (ih (hP hs hk hm)).bind fun _ _ => raises_pure _

/-- **Order.** When a task closes itself and opens only later ones, a batch runs its tasks in
strictly increasing order, all of them no earlier than what was open at its start. -/
theorem batch_sorted {P : σ → Prop}
    (hP : ∀ {s : σ} {k : κ} {m : σ}, P s → A.next s = some k → A.run k s = .ok m →
      P m ∧ ∀ j ∈ A.openTasks m, k < j)
    {n : Nat} {s t : σ} {ks : List κ} (hs : P s) (h : A.batch n s = .ok (t, ks)) :
    ks.Pairwise (· < ·) ∧ ∀ k, (∀ j ∈ A.openTasks s, k < j) → ∀ j ∈ ks, k < j := by
  induction n generalizing s ks with
  | zero => cases h; exact ⟨.nil, fun _ _ _ hj => absurd hj List.not_mem_nil⟩
  | succ n ih =>
    rcases batch_succ_eq_ok h with ⟨-, -, rfl⟩ | ⟨k, m, js, hk, hm, hrest, rfl⟩
    · exact ⟨.nil, fun _ _ _ hj => absurd hj List.not_mem_nil⟩
    · obtain ⟨hPm, hlater⟩ := hP hs hk hm
      obtain ⟨hsorted, hafter⟩ := ih hPm hrest
      have hmin := next_eq_some_iff.1 hk
      refine ⟨List.pairwise_cons.2 ⟨hafter k hlater, hsorted⟩, fun i hi j hj => ?_⟩
      rcases List.mem_cons.1 hj with rfl | hj
      · exact hi _ hmin.1
      · exact lt_trans (hi k hmin.1) (hafter k hlater j hj)

end Agenda

end Vibapp
