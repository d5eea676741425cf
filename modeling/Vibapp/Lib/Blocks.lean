import Mathlib.Data.List.Basic
import Mathlib.Data.List.Perm.Basic
import Mathlib.Tactic.Common

/-!
# Blocks of addresses

Half-open intervals of addresses, and lists of them.

**Tiling.** `Tiles lo hi blocks`: each address of `[lo, hi)` is in exactly one block, and no other
address is in any. It is stated by counting (`cover`), so that it does not depend on the order of the
blocks and passes over to blocks that are split or joined.

**Separation.** `Separated blocks`: the blocks stand in the order of their addresses and no two of them
touch. A separated list that tiles an interval is the interval (`Separated.eq_of_tiles`).
-/

namespace Vibapp

/-- The addresses from `start` on, `size` of them. -/
structure Block where
  start : Nat
  size : Nat
deriving DecidableEq, Repr

namespace Block

def stop (b : Block) : Nat := b.start + b.size

def Contains (b : Block) (a : Nat) : Prop := b.start ≤ a ∧ a < b.stop

instance (b : Block) (a : Nat) : Decidable (b.Contains a) :=
  inferInstanceAs (Decidable (_ ∧ _))

/-- The blocks have no address in common. -/
def Apart (b c : Block) : Prop := b.stop ≤ c.start ∨ c.stop ≤ b.start

theorem Apart.symm {b c : Block} (h : b.Apart c) : c.Apart b := Or.symm h

end Block

/-! ## Counting -/

/-- The number of blocks that an address is in. -/
def cover (blocks : List Block) (a : Nat) : Nat := blocks.countP fun b => b.Contains a

variable {lo hi a : Nat} {b c : Block} {blocks : List Block}

@[simp] theorem cover_nil (a : Nat) : cover [] a = 0 := rfl

theorem cover_cons (b : Block) (blocks : List Block) (a : Nat) :
    cover (b :: blocks) a = cover blocks a + if b.Contains a then 1 else 0 := by
  unfold cover
  rw [List.countP_cons]
  by_cases h : b.Contains a <;> simp [h]

@[simp] theorem cover_append (bs cs : List Block) (a : Nat) :
    cover (bs ++ cs) a = cover bs a + cover cs a :=
  List.countP_append

theorem cover_perm {bs cs : List Block} (h : bs.Perm cs) (a : Nat) : cover bs a = cover cs a :=
  h.countP_eq _

theorem cover_eq_zero : cover blocks a = 0 ↔ ∀ b ∈ blocks, ¬ b.Contains a := by
  unfold cover
  rw [List.countP_eq_zero]
  simp

/-- A block that goes on where another one ends. -/
theorem cover_join (start m n : Nat) (blocks : List Block) (a : Nat) :
    cover (⟨start, m + n⟩ :: blocks) a = cover (⟨start, m⟩ :: ⟨start + m, n⟩ :: blocks) a := by
  simp only [cover_cons]
  split_ifs <;> simp only [Block.Contains, Block.stop] at * <;> omega

/-! ## Tiling -/

/-- The blocks cover each address from `lo` to `hi` once, and no other. -/
def Tiles (lo hi : Nat) (blocks : List Block) : Prop :=
  ∀ a, cover blocks a = if lo ≤ a ∧ a < hi then 1 else 0

theorem tiles_nil (lo : Nat) : Tiles lo lo [] := by
  intro a
  rw [cover_nil, if_neg (by omega)]

theorem Tiles.congr {bs cs : List Block} (h : Tiles lo hi bs) (heq : ∀ a, cover cs a = cover bs a) :
    Tiles lo hi cs := by
  intro a
  rw [heq, h]

/-- The interval grows by a block. -/
theorem Tiles.extend (h : Tiles lo hi blocks) (hle : lo ≤ hi) (n : Nat) :
    Tiles lo (hi + n) (⟨hi, n⟩ :: blocks) := by
  intro a
  rw [cover_cons, h a]
  split_ifs <;> simp only [Block.Contains, Block.stop] at * <;> omega

theorem Tiles.within (h : Tiles lo hi blocks) (hb : b ∈ blocks) (hsize : 0 < b.size) :
    lo ≤ b.start ∧ b.stop ≤ hi := by
  have hone : ∀ a, b.Contains a → lo ≤ a ∧ a < hi := by
    intro a ha
    by_contra hnot
    have hzero := h a
    rw [if_neg hnot] at hzero
    exact cover_eq_zero.1 hzero b hb ha
  have hfirst := hone b.start ⟨Nat.le_refl _, by unfold Block.stop; omega⟩
  have hlast := hone (b.start + b.size - 1) ⟨by omega, by unfold Block.stop; omega⟩
  refine ⟨hfirst.1, ?_⟩
  unfold Block.stop
  omega

/-- Two blocks that are not empty and share no address. -/
theorem apart_of_cover (hb : 0 < b.size) (hc : 0 < c.size) (h : ∀ a, b.Contains a → ¬ c.Contains a) :
    b.Apart c := by
  unfold Block.Apart
  by_contra hnot
  rw [not_or] at hnot
  have hstart := h (max b.start c.start)
  unfold Block.Contains Block.stop at *
  omega

/-- The blocks of a tiling share no address. -/
theorem Tiles.apart (h : Tiles lo hi (b :: blocks)) (hc : c ∈ blocks) (hb : 0 < b.size)
    (hsize : 0 < c.size) : b.Apart c := by
  refine apart_of_cover hb hsize fun a hba hca => ?_
  have htwo := h a
  rw [cover_cons, if_pos hba] at htwo
  have hzero : cover blocks a = 0 := by
    split_ifs at htwo
    omega
  exact cover_eq_zero.1 hzero c hc hca

theorem Tiles.pairwise_apart (h : Tiles lo hi blocks) (hsize : ∀ b ∈ blocks, 0 < b.size) :
    blocks.Pairwise Block.Apart := by
  have hle : ∀ a, cover blocks a ≤ 1 := by
    intro a
    rw [h a]
    split_ifs <;> omega
  clear h
  induction blocks with
  | nil => exact .nil
  | cons b blocks ih =>
    refine .cons (fun c hc => ?_) (ih (fun c hc => hsize c (List.mem_cons_of_mem _ hc)) fun a => ?_)
    · refine apart_of_cover (hsize b List.mem_cons_self) (hsize c (List.mem_cons_of_mem _ hc)) ?_
      intro a hba hca
      have hone := hle a
      rw [cover_cons, if_pos hba] at hone
      exact cover_eq_zero.1 (by omega) c hc hca
    · have hone := hle a
      rw [cover_cons] at hone
      omega

/-! ## Separation -/

/-- The blocks stand in the order of their addresses, with a gap between any two. -/
def Separated (blocks : List Block) : Prop := blocks.Pairwise fun b c => b.stop < c.start

/-- **Coalesced.** Separated blocks that tile an interval are one block. -/
theorem Separated.eq_of_tiles (h : Separated blocks) (ht : Tiles lo hi blocks)
    (hsize : ∀ b ∈ blocks, 0 < b.size) (hlt : lo < hi) : blocks = [⟨lo, hi - lo⟩] := by
  cases blocks with
  | nil =>
    have hzero := ht lo
    rw [cover_nil, if_pos ⟨Nat.le_refl _, hlt⟩] at hzero
    cases hzero
  | cons b rest =>
    have hrest : ∀ c ∈ rest, b.stop < c.start := fun c hc => List.rel_of_pairwise_cons h hc
    have hin := ht.within List.mem_cons_self (hsize b List.mem_cons_self)
    -- an address of the interval is in no block behind the first one's end
    have hcovered : ∀ a, lo ≤ a → a < hi → a ≤ b.stop → b.Contains a := by
      intro a hlo hhi hle
      by_contra hnot
      have hone := ht a
      rw [cover_cons, if_neg hnot, if_pos ⟨hlo, hhi⟩, cover_eq_zero.2] at hone
      · cases hone
      · intro c hc hca
        have hgap := hrest c hc
        have hfrom := hca.1
        omega
    have hbsize := hsize b List.mem_cons_self
    have hstart : b.start = lo := by
      have hlo := (hcovered lo (Nat.le_refl _) hlt (by unfold Block.stop; omega)).1
      omega
    have hstop : b.stop = hi := by
      by_contra hne
      have hcontains := hcovered b.stop (by unfold Block.stop; omega) (by omega) (Nat.le_refl _)
      exact absurd hcontains.2 (Nat.lt_irrefl _)
    have hnil : rest = [] := by
      cases rest with
      | nil => rfl
      | cons c rest =>
        have hcin := ht.within (List.mem_cons_of_mem _ List.mem_cons_self)
          (hsize c (List.mem_cons_of_mem _ List.mem_cons_self))
        have hgap := hrest c List.mem_cons_self
        have hcsize := hsize c (List.mem_cons_of_mem _ List.mem_cons_self)
        unfold Block.stop at *
        omega
    subst hnil
    obtain ⟨start, size⟩ := b
    unfold Block.stop at hstop
    dsimp only at hstart hstop
    rw [hstart, show size = hi - lo by omega]

end Vibapp
