import Mathlib.Algebra.Ring.Nat
import Mathlib.Data.Nat.Basic
import Mathlib.Tactic.Common

/-!
# Linear memory

A byte at each address, and words of four bytes with the lowest byte first, as on wasm32. A word that
is written is read back, and everything outside the bytes that are written stays as it is.
-/

namespace Vibapp

abbrev Memory := Nat → UInt8

namespace Memory

/-- The word at an address. -/
def read32 (m : Memory) (a : Nat) : Nat :=
  (m a).toNat + 256 * ((m (a + 1)).toNat + 256 * ((m (a + 2)).toNat + 256 * (m (a + 3)).toNat))

/-- Write a word. -/
def write32 (m : Memory) (a v : Nat) : Memory := fun x =>
  if x = a then UInt8.ofNat v
  else if x = a + 1 then UInt8.ofNat (v / 256)
  else if x = a + 2 then UInt8.ofNat (v / 256 / 256)
  else if x = a + 3 then UInt8.ofNat (v / 256 / 256 / 256)
  else m x

/-- Write a byte. -/
def write8 (m : Memory) (a : Nat) (b : UInt8) : Memory := fun x => if x = a then b else m x

/-- Copy `n` bytes. -/
def copy (m : Memory) (source target n : Nat) : Memory := fun x =>
  if target ≤ x ∧ x < target + n then m (source + (x - target)) else m x

variable {m m' : Memory} {a b v x : Nat}

theorem read32_lt (m : Memory) (a : Nat) : read32 m a < 2 ^ 32 := by
  have h₀ := (m a).toNat_lt
  have h₁ := (m (a + 1)).toNat_lt
  have h₂ := (m (a + 2)).toNat_lt
  have h₃ := (m (a + 3)).toNat_lt
  unfold read32
  omega

theorem read32_write32_self (m : Memory) (a : Nat) (h : v < 2 ^ 32) :
    read32 (write32 m a v) a = v := by
  have h₀ : write32 m a v a = UInt8.ofNat v := if_pos rfl
  have h₁ : write32 m a v (a + 1) = UInt8.ofNat (v / 256) := by simp [write32]
  have h₂ : write32 m a v (a + 2) = UInt8.ofNat (v / 256 / 256) := by simp [write32]
  have h₃ : write32 m a v (a + 3) = UInt8.ofNat (v / 256 / 256 / 256) := by simp [write32]
  unfold read32
  rw [h₀, h₁, h₂, h₃]
  simp only [UInt8.toNat_ofNat']
  omega

theorem write32_of_outside (m : Memory) (v : Nat) (h : x < a ∨ a + 4 ≤ x) :
    write32 m a v x = m x := by
  unfold write32
  rw [if_neg (by omega), if_neg (by omega), if_neg (by omega), if_neg (by omega)]

/-- A word is read from its four bytes. -/
theorem read32_congr (h : ∀ x, a ≤ x → x < a + 4 → m' x = m x) : read32 m' a = read32 m a := by
  unfold read32
  rw [h a (by omega) (by omega), h (a + 1) (by omega) (by omega),
    h (a + 2) (by omega) (by omega), h (a + 3) (by omega) (by omega)]

theorem read32_write32_of_disjoint (m : Memory) (v : Nat) (h : a + 4 ≤ b ∨ b + 4 ≤ a) :
    read32 (write32 m a v) b = read32 m b := by
  apply read32_congr
  intro x hx hx'
  exact write32_of_outside m v (by omega)

theorem copy_inside (m : Memory) (source : Nat) {target n : Nat} (h : target ≤ x)
    (h' : x < target + n) : copy m source target n x = m (source + (x - target)) :=
  if_pos ⟨h, h'⟩

theorem copy_outside (m : Memory) (source : Nat) {target n : Nat}
    (h : x < target ∨ target + n ≤ x) : copy m source target n x = m x :=
  if_neg (by omega)

end Memory

end Vibapp
