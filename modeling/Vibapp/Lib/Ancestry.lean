import Mathlib.Logic.Relation
import Mathlib.Data.List.Nodup

/-!
# Climbing a parent map

In a map that gives each point at most one parent, `Ascent parent a l` says that `l` is the way
from `a` up to a point without a parent. There is at most one way from a point, so no point occurs
on it twice.
-/

namespace Vibapp

universe u

variable {α : Type u} {parent : α → Option α}

/-- The points met going up from `a`, until one has no parent. -/
inductive Ascent (parent : α → Option α) : α → List α → Prop
  | top {a : α} (h : parent a = none) : Ascent parent a [a]
  | step {a b : α} {l : List α} (h : parent a = some b) (rest : Ascent parent b l) :
    Ascent parent a (a :: l)

namespace Ascent

theorem mem_self {a : α} {l : List α} (h : Ascent parent a l) : a ∈ l := by
  cases h with
  | top => exact List.mem_singleton_self a
  | step => exact List.mem_cons_self

theorem unique {a : α} {l m : List α} (hl : Ascent parent a l) (hm : Ascent parent a m) :
    l = m := by
  induction hl generalizing m with
  | top h =>
    cases hm with
    | top => rfl
    | step h' _ => rw [h] at h'; cases h'
  | step h _ ih =>
    cases hm with
    | top h' => rw [h] at h'; cases h'
    | step h' rest' =>
      rw [h] at h'
      cases h'
      rw [ih rest']

/-- From a point on the way, the rest of the way. -/
theorem of_mem {a b : α} {l : List α} (h : Ascent parent a l) (hb : b ∈ l) :
    ∃ m, Ascent parent b m ∧ m <:+ l := by
  induction h with
  | top h =>
    rw [List.mem_singleton] at hb
    subst hb
    exact ⟨_, .top h, List.suffix_rfl⟩
  | step h rest ih =>
    rcases List.mem_cons.1 hb with rfl | hb
    · exact ⟨_, .step h rest, List.suffix_rfl⟩
    · obtain ⟨m, hm, hsuffix⟩ := ih hb
      exact ⟨m, hm, hsuffix.trans (List.suffix_cons _ _)⟩

theorem nodup {a : α} {l : List α} (h : Ascent parent a l) : l.Nodup := by
  induction h with
  | top => exact List.nodup_singleton _
  | step h rest ih =>
    refine List.nodup_cons.2 ⟨fun hmem => ?_, ih⟩
    -- the way from the point would be longer than itself
    obtain ⟨m, hm, hsuffix⟩ := rest.of_mem hmem
    have hlength := hsuffix.length_le
    rw [hm.unique (.step h rest), List.length_cons] at hlength
    omega

/-- What holds of a point and of the parent of each point where it holds, holds on the way. -/
theorem forall_mem {P : α → Prop} {a : α} {l : List α} (h : Ascent parent a l) (ha : P a)
    (hP : ∀ c p, P c → parent c = some p → P p) : ∀ x ∈ l, P x := by
  induction h with
  | top => simpa using ha
  | step h _ ih =>
    intro x hx
    rcases List.mem_cons.1 hx with rfl | hx
    · exact ha
    · exact ih (hP _ _ ha h) x hx

theorem exists_top {a : α} {l : List α} (h : Ascent parent a l) : ∃ r ∈ l, parent r = none := by
  induction h with
  | top h => exact ⟨_, List.mem_singleton_self _, h⟩
  | step h _ ih =>
    obtain ⟨r, hr, htop⟩ := ih
    exact ⟨r, List.mem_cons_of_mem _ hr, htop⟩

theorem reaches {a b : α} {l : List α} (h : Ascent parent a l) (hb : b ∈ l) :
    Relation.ReflTransGen (fun c p => parent c = some p) a b := by
  induction h with
  | top =>
    rw [List.mem_singleton] at hb
    rw [hb]
  | step h rest ih =>
    rcases List.mem_cons.1 hb with rfl | hb
    · exact .refl
    · exact .head h (ih hb)

end Ascent

/-- A point from which a point without a parent is reached has a way up. -/
theorem exists_ascent {a r : α} (hr : parent r = none)
    (h : Relation.ReflTransGen (fun c p => parent c = some p) a r) :
    ∃ l, Ascent parent a l ∧ r ∈ l := by
  induction h using Relation.ReflTransGen.head_induction_on with
  | refl => exact ⟨[r], .top hr, List.mem_singleton_self r⟩
  | head h _ ih =>
    obtain ⟨l, hl, hmem⟩ := ih
    exact ⟨_, .step h hl, List.mem_cons_of_mem _ hmem⟩

end Vibapp
