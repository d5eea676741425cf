import Mathlib.Logic.Relation
import Mathlib.Data.List.Infix

/-!
# Regular expressions with assertions

Matching as a relation between two places of a text: an expression takes a matcher from one place to
another. A place is what is left of the text there, so the start is the whole text and the end is
the empty list. Assertions (`start`, `finish`, `notAhead`) stay where they are. No strategy is
fixed: a backtracking matcher finds a match when there is one.
-/

namespace Vibapp

universe u

/-- A regular expression over an alphabet. A class is a predicate. -/
inductive Regex (α : Type u)
  | empty
  | one (p : α → Bool)
  | seq (first second : Regex α)
  | alt (left right : Regex α)
  | star (r : Regex α)
  | start
  | finish
  | notAhead (r : Regex α)

namespace Regex

variable {α : Type u}

/-- From `s` to `t`, both what is left of `text`. -/
def Matches (text : List α) : Regex α → List α → List α → Prop
  | empty, s, t => s = t
  | one p, s, t => ∃ c, p c = true ∧ s = c :: t
  | seq first second, s, t => ∃ m, first.Matches text s m ∧ second.Matches text m t
  | alt left right, s, t => left.Matches text s t ∨ right.Matches text s t
  | star r, s, t => Relation.ReflTransGen (r.Matches text) s t
  | start, s, t => s = t ∧ s = text
  | finish, s, t => s = t ∧ s = []
  | notAhead r, s, t => s = t ∧ ¬ ∃ m, r.Matches text s m

/-- The expression matches somewhere in the text. -/
def Found (r : Regex α) (text : List α) : Prop := ∃ s t, s <:+ text ∧ r.Matches text s t

/-! ## Derived forms -/

def sequence : List (Regex α) → Regex α
  | [] => empty
  | r :: rs => seq r (sequence rs)

def literal [DecidableEq α] : List α → Regex α
  | [] => empty
  | c :: cs => seq (one fun d => d = c) (literal cs)

def optional (r : Regex α) : Regex α := alt r empty

def plus (r : Regex α) : Regex α := seq r (star r)

def times (r : Regex α) : Nat → Regex α
  | 0 => empty
  | n + 1 => seq r (times r n)

/-! ## Places -/

section

variable {text s t : List α} {p : α → Bool} {r : Regex α}

/-- An anchored expression is found when it matches from the start. -/
theorem found_start {rs : List (Regex α)} :
    (sequence (start :: rs)).Found text ↔ ∃ t, (sequence rs).Matches text text t := by
  constructor
  · rintro ⟨s, t, _, m, ⟨rfl, rfl⟩, h⟩
    exact ⟨t, h⟩
  · rintro ⟨t, h⟩
    exact ⟨text, t, List.suffix_refl text, text, ⟨rfl, rfl⟩, h⟩

theorem matches_literal [DecidableEq α] {cs : List α} :
    (literal cs).Matches text s t ↔ s = cs ++ t := by
  induction cs generalizing s with
  | nil => rfl
  | cons c cs ih =>
    simp only [literal, Matches, ih, decide_eq_true_eq]
    constructor
    · rintro ⟨m, ⟨d, rfl, rfl⟩, rfl⟩
      rfl
    · rintro rfl
      exact ⟨cs ++ t, ⟨c, rfl, rfl⟩, rfl⟩

/-- A repeated class takes characters of the class. -/
theorem matches_star_one :
    (star (one p)).Matches text s t ↔ ∃ u, (∀ c ∈ u, p c = true) ∧ s = u ++ t := by
  constructor
  · intro h
    induction h using Relation.ReflTransGen.head_induction_on with
    | refl => exact ⟨[], fun _ hc => absurd hc List.not_mem_nil, rfl⟩
    | head hstep _ ih =>
      obtain ⟨c, hc, rfl⟩ := hstep
      obtain ⟨u, hu, rfl⟩ := ih
      exact ⟨c :: u, List.forall_mem_cons.2 ⟨hc, hu⟩, rfl⟩
  · rintro ⟨u, hu, rfl⟩
    induction u with
    | nil => exact .refl
    | cons c u ih =>
      rw [List.forall_mem_cons] at hu
      exact .head ⟨c, hu.1, rfl⟩ (ih hu.2)

theorem matches_plus_one : (plus (one p)).Matches text s t ↔
    ∃ u, u ≠ [] ∧ (∀ c ∈ u, p c = true) ∧ s = u ++ t := by
  change (∃ m, (one p).Matches text s m ∧ (star (one p)).Matches text m t) ↔ _
  constructor
  · rintro ⟨m, ⟨c, hc, rfl⟩, h⟩
    obtain ⟨u, hu, rfl⟩ := matches_star_one.1 h
    exact ⟨c :: u, List.cons_ne_nil c u, List.forall_mem_cons.2 ⟨hc, hu⟩, rfl⟩
  · rintro ⟨u, hne, hu, rfl⟩
    cases u with
    | nil => exact absurd rfl hne
    | cons c u =>
      rw [List.forall_mem_cons] at hu
      exact ⟨u ++ t, ⟨c, hu.1, rfl⟩, matches_star_one.2 ⟨u, hu.2, rfl⟩⟩

theorem matches_times_one {n : Nat} : (times (one p) n).Matches text s t ↔
    ∃ u, u.length = n ∧ (∀ c ∈ u, p c = true) ∧ s = u ++ t := by
  induction n generalizing s with
  | zero =>
    constructor
    · rintro rfl
      exact ⟨[], rfl, fun _ hc => absurd hc List.not_mem_nil, rfl⟩
    · rintro ⟨u, hlength, -, rfl⟩
      rw [List.length_eq_zero_iff.1 hlength]
      rfl
  | succ n ih =>
    change (∃ m, (one p).Matches text s m ∧ (times (one p) n).Matches text m t) ↔ _
    simp only [ih]
    constructor
    · rintro ⟨m, ⟨c, hc, rfl⟩, u, rfl, hu, rfl⟩
      exact ⟨c :: u, rfl, List.forall_mem_cons.2 ⟨hc, hu⟩, rfl⟩
    · rintro ⟨u, hlength, hu, rfl⟩
      cases u with
      | nil => cases hlength
      | cons c u =>
        rw [List.forall_mem_cons] at hu
        exact ⟨u ++ t, ⟨c, hu.1, rfl⟩, u, Nat.succ.inj hlength, hu.2, rfl⟩

/-- A repetition takes a list of pieces that the expression takes one by one. -/
theorem matches_star_flatten {us : List (List α)}
    (h : ∀ u ∈ us, ∀ t, r.Matches text (u ++ t) t) :
    (star r).Matches text (us.flatten ++ t) t := by
  induction us with
  | nil => exact .refl
  | cons u us ih =>
    rw [List.forall_mem_cons] at h
    rw [List.flatten_cons, List.append_assoc]
    exact .head (h.1 _) (ih h.2)

end

end Regex

end Vibapp
