import Mathlib.Data.List.TakeWhile
import Vibapp.Lib.Except

/-!
# Validators that stop at the first error

A validator and a declared validity of what it validates. A refusal may take a stance on the
validity of the whole: `stance e` says valid, says invalid, or is silent. A validator is `Fair` to a
validity when it accepts only what is valid and never calls invalid what is valid. Fairness composes
part by part. A refusal that says valid has read only the parts in front of it, so it is right
exactly when the `unread` parts are valid (`forM_verdict`).
-/

namespace Vibapp

universe u v

variable {ε : Type u} {α β : Type v} {stance : ε → Option Bool}

/-- The computation accepts only if `V`, and calls the input invalid only if not `V`. -/
structure Fair (stance : ε → Option Bool) (V : Prop) (x : Except ε α) : Prop where
  ok : ∀ a, x = .ok a → V
  invalid : Raises (fun e => stance e = some false → ¬ V) x

/-- The computation refuses without a stance. -/
def Neutral (stance : ε → Option Bool) (x : Except ε α) : Prop :=
  Raises (fun e => stance e = none) x

/-- No refusal calls the input valid. -/
def Modest (stance : ε → Option Bool) (x : Except ε α) : Prop :=
  Raises (fun e => stance e ≠ some true) x

variable {V W : Prop} {x : Except ε α} {f : α → Except ε β}

theorem fair_ok {a : α} (h : V) : Fair stance V (.ok a : Except ε α) := ⟨fun _ _ => h, raises_ok a⟩

theorem fair_error {e : ε} (h : stance e = some false → ¬ V) :
    Fair stance V (.error e : Except ε α) where
  ok _ ha := by cases ha
  invalid := raises_error h

/-- What is read without a stance says nothing. -/
theorem Neutral.fair (h : Neutral stance x) (hok : ∀ a, x = .ok a → V) : Fair stance V x :=
  ⟨hok, fun e he hfalse => by rw [h e he] at hfalse; cases hfalse⟩

theorem Neutral.modest (h : Neutral stance x) : Modest stance x := fun e he htrue => by
  rw [h e he] at htrue
  cases htrue

namespace Fair

theorem of_iff (h : Fair stance V x) (hiff : V ↔ W) : Fair stance W x :=
  ⟨fun a ha => hiff.1 (h.ok a ha), fun e he hfalse hw => h.invalid e he hfalse (hiff.2 hw)⟩

/-- One part after another. -/
theorem bind (h : Fair stance V x) (hf : ∀ a, x = .ok a → Fair stance W (f a)) :
    Fair stance (V ∧ W) (x >>= f) := by
  cases x with
  | error e => exact fair_error fun hfalse hvw => h.invalid e rfl hfalse hvw.1
  | ok a =>
    rw [ok_bind]
    exact (hf a rfl).of_iff ⟨fun hw => ⟨h.ok a rfl, hw⟩, And.right⟩

theorem map {g : α → β} (h : Fair stance V x) : Fair stance V (g <$> x) := by
  cases x with
  | error e => exact fair_error (h.invalid e rfl)
  | ok a => exact fair_ok (h.ok a rfl)

end Fair

/-- A part that is read without a stance, before a part that is judged. -/
theorem Neutral.bind_fair (h : Neutral stance x) (hf : ∀ a, x = .ok a → Fair stance V (f a)) :
    Fair stance V (x >>= f) :=
  ((h.fair fun _ _ => trivial).bind hf).of_iff (iff_of_eq (true_and V))

/-! ## Parts in order -/

section

variable {ι : Type v} {run : ι → Except ε PUnit} {valid : ι → Prop}

/-- The parts from the first refused one on. -/
def unread (run : ι → Except ε PUnit) (parts : List ι) : List ι :=
  parts.dropWhile fun i => (run i).isOk

theorem mem_unread_of_mem {parts : List ι} {i : ι} (h : i ∈ parts) :
    run i = .ok PUnit.unit ∨ i ∈ unread run parts := by
  induction parts with
  | nil => cases h
  | cons j parts ih =>
    rw [unread, List.dropWhile_cons]
    split
    · rename_i hj
      rcases List.mem_cons.1 h with rfl | h
      · obtain ⟨_, hj⟩ := exists_eq_ok hj
        exact .inl hj
      · exact ih h
    · exact .inr h

theorem mem_of_mem_unread {parts : List ι} {i : ι} (h : i ∈ unread run parts) : i ∈ parts :=
  (List.dropWhile_sublist _).subset h

theorem unread_eq_nil_iff {parts : List ι} :
    unread run parts = [] ↔ parts.forM run = .ok PUnit.unit := by
  rw [forM_eq_ok, unread, List.dropWhile_eq_nil_iff]
  refine forall₂_congr fun i _ => ⟨fun h => ?_, fun h => by rw [h]; rfl⟩
  obtain ⟨_, h⟩ := exists_eq_ok h
  exact h

/-- The loop is refused at the first refused part. -/
theorem forM_eq_error_iff {parts : List ι} {e : ε} :
    parts.forM run = .error e ↔ ∃ i rest, unread run parts = i :: rest ∧ run i = .error e := by
  induction parts with
  | nil =>
    constructor
    · intro h
      cases h
    · rintro ⟨i, rest, h, -⟩
      cases h
  | cons j parts ih =>
    change (run j >>= fun _ => parts.forM run) = _ ↔ _
    cases hj : run j with
    | ok _ =>
      rw [ok_bind, unread, List.dropWhile_cons_of_pos (by rw [hj]; rfl)]
      exact ih
    | error e' =>
      rw [error_bind, unread, List.dropWhile_cons_of_neg (by rw [hj]; exact Bool.false_ne_true)]
      constructor
      · intro h
        cases h
        exact ⟨j, parts, rfl, hj⟩
      · rintro ⟨i, rest, h, hi⟩
        cases h
        rw [hj] at hi
        cases hi
        rfl

/-- **What a loop over parts says of them all.** An acceptance is right, a refusal that says invalid
is right, and one that says valid is right exactly when the unread parts are valid. -/
theorem forM_verdict {parts : List ι} (h : ∀ i ∈ parts, Fair stance (valid i) (run i)) :
    Fair stance (∀ i ∈ parts, valid i) (parts.forM run) ∧
    ((∀ i ∈ parts, valid i) ↔ ∀ i ∈ unread run parts, valid i) := by
  refine ⟨⟨fun _ hok i hi => (h i hi).ok _ (forM_eq_ok.1 hok i hi), ?_⟩, ?_, ?_⟩
  · intro e he hfalse hall
    obtain ⟨i, rest, hunread, hi⟩ := forM_eq_error_iff.1 he
    have hmem : i ∈ parts := mem_of_mem_unread (hunread ▸ List.mem_cons_self)
    exact (h i hmem).invalid e hi hfalse (hall i hmem)
  · exact fun hall i hi => hall i (mem_of_mem_unread hi)
  · intro hall i hi
    have hread : run i = .ok PUnit.unit ∨ i ∈ unread run parts := mem_unread_of_mem hi
    rcases hread with hok | hrest
    · exact (h i hi).ok _ hok
    · exact hall i hrest

end

end Vibapp
